import Mathlib.Data.List.Nodup
import Formula.Proofs.Grammar.Advance

/-!
# Runs of procedures

A run of a procedure is told step by step, with a journal in which every state of the trail is kept.
Nothing stops a repetition in it but a failure, and expressions are entered as often as they are
met. It gives what the rule gives, which looks whether a repetition goes on and counts how often
expressions are entered. In the journal the furthest failure never goes back but for a bracket that
is refused, nothing is expected twice, and after a refusal everything stays as it is.
-/

namespace Formula

namespace Failure

/-- What a failure may have become later on: it is as far or further, or was replaced by a bracket
that was refused; a final one is the same; and nothing is expected twice, or more often than it was
before. -/
structure Precedes (earlier later : Failure) : Prop where
  further : later.left ≤ earlier.left ∨
    earlier.final = false ∧ ∃ cursor, later = .single cursor .shallowerNesting true
  settled : earlier.final = true → later = earlier
  once : ∀ expectation,
    later.expected.count expectation ≤ max 1 (earlier.expected.count expectation)

/-- A failure may have stayed what it was. -/
theorem Precedes.refl (failure : Failure) : Precedes failure failure where
  further := .inl (Nat.le_refl _)
  settled _ := rfl
  once _ := Nat.le_max_right _ _

/-- What may become of a failure in two steps may become of it in one. The only case to watch is a
refusal after a refusal: the first is final, so the second changed nothing. -/
theorem Precedes.trans {first second third : Failure} (precedes : Precedes first second)
    (precedes' : Precedes second third) : Precedes first third where
  further := by
    rcases precedes'.further with further' | ⟨open', refused⟩
    · rcases precedes.further with further | ⟨open', cursor, refused⟩
      · exact .inl (Nat.le_trans further' further)
      · rw [precedes'.settled (by rw [refused]; rfl)]
        exact .inr ⟨open', cursor, refused⟩
    · refine .inr ⟨?_, refused⟩
      by_contra final
      rw [precedes.settled (by simpa using final)] at open'
      exact final open'
  settled final := by
    have same := precedes.settled final
    rw [precedes'.settled (same ▸ final), same]
  once expectation := by
    have first := precedes.once expectation
    have second := precedes'.once expectation
    omega

/-- If nothing was expected twice at first, nothing is later: the counts never go above one. -/
theorem Precedes.nodup {earlier later : Failure} (precedes : Precedes earlier later)
    (distinct : earlier.expected.Nodup) : later.expected.Nodup := by
  refine List.nodup_iff_count_le_one.mpr fun expectation => ?_
  have once := precedes.once expectation
  have atMost := List.nodup_iff_count_le_one.mp distinct expectation
  omega

/-- Noting an expectation lets the failure be, replaces it by one further on, or adds what was not
among the expectations yet. -/
theorem precedes_note (failure : Failure) (cursor : Cursor) (expectation : Expectation) :
    Precedes failure (failure.note cursor expectation) where
  further := .inl (left_note_le failure cursor expectation)
  settled final := note_of_final final cursor expectation
  once other := by
    unfold note
    split
    · exact Nat.le_max_right _ _
    · split
      · exact Nat.le_trans List.count_le_length (Nat.le_max_left _ _)
      · split
        · next fresh =>
          rw [List.count_append, List.count_singleton]
          split
          · next same =>
            have absent : failure.expected.count other = 0 :=
              List.count_eq_zero.mpr (beq_iff_eq.mp same ▸ fresh.2)
            omega
          · exact Nat.le_max_right _ _
        · exact Nat.le_max_right _ _

/-- Refusing a bracket leaves a final failure alone and replaces any other by one that expects a
single thing. -/
theorem precedes_refuse (failure : Failure) (cursor : Cursor) :
    Precedes failure (failure.refuse cursor .shallowerNesting) := by
  unfold refuse
  split
  · exact .refl failure
  · next notFinal =>
    have open' : failure.final = false := by simpa using notFinal
    refine ⟨.inr ⟨open', cursor, rfl⟩, fun final => absurd final notFinal, fun other => ?_⟩
    exact Nat.le_trans List.count_le_length (Nat.le_max_left _ _)

end Failure

/-- All states that a trail has been in, with the last one apart from those before it, which stand
in the order of going back. -/
structure Journal where
  now : Trail
  before : List Trail

namespace Journal

/-- A journal that begins. -/
def ofTrail (trail : Trail) : Journal := ⟨trail, []⟩

/-- All the states in one list, the last of them in front. -/
def states (journal : Journal) : List Trail := journal.now :: journal.before

/-- The trail gets into another state. -/
def record (journal : Journal) (trail : Trail) : Journal := ⟨trail, journal.states⟩

/-- An expectation is noted, and the state after that recorded. -/
def note (journal : Journal) (cursor : Cursor) (expectation : Expectation) : Journal :=
  journal.record (journal.now.note cursor expectation)

/-- A bracket is refused, and the state after that recorded. -/
def refuse (journal : Journal) (cursor : Cursor) : Journal :=
  journal.record (journal.now.refuse cursor .shallowerNesting)

/-- One more bracket is open from here on. -/
def enter (journal : Journal) : Journal := journal.record journal.now.enter

/-- The innermost bracket is closed. -/
def leave (journal : Journal) : Journal := journal.record journal.now.leave

/-- Of any two states, the failure of the earlier one may have become that of the later one. -/
def IsOrdered (journal : Journal) : Prop :=
  journal.states.Pairwise fun later earlier => earlier.failure.Precedes later.failure

/-- A journal goes on where another one ends, in order if that one is. -/
structure Continues (journal later : Journal) : Prop where
  kept : journal.states <:+ later.states
  ordered : journal.IsOrdered → later.IsOrdered

variable {journal middle last : Journal}

/-- A journal goes on with nothing. -/
theorem Continues.refl (journal : Journal) : Continues journal journal :=
  ⟨List.suffix_refl _, id⟩

/-- What goes on where another journal ends that goes on itself goes on from the first of them. -/
theorem Continues.trans (continues : Continues journal middle)
    (continues' : Continues middle last) : Continues journal last :=
  ⟨continues.kept.trans continues'.kept, continues'.ordered ∘ continues.ordered⟩

/-- A state may be added if the failure in it may have become of the last one. Then it may have
become of all earlier ones as well, so the order is kept. -/
theorem Continues.record (continues : Continues journal last) {trail : Trail}
    (precedes : last.now.failure.Precedes trail.failure) :
    Continues journal (last.record trail) where
  kept := continues.kept.trans (List.suffix_cons trail last.states)
  ordered begun := by
    have ordered := continues.ordered begun
    refine List.pairwise_cons.mpr ⟨fun earlier member => ?_, ordered⟩
    rcases List.mem_cons.mp member with rfl | member
    · exact precedes
    · exact ((List.pairwise_cons.mp ordered).1 earlier member).trans precedes

end Journal

namespace Procedure

variable {limit : Nat}

/-- The runs of procedures. Each goes from a place and a journal to what was found, with the place
after it, or to nothing, and to the journal after that. -/
inductive Runs (limit : Nat) : {α : Type} → Procedure α → Cursor → Journal → Option (α × Cursor) →
    Journal → Prop
  | taken {kind : Token.Kind} {token : Token} (later : List Token) (journal : Journal)
      (isKind : token.kind = kind) :
      Runs limit (.token kind) (.ofList (token :: later)) journal
        (some (token, .ofList later)) journal
  | missed {kind : Token.Kind} {tokens : List Token} (journal : Journal)
      (other : ∀ token ∈ tokens.head?, token.kind ≠ kind) :
      Runs limit (.token kind) (.ofList tokens) journal none
        (journal.note (.ofList tokens) (.token kind))
  | given {α : Type} (result : α) (cursor : Cursor) (journal : Journal) :
      Runs limit (.give result) cursor journal (some (result, cursor)) journal
  | failed {α : Type} (cursor : Cursor) (journal : Journal) :
      Runs limit (.fail : Procedure α) cursor journal none journal
  | continued {α β : Type} {first : Procedure α} {next : α → Procedure β} {cursor rest : Cursor}
      {journal middle last : Journal} {result : α} {found : Option (β × Cursor)}
      (begun : Runs limit first cursor journal (some (result, rest)) middle)
      (ended : Runs limit (next result) rest middle found last) :
      Runs limit (.andThen first next) cursor journal found last
  | stopped {α β : Type} {first : Procedure α} {next : α → Procedure β} {cursor : Cursor}
      {journal last : Journal} (begun : Runs limit first cursor journal none last) :
      Runs limit (.andThen first next) cursor journal none last
  | first {α : Type} {first second : Procedure α} {cursor : Cursor} {journal last : Journal}
      {found : α × Cursor} (begun : Runs limit first cursor journal (some found) last) :
      Runs limit (.orElse first second) cursor journal (some found) last
  | second {α : Type} {first second : Procedure α} {cursor : Cursor}
      {journal middle last : Journal} {found : Option (α × Cursor)}
      (begun : Runs limit first cursor journal none middle)
      (ended : Runs limit second cursor middle found last) :
      Runs limit (.orElse first second) cursor journal found last
  | present {α : Type} {body : Procedure α} {cursor rest : Cursor} {journal last : Journal}
      {result : α} (begun : Runs limit body cursor journal (some (result, rest)) last) :
      Runs limit (.optional body) cursor journal (some (some result, rest)) last
  | absent {α : Type} {body : Procedure α} {cursor : Cursor} {journal last : Journal}
      (begun : Runs limit body cursor journal none last) :
      Runs limit (.optional body) cursor journal (some (none, cursor)) last
  | again {α : Type} {body : Procedure α} {cursor rest stop : Cursor}
      {journal middle last : Journal} {result : α} {results : List α}
      (begun : Runs limit body cursor journal (some (result, rest)) middle)
      (ended : Runs limit (.repeated body) rest middle (some (results, stop)) last) :
      Runs limit (.repeated body) cursor journal (some (result :: results, stop)) last
  | noMore {α : Type} {body : Procedure α} {cursor : Cursor} {journal last : Journal}
      (begun : Runs limit body cursor journal none last) :
      Runs limit (.repeated body) cursor journal (some ([], cursor)) last
  | unopened {α : Type} {opening : Symbol} {body : Procedure α} {tokens : List Token}
      (journal : Journal) (other : ∀ token ∈ tokens.head?, token.kind ≠ .symbol opening) :
      Runs limit (.bracketed opening body) (.ofList tokens) journal none
        (journal.note (.ofList tokens) (.token (.symbol opening)))
  | refused {α : Type} {opening : Symbol} {body : Procedure α} {bracket : Token}
      (later : List Token) (journal : Journal) (opens : bracket.kind = .symbol opening)
      (full : limit ≤ journal.now.depth) :
      Runs limit (.bracketed opening body) (.ofList (bracket :: later)) journal none
        (journal.refuse (.ofList (bracket :: later)))
  | enclosed {α : Type} {opening : Symbol} {body : Procedure α} {bracket : Token}
      {later : List Token} {journal last : Journal} {found : Option (α × Cursor)}
      (opens : bracket.kind = .symbol opening) (room : journal.now.depth < limit)
      (inside : Runs limit body (.ofList later) journal.enter found last) :
      Runs limit (.bracketed opening body) (.ofList (bracket :: later)) journal
        (found.map fun inner => ((bracket, inner.1), inner.2)) last.leave
  | entered {cursor : Cursor} {journal last : Journal} {found : Option (Expr × Cursor)}
      (inside : Runs limit sum cursor journal found last) :
      Runs limit .expression cursor journal found last

variable {α : Type} {procedure : Procedure α} {cursor rest : Cursor} {journal last : Journal}
  {found : Option (α × Cursor)} {result : α} {least : Nat}

/-- A run only adds to the journal, and keeps it in order. By induction over the run: every
constructor either joins two runs or records one state more, and for each way of recording there is
a lemma above. -/
theorem Runs.continues (run : Runs limit procedure cursor journal found last) :
    journal.Continues last := by
  induction run with
  | taken | given | failed => exact .refl _
  | missed | unopened => exact (Journal.Continues.refl _).record (Failure.precedes_note _ _ _)
  | refused => exact (Journal.Continues.refl _).record (Failure.precedes_refuse _ _)
  | continued _ _ ih ih' | second _ _ ih ih' | again _ _ ih ih' => exact ih.trans ih'
  | stopped _ ih | first _ ih | present _ ih | absent _ ih | noMore _ ih | entered _ ih => exact ih
  | @enclosed _ _ _ _ _ journal _ _ _ _ _ ih =>
    have begun : journal.Continues journal.enter :=
      (Journal.Continues.refl journal).record (Failure.Precedes.refl _)
    exact (begun.trans ih).record (Failure.Precedes.refl _)

/-- As many brackets are open after a run as before it. The one constructor that opens a bracket
closes it again, also if nothing was read inside. -/
theorem Runs.depth_eq (run : Runs limit procedure cursor journal found last) :
    last.now.depth = journal.now.depth := by
  induction run with
  | taken | given | failed | missed | unopened | refused => rfl
  | continued _ _ ih ih' | second _ _ ih ih' | again _ _ ih ih' => exact ih'.trans ih
  | stopped _ ih | first _ ih | present _ ih | absent _ ih | noMore _ ih | entered _ ih => exact ih
  | enclosed _ _ _ ih => exact congrArg (· - 1) ih

/-- A run gives what the rule gives, if whatever is repeated takes tokens. Without that the rule
would end a repetition that the runs go on with. By induction over the run, with the rule unfolded
by one equation in each case. -/
theorem Runs.rule_eq (run : Runs limit procedure cursor journal found last)
    (takes : procedure.Takes least) :
    procedure.rule limit (Grammar.expressionWithin limit) cursor journal.now =
      (found, last.now) := by
  induction run generalizing least with
  | taken later journal isKind => exact Rule.token_of_kind isKind later journal.now
  | missed journal other => exact Rule.token_of_not_kind other journal.now
  | given | failed => rfl
  | continued _ _ ih ih' =>
    obtain ⟨front, back, -, begins, goesOn⟩ := takes
    exact (Rule.bind_of_some (ih begins)).trans (ih' (goesOn _))
  | stopped _ ih =>
    obtain ⟨front, back, -, begins, -⟩ := takes
    exact Rule.bind_of_none (ih begins)
  | first _ ih => exact Rule.orElse_of_some (ih takes.1)
  | second _ _ ih ih' => exact (Rule.orElse_of_none (ih takes.1)).trans (ih' takes.2)
  | present _ ih =>
    obtain ⟨-, inside, takes⟩ := takes
    exact Rule.optional_of_some (ih takes)
  | absent _ ih =>
    obtain ⟨-, inside, takes⟩ := takes
    exact Rule.optional_of_none (ih takes)
  | again _ _ ih ih' =>
    have found := ih takes.2
    have shorter := (takes.2.rule (Grammar.takes_expressionWithin limit)).left_le
      (congrArg Prod.fst found)
    refine (Rule.repeated_of_some found (by omega)).trans ?_
    rw [← rule, ih' takes]
    rfl
  | noMore _ ih => exact Rule.repeated_of_none (ih takes.2)
  | unopened journal other => exact Rule.bracketed_of_not_kind other
  | refused later journal opens full => exact Rule.bracketed_of_full opens full
  | @enclosed _ _ body _ later journal last found opens room _ ih =>
    obtain ⟨inside, -, takes⟩ := takes
    have read : body.rule limit (Grammar.expressionWithin limit) (.ofList later) journal.now.enter =
        (found, last.now) := ih takes
    rw [rule, Rule.bracketed_of_room opens room, read]
    rfl
  | entered _ ih =>
    have same : Grammar.expressionWithin limit = sum.rule limit (Grammar.expressionWithin limit) :=
      ((rule_sum limit _).trans (Grammar.expression_expressionWithin limit)).symm
    exact (congrFun₂ same _ _).trans (ih takes_sum)

/-- What a run reads takes tokens from the front, because the rule that gives the same does. -/
theorem Runs.takes (run : Runs limit procedure cursor journal (some (result, rest)) last)
    (takes : procedure.Takes least) :
    ∃ front, least ≤ front.length ∧ cursor.tokens = front ++ rest.tokens :=
  takes.rule (Grammar.takes_expressionWithin limit) cursor journal.now result rest
    (congrArg Prod.fst (run.rule_eq takes))

/-- The same as a count of the tokens that are left, which is how the induction on the length of a
repetition needs it. -/
theorem Runs.left_le (run : Runs limit procedure cursor journal (some (result, rest)) last)
    (takes : procedure.Takes least) : rest.left + least ≤ cursor.left := by
  have found := congrArg Prod.fst (run.rule_eq takes)
  exact (takes.rule (Grammar.takes_expressionWithin limit)).left_le found

end Procedure

end Formula
