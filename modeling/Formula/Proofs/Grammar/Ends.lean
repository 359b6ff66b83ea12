import Formula.Proofs.Grammar.Prefixes
import Formula.Proofs.Grammar.Runs

/-!
# Every production comes to an end

There is a run from every place and with every journal. Within one expression this follows the
procedure: what is repeated takes a token each time, so fewer are left for the next time.
Expressions are entered again inside brackets alone, with fewer tokens left as well. The productions
of the grammar are then told as a whole: that each of them ends, and what it leaves of the trail.
-/

namespace Formula

namespace Procedure

variable {limit bound : Nat} {α β : Type} {procedure : Procedure α} {cursor : Cursor} {least : Nat}

/-- There is a run to the end. -/
def Ends (limit : Nat) (procedure : Procedure α) (cursor : Cursor) (journal : Journal) : Prop :=
  ∃ found last, Runs limit procedure cursor journal found last

/-- Wherever expressions are entered from here, fewer than so many tokens are left. It is so if
there are fewer already, or if a bracket has to be read first. -/
def EntersBelow (bound : Nat) (procedure : Procedure α) (cursor : Cursor) : Prop :=
  cursor.left < bound ∨ cursor.left ≤ bound ∧ procedure.Guarded

/-- So it is with what is done on the way, if it begins no earlier and needs a bracket first
wherever the whole does. -/
theorem EntersBelow.mono {step : Procedure β} {rest : Cursor}
    (enters : procedure.EntersBelow bound cursor) (guards : procedure.Guarded → step.Guarded)
    (onward : rest.left ≤ cursor.left) : step.EntersBelow bound rest := by
  rcases enters with below | ⟨within, guarded⟩
  · exact .inl (Nat.lt_of_le_of_lt onward below)
  · exact .inr ⟨Nat.le_trans onward within, guards guarded⟩

/-- A repetition ends if what is repeated does and takes a token each time. By induction on how many
tokens are left, which every round makes fewer. -/
theorem ends_repeated {body : Procedure α} (takes : body.Takes 1)
    (once : ∀ rest journal, rest.left ≤ cursor.left → Ends limit body rest journal)
    (journal : Journal) :
    ∃ found last, Runs limit (.repeated body) cursor journal (some found) last := by
  induction measured : cursor.left using Nat.strong_induction_on generalizing cursor journal with
  | _ count ih =>
    obtain ⟨_ | ⟨result, rest⟩, middle, begun⟩ := once cursor journal (Nat.le_refl _)
    · exact ⟨_, middle, .noMore begun⟩
    · have shorter : rest.left + 1 ≤ cursor.left := begun.left_le takes
      have fewer : rest.left < count := by omega
      obtain ⟨found, last, ended⟩ := ih rest.left fewer
        (fun place journal onward => once place journal (by omega)) middle rfl
      exact ⟨_, last, .again begun ended⟩

/-- A procedure ends if expressions do wherever it enters them. By induction over the procedure; the
bound on the tokens left goes down with it, and a bracket makes it strict. -/
theorem ends_of_entersBelow
    (again : ∀ cursor journal, cursor.left < bound → Ends limit .expression cursor journal)
    (takes : procedure.Takes least) (enters : procedure.EntersBelow bound cursor)
    (journal : Journal) : Ends limit procedure cursor journal := by
  induction procedure generalizing least cursor journal with
  | token kind =>
    rcases cursor.head_cases (· = kind) with ⟨token, later, isKind, rfl⟩ | ⟨tokens, other, rfl⟩
    · exact ⟨_, _, .taken later journal isKind⟩
    · exact ⟨_, _, .missed journal other⟩
  | give result => exact ⟨_, _, .given result cursor journal⟩
  | fail => exact ⟨_, _, .failed cursor journal⟩
  | andThen first next ih ih' =>
    obtain ⟨front, back, -, begins, goesOn⟩ := takes
    obtain ⟨_ | ⟨result, rest⟩, middle, begun⟩ :=
      ih begins (enters.mono And.left (Nat.le_refl _)) journal
    · exact ⟨none, middle, .stopped begun⟩
    · have onward : rest.left + front ≤ cursor.left := begun.left_le begins
      have enters' : (next result).EntersBelow bound rest :=
        enters.mono (fun guarded => guarded.2 result) (by omega)
      obtain ⟨found, last, ended⟩ := ih' result (goesOn result) enters' middle
      exact ⟨found, last, .continued begun ended⟩
  | orElse first second ih ih' =>
    obtain ⟨_ | found, middle, begun⟩ := ih takes.1 (enters.mono And.left (Nat.le_refl _)) journal
    · obtain ⟨found, last, ended⟩ := ih' takes.2 (enters.mono And.right (Nat.le_refl _)) middle
      exact ⟨found, last, .second begun ended⟩
    · exact ⟨some found, middle, .first begun⟩
  | optional body ih =>
    obtain ⟨-, inside, takes⟩ := takes
    obtain ⟨_ | ⟨result, rest⟩, last, begun⟩ := ih takes (enters.mono id (Nat.le_refl _)) journal
    · exact ⟨_, last, .absent begun⟩
    · exact ⟨_, last, .present begun⟩
  | repeated body ih =>
    have once (rest : Cursor) (journal : Journal) (onward : rest.left ≤ cursor.left) :
        Ends limit body rest journal := ih takes.2 (enters.mono id onward) journal
    obtain ⟨found, last, run⟩ := ends_repeated takes.2 once journal
    exact ⟨some found, last, run⟩
  | bracketed opening body ih =>
    rcases cursor.head_cases (· = .symbol opening) with
      ⟨bracket, later, opens, rfl⟩ | ⟨tokens, other, rfl⟩
    · by_cases room : journal.now.depth < limit
      · obtain ⟨inside, -, takes⟩ := takes
        have fewer : (Cursor.ofList later).left < bound := enters.elim Nat.le_of_lt And.left
        obtain ⟨found, last, run⟩ := ih takes (.inl fewer) journal.enter
        exact ⟨_, _, .enclosed opens room run⟩
      · exact ⟨_, _, .refused later journal opens (Nat.not_lt.mp room)⟩
    · exact ⟨_, _, .unopened journal other⟩
  | expression =>
    rcases enters with below | ⟨-, impossible⟩
    · exact again cursor journal below
    · exact impossible.elim

/-- What is in brackets has fewer tokens, so expressions end. By induction on the number of tokens
left, with the lemma before for one entry. -/
theorem ends_expression (limit : Nat) (cursor : Cursor) (journal : Journal) :
    Ends limit .expression cursor journal := by
  induction measured : cursor.left using Nat.strong_induction_on generalizing cursor journal with
  | _ count ih =>
    have again (place : Cursor) (journal : Journal) (fewer : place.left < count) :
        Ends limit .expression place journal := ih place.left fewer place journal rfl
    obtain ⟨found, last, run⟩ :=
      ends_of_entersBelow again takes_sum (.inr ⟨Nat.le_of_eq measured, guarded_sum⟩) journal
    exact ⟨found, last, .entered run⟩

/-- Whatever is repeated in a procedure takes a token, so it ends from every place and with every
journal. -/
theorem ends (takes : procedure.Takes least) (limit : Nat) (cursor : Cursor) (journal : Journal) :
    Ends limit procedure cursor journal :=
  ends_of_entersBelow (fun place journal _ => ends_expression limit place journal) takes
    (.inl (Nat.lt_succ_self cursor.left)) journal

end Procedure

/-- The productions of the grammar. -/
inductive Production
  | statement | assignment | expression | term | factor | literal | list | dictionary | group | pair
  deriving DecidableEq

namespace Production

open Grammar (sample)

/-- What a production reads. -/
abbrev Result : Production → Type
  | statement | assignment => Statement
  | expression | term | factor | literal | list | dictionary | group => Expr
  | pair => Expr × Expr

/-- The rule for a production in which at most `limit` brackets are open at once. -/
def rule (limit : Nat) : (production : Production) → Rule production.Result
  | statement => Grammar.statementWithin limit
  | assignment => Grammar.assignment (Grammar.expressionWithin limit)
  | expression => Grammar.expressionWithin limit
  | term => Grammar.term limit (Grammar.expressionWithin limit)
  | factor => Grammar.factor limit (Grammar.expressionWithin limit)
  | literal => Grammar.literal
  | list => Grammar.list limit (Grammar.expressionWithin limit)
  | dictionary => Grammar.dictionary limit (Grammar.expressionWithin limit)
  | group => Grammar.group limit (Grammar.expressionWithin limit)
  | pair => Grammar.pair (Grammar.expressionWithin limit)

/-- The procedure for a production. -/
def procedure : (production : Production) → Procedure production.Result
  | statement => Procedure.statement
  | assignment => Procedure.assignment
  | expression => Procedure.expression
  | term => Procedure.term
  | factor => Procedure.factor
  | literal => Procedure.literal
  | list => Procedure.list
  | dictionary => Procedure.dictionary
  | group => Procedure.group
  | pair => Procedure.pair

/-- The procedure for a production does what its rule does, for each of the ten productions. -/
theorem rule_procedure (limit : Nat) (production : Production) :
    production.procedure.rule limit (Grammar.expressionWithin limit) = production.rule limit := by
  cases production with
  | statement | assignment | expression | list | group => rfl
  | term => exact Procedure.rule_term limit _
  | factor => exact Procedure.rule_factor limit _
  | literal => exact Procedure.rule_literal limit _
  | dictionary => exact Procedure.rule_dictionary limit _
  | pair => exact Procedure.rule_pair limit _

/-- Whichever production is read, a token is taken, as each of the ten procedures begins with a
token or with another of them. -/
theorem takes_procedure (production : Production) : production.procedure.Takes 1 := by
  cases production with
  | statement => exact Procedure.takes_statement
  | assignment => exact Procedure.takes_assignment
  | expression => exact Procedure.takes_expression
  | term => exact Procedure.takes_term
  | factor => exact Procedure.takes_factor
  | literal => exact Procedure.takes_literal
  | list => exact Procedure.takes_list
  | dictionary => exact Procedure.takes_dictionary
  | group => exact Procedure.takes_group
  | pair => exact Procedure.takes_pair

/-- What there is at the end of a production that began with some tokens and some trail. -/
structure Ending (limit : Nat) (production : Production) (tokens : List Token) (trail : Trail)
    (found : Option (production.Result × Cursor)) (log : Journal) : Prop where
  /-- It is what the rule gives. -/
  given : production.rule limit (.ofList tokens) trail = (found, log.now)
  /-- If something was read, tokens are gone from the front. -/
  taken : ∀ result rest, found = some (result, rest) →
    ∃ front, front ≠ [] ∧ tokens = front ++ rest.tokens
  /-- As many brackets are open as before. -/
  balanced : log.now.depth = trail.depth
  begun : ∃ passed, log.states = passed ++ [trail]
  /-- In all that the trail went through, the furthest failure moves back for a refused bracket
  alone, and nothing changes after that. -/
  ordered : log.IsOrdered
  /-- Nothing is expected twice at any time. -/
  distinct : trail.failure.expected.Nodup → ∀ state ∈ log.states, state.failure.expected.Nodup

/-- Every production comes to an end, from every place, at every depth and after any failure. There
is a run, and whatever run there is gives what the rule gives, takes tokens if it reads something,
closes the brackets it opens, and leaves a record that is in order and expects nothing twice. The
existence is by induction on the tokens, all else by induction over the run. -/
theorem run_ends (limit : Nat) (production : Production) (tokens : List Token) (trail : Trail) :
    (∃ found log, production.procedure.Runs limit (.ofList tokens) (.ofTrail trail) found log) ∧
      ∀ found log, production.procedure.Runs limit (.ofList tokens) (.ofTrail trail) found log →
        production.Ending limit tokens trail found log := by
  refine ⟨Procedure.ends production.takes_procedure limit _ _, fun found log run => ?_⟩
  have given : production.rule limit (.ofList tokens) trail = (found, log.now) := by
    rw [← production.rule_procedure limit]
    exact run.rule_eq production.takes_procedure
  obtain ⟨passed, states⟩ := run.continues.kept
  have ordered : log.IsOrdered := run.continues.ordered (List.pairwise_singleton _ trail)
  refine ⟨given, ?_, run.depth_eq, ⟨passed, states.symm⟩, ordered, ?_⟩
  · rintro result rest rfl
    obtain ⟨front, nonempty, split⟩ := run.takes production.takes_procedure
    exact ⟨front, List.ne_nil_of_length_pos nonempty, split⟩
  · intro unique state member
    rw [Journal.IsOrdered, ← states] at ordered
    rw [← states] at member
    rcases List.mem_append.mp member with later | same
    · have precedes := (List.pairwise_append.mp ordered).2.2 state later trail
        (List.mem_singleton_self trail)
      exact precedes.nodup unique
    · obtain rfl := List.mem_singleton.mp same
      exact unique

/-- An empty list inside ninety-nine brackets, after an integer was missed where it is closed. -/
theorem run_ends_empty_list :
    ∃ found log, list.procedure.Runs maxNesting
        (.ofList [sample (.symbol .leftBracket), sample (.symbol .rightBracket)])
        (.ofTrail ⟨99, ⟨1, some (sample (.symbol .rightBracket)), [.token .integer], false⟩⟩)
        (some found) log ∧
      (∃ front, front ≠ [] ∧
        [sample (.symbol .leftBracket), sample (.symbol .rightBracket)] =
          front ++ found.2.tokens) ∧
      log.now.depth = 99 ∧
      log.now.failure.expected = [.token .integer, .token .float, .token .string, .token .boolean,
        .token .name, .token (.symbol .leftBracket), .token (.symbol .leftBrace),
        .token (.symbol .leftParen)] ∧
      ∀ state ∈ log.states, state.failure.expected.Nodup := by
  obtain ⟨⟨found, log, run⟩, after⟩ := run_ends maxNesting list
    [sample (.symbol .leftBracket), sample (.symbol .rightBracket)]
    ⟨99, ⟨1, some (sample (.symbol .rightBracket)), [.token .integer], false⟩⟩
  have ending := after found log run
  have read := congrArg Prod.fst ending.given
  have left := congrArg Prod.snd ending.given
  cases found with
  | none => cases read
  | some found =>
    refine ⟨found, log, run, ending.taken found.1 found.2 rfl, ending.balanced, ?_, ?_⟩
    · exact congrArg (·.failure.expected) left.symm
    · exact ending.distinct (List.nodup_singleton _)

end Production

end Formula
