import Formula.Proofs.Grammar.Frontier
import Formula.Proofs.Grammar.Record

/-!
# How far a rule reads

Every rule for a part of an expression ends in one of three ways, whatever tokens it is given. It
has read a part, and knows what it then asked for in vain. Or it got stuck at a place beyond which
the frontier cannot move, and everything that may stand there was noted. Or it has refused a
bracket that would be open inside too many others, and the failure is final. In the last two ways
it is halted: if it still gives a result, that result ends earlier, before an operator whose
operand is missing.

The endings are stated once, and one lemma for each way of combining rules carries them from the
parts to the whole.
-/

namespace Formula.Grammar

variable {α β : Type}

/-- Reading from `source` has come to where it cannot go on, with so many tokens left, and this is
the failure it leaves. -/
inductive Halt (limit : Nat) (source : Frontier) (tokens : List Token) (failure : Failure) :
    Nat → Failure → Prop
  | stuck (front rest : List Token) (place : Frontier) (earlier : Failure)
      (split : tokens = front ++ rest) (reached : source.within limit front = some place)
      (unfinished : place.isComplete = false)
      (blocked : ∀ token ∈ rest.head?, place.next token.kind = none)
      (agrees : failure.AgreesAt rest.length earlier) :
      Halt limit source tokens failure rest.length
        (earlier.noteAll (.ofList rest) (place.kinds.map .token))
  | refused (front : List Token) (bracket : Token) (rest : List Token) (place inside : Frontier)
      (split : tokens = front ++ bracket :: rest)
      (reached : source.within limit front = some place)
      (opens : place.next bracket.kind = some inside) (tooMany : limit < inside.brackets.length) :
      Halt limit source tokens failure rest.length
        (failure.refuse (.ofList (bracket :: rest)) .shallowerNesting)

namespace Halt

variable {limit left : Nat} {source middle entry : Frontier} {tokens : List Token} {token : Token}
variable {failure earlier kept : Failure}

/-- Nothing is kept any more of what is noted behind that place, since something was asked for there
or a bracket refused. -/
theorem reaches (halt : Halt limit source tokens failure left kept) : kept.Reaches left := by
  cases halt with
  | stuck front rest place =>
    exact Failure.reaches_noteAll (by simpa using place.kinds_ne_nil) _ (.ofList rest)
  | refused => exact .inl (Failure.final_refuse _ _ _)

/-- Reading is halted among the tokens it was given, at their end at the latest. -/
theorem left_le (halt : Halt limit source tokens failure left kept) : left ≤ tokens.length := by
  cases halt with
  | stuck front rest place earlier split => simp [split]
  | refused front bracket rest place inside split =>
    rw [split, List.length_append, List.length_cons]
    omega

/-- Where a token is taken at once, reading is halted only after it. The place at which it got stuck
cannot be the first one, because that one moves over the token. -/
theorem left_lt {rest : List Token}
    (halt : Halt limit source (token :: rest) failure left kept)
    (taken : token.kind ∈ source.kinds) : left < (token :: rest).length := by
  cases halt with
  | stuck front rest' place earlier split reached unfinished blocked agrees =>
    cases front with
    | nil =>
      obtain rfl : source = place := Option.some.inj reached
      obtain rfl : token :: rest = rest' := split
      rw [Frontier.mem_kinds_iff, blocked token rfl] at taken
      cases taken
    | cons first front =>
      rw [split, List.length_append, List.length_cons]
      omega
  | refused front bracket rest' place inside split =>
    rw [split, List.length_append, List.length_cons]
    omega

/-- Some tokens may stand before those at which reading is halted, if the frontier moves over them
and what was noted there does not count any more. -/
theorem prepend {front rest : List Token} (halt : Halt limit middle rest earlier left kept)
    (split : tokens = front ++ rest) (reached : source.within limit front = some middle)
    (agrees : failure.AgreesAt rest.length earlier) :
    Halt limit source tokens failure left kept := by
  subst split
  cases halt with
  | stuck front' rest' place earlier' split reached' unfinished blocked agrees' =>
    subst split
    refine .stuck (front ++ front') rest' place earlier' (by simp) ?_ unfinished blocked ?_
    · rw [Frontier.within_append reached, reached']
    · exact (agrees.mono (by simp)).trans agrees'
  | refused front' bracket rest' place inside split reached' opens tooMany =>
    subst split
    rw [← agrees.refuse_eq]
    refine .refused (front ++ front') bracket rest' place inside (by simp) ?_ opens tooMany
    rw [Frontier.within_append reached, reached']

/-- Where a token is taken at once, it makes no difference what was noted before it: reading is
halted further on, where failures with and without it agree. -/
theorem forget {rest : List Token} {expectations : List Expectation}
    (halt : Halt limit source (token :: rest)
      (failure.noteAll (.ofList (token :: rest)) expectations) left kept)
    (taken : token.kind ∈ source.kinds) : Halt limit source (token :: rest) failure left kept := by
  have further := halt.left_lt taken
  cases halt with
  | stuck front rest' place earlier split reached unfinished blocked agrees =>
    exact .stuck front rest' place earlier split reached unfinished blocked
      ((Failure.agreesAt_noteAll further _ _).trans agrees)
  | refused front bracket rest' place inside split reached opens tooMany =>
    rw [Failure.refuse_noteAll]
    exact .refused front bracket rest' place inside split reached opens tooMany

/-- Two places that take the same token in the same way lead on in the same way, so reading is
halted from one as it is from the other. -/
theorem of_alike {rest : List Token} (halt : Halt limit entry (token :: rest) failure left kept)
    (taken : token.kind ∈ entry.kinds) (alike : source.next token.kind = entry.next token.kind) :
    Halt limit source (token :: rest) failure left kept := by
  have further := halt.left_lt taken
  cases halt with
  | stuck front rest' place earlier split reached unfinished blocked agrees =>
    cases front with
    | nil =>
      rw [split, List.nil_append] at further
      exact absurd further (Nat.lt_irrefl _)
    | cons first front =>
      obtain rfl : token = first := (List.cons.inj split).1
      exact .stuck (token :: front) rest' place earlier split
        ((Frontier.within_of_alike alike front).trans reached) unfinished blocked agrees
  | refused front bracket rest' place inside split reached opens tooMany =>
    cases front with
    | nil =>
      obtain rfl : entry = place := Option.some.inj reached
      obtain rfl : token = bracket := (List.cons.inj split).1
      exact .refused [] token rest' source inside split rfl (alike.trans opens) tooMany
    | cons first front =>
      obtain rfl : token = first := (List.cons.inj split).1
      exact .refused (token :: front) bracket rest' place inside split
        ((Frontier.within_of_alike alike front).trans reached) opens tooMany

end Halt

/-- A result that ends before more than `left` tokens, the first of them an operator that the rule
asks for. -/
def Dangles (asked : List Token.Kind) (tokens : List Token) (left : Nat)
    (result : Option (α × Cursor)) : Prop :=
  ∀ found ∈ result, left < found.2.left ∧ found.2.left ≤ tokens.length ∧
    ∃ token ∈ found.2.tokens.head?, token.kind ∈ asked

/-- Where nothing is given there is no result that could dangle. -/
theorem dangles_none (asked : List Token.Kind) (tokens : List Token) (left : Nat) :
    Dangles asked tokens left (none : Option (α × Cursor)) := by
  rintro _ ⟨⟩

/-- What is made of a dangling result dangles at the same token. -/
theorem Dangles.map {asked : List Token.Kind} {tokens : List Token} {left : Nat}
    {result : Option (α × Cursor)} (dangles : Dangles asked tokens left result) (make : α → β) :
    Dangles asked tokens left (result.map fun found => (make found.1, found.2)) := by
  intro found member
  obtain ⟨first, isResult, rfl⟩ := Option.map_eq_some_iff.mp member
  exact dangles first isResult

/-- The endings of a rule that goes from `source` to `target`, with what it gives and the failure
it leaves. Of a part that was read, `asked` is what the rule then asked for. -/
inductive Outcome (limit : Nat) (language : Language α) (source target : Frontier)
    (asked : List Token.Kind) (tokens : List Token) (failure : Failure) :
    Option (α × Cursor) → Failure → Prop
  | read (front rest : List Token) (result : α) (earlier : Failure)
      (split : tokens = front ++ rest) (derived : language front result)
      (reached : source.within limit front = some target)
      (stops : ∀ token ∈ rest.head?, token.kind ∉ asked)
      (agrees : failure.AgreesAt rest.length earlier) :
      Outcome limit language source target asked tokens failure (some (result, .ofList rest))
        (earlier.noteAll (.ofList rest) (asked.map .token))
  | halted (left : Nat) (result : Option (α × Cursor)) (kept : Failure)
      (halt : Halt limit source tokens failure left kept)
      (dangles : Dangles asked tokens left result) :
      Outcome limit language source target asked tokens failure result kept

namespace Outcome

variable {limit : Nat} {language : Language α} {source middle target entry : Frontier}
variable {asked : List Token.Kind} {tokens rest : List Token} {token : Token}
variable {failure earlier kept : Failure} {result : Option (α × Cursor)} {wider : Language β}

/-- What is read may be made into something else. The ending stays the same, only the result is
another. -/
theorem map (make : α → β)
    (outcome : Outcome limit language source target asked tokens failure result kept)
    (wide : ∀ tokens result, language tokens result → wider tokens (make result)) :
    Outcome limit wider source target asked tokens failure
      (result.map fun found => (make found.1, found.2)) kept := by
  cases outcome with
  | read front rest result earlier split derived reached stops agrees =>
    exact .read front rest _ earlier split (wide _ _ derived) reached stops agrees
  | halted left _ _ halt dangles => exact .halted left _ kept halt (dangles.map make)

/-- Some tokens may stand before what is read, if the frontier moves over them. This is how the
outcome of a second rule becomes one of both. -/
theorem prepend {wider : Language α} (front rest : List Token)
    (outcome : Outcome limit language middle target asked rest earlier result kept)
    (split : tokens = front ++ rest) (reached : source.within limit front = some middle)
    (agrees : failure.AgreesAt rest.length earlier)
    (wide : ∀ tokens result, language tokens result → wider (front ++ tokens) result) :
    Outcome limit wider source target asked tokens failure result kept := by
  cases outcome with
  | read front' rest' result earlier' split' derived reached' stops agrees' =>
    subst split split'
    refine .read (front ++ front') rest' result earlier' (by simp) (wide _ _ derived) ?_ stops ?_
    · rw [Frontier.within_append reached, reached']
    · exact (agrees.mono (by simp)).trans agrees'
  | halted left _ _ halt dangles =>
    refine .halted left result kept (halt.prepend split reached agrees) ?_
    intro found member
    obtain ⟨further, atMost, operator⟩ := dangles found member
    refine ⟨further, ?_, operator⟩
    rw [split, List.length_append]
    omega

/-- Where a token is taken at once, it makes no difference what was noted before it. What was read
has come further, and so has what was halted. -/
theorem forget {expectations : List Expectation}
    (outcome : Outcome limit language source target asked (token :: rest)
      (failure.noteAll (.ofList (token :: rest)) expectations) result kept)
    (taken : token.kind ∈ source.kinds)
    (nonempty : ∀ tokens result, language tokens result → tokens ≠ []) :
    Outcome limit language source target asked (token :: rest) failure result kept := by
  cases outcome with
  | read front rest' result earlier split derived reached stops agrees =>
    have further : rest'.length < (token :: rest).length := by
      have some := List.length_pos_iff.mpr (nonempty _ _ derived)
      rw [split, List.length_append]
      omega
    exact .read front rest' result earlier split derived reached stops
      ((Failure.agreesAt_noteAll further _ _).trans agrees)
  | halted left _ _ halt dangles => exact .halted left result kept (halt.forget taken) dangles

/-- Two places that take the same token in the same way lead on in the same way. It is used where a
statement may begin with a name or with an expression. -/
theorem of_alike
    (outcome : Outcome limit language entry target asked (token :: rest) failure result kept)
    (taken : token.kind ∈ entry.kinds) (alike : source.next token.kind = entry.next token.kind)
    (nonempty : ∀ tokens result, language tokens result → tokens ≠ []) :
    Outcome limit language source target asked (token :: rest) failure result kept := by
  cases outcome with
  | read front rest' result earlier split derived reached stops agrees =>
    cases front with
    | nil => exact absurd rfl (nonempty _ _ derived)
    | cons first front =>
      obtain rfl : token = first := (List.cons.inj split).1
      exact .read (token :: front) rest' result earlier split derived
        ((Frontier.within_of_alike alike front).trans reached) stops agrees
  | halted left _ _ halt dangles =>
    exact .halted left result kept (halt.of_alike taken alike) dangles

/-- A rule that gives nothing is halted: the other endings have a result. -/
theorem halt_of_none
    (outcome : Outcome limit language source target asked tokens failure none kept) :
    ∃ left, Halt limit source tokens failure left kept := by
  cases outcome with
  | halted left _ _ halt _ => exact ⟨left, halt⟩

/-- A rule that took a token and gives nothing has come further than that token, so what is noted at
the token afterwards is not kept. -/
theorem reaches
    (outcome : Outcome limit language source target asked (token :: rest) failure none kept)
    (taken : token.kind ∈ source.kinds) : kept.Reaches rest.length := by
  obtain ⟨left, halt⟩ := outcome.halt_of_none
  exact halt.reaches.mono (Nat.le_of_lt_succ (halt.left_lt taken))

end Outcome

/-- A rule that ends in one of the three ways wherever it starts at `source`. -/
structure Reads (limit : Nat) (rule : Rule α) (language : Language α) (source target : Frontier)
    (asked : List Token.Kind) : Prop where
  keeps : rule.Keeps
  outcome : ∀ tokens trail, trail.depth = source.brackets.length →
    Outcome limit language source target asked tokens trail.failure
      (rule (.ofList tokens) trail).1 (rule (.ofList tokens) trail).2.failure

/-- A rule that, started before a token of one of some kinds and behind the furthest failure,
changes nothing and gives at most a result without tokens. -/
def Idles (rule : Rule α) (kinds asked : List Token.Kind) : Prop :=
  ∀ tokens trail left, trail.failure.Reaches left → left < tokens.length →
    (∃ token ∈ tokens.head?, token.kind ∈ kinds) →
    (rule (.ofList tokens) trail).2.failure = trail.failure ∧
      ∀ found ∈ (rule (.ofList tokens) trail).1,
        found.2 = .ofList tokens ∧ ∀ kind ∈ kinds, kind ∈ asked

/-- What is made of a result without tokens is one again, with the same things asked for. -/
theorem Idles.map {rule : Rule α} {kinds asked : List Token.Kind} (idles : Idles rule kinds asked)
    (make : α → β) : Idles (make <$> rule) kinds asked := by
  intro tokens trail left reaches behind dangling
  obtain ⟨same, given⟩ := idles tokens trail left reaches behind dangling
  simp only [Rule.map_apply]
  refine ⟨same, ?_⟩
  intro found member
  obtain ⟨first, isFirst, rfl⟩ := Option.map_eq_some_iff.mp member
  exact given first isFirst

section Sequence

variable {limit : Nat} {rule : Rule α} {next : α → Rule β} {first : Language α}
variable {whole : Language β} {source middle target : Frontier}
variable {asked further : List Token.Kind}

/-- One rule after another. The second starts where the first has asked in vain, and goes on from
what was noted there; where the first gave up before a dangling operator, it changes nothing. By
cases on the three endings of the first rule. -/
theorem Reads.bind (second : α → Language β) (reads : Reads limit rule first source middle asked)
    (keeps : ∀ result, (next result).Keeps)
    (onward : ∀ result tokens trail earlier, trail.depth = source.brackets.length →
      (∀ token ∈ tokens.head?, token.kind ∉ asked) →
      trail.failure = earlier.noteAll (.ofList tokens) (asked.map .token) →
      Outcome limit (second result) middle target further tokens earlier
        (next result (.ofList tokens) trail).1 (next result (.ofList tokens) trail).2.failure)
    (idle : ∀ result, Idles (next result) asked further)
    (wide : ∀ front result tokens made, first front result → second result tokens made →
      whole (front ++ tokens) made) :
    Reads limit (rule >>= next) whole source target further := by
  refine ⟨reads.keeps.bind keeps, ?_⟩
  intro tokens trail depth
  have kept := reads.keeps (.ofList tokens) trail
  have outcome := reads.outcome tokens trail depth
  rcases found : rule (.ofList tokens) trail with ⟨_ | ⟨result, rest⟩, after⟩
  · rw [Rule.bind_of_none found]
    simp only [found] at outcome ⊢
    obtain ⟨left, halt⟩ := outcome.halt_of_none
    exact .halted left none after.failure halt (dangles_none _ _ _)
  · rw [Rule.bind_of_some found]
    simp only [found] at outcome kept
    have depth' : after.depth = source.brackets.length := kept.1.trans depth
    generalize given : after.failure = failure at outcome
    cases outcome with
    | read front rest _ earlier split derived reached stops agrees =>
      exact (onward result rest after earlier depth' stops given).prepend front rest split reached
        agrees fun tokens made => wide front result tokens made derived
    | halted left _ _ halt dangles =>
      obtain ⟨behind, atMost, operator⟩ := dangles (result, rest) rfl
      obtain ⟨same, given'⟩ := idle result rest.tokens after left (given ▸ halt.reaches)
        (by simpa [← rest.left_eq] using behind) operator
      rw [Cursor.ofList_tokens] at same given'
      rw [same, given]
      refine .halted left _ failure halt ?_
      intro found member
      obtain ⟨unmoved, asks⟩ := given' found member
      obtain ⟨token, isHead, wanted⟩ := operator
      rw [unmoved]
      exact ⟨behind, atMost, token, isHead, asks _ wanted⟩

/-- What is read may be made into something else, also for the rule as a whole. The tokens, the
frontier and what is asked for stay the same. -/
theorem Reads.map (reads : Reads limit rule first source target asked) (make : α → β)
    (wide : ∀ tokens result, first tokens result → whole tokens (make result)) :
    Reads limit (make <$> rule) whole source target asked := by
  refine ⟨reads.keeps.map make, ?_⟩
  intro tokens trail depth
  rw [Rule.map_apply]
  exact (reads.outcome tokens trail depth).map make wide

end Sequence

end Formula.Grammar
