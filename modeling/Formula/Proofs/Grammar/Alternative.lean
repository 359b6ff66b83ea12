import Formula.Proofs.Grammar.Reading

/-!
# Rules that one token decides

The first token decides whether an alternative is the right one: the kinds with which the
alternatives of a rule begin have nothing in common. An alternative before another token fails
there, after asking for each of its own kinds, and leaves the choice to the others. The same holds
of what is repeated, which begins with an operator or a comma.
-/

namespace Formula.Grammar

variable {α β : Type}

/-- Before a token of none of these kinds the rule fails, after asking for each of them. -/
def Asks (rule : Rule α) (kinds : List Token.Kind) : Prop :=
  ∀ tokens trail, (∀ token ∈ tokens.head?, token.kind ∉ kinds) →
    rule (.ofList tokens) trail =
      (none, ⟨trail.depth, trail.failure.noteAll (.ofList tokens) (kinds.map .token)⟩)

namespace Asks

variable {rule second : Rule α} {kinds others : List Token.Kind}

/-- A rule for one token asks for its kind. -/
theorem token (kind : Token.Kind) : Asks (Rule.token kind) [kind] := by
  intro tokens trail other
  exact Rule.token_of_not_kind (by simpa using other) trail

/-- A bracket asks for its opening symbol, whatever may stand inside. -/
theorem bracketed (limit : Nat) (opening : Symbol) (inner : Rule α) :
    Asks (Rule.bracketed limit opening inner) [.symbol opening] := by
  intro tokens trail other
  exact Rule.bracketed_of_not_kind (by simpa using other)

/-- One rule after another asks for what the first does, because the second is not entered. -/
theorem bind (asks : Asks rule kinds) (next : α → Rule β) : Asks (rule >>= next) kinds :=
  fun tokens trail other => Rule.bind_of_none (asks tokens trail other)

/-- What is made of a result is not asked for. -/
theorem map (asks : Asks rule kinds) (make : α → β) : Asks (make <$> rule) kinds := asks.bind _

/-- Two alternatives ask for what both ask for, in their order. -/
theorem orElse (asks : Asks rule kinds) (asks' : Asks second others) :
    Asks (rule <|> second) (kinds ++ others) := by
  intro tokens trail other
  have first : ∀ token ∈ tokens.head?, token.kind ∉ kinds :=
    fun token isHead member => other token isHead (List.mem_append_left others member)
  have last : ∀ token ∈ tokens.head?, token.kind ∉ others :=
    fun token isHead member => other token isHead (List.mem_append_right kinds member)
  rw [Rule.orElse_of_none (asks tokens trail first), asks' _ _ last, List.map_append,
    Failure.noteAll_append]

/-- Behind the furthest failure the question leaves no trace. The token before which it is asked is
of another kind, so nothing is read either. -/
theorem idles (asks : Asks rule kinds) (apart : ∀ kind ∈ others, kind ∉ kinds)
    (asked : List Token.Kind) : Idles rule others asked := by
  rintro tokens trail left reaches behind ⟨head, isHead, wanted⟩
  have other : ∀ token ∈ tokens.head?, token.kind ∉ kinds := by
    intro token isHead'
    obtain rfl : token = head := Option.some.inj (isHead'.symm.trans isHead)
    exact apart _ wanted
  rw [asks tokens trail other]
  exact ⟨reaches.noteAll_eq behind _, by simp⟩

end Asks

/-- A rule that takes every token of some kinds, all of which may stand at `source`, and asks for
them before any other token. -/
structure Alternative (limit : Nat) (rule : Rule α) (language : Language α)
    (source target : Frontier) (asked kinds : List Token.Kind) : Prop where
  keeps : rule.Keeps
  asks : Asks rule kinds
  among : ∀ kind ∈ kinds, kind ∈ source.kinds
  nonempty : ∀ tokens result, language tokens result → tokens ≠ []
  takes : ∀ token rest trail, trail.depth = source.brackets.length → token.kind ∈ kinds →
    Outcome limit language source target asked (token :: rest) trail.failure
      (rule (.ofList (token :: rest)) trail).1 (rule (.ofList (token :: rest)) trail).2.failure

namespace Alternative

variable {limit : Nat} {rule second : Rule α} {language : Language α}
variable {source target place : Frontier} {asked kinds others : List Token.Kind}

/-- Two alternatives that begin with different kinds make one that begins with all of them. A token
of the second kinds is noted by the first, which leaves no trace after the token is taken. -/
theorem orElse (first : Alternative limit rule language source target asked kinds)
    (last : Alternative limit second language source target asked others)
    (apart : ∀ kind ∈ kinds, kind ∉ others) :
    Alternative limit (rule <|> second) language source target asked (kinds ++ others) where
  keeps := first.keeps.orElse last.keeps
  asks := first.asks.orElse last.asks
  among kind member :=
    (List.mem_append.mp member).elim (first.among kind) (last.among kind)
  nonempty := first.nonempty
  takes token rest trail depth taken := by
    by_cases isFirst : token.kind ∈ kinds
    · have outcome := first.takes token rest trail depth isFirst
      rcases found : rule (.ofList (token :: rest)) trail with ⟨_ | ⟨result, last'⟩, after⟩
      · have other : ∀ head ∈ (token :: rest).head?, head.kind ∉ others := by
          rintro _ ⟨⟩
          exact apart _ isFirst
        simp only [found] at outcome
        have reaches := outcome.reaches (first.among _ isFirst)
        rw [Rule.orElse_of_none found, last.asks _ _ other,
          reaches.noteAll_eq (by simp)]
        exact outcome
      · rw [Rule.orElse_of_some found]
        simpa only [found] using outcome
    · have isLast : token.kind ∈ others := (List.mem_append.mp taken).resolve_left isFirst
      have other : ∀ head ∈ (token :: rest).head?, head.kind ∉ kinds := by
        rintro _ ⟨⟩
        exact isFirst
      rw [Rule.orElse_of_none (first.asks _ trail other)]
      have outcome := last.takes token rest
        ⟨trail.depth, trail.failure.noteAll (.ofList (token :: rest)) (kinds.map .token)⟩ depth isLast
      exact outcome.forget (last.among _ isLast) last.nonempty

/-- Alternatives for every kind that may stand at a place read whatever stands there. Any other
token is asked for in vain, which is how reading is halted at once. -/
theorem reads (alternative : Alternative limit rule language source target asked kinds)
    (all : source.kinds = kinds) (unfinished : source.isComplete = false) :
    Reads limit rule language source target asked := by
  refine ⟨alternative.keeps, ?_⟩
  intro tokens trail depth
  rcases Token.head_cases (· ∈ kinds) tokens with ⟨token, rest, member, rfl⟩ | other
  · exact alternative.takes token rest trail depth member
  · rw [alternative.asks tokens trail other, ← all]
    refine .halted tokens.length none _ ?_ (dangles_none _ _ _)
    refine .stuck [] tokens source trail.failure rfl rfl unfinished ?_ (.refl _ _)
    intro token isHead
    have absent : token.kind ∉ source.kinds := all ▸ other token isHead
    simpa [Frontier.mem_kinds_iff] using absent

end Alternative

section Repetition

variable {limit : Nat} {step : Rule α} {item : Language α} {place : Frontier}
variable {asked marks : List Token.Kind}

/-- Before a token it does not take, a repetition gives no item and changes nothing that counts. It
asks for its marks, but behind the furthest failure. -/
theorem Alternative.idles_repeated (loop : Alternative limit step item place place asked marks)
    (apart : ∀ kind ∈ asked, kind ∉ marks) :
    Idles (Rule.repeated step) asked (asked ++ marks) := by
  rintro tokens trail left reaches behind ⟨token, isHead, wanted⟩
  have other : ∀ token ∈ tokens.head?, token.kind ∉ marks := by
    intro head isHead'
    obtain rfl : head = token := Option.some.inj (isHead'.symm.trans isHead)
    exact apart _ wanted
  rw [Rule.repeated_of_none (loop.asks tokens trail other)]
  refine ⟨reaches.noteAll_eq behind _, ?_⟩
  rintro _ ⟨⟩
  exact ⟨rfl, fun kind member => List.mem_append_left marks member⟩

/-- Whether or not a repetition goes on from the dangling operator at which an item ended, it ends
there. If the item took no token at all the repetition stops by itself. -/
theorem Alternative.repeated_of_dangling
    (loop : Alternative limit step item place place asked marks)
    (apart : ∀ kind ∈ asked, kind ∉ marks) {cursor last : Cursor} {trail after : Trail} {result : α}
    {left : Nat} (found : step cursor trail = (some (result, last), after))
    (reaches : after.failure.Reaches left) (behind : left < last.left)
    (dangling : ∃ token ∈ last.tokens.head?, token.kind ∈ asked) :
    Rule.repeated step cursor trail = (some ([result], last), after) := by
  by_cases shorter : last.left < cursor.left
  · obtain ⟨head, isHead, wanted⟩ := dangling
    have other : ∀ token ∈ last.tokens.head?, token.kind ∉ marks := by
      intro token isHead'
      obtain rfl : token = head := Option.some.inj (isHead'.symm.trans isHead)
      exact apart _ wanted
    have failed := loop.asks last.tokens after other
    rw [Cursor.ofList_tokens, reaches.noteAll_eq behind] at failed
    rw [Rule.repeated_of_some found shorter, Rule.repeated_of_none failed]
    rfl
  · exact Rule.repeated_of_still found shorter

/-- The loop behind a chain or a list of items: while the next token is one of the marks it goes on,
and at any other token it has asked for all of them. An item that gets stuck ends the loop at its
mark. By induction on the number of tokens, which each item makes smaller. -/
theorem Alternative.outcome_repeated (loop : Alternative limit step item place place asked marks)
    (apart : ∀ kind ∈ asked, kind ∉ marks) (tokens : List Token) (trail : Trail)
    (earlier : Failure) (depth : trail.depth = place.brackets.length)
    (stops : ∀ token ∈ tokens.head?, token.kind ∉ asked)
    (given : trail.failure = earlier.noteAll (.ofList tokens) (asked.map .token)) :
    Outcome limit (Star item) place place (asked ++ marks) tokens earlier
      (Rule.repeated step (.ofList tokens) trail).1
      (Rule.repeated step (.ofList tokens) trail).2.failure := by
  induction size : tokens.length using Nat.strongRecOn generalizing tokens trail earlier with
  | ind size ih =>
  subst size
  rcases Token.head_cases (· ∈ marks) tokens with ⟨token, rest, wanted, rfl⟩ | other
  · have kept := loop.keeps (.ofList (token :: rest)) trail
    have outcome := loop.takes token rest trail depth wanted
    -- What the item notes stands beyond the mark, so what was asked for before it is forgotten.
    rw [given] at outcome
    replace outcome := outcome.forget (loop.among _ wanted) loop.nonempty
    rcases found : step (.ofList (token :: rest)) trail with ⟨_ | ⟨result, last⟩, after⟩
    · rw [Rule.repeated_of_none found]
      simp only [found] at outcome ⊢
      obtain ⟨left, halt⟩ := outcome.halt_of_none
      refine .halted left _ after.failure halt ?_
      rintro _ ⟨⟩
      exact ⟨halt.left_lt (loop.among _ wanted), Nat.le_refl _, token, rfl,
        List.mem_append_right asked wanted⟩
    · simp only [found] at outcome kept
      have depth' : after.depth = place.brackets.length := kept.1.trans depth
      generalize given' : after.failure = failure at outcome
      cases outcome with
      | read front rest' _ earlier' split derived reached stops' agrees =>
        have further : rest'.length < (token :: rest).length := by
          have some := List.length_pos_iff.mpr (loop.nonempty _ _ derived)
          rw [split, List.length_append]
          omega
        rw [Rule.repeated_of_some found further]
        refine ((ih rest'.length further rest' after earlier' depth' stops' given' rfl).map
          (result :: ·) ?_).prepend front rest' split reached agrees fun _ _ whole => whole
        exact fun tokens results others => .more front result tokens results derived others
      | halted left _ _ halt dangles =>
        obtain ⟨behind, atMost, operator⟩ := dangles (result, last) rfl
        rw [loop.repeated_of_dangling apart found (given' ▸ halt.reaches) behind operator]
        simp only [given']
        refine .halted left _ failure halt ?_
        rintro _ ⟨⟩
        obtain ⟨head, isHead', wanted'⟩ := operator
        exact ⟨behind, atMost, head, isHead', List.mem_append_left marks wanted'⟩
  · rw [Rule.repeated_of_none (loop.asks tokens trail other), given]
    simp only [← Failure.noteAll_append, ← List.map_append]
    refine .read [] tokens [] earlier rfl .none rfl ?_ (.refl _ _)
    intro token isHead member
    cases List.mem_append.mp member with
    | inl wasAsked => exact stops token isHead wasAsked
    | inr marked => exact other token isHead marked

end Repetition

end Formula.Grammar
