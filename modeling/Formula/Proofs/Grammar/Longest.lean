import Mathlib.Data.List.Induction
import Formula.Proofs.Grammar.Furthest
import Formula.Proofs.Grammar.Blame
import Formula.Proofs.Grammar.Induction

/-!
# The longest statement at the front

From the front of the tokens the longest part is taken that is a statement, and there is no error
while some part is one. That holds unless a bracket is refused on the way: then the failure is
final, and the statement that was read is not given. A bracket is refused only in tokens that a
statement could so far begin with, so of tokens that are one statement none is refused. That is why
it makes no difference to them that the whole is read without regard to finality.
-/

namespace Formula

namespace Grammar

variable {limit : Nat} {tokens : List Token}

/-- Among these tokens some bracket exceeds the limit. -/
def Exceeded (limit : Nat) (tokens : List Token) : Prop :=
  ∃ front bracket rest, tokens = front ++ bracket :: rest ∧ Exceeds limit front bracket

/-- The longest part at the front of some tokens that is a statement, and the tree it makes. -/
structure LongestStatement (tokens front : List Token) (statement : Statement) : Prop where
  derived : ∃ depth, Derives depth front statement
  within : front <+: tokens
  maximal : ∀ longer, longer <+: tokens → IsStatement longer → longer.length ≤ front.length

section Limit

/-- Reading ends with a final failure exactly if some bracket exceeds the limit. A refused bracket
does; and where the frontier was only blocked, no bracket on the way exceeds the limit, and none
behind that place can. -/
theorem final_iff_exceeded (tokens : List Token) :
    (statementWithin limit (.ofList tokens) (.start tokens)).2.failure.final = true ↔
      Exceeded limit tokens := by
  have ending : Ending limit _ _ _ _ := ending_statement tokens (.start tokens) rfl
  generalize (statementWithin limit (.ofList tokens) (.start tokens)).1 = result at ending
  generalize (statementWithin limit (.ofList tokens) (.start tokens)).2.failure = kept at ending
  have never {earlier : Failure} {front rest : List Token} {place : Frontier}
      (split : tokens = front ++ rest) (reached : Frontier.start.within limit front = some place)
      (blocked : ∀ token ∈ rest.head?, place.next token.kind = none)
      (agrees : (Trail.start tokens).failure.AgreesAt rest.length earlier)
      (expectations : List Expectation) :
      (earlier.noteAll (.ofList rest) expectations).final = true ↔ Exceeded limit tokens := by
    rw [Failure.final_noteAll, agrees.final_eq]
    refine iff_of_false Bool.false_ne_true ?_
    rintro ⟨front', bracket, rest', split', exceeds⟩
    exact not_exceeds_of_blocked reached blocked (split.symm.trans split') exceeds
  cases ending with
  | read front rest place statement earlier split _ reached _ blocked agrees =>
    exact never split reached blocked agrees _
  | halted left _ _ halt _ =>
    cases halt with
    | stuck front rest place earlier split reached _ blocked agrees =>
      exact never split reached blocked agrees _
    | refused front bracket rest place inside split reached opens tooMany =>
      exact iff_of_true (Failure.final_refuse _ _ _)
        ⟨front, bracket, rest, split, exceeds_of_refused reached opens tooMany⟩

/-- Where no bracket exceeds the limit, the first too many would be the one that does. By induction
on the front from its end, with the last token as that bracket. -/
theorem openBrackets_le_of_viable (within : ¬Exceeded limit tokens) (front : List Token)
    (begins : front <+: tokens) (viable : Viable front) : openBrackets front ≤ limit := by
  induction front using List.reverseRecOn with
  | nil =>
    rw [openBrackets_nil]
    exact Int.natCast_nonneg limit
  | append_singleton front token ih =>
    obtain ⟨rest, split⟩ := begins
    obtain ⟨later, whole⟩ := viable
    have before := ih ⟨token :: rest, by simpa using split⟩ ⟨token :: later, by simpa using whole⟩
    by_contra tooMany
    rw [openBrackets_append, openBrackets_cons, openBrackets_nil, opens_content] at tooMany
    have atMost := opened_le_one token.kind
    refine within ⟨front, token, rest, by simpa using split.symm, ⟨later, whole⟩, ?_, ?_⟩
    · rw [← opens_pos_iff, opens_content]
      omega
    · rw [openBrackets_append, openBrackets_cons, openBrackets_nil, opens_content]
      omega

/-- Where no bracket exceeds the limit, a statement at the front is derived within the limit,
whatever the depth it was derived with. -/
theorem derives_of_not_exceeded (within : ¬Exceeded limit tokens) {front : List Token}
    {depth : Nat} {statement : Statement} (begins : front <+: tokens)
    (derived : Derives depth front statement) : Derives limit front statement := by
  refine derives_limit_iff.mpr ⟨⟨depth, derived⟩, fun shorter rest split => ?_⟩
  refine openBrackets_le_of_viable within shorter ?_ ⟨rest, depth, statement, split ▸ derived⟩
  exact (List.prefix_append shorter rest).trans (split ▸ begins)

/-- In what is derived within a limit, no bracket exceeds it, since every front of the tokens stays
within the limit. -/
theorem not_exceeded_of_derives {statement : Statement}
    (derived : Derives limit tokens statement) : ¬Exceeded limit tokens := by
  rintro ⟨front, bracket, rest, split, exceeds⟩
  have atMost := (derives_limit_iff.mp derived).2 (front ++ [bracket]) rest (by simp [split])
  have count := exceeds.count
  omega

/-- As many brackets as a limit allows are fewer than are needed to exceed it. -/
theorem not_exceeded_of_length_le (few : tokens.length ≤ limit) : ¬Exceeded limit tokens := by
  rintro ⟨front, bracket, rest, split, exceeds⟩
  have count := exceeds.count
  have atMost := openBrackets_le_length (front ++ [bracket])
  have size := congrArg List.length split
  rw [List.length_append, List.length_cons] at size
  rw [List.length_append, List.length_singleton] at atMost
  omega

/-- A statement has at least one token. -/
theorem derives_ne_nil {statement : Statement} (derived : Derives limit tokens statement) :
    tokens ≠ [] := by
  cases derived with
  | assignment => exact List.cons_ne_nil _ _
  | expression _ _ derived => exact nested_ne_nil derived

end Limit

end Grammar

namespace Statement

open Grammar

variable {tokens rest : List Token} {statement : Statement} {error : SyntaxError}

/-- What is given at the front is what the rule for statements reads, if no bracket was refused. A
final failure is what keeps a result from being given. -/
theorem ofFront_eq_ok_iff : ofFront tokens = .ok (statement, rest) ↔
    ¬Exceeded maxNesting tokens ∧
      (statementWithin maxNesting (.ofList tokens) (.start tokens)).1 =
        some (statement, .ofList rest) := by
  rw [← final_iff_exceeded, ofFront]
  rcases statementWithin maxNesting (.ofList tokens) (.start tokens) with
    ⟨_ | ⟨found, last⟩, after⟩
  · simp
  · cases final : after.failure.final with
    | true => simp [final]
    | false =>
      have same : last = .ofList rest ↔ last.tokens = rest := by
        rw [← Cursor.ofList_tokens last]
        exact ⟨congrArg Cursor.tokens, congrArg Cursor.ofList⟩
      simp [final, same]

/-- What is read at the front is derived from the tokens in front of those that are left. -/
theorem derives_of_ofFront (read : ofFront tokens = .ok (statement, rest)) :
    ∃ front, tokens = front ++ rest ∧ Derives maxNesting front statement :=
  (greedy_statementWithin maxNesting).derived tokens _ statement _ rfl (ofFront_eq_ok_iff.mp read).2

/-- Where no bracket is refused, at least as much is read as makes a statement. That statement is
derived within the limit, and the rule reads as far as any that is. -/
theorem exists_ofFront (within : ¬Exceeded maxNesting tokens) {front : List Token}
    (begins : front <+: tokens) (whole : IsStatement front) :
    ∃ found rest, ofFront tokens = .ok (found, rest) ∧
      rest.length + front.length ≤ tokens.length := by
  obtain ⟨depth, statement, derived⟩ := whole
  obtain ⟨later, rfl⟩ := begins
  obtain ⟨found, last, read, further⟩ := (greedy_statementWithin maxNesting).reaches front statement
    later (.start (front ++ later)) rfl
    (derives_of_not_exceeded within (List.prefix_append front later) derived)
  rw [← Cursor.ofList_tokens last] at read
  refine ⟨found, last.tokens, ofFront_eq_ok_iff.mpr ⟨within, read⟩, ?_⟩
  rw [List.length_append, ← last.left_eq]
  omega

/-- Where no bracket is refused, what is read is the longest statement at the front. No longer one
could be left unread; and the longest is the only one of its length, so reading gives that one. -/
theorem ofFront_eq_ok_iff_longest (within : ¬Exceeded maxNesting tokens) :
    ofFront tokens = .ok (statement, rest) ↔
      ∃ front, tokens = front ++ rest ∧ LongestStatement tokens front statement := by
  constructor
  · intro read
    obtain ⟨front, rfl, derived⟩ := derives_of_ofFront read
    refine ⟨front, rfl, ⟨maxNesting, derived⟩, List.prefix_append front rest, ?_⟩
    intro longer begins whole
    obtain ⟨found, rest', read', further⟩ := exists_ofFront within begins whole
    obtain ⟨-, rfl⟩ := Prod.mk.inj (Except.ok.inj (read.symm.trans read'))
    rw [List.length_append] at further
    omega
  · rintro ⟨front, rfl, ⟨depth, derived⟩, begins, maximal⟩
    obtain ⟨found, rest', read, further⟩ :=
      exists_ofFront within begins ⟨depth, statement, derived⟩
    obtain ⟨front', split, derived'⟩ := derives_of_ofFront read
    -- neither part is longer than the other, and both are at the front
    have atMost := maximal front' ⟨rest', split.symm⟩ ⟨maxNesting, found, derived'⟩
    have sizes := congrArg List.length split
    rw [List.length_append, List.length_append] at sizes
    rw [List.length_append] at further
    obtain ⟨rfl, rfl⟩ := List.append_inj split (by omega)
    rw [(derives_of_not_exceeded within begins derived).unique derived']
    exact read

/-- Every reading from the front uses up a token. -/
theorem length_lt_of_ofFront (read : ofFront tokens = .ok (statement, rest)) :
    rest.length < tokens.length := by
  obtain ⟨front, rfl, derived⟩ := derives_of_ofFront read
  have positive := List.length_pos_iff.mpr (derives_ne_nil derived)
  rw [List.length_append]
  omega

/-- The whole is a statement exactly if it is at its own front and nothing is left. A statement that
is the whole is the longest at the front. -/
theorem ofTokens_eq_ok_iff_ofFront :
    ofTokens tokens = .ok statement ↔ ofFront tokens = .ok (statement, []) := by
  rw [ofTokens_eq_ok_iff]
  constructor
  · intro derived
    refine (ofFront_eq_ok_iff_longest (not_exceeded_of_derives derived)).mpr ?_
    refine ⟨tokens, (List.append_nil tokens).symm, ⟨maxNesting, derived⟩, List.prefix_rfl, ?_⟩
    exact fun longer begins _ => begins.length_le
  · intro read
    obtain ⟨front, rfl, derived⟩ := derives_of_ofFront read
    rwa [List.append_nil]

/-- The error at the front is the error of the whole. Both read the same rule first; if that fails
they report its failure, and if it was final, what is read afterwards does not replace it. -/
theorem ofTokens_of_ofFront_error (failed : ofFront tokens = .error error) :
    ofTokens tokens = .error error := by
  rw [ofFront] at failed
  rw [ofTokens, wholeStatement]
  rcases found : statementWithin maxNesting (.ofList tokens) (.start tokens) with
    ⟨_ | ⟨read, last⟩, after⟩
  · rw [found] at failed
    rw [Rule.bind_of_none found]
    exact congrArg Except.error (Except.error.inj failed)
  · simp only [found] at failed
    split at failed
    · next final =>
      -- a bracket was refused, so what was read is not the whole
      have left : 0 < last.left := by
        by_contra none
        obtain ⟨front, split, derived⟩ := (greedy_statementWithin maxNesting).derived tokens
          (.start tokens) read last rfl (by rw [found])
        have ended : last.tokens = [] := List.length_eq_zero_iff.mp (by rw [← last.left_eq]; omega)
        rw [ended, List.append_nil] at split
        refine not_exceeded_of_derives (split ▸ derived) ((final_iff_exceeded tokens).mp ?_)
        rw [found]
        exact final
      have same : (after.note last .endOfInput).failure = after.failure :=
        Failure.note_of_final final last .endOfInput
      rw [Rule.bind_of_some found, endOfInput_of_left left]
      dsimp only
      rw [same, Except.error.inj failed]
    · cases failed

/-- What is read from the front of some tokens. Unless some bracket exceeds the limit, it is the
longest part that is a statement, and there is an error only if no part is one; if some bracket
does, there is an error even if some part is a statement. At least one token is read each time, so
reading again what is left comes to an end. The whole is read as a statement if and only if it is
read from the front and nothing is left, and every error at the front is the error of the whole.

The rule for statements reads as far as any statement reaches, and what is read that far is
unique. -/
theorem ofFront_longest :
    (∀ tokens, ¬Exceeded 100 tokens →
      (∀ statement rest, ofFront tokens = .ok (statement, rest) ↔
        ∃ front, tokens = front ++ rest ∧ LongestStatement tokens front statement) ∧
      ((∃ error, ofFront tokens = .error error) ↔
        ¬∃ front, front <+: tokens ∧ IsStatement front)) ∧
    (∀ tokens, Exceeded 100 tokens → ∃ error, ofFront tokens = .error error) ∧
    (∀ tokens statement rest, ofFront tokens = .ok (statement, rest) →
      rest.length < tokens.length) ∧
    (WellFounded fun rest tokens => ∃ statement, ofFront tokens = .ok (statement, rest)) ∧
    (∀ tokens statement,
      ofTokens tokens = .ok statement ↔ ofFront tokens = .ok (statement, [])) ∧
    ∀ tokens error, ofFront tokens = .error error → ofTokens tokens = .error error := by
  refine ⟨fun tokens within => ⟨fun statement rest => ofFront_eq_ok_iff_longest within, ?_⟩,
    fun tokens exceeded => ?_, fun tokens statement rest => length_lt_of_ofFront, ?_,
    fun tokens statement => ofTokens_eq_ok_iff_ofFront,
    fun tokens error => ofTokens_of_ofFront_error⟩
  · constructor
    · rintro ⟨error, failed⟩ ⟨front, begins, whole⟩
      obtain ⟨found, rest, read, _⟩ := exists_ofFront within begins whole
      cases failed.symm.trans read
    · intro none
      cases read : ofFront tokens with
      | error error => exact ⟨error, rfl⟩
      | ok found =>
        obtain ⟨front, split, derived⟩ := derives_of_ofFront read
        exact absurd ⟨front, ⟨found.2, split.symm⟩, maxNesting, found.1, derived⟩ none
  · cases read : ofFront tokens with
    | error error => exact ⟨error, rfl⟩
    | ok found => exact absurd exceeded (ofFront_eq_ok_iff.mp read).1
  · refine Subrelation.wf ?_ (measure List.length).wf
    rintro rest tokens ⟨statement, read⟩
    exact length_lt_of_ofFront read

set_option maxRecDepth 10000 in
/-- Of `1 - 2 - 3 ]` the difference is read, nested to the left, and the last token is left. After
`1 +`, a hundred and one parentheses are an error, although `1` is a statement. -/
theorem ofFront_longest_difference :
    ofFront [narrow (.integer 1) "1" 1, narrow (.symbol .minus) "-" 3,
        narrow (.integer 2) "2" 5, narrow (.symbol .minus) "-" 7, narrow (.integer 3) "3" 9,
        narrow (.symbol .rightBracket) "]" 11] =
      .ok (.expression (.operation .minus
        (.operation .minus (.literal (.integer 1) ⟨⟨1, 1⟩, ⟨1, 2⟩⟩)
          (.literal (.integer 2) ⟨⟨1, 5⟩, ⟨1, 6⟩⟩) ⟨⟨1, 3⟩, ⟨1, 4⟩⟩)
        (.literal (.integer 3) ⟨⟨1, 9⟩, ⟨1, 10⟩⟩) ⟨⟨1, 7⟩, ⟨1, 8⟩⟩),
        [narrow (.symbol .rightBracket) "]" 11]) ∧
    ∃ error, ofFront ([.integer, .symbol .plus].map sample ++
      List.replicate 101 (sample (.symbol .leftParen))) = .error error := by
  obtain ⟨longest, refused, _⟩ := ofFront_longest
  constructor
  · have first : Nested 0 _ _ := Chain.more (.single (.single (factor_narrow _ 0 1 1 "1")))
      (step_narrow minus_mem_additiveSigns "-" 3 (.single (factor_narrow _ 0 5 2 "2")))
    have second : Nested 0 _ _ := first.more
      (step_narrow minus_mem_additiveSigns "-" 7 (.single (factor_narrow _ 0 9 3 "3")))
    refine ((longest _ (not_exceeded_of_length_le (by decide))).1 _ _).mpr
      ⟨_, rfl, ⟨0, .expression _ _ second⟩, ⟨_, rfl⟩, ?_⟩
    intro longer begins whole
    by_contra further
    obtain rfl := begins.eq_of_length (Nat.le_antisymm begins.length_le (Nat.lt_of_not_le further))
    obtain ⟨place, reached, _⟩ := isStatement_iff.mp whole
    cases reached
  · refine refused _ ⟨[.integer, .symbol .plus].map sample ++
      List.replicate 100 (sample (.symbol .leftParen)), sample (.symbol .leftParen), [], rfl, ?_⟩
    exact ⟨viable_iff.mpr ⟨⟨.operand, List.replicate 101 .group⟩, rfl⟩, by decide, rfl⟩

end Statement

end Formula
