import Formula.Proofs.Grammar.Record
import Formula.Proofs.Places
import Formula.Proofs.Token.Words

/-!
# The grammar does not look at places

A rule looks at the kinds of tokens, and copies their places into the tree or the error. So it reads
tokens that have been taken out of their places just as it reads them in their places, and what it
gives is the same tree, or the same furthest failure, without the places. This is shown for every
way of putting rules together, and then for the rules of the grammar one after the other.
-/

namespace Formula

open Placed

instance : Placed Cursor where
  unplaced cursor := ⟨unplaced cursor.tokens, cursor.left, by
    rw [cursor.left_eq]
    exact (List.length_map unplaced).symm⟩

instance : Placed Failure := ⟨fun failure => { failure with found := unplaced failure.found }⟩

instance : Placed Trail := ⟨fun trail => { trail with failure := unplaced trail.failure }⟩

/-- Tokens without their places are as many, so the count of the cursor is right for them too. -/
theorem Cursor.unplaced_ofList (tokens : List Token) :
    unplaced (ofList tokens) = ofList (unplaced tokens) := by
  have same : tokens.length = (tokens.map (unplaced : Token → Token)).length := by simp
  simp only [ofList, unplaced, same]

namespace Failure

variable (failure : Failure) (cursor : Cursor) (expectation : Expectation)

/-- A new failure keeps of the tokens only the first one, which loses its place. -/
theorem unplaced_single (final : Bool) :
    unplaced (single cursor expectation final) = single (unplaced cursor) expectation final := by
  simp only [single, unplaced, List.head?_map]

/-- Noting an expectation compares counts and expectations, neither of which has a place. So it does
not matter whether the places are taken away before or after. By cases, as noting has them. -/
theorem unplaced_note :
    unplaced (failure.note cursor expectation) =
      (unplaced failure).note (unplaced cursor) expectation := by
  unfold note
  by_cases final : failure.final = true
  · rw [if_pos final]
    exact (if_pos final).symm
  · rw [if_neg final]
    by_cases ahead : cursor.left < failure.left
    · rw [if_pos ahead, unplaced_single]
      exact ((if_neg final).trans (if_pos ahead)).symm
    · rw [if_neg ahead]
      by_cases fresh : cursor.left = failure.left ∧ expectation ∉ failure.expected
      · rw [if_pos fresh]
        exact ((if_neg final).trans ((if_neg ahead).trans (if_pos fresh))).symm
      · rw [if_neg fresh]
        exact ((if_neg final).trans ((if_neg ahead).trans (if_neg fresh))).symm

/-- The same of refusing a bracket, which only asks whether the failure is final. -/
theorem unplaced_refuse :
    unplaced (failure.refuse cursor expectation) =
      (unplaced failure).refuse (unplaced cursor) expectation := by
  unfold refuse
  by_cases final : failure.final = true
  · rw [if_pos final]
    exact (if_pos final).symm
  · rw [if_neg final, unplaced_single]
    exact (if_neg final).symm

/-- The error is the same, wherever the tokens end: the position is taken out of it in either
case. -/
theorem unplaced_toError (stop stop' : Position) :
    unplaced ((unplaced failure).toError stop') = unplaced (failure.toError stop) := by
  obtain ⟨left, found, expected, final⟩ := failure
  cases found <;> rfl

end Failure

/-- What holds of the failure holds of the trail that carries it. -/
theorem Trail.unplaced_note (trail : Trail) (cursor : Cursor) (expectation : Expectation) :
    unplaced (trail.note cursor expectation) =
      (unplaced trail).note (unplaced cursor) expectation :=
  congrArg (Trail.mk trail.depth) (trail.failure.unplaced_note cursor expectation)

/-- So it does for a refusal. -/
theorem Trail.unplaced_refuse (trail : Trail) (cursor : Cursor) (expectation : Expectation) :
    unplaced (trail.refuse cursor expectation) =
      (unplaced trail).refuse (unplaced cursor) expectation :=
  congrArg (Trail.mk trail.depth) (trail.failure.unplaced_refuse cursor expectation)

/-- Two rules of which the second does without places what the first does in places: the result, the
tokens left and the failure all correspond. -/
def Rule.Forgets {α : Type} [Placed α] (rule image : Rule α) : Prop :=
  ∀ cursor trail, image (unplaced cursor) (unplaced trail) = unplaced (rule cursor trail)

namespace Rule

variable {α β : Type} [Placed α] [Placed β] {rule image second image' : Rule α}

/-- A result given without reading only has to lose its own places. -/
theorem forgets_pure {result result' : α} (same : unplaced result = result') :
    Forgets (pure result) (pure result') := by
  rintro cursor trail
  rw [← same]
  rfl

/-- Where nothing is ever read there are no places to lose. -/
theorem forgets_fail : Forgets (Rule.fail : Rule α) Rule.fail := fun _ _ => rfl

/-- One rule after another: the second is told the result of the first without its places. By cases
on whether the first reads something. -/
theorem Forgets.bind {next next' : α → Rule β} (first : Forgets rule image)
    (others : ∀ result, Forgets (next result) (next' (unplaced result))) :
    Forgets (rule >>= next) (image >>= next') := by
  intro cursor trail
  have same := first cursor trail
  rcases found : rule cursor trail with ⟨_ | ⟨result, rest⟩, after⟩
  · rw [found] at same
    rw [bind_of_none found]
    exact bind_of_none same
  · rw [found] at same
    rw [bind_of_some found, ← others result rest after]
    exact bind_of_some same

/-- What is made of a result may look at it, as long as it makes the same of it without places. -/
theorem Forgets.map {make make' : α → β} (first : Forgets rule image)
    (same : ∀ result, unplaced (make result) = make' (unplaced result)) :
    Forgets (make <$> rule) (make' <$> image) :=
  first.bind fun result => forgets_pure (same result)

/-- The same alternative is taken, because the first one succeeds with places exactly if it does
without. -/
theorem Forgets.orElse (first : Forgets rule image) (other : Forgets second image') :
    Forgets (rule <|> second) (image <|> image') := by
  intro cursor trail
  have same := first cursor trail
  rcases found : rule cursor trail with ⟨_ | ⟨result, rest⟩, after⟩
  · rw [found] at same
    rw [orElse_of_none found, ← other cursor after]
    exact orElse_of_none same
  · rw [found] at same
    rw [orElse_of_some found]
    exact orElse_of_some same

/-- Whether a token is read depends on its kind, which it keeps when it loses its place. -/
theorem forgets_token (kind : Token.Kind) : Forgets (Rule.token kind) (Rule.token kind) := by
  intro cursor trail
  rcases cursor.head_cases (· = kind) with ⟨token, rest, same, rfl⟩ | ⟨tokens, other, rfl⟩
  · have same' : (unplaced token).kind = kind := same
    have read := token_of_kind same' (unplaced rest) (unplaced trail)
    rw [← Cursor.unplaced_ofList rest] at read
    rw [token_of_kind same, Cursor.unplaced_ofList]
    exact read
  · have other' : ∀ token ∈ (unplaced tokens).head?, token.kind ≠ kind := by
      intro token isHead
      obtain ⟨placed, isHead', rfl⟩ := Option.map_eq_some_iff.mp (List.head?_map.symm.trans isHead)
      exact other placed isHead'
    have failed := token_of_not_kind other' (unplaced trail)
    rw [← Cursor.unplaced_ofList, ← Trail.unplaced_note] at failed
    rw [token_of_not_kind other]
    exact failed

/-- Whether tokens are left does not depend on where they stand. -/
theorem forgets_endOfInput : Forgets endOfInput endOfInput := by
  intro cursor trail
  obtain ⟨tokens, left, rfl⟩ := cursor
  cases tokens with
  | nil => rfl
  | cons token rest => exact congrArg (Prod.mk none) (trail.unplaced_note _ _).symm

/-- What may be left out is left out in both or in neither, since the rule inside succeeds in both
or in neither. -/
theorem Forgets.optional (first : Forgets rule image) :
    Forgets (Rule.optional rule) (Rule.optional image) := by
  intro cursor trail
  have same := first cursor trail
  rcases found : rule cursor trail with ⟨_ | ⟨result, rest⟩, after⟩
  · rw [found] at same
    rw [optional_of_none found]
    exact optional_of_none same
  · rw [found] at same
    rw [optional_of_some found]
    exact optional_of_some same

/-- Something is read equally often with places and without. By induction over the rounds with
places, since the counts that end them are the same. -/
theorem Forgets.collect (first : Forgets rule image) (cursor : Cursor) (trail : Trail) :
    Rule.collect image (unplaced cursor) (unplaced trail) =
      unplaced (Rule.collect rule cursor trail) := by
  fun_induction Rule.collect rule cursor trail with
  | case1 cursor trail after failed =>
    have same := first cursor trail
    rw [failed] at same
    rw [Rule.collect, same]
    rfl
  | case2 cursor trail result rest after found shorter later last final collected ih =>
    have same := first cursor trail
    rw [found] at same
    rw [collected] at ih
    rw [Rule.collect, same]
    refine (if_pos shorter).trans ?_
    have later' := congrArg (fun read => ((unplaced result :: read.1.1, read.1.2), read.2)) ih
    exact later'
  | case3 cursor trail result rest after found still =>
    have same := first cursor trail
    rw [found] at same
    rw [Rule.collect, same]
    exact if_neg still

/-- The same of the rule for repetitions. -/
theorem Forgets.repeated (first : Forgets rule image) :
    Forgets (Rule.repeated rule) (Rule.repeated image) := by
  intro cursor trail
  simp only [Rule.repeated, first.collect]
  rfl

/-- Items with separators between them lose the places of the items; those of the separators are in
no result. -/
theorem Forgets.separated (first : Forgets rule image) (separator : Symbol) :
    Forgets (Rule.separated rule separator) (Rule.separated image separator) :=
  first.bind fun _ => ((forgets_token _).bind fun _ => first).repeated.bind fun _ =>
    forgets_pure rfl

/-- A bracket is let in with as many brackets open around it. Inside, the depth is one more in both
readings. -/
theorem Forgets.bracketed (first : Forgets rule image) (limit : Nat) (opening : Symbol) :
    Forgets (Rule.bracketed limit opening rule) (Rule.bracketed limit opening image) := by
  intro cursor trail
  have same := forgets_token (.symbol opening) cursor trail
  unfold Rule.bracketed
  rcases found : Rule.token (.symbol opening) cursor trail with ⟨_ | ⟨bracket, rest⟩, after⟩
  · rw [found] at same
    rw [same]
    rfl
  · rw [found] at same
    rw [same]
    by_cases full : limit ≤ after.depth
    · refine (if_pos full).trans ?_
      simp only [if_pos full]
      exact congrArg (Prod.mk none) (after.unplaced_refuse cursor .shallowerNesting).symm
    · refine (if_neg full).trans ?_
      simp only [if_neg full]
      have inside : image (unplaced rest) (unplaced after).enter =
          unplaced (rule rest after.enter) := first rest after.enter
      rcases read : rule rest after.enter with ⟨_ | ⟨result, last⟩, final⟩ <;>
        rw [read] at inside <;> rw [inside] <;> rfl

end Rule

namespace Grammar

open Rule

variable {inner image : Rule Expr} {limit : Nat}

/-- A literal is the value of its token, which is kept, and its place, which is not. -/
theorem forgets_literalOf (token : Token) :
    Forgets (literalOf token) (literalOf (unplaced token)) := by
  have same : (unplaced token).value? = token.value? := rfl
  unfold literalOf
  rw [same]
  cases token.value? with
  | none => exact forgets_fail
  | some value => exact forgets_pure rfl

/-- Literals of all four kinds are chosen by kind. -/
theorem forgets_literal : Forgets literal literal :=
  ((forgets_token _).orElse ((forgets_token _).orElse ((forgets_token _).orElse
    (forgets_token _)))).bind forgets_literalOf

/-- So are strings. -/
theorem forgets_string : Forgets string string := (forgets_token _).bind forgets_literalOf

/-- A name is the lexeme of its token and its place. -/
theorem forgets_name : Forgets name name := (forgets_token _).bind fun _ => forgets_pure rfl

/-- An operator is known by its symbol; the place goes with it only for errors. -/
theorem forgets_operator (symbol : Symbol) (meaning : Operator) :
    Forgets (operator symbol meaning) (operator symbol meaning) :=
  (forgets_token _).bind fun _ => forgets_pure rfl

/-- Taking the places away operand by operand and grouping afterwards gives the same tree. By
induction over the steps, with any head. -/
theorem unplaced_groupLeft (head : Expr) (tail : List ((Operator × Span) × Expr)) :
    unplaced (groupLeft head tail) = groupLeft (unplaced head) (unplaced tail) := by
  induction tail generalizing head with
  | nil => rfl
  | cons step later ih => exact ih (.operation step.1.1 head step.2 step.1.2)

/-- A chain forgets where its signs and operands stand, and groups them as before. -/
theorem forgets_chain {sign sign' : Rule (Operator × Span)} {operand operand' : Rule Expr}
    (signs : Forgets sign sign') (operands : Forgets operand operand') :
    Forgets (chain sign operand) (chain sign' operand') := by
  refine operands.bind fun head => ?_
  refine Forgets.bind (.repeated ?_) fun tail => forgets_pure (unplaced_groupLeft head tail)
  exact signs.bind fun step => operands.bind fun right => forgets_pure rfl

/-- An expression in parentheses forgets as the expression does. -/
theorem forgets_group (inside : Forgets inner image) :
    Forgets (group limit inner) (group limit image) := by
  refine Forgets.bind (.bracketed ?_ limit .leftParen) fun read => forgets_pure rfl
  exact inside.bind fun expr => (forgets_token _).bind fun closing => forgets_pure rfl

/-- Nothing where there could be a list is the empty list, with places or without. -/
theorem unplaced_getD {α : Type} [Placed α] (found : Option (List α)) :
    unplaced (found.getD []) = (unplaced found).getD [] := by
  cases found <;> rfl

/-- A list loses its own place and those of its elements. -/
theorem forgets_list (inside : Forgets inner image) :
    Forgets (list limit inner) (list limit image) := by
  refine Forgets.bind (.bracketed ?_ limit .leftBracket) fun read => forgets_pure ?_
  · refine (inside.separated .comma).optional.bind fun elements => ?_
    refine (forgets_token _).bind fun closing => forgets_pure ?_
    exact congrArg (·, unplaced closing) (unplaced_getD elements)
  · exact congrArg (Expr.list · .nowhere) (Expr.unplacedElements_eq read.2.1)

/-- A pair loses the places of its key and its value. -/
theorem forgets_pair (inside : Forgets inner image) : Forgets (pair inner) (pair image) := by
  refine forgets_string.bind fun key => (forgets_token _).bind fun colon => ?_
  exact inside.bind fun value => forgets_pure rfl

/-- A dictionary loses its own place and those of its pairs. -/
theorem forgets_dictionary (inside : Forgets inner image) :
    Forgets (dictionary limit inner) (dictionary limit image) := by
  refine Forgets.bind (.bracketed ?_ limit .leftBrace) fun read => forgets_pure ?_
  · refine ((forgets_pair inside).separated .comma).optional.bind fun pairs => ?_
    refine (forgets_token _).bind fun closing => forgets_pure ?_
    exact congrArg (·, unplaced closing) (unplaced_getD pairs)
  · exact congrArg (Expr.dictionary · .nowhere) (Expr.unplacedPairs_eq read.2.1)

/-- Each of the five alternatives for a factor forgets, hence the factor does. -/
theorem forgets_factor (inside : Forgets inner image) :
    Forgets (factor limit inner) (factor limit image) := by
  have named : Forgets (Expr.name <$> name) (Expr.name <$> name) := forgets_name.map fun _ => rfl
  exact forgets_literal.orElse (named.orElse ((forgets_list inside).orElse
    ((forgets_dictionary inside).orElse (forgets_group inside))))

/-- An expression is two chains around factors. -/
theorem forgets_expression (inside : Forgets inner image) :
    Forgets (expression limit inner) (expression limit image) :=
  forgets_chain ((forgets_operator _ _).orElse (forgets_operator _ _))
    (forgets_chain ((forgets_operator _ _).orElse (forgets_operator _ _)) (forgets_factor inside))

/-- So it is at every level, by induction on the levels. -/
theorem forgets_expressionOver (limit levels : Nat) :
    Forgets (expressionOver limit Rule.fail levels) (expressionOver limit Rule.fail levels) := by
  induction levels with
  | zero => exact forgets_fail
  | succ levels ih => exact forgets_expression ih

/-- A statement forgets whether or not it assigns. -/
theorem forgets_statement {value value' : Rule Expr} (values : Forgets value value') :
    Forgets (statement value) (statement value') := by
  have assigns : Forgets (assignment value) (assignment value') := by
    refine forgets_name.bind fun target => (forgets_token _).bind fun equal => ?_
    exact values.bind fun expr => forgets_pure rfl
  exact assigns.orElse (values.map fun _ => rfl)

/-- The end of the tokens has no place of its own either, so the rule for a whole statement
forgets. -/
theorem forgets_wholeStatement (limit : Nat) :
    Forgets (wholeStatement limit) (wholeStatement limit) := by
  refine (forgets_statement (forgets_expressionOver limit (limit + 1))).bind fun found => ?_
  exact forgets_endOfInput.bind fun _ => forgets_pure rfl

end Grammar

/-- Tokens without their places make the same statement without its places, or the same error. The
reading starts from corresponding trails, and from there the rule for whole statements is
followed. -/
theorem Statement.ofTokens_unplaced (tokens : List Token) :
    (ofTokens (unplaced tokens)).mapError unplaced = unplaced (ofTokens tokens) := by
  have started : unplaced (Trail.start tokens) = .start (unplaced tokens) := by
    have same : tokens.length = (tokens.map (unplaced : Token → Token)).length := by simp
    simp only [Trail.start, unplaced, same, Option.map_none]
  have same := Grammar.forgets_wholeStatement maxNesting (.ofList tokens) (.start tokens)
  rw [started, Cursor.unplaced_ofList] at same
  unfold ofTokens
  rw [same]
  rcases Grammar.wholeStatement maxNesting (.ofList tokens) (.start tokens) with
    ⟨_ | ⟨found, rest⟩, trail⟩
  · exact congrArg Except.error (trail.failure.unplaced_toError _ _)
  · rfl

/-- So tokens with the same words do. Their places are all that tokens have besides their words. -/
theorem Statement.ofTokens_of_words {tokens others : List Token}
    (same : tokens.map Token.word = others.map Token.word) :
    unplaced (ofTokens tokens) = unplaced (ofTokens others) := by
  have alike : unplaced tokens = unplaced others := by
    have erased (tokens : List Token) : unplaced tokens =
        (tokens.map Token.word).map fun word => ⟨word.content, word.lexeme, .nowhere⟩ := by
      rw [List.map_map]
      rfl
    rw [erased, erased, same]
  rw [← ofTokens_unplaced tokens, ← ofTokens_unplaced others, alike]

end Formula
