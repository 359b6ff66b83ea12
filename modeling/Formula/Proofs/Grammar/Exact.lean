import Formula.Proofs.Grammar.Unambiguous

/-!
# Statements are read exactly

The rule for statements tries alternatives in order and goes back from those that fail; the grammar
does neither. They agree nevertheless: tokens are read as a statement if and only if they derive
it with as few brackets open as allowed, and the tree is the one they derive.

One direction is the verdict on the tokens. For the other, the tokens of a derived statement lead
the frontier to where a statement may end, so no other verdict but acceptance is left; and the
statement that was accepted is the derived one, because no tokens have two trees.
-/

namespace Formula.Grammar

variable {limit : Nat} {tokens : List Token}

/-- Tokens that lead to where a statement may end are read. The verdict on any reading is either a
statement that the grammar derives, or a place where the frontier gets stuck or is not complete; the
second contradicts what is assumed. -/
theorem accepted_of_isComplete {place : Frontier} (trail : Trail) (depth : trail.depth = 0)
    (reached : Frontier.start.within limit tokens = some place)
    (complete : place.isComplete = true) :
    ∃ statement, Derives limit tokens statement ∧
      (wholeStatement limit (.ofList tokens) trail).1.map Prod.fst = some statement := by
  have verdict : Verdict limit _ _ _ _ := verdict_wholeStatement tokens trail depth
  generalize (wholeStatement limit (.ofList tokens) trail).1.map Prod.fst = result at verdict
  generalize (wholeStatement limit (.ofList tokens) trail).2.failure = kept at verdict
  cases verdict with
  | accepted statement _ _ derived _ _ => exact ⟨statement, derived, rfl⟩
  | stuck front rest stop earlier split reached' unfinished blocked agrees =>
    rw [split, Frontier.within_append reached'] at reached
    cases rest with
    | nil =>
      obtain rfl := Option.some.inj reached
      rw [unfinished rfl] at complete
      cases complete
    | cons token rest =>
      obtain ⟨inside, moved⟩ := Frontier.next_of_within reached
      cases (blocked token rfl).symm.trans moved
  | refused front bracket rest stop inside split reached' opens tooMany =>
    rw [split, Frontier.within_append reached'] at reached
    exact absurd (Frontier.fits_of_within opens reached) (Nat.not_le.mpr tooMany)

/-- Tokens make a statement exactly if they lead to where a statement may end. One way is that
derivations move the frontier; the other way takes the derivation from what the rule for statements
reads. -/
theorem derives_iff_isComplete : (∃ statement, Derives limit tokens statement) ↔
    ∃ place, Frontier.start.within limit tokens = some place ∧ place.isComplete = true := by
  constructor
  · rintro ⟨statement, derived⟩
    exact within_of_derives derived
  · rintro ⟨place, reached, complete⟩
    obtain ⟨statement, derived, _⟩ := accepted_of_isComplete (.start tokens) rfl reached complete
    exact ⟨statement, derived⟩

/-- What is accepted as a whole is derived, and what is derived is accepted: some statement is read,
the verdict derives it, and no second one is derived from the same tokens. -/
theorem wholeStatement_eq_some_iff {statement : Statement} (trail : Trail)
    (depth : trail.depth = 0) :
    (wholeStatement limit (.ofList tokens) trail).1.map Prod.fst = some statement ↔
      Derives limit tokens statement := by
  constructor
  · intro found
    have verdict : Verdict limit _ _ _ _ := verdict_wholeStatement tokens trail depth
    rw [found] at verdict
    cases verdict with
    | accepted _ _ _ derived _ _ => exact derived
  · intro derived
    obtain ⟨place, reached, complete⟩ := within_of_derives derived
    obtain ⟨other, derived', found⟩ := accepted_of_isComplete trail depth reached complete
    rw [found, derived'.unique derived]

/-- Reading all tokens as one statement is deriving it from them, with the limit that the reading
has. -/
theorem ofTokens_eq_ok_iff {statement : Statement} :
    Statement.ofTokens tokens = .ok statement ↔ Derives maxNesting tokens statement := by
  rw [← wholeStatement_eq_some_iff (.start tokens) rfl, Statement.ofTokens]
  rcases wholeStatement maxNesting (.ofList tokens) (.start tokens) with
    ⟨_ | ⟨found, rest⟩, after⟩ <;> simp

/-- Statements are read exactly: the tokens are read as a statement if and only if the grammar
derives it from them with no more than a hundred brackets open, and however many may be open, the
grammar derives no second statement from them.

That the tokens are read where a statement is derived is known from where the frontier is after
them; which statement is read follows, as there is no second one. -/
theorem ofTokens_exact (tokens : List Token) :
    (∀ statement, Statement.ofTokens tokens = .ok statement ↔ Derives 100 tokens statement) ∧
    ∀ depth depth' first second, Derives depth tokens first → Derives depth' tokens second →
      first = second := by
  refine ⟨fun statement => ofTokens_eq_ok_iff, ?_⟩
  intro depth depth' first second derived derived'
  have both : depth ≤ max depth depth' ∧ depth' ≤ max depth depth' :=
    ⟨Nat.le_max_left depth depth', Nat.le_max_right depth depth'⟩
  exact (derived.mono both.1).unique (derived'.mono both.2)

/-- A token of one character on the first line. -/
def narrow (content : Token.Content) (lexeme : String) (column : Nat) : Token :=
  ⟨content, lexeme, ⟨⟨1, column⟩, ⟨1, column + 1⟩⟩⟩

/-- An integer that is one column wide is a factor by itself, with the place of its token. -/
theorem factor_narrow (inner : Language Expr) (depth column : Nat) (value : Int64)
    (lexeme : String) : Factor inner depth [narrow (.integer value) lexeme column]
      (.literal (.integer value) ⟨⟨1, column⟩, ⟨1, column + 1⟩⟩) := .literal _ _ rfl

/-- Differences are written with the sign for them. -/
theorem minus_mem_additiveSigns : (Symbol.minus, Operator.minus) ∈ additiveSigns :=
  .tail _ List.mem_cons_self

/-- A sign of one character goes before the operand on its right, and its place is that of the
operation. -/
theorem step_narrow {signs : List (Symbol × Operator)} {operand : Language Expr} {symbol : Symbol}
    {operator : Operator} {expr : Expr} (listed : (symbol, operator) ∈ signs) (lexeme : String)
    (column : Nat) (derived : operand tokens expr) :
    Step signs operand (narrow (.symbol symbol) lexeme column :: tokens)
      ((operator, ⟨⟨1, column⟩, ⟨1, column + 1⟩⟩), expr) :=
  .signed _ _ _ _ _ listed rfl derived

/-- Parentheses of one character each leave the tree of what they enclose. -/
theorem group_narrow {inner : Language Expr} {expr : Expr} (depth left right : Nat)
    (derived : inner tokens expr) : Factor inner (depth + 1)
      (narrow (.symbol .leftParen) "(" left ::
        (tokens ++ [narrow (.symbol .rightParen) ")" right])) expr :=
  .group _ _ _ _ (Nat.succ_pos depth) (.opened _ _ _ rfl (.closed _ _ _ derived rfl))

/-- The tokens of `x = 1 - 2 - (3 + 4) * 5` are read as the tree in which the first difference is
the left operand of the second, and the sum in parentheses is a factor of the product. -/
theorem ofTokens_exact_grouped :
    Statement.ofTokens [narrow .name "x" 1, narrow (.symbol .equal) "=" 3,
        narrow (.integer 1) "1" 5, narrow (.symbol .minus) "-" 7, narrow (.integer 2) "2" 9,
        narrow (.symbol .minus) "-" 11, narrow (.symbol .leftParen) "(" 13,
        narrow (.integer 3) "3" 14, narrow (.symbol .plus) "+" 16, narrow (.integer 4) "4" 18,
        narrow (.symbol .rightParen) ")" 19, narrow (.symbol .star) "*" 21,
        narrow (.integer 5) "5" 23] =
      .ok (.assignment ⟨"x", ⟨⟨1, 1⟩, ⟨1, 2⟩⟩⟩
        (.operation .minus
          (.operation .minus (.literal (.integer 1) ⟨⟨1, 5⟩, ⟨1, 6⟩⟩)
            (.literal (.integer 2) ⟨⟨1, 9⟩, ⟨1, 10⟩⟩) ⟨⟨1, 7⟩, ⟨1, 8⟩⟩)
          (.operation .times
            (.operation .plus (.literal (.integer 3) ⟨⟨1, 14⟩, ⟨1, 15⟩⟩)
              (.literal (.integer 4) ⟨⟨1, 18⟩, ⟨1, 19⟩⟩) ⟨⟨1, 16⟩, ⟨1, 17⟩⟩)
            (.literal (.integer 5) ⟨⟨1, 23⟩, ⟨1, 24⟩⟩) ⟨⟨1, 21⟩, ⟨1, 22⟩⟩)
          ⟨⟨1, 11⟩, ⟨1, 12⟩⟩)) := by
  have sum : Nested 0 _ _ := Chain.more (.single (.single (factor_narrow _ 0 14 3 "3")))
    (step_narrow List.mem_cons_self "+" 16 (.single (factor_narrow _ 0 18 4 "4")))
  have product : Term (Nested 0) 1 _ _ := Chain.more (.single (group_narrow 0 13 19 sum))
    (step_narrow List.mem_cons_self "*" 21 (factor_narrow _ 1 23 5 "5"))
  have first : Nested 1 _ _ := Chain.more (.single (.single (factor_narrow _ 1 5 1 "1")))
    (step_narrow minus_mem_additiveSigns "-" 7 (.single (factor_narrow _ 1 9 2 "2")))
  have second : Nested 1 _ _ := first.more (step_narrow minus_mem_additiveSigns "-" 11 product)
  refine ((ofTokens_exact _).1 _).mpr (.assignment _ _ _ _ rfl rfl ?_)
  exact nested_mono (by decide) second

end Formula.Grammar
