import Formula.Proofs.Grammar.Derivation

/-!
# Going over a derivation

An expression is a chain of terms, a term a chain of factors, and a factor may enclose expressions
in one bracket more. What is to be shown of all three is shown together, with a language of its own
for each: the languages need only be closed under the productions. Inside a bracket the same holds
again, so the induction is on how many brackets may be open.
-/

namespace Formula.Grammar

/-- What one bracket more encloses, if any may be open. -/
def Inside (whole : Nat → Language Expr) : Nat → Language Expr
  | 0 => fun _ _ => False
  | depth + 1 => whole depth

/-- Where no bracket may be open nothing stands inside one, so one equation does for all depths. -/
theorem nested_eq (depth : Nat) : Nested depth = Expression (Inside Nested depth) depth := by
  cases depth <;> rfl

section Single

variable {inner : Language Expr} {depth : Nat} {tokens : List Token} {expr : Expr}

/-- An expression over what stands inside of brackets is an expression. -/
theorem nested_of_expression (derived : Expression (Inside Nested depth) depth tokens expr) :
    Nested depth tokens expr := by
  rw [nested_eq]
  exact derived

/-- A term by itself is an expression. -/
theorem nested_of_term (derived : Term (Inside Nested depth) depth tokens expr) :
    Nested depth tokens expr := nested_of_expression (.single derived)

/-- A factor by itself is an expression: a sum of one term, which is a product of one factor. -/
theorem expression_of_factor (derived : Factor inner depth tokens expr) :
    Expression inner depth tokens expr := .single (.single derived)

/-- A literal by itself is an expression, at every depth. -/
theorem nested_literal {token : Token} {value : Value} (denotes : token.value? = some value) :
    Nested depth [token] (.literal value token.span) :=
  nested_of_term (.single (.literal token value denotes))

/-- So is a name. -/
theorem nested_name {token : Token} (isName : token.kind = .name) :
    Nested depth [token] (.name ⟨token.lexeme, token.span⟩) :=
  nested_of_term (.single (.name token isName))

end Single

/-- Whatever is closed under the productions holds of all expressions. Three languages are given,
one for factors, one for terms and one for whole expressions, and each has to hold of what its
production makes of the others. By induction on the depth; the step only uses that the productions
are monotone. -/
theorem Nested.induction (factors terms wholes : Nat → Language Expr)
    (factor : ∀ depth tokens expr, Factor (Inside wholes depth) depth tokens expr →
      factors depth tokens expr)
    (term : ∀ depth tokens expr, Chain multiplicativeSigns (factors depth) tokens expr →
      terms depth tokens expr)
    (whole : ∀ depth tokens expr, Chain additiveSigns (terms depth) tokens expr →
      wholes depth tokens expr)
    {depth : Nat} {tokens : List Token} {expr : Expr} (derived : Nested depth tokens expr) :
    wholes depth tokens expr := by
  have closed {depth : Nat} (inside : ∀ tokens expr, Inside Nested depth tokens expr →
      Inside wholes depth tokens expr) {tokens : List Token} {expr : Expr}
      (derived : Nested depth tokens expr) : wholes depth tokens expr := by
    rw [nested_eq] at derived
    apply whole depth
    apply derived.mono
    intro tokens expr derived
    apply term depth
    apply derived.mono
    intro tokens expr derived
    exact factor depth tokens expr (derived.mono (Nat.le_refl depth) inside)
  induction depth generalizing tokens expr with
  | zero =>
    refine closed ?_ derived
    rintro _ _ ⟨⟩
  | succ depth ih =>
    refine closed ?_ derived
    intro tokens expr inside
    exact ih inside

end Formula.Grammar
