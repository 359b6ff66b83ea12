import Formula.Proofs.Expr.Evaluation

/-!
# Expressions of whole numbers

Integers, names bound to integers and `+`, `-` and `*` between them have an exact value, and so has
each operation on the way to it. Evaluation gives the exact value of the whole if 64 bits hold that
of every operation. If not, it stops at the first operation, in the order in which operations are
carried out, whose exact value is out of range, and blames that one, even if a later operation would
lead back into the range.
-/

namespace Formula

namespace Checked

attribute [local instance (high)] instPowNat

/-- The whole numbers that 64 bits hold. -/
def Fits (value : Int) : Prop := -2 ^ (63 : Nat) ≤ value ∧ value ≤ 2 ^ (63 : Nat) - 1

/-- Two comparisons decide whether a number fits. -/
instance (value : Int) : Decidable (Fits value) :=
  inferInstanceAs (Decidable (-2 ^ (63 : Nat) ≤ value ∧ value ≤ 2 ^ (63 : Nat) - 1))

variable {value : Int}

/-- A number that fits is held in 64 bits. -/
theorem exists_of_fits (fits : Fits value) : ∃ number, ofInt? value = some number := by
  cases found : ofInt? value with
  | some number => exact ⟨number, rfl⟩
  | none =>
    obtain ⟨atLeast, atMost⟩ := fits
    have outside := ofInt?_eq_none_iff.mp found
    omega

/-- A number that does not fit is not held in 64 bits. -/
theorem ofInt?_of_not_fits (outside : ¬Fits value) : ofInt? value = none := by
  apply ofInt?_eq_none_iff.mpr
  unfold Fits at outside
  omega

end Checked

namespace Operator

/-- The exact result of an operator on whole numbers. A quotient is computed in floating point, so
only the whole part of one is told here. -/
def exact : Operator → Int → Int → Int
  | .plus, m, n => m + n
  | .minus, m, n => m - n
  | .times, m, n => m * n
  | .divide, m, n => m / n

/-- Every operator but division is applied to integers exactly, or overflows. -/
theorem apply_integers {operator : Operator} (whole : operator ≠ .divide) (m n : Int64) :
    operator.apply (.integer m) (.integer n) =
      match Checked.ofInt? (operator.exact m.toInt n.toInt) with
      | some result => .ok (.integer result)
      | none => .error (.integerOverflow operator) := by
  cases operator with
  | plus | minus | times => rfl
  | divide => exact absurd rfl whole

variable {operator : Operator} {position : Position} {m n : Int64}

/-- An operation whose exact result fits gives that result. -/
theorem applyAt_of_fits (whole : operator ≠ .divide)
    (fits : Checked.Fits (operator.exact m.toInt n.toInt)) :
    ∃ result, operator.applyAt position (.integer m) (.integer n) = .ok (.integer result) ∧
      result.toInt = operator.exact m.toInt n.toInt := by
  obtain ⟨result, found⟩ := Checked.exists_of_fits fits
  refine ⟨result, ?_, Checked.ofInt?_eq_some_iff.mp found⟩
  rw [applyAt, apply_integers whole, found]

/-- An operation whose exact result does not fit overflows in the place of the operator. -/
theorem applyAt_of_not_fits (whole : operator ≠ .divide)
    (outside : ¬Checked.Fits (operator.exact m.toInt n.toInt)) :
    operator.applyAt position (.integer m) (.integer n) =
      .error ⟨.integerOverflow operator, position⟩ := by
  rw [applyAt, apply_integers whole, Checked.ofInt?_of_not_fits outside]

end Operator

namespace Expr

/-- Expressions of integers, names bound to integers, and `+`, `-` and `*`. -/
inductive IsWhole (bindings : Bindings) : Expr → Prop
  | literal (number : Int64) (span : Span) : IsWhole bindings (.literal (.integer number) span)
  | name (written : Name) (number : Int64)
      (bound : bindings.get? written.text = some (.integer number)) :
      IsWhole bindings (.name written)
  | operation (operator : Operator) (left right : Expr) (span : Span)
      (whole : operator ≠ .divide) (ofLeft : IsWhole bindings left)
      (ofRight : IsWhole bindings right) : IsWhole bindings (.operation operator left right span)

/-- The exact value of an expression of whole numbers. -/
def exact (bindings : Bindings) : Expr → Int
  | .literal (.integer number) _ => number.toInt
  | .name written =>
    match bindings.get? written.text with
    | some (.integer number) => number.toInt
    | _ => 0
  | .operation operator left right _ => operator.exact (exact bindings left) (exact bindings right)
  | _ => 0

/-- An operation that is carried out: its operator, where that stands, and its exact result. -/
structure Computed where
  operator : Operator
  position : Position
  result : Int

/-- The operations of an expression in the order in which they are carried out: those of the left
operand, those of the right operand, and the operation itself. -/
def computed (bindings : Bindings) : Expr → List Computed
  | .operation operator left right span =>
    computed bindings left ++ computed bindings right ++
      [⟨operator, span.start, exact bindings (.operation operator left right span)⟩]
  | _ => []

/-- An operation is the first of several whose exact result is out of range. -/
def FirstOutside (first : Computed) (all : List Computed) : Prop :=
  ∃ before later, all = before ++ first :: later ∧
    (∀ earlier ∈ before, Checked.Fits earlier.result) ∧ ¬Checked.Fits first.result

section Order

variable {first : Computed} {front later : List Computed}

/-- The first step outside the range stays the first with later steps after it. -/
theorem FirstOutside.append (outside : FirstOutside first front) (later : List Computed) :
    FirstOutside first (front ++ later) := by
  obtain ⟨before, rest, rfl, fit, misfit⟩ := outside
  exact ⟨before, rest ++ later, List.append_assoc .., fit, misfit⟩

/-- It stays the first with earlier steps before it if these fit. -/
theorem FirstOutside.after (fit : ∀ earlier ∈ front, Checked.Fits earlier.result)
    (outside : FirstOutside first later) : FirstOutside first (front ++ later) := by
  obtain ⟨before, rest, rfl, fit', misfit⟩ := outside
  refine ⟨front ++ before, rest, (List.append_assoc ..).symm, ?_, misfit⟩
  exact List.forall_mem_append.mpr ⟨fit, fit'⟩

/-- A step that does not fit is the first outside the range if it is the first of all. -/
theorem firstOutside_cons (misfit : ¬Checked.Fits first.result) (later : List Computed) :
    FirstOutside first (first :: later) :=
  ⟨[], later, rfl, List.forall_mem_nil _, misfit⟩

/-- If some step is outside the range, then not all fit. -/
theorem FirstOutside.not_forall (outside : FirstOutside first front) :
    ¬∀ step ∈ front, Checked.Fits step.result := by
  obtain ⟨before, rest, rfl, -, misfit⟩ := outside
  intro fit
  exact misfit (fit first (List.mem_append_right before List.mem_cons_self))

end Order

variable {bindings : Bindings} {expr : Expr}

/-- The two ways in which the evaluation of whole numbers can end. -/
inductive Comes (bindings : Bindings) (expr : Expr) : Prop
  | exactly (number : Int64) (fit : ∀ step ∈ expr.computed bindings, Checked.Fits step.result)
      (value : eval bindings expr = .ok (.integer number))
      (same : number.toInt = expr.exact bindings)
  | outside (step : Computed) (first : FirstOutside step (expr.computed bindings))
      (overflow : eval bindings expr = .error ⟨.integerOverflow step.operator, step.position⟩)

/-- An operation ends as its operands do, and if both have a value it is the last that is carried
out. So the first step outside the range is in the left operand, or else in the right one, or else
the operation itself. -/
theorem Comes.operation {operator : Operator} {left right : Expr} (span : Span)
    (whole : operator ≠ .divide) (ofLeft : Comes bindings left) (ofRight : Comes bindings right) :
    Comes bindings (.operation operator left right span) := by
  cases ofLeft with
  | outside step first overflow =>
    refine .outside step ((first.append _).append _) ?_
    rw [eval_operation, overflow]
    rfl
  | exactly m fitLeft valueLeft sameLeft =>
    cases ofRight with
    | outside step first overflow =>
      refine .outside step ((first.after fitLeft).append _) ?_
      rw [eval_operation, valueLeft, overflow]
      rfl
    | exactly n fitRight valueRight sameRight =>
      have fit := List.forall_mem_append.mpr ⟨fitLeft, fitRight⟩
      have evaluated : eval bindings (.operation operator left right span) =
          operator.applyAt span.start (.integer m) (.integer n) := by
        rw [eval_operation, valueLeft, valueRight]
        rfl
      have result : operator.exact m.toInt n.toInt =
          exact bindings (.operation operator left right span) := by
        rw [exact, sameLeft, sameRight]
      by_cases fits : Checked.Fits (exact bindings (.operation operator left right span))
      · obtain ⟨number, applied, same⟩ := Operator.applyAt_of_fits whole (result ▸ fits)
        refine .exactly number ?_ (evaluated.trans applied) (same.trans result)
        exact List.forall_mem_append.mpr ⟨fit, List.forall_mem_singleton.mpr fits⟩
      · refine .outside _ ((firstOutside_cons fits []).after fit) ?_
        exact evaluated.trans (Operator.applyAt_of_not_fits whole (result ▸ fits))

/-- How an expression of whole numbers ends. By induction on the expression: numbers and names end
exactly, and operations as their operands let them. -/
theorem comes_of_isWhole (whole : IsWhole bindings expr) : Comes bindings expr := by
  induction whole with
  | literal number span => exact .exactly number (by simp [computed]) (eval_literal ..) rfl
  | name written number bound =>
    refine .exactly number (by simp [computed]) (eval_name_eq_ok_iff.mpr bound) ?_
    rw [exact, bound]
  | operation operator left right span whole _ _ ofLeft ofRight =>
    exact .operation span whole ofLeft ofRight

/-- Whole numbers never wrap: an expression of whole numbers is evaluated to its exact value if 64
bits hold the exact result of each operation in it, and otherwise the first operation whose exact
result they do not hold overflows.

What is known by induction is how the expression ends, be it with a value or at a step, so there is
only to tell which of the two it is. -/
theorem eval_whole (whole : IsWhole bindings expr) :
    ((∀ step ∈ expr.computed bindings, Checked.Fits step.result) →
      ∃ number, eval bindings expr = .ok (.integer number) ∧
        number.toInt = expr.exact bindings) ∧
    ((¬∀ step ∈ expr.computed bindings, Checked.Fits step.result) →
      ∃ step, FirstOutside step (expr.computed bindings) ∧
        eval bindings expr = .error ⟨.integerOverflow step.operator, step.position⟩) := by
  cases comes_of_isWhole whole with
  | exactly number fit value same =>
    constructor
    · intro _
      exact ⟨number, value, same⟩
    · intro misfit
      exact absurd fit misfit
  | outside step first overflow =>
    constructor
    · intro fit
      exact absurd fit first.not_forall
    · intro _
      exact ⟨step, first, overflow⟩

/-- With the largest number bound to `x`, there is a value for `x - 1`, but none for `x + 1 - 1`: its
sum overflows, although the difference would be in range again. -/
theorem eval_whole_midway :
    let bindings := Bindings.empty.set "x" (.integer 9223372036854775807)
    let x := Expr.name ⟨"x", ⟨⟨1, 1⟩, ⟨1, 2⟩⟩⟩
    let one := Expr.literal (.integer 1) ⟨⟨1, 5⟩, ⟨1, 6⟩⟩
    let sum := Expr.operation .plus x one ⟨⟨1, 3⟩, ⟨1, 4⟩⟩
    (∃ number, eval bindings (.operation .minus x one ⟨⟨1, 3⟩, ⟨1, 4⟩⟩) = .ok (.integer number) ∧
      number.toInt = 9223372036854775806) ∧
    eval bindings (.operation .minus sum one ⟨⟨1, 7⟩, ⟨1, 8⟩⟩) =
      .error ⟨.integerOverflow .plus, ⟨1, 3⟩⟩ := by
  intro bindings x one sum
  have ofX : IsWhole bindings x := .name _ 9223372036854775807 rfl
  have ofOne : IsWhole bindings one := .literal 1 _
  constructor
  · exact (eval_whole (.operation .minus x one _ (by decide) ofX ofOne)).1 (by decide)
  · have ofSum : IsWhole bindings sum := .operation .plus x one _ (by decide) ofX ofOne
    obtain ⟨step, ⟨before, later, order, fit, misfit⟩, overflow⟩ :=
      (eval_whole (.operation .minus sum one ⟨⟨1, 7⟩, ⟨1, 8⟩⟩ (by decide) ofSum ofOne)).2 (by decide)
    -- The sum is carried out first, so it is the step that does not fit.
    cases before with
    | nil =>
      obtain ⟨rfl, -⟩ := List.cons.inj order
      exact overflow
    | cons earlier before =>
      obtain ⟨rfl, -⟩ := List.cons.inj order
      exact absurd (fit _ List.mem_cons_self) (by decide)

end Expr

end Formula
