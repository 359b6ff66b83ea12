import Formula.Proofs.Expr.Substitution
import Formula.Proofs.Session.Evaluations
import Mathlib.Data.List.Nodup

/-!
# Statements that do not depend on each other

A statement looks at the names in its expression and binds at most the one that it assigns. If what
one statement assigns is neither assigned nor looked at by another, and the other way round, it
makes no difference which of the two comes first: each does what it would do alone, whether it has
an outcome or fails, and the same values are bound in the end. Only the order of the names may
differ, because a new name goes to the end.
-/

namespace Formula

/-- Bindings that bind the same names to the same values differ at most in their order. As no name
is bound twice, two tables with the same entries are permutations of each other. -/
theorem Bindings.perm_iff {left right : Bindings} :
    left.entries.Perm right.entries ↔ ∀ name, left.get? name = right.get? name := by
  have nodup (bindings : Bindings) : bindings.entries.Nodup := .of_map Prod.fst bindings.distinct
  rw [List.perm_ext_iff_of_nodup (nodup left) (nodup right), Prod.forall]
  refine forall_congr' fun name => ?_
  simp only [left.distinct.mem_iff, right.distinct.mem_iff]
  exact Option.ext_iff.symm

namespace Statement

/-- The name that a statement assigns. -/
def target? : Statement → Option String
  | .assignment name _ => some name.text
  | .expression _ => none

/-- What a statement has done with a value of its expression. -/
def outcome (statement : Statement) (value : Value) : Outcome :=
  match statement.target? with
  | some name => .assigned name value
  | none => .value value

/-- Carry out a statement. If it fails, it leaves the bindings as they were. -/
def perform (bindings : Bindings) (statement : Statement) : Except EvalError Outcome × Bindings :=
  match statement.eval bindings with
  | .ok (outcome, after) => (.ok outcome, after)
  | .error error => (.error error, bindings)

/-- One statement leaves another one alone: the name that it assigns is neither assigned by the
other one nor occurs in its expression. -/
def Spares (statement other : Statement) : Prop :=
  ∀ name, statement.target? = some name → other.target? ≠ some name ∧ ¬other.expr.Mentions name

/-- What a statement does is told by the value of its expression: it has an outcome and binds it, or
it fails and binds nothing. -/
theorem perform_eq (bindings : Bindings) (statement : Statement) :
    statement.perform bindings =
      match statement.expr.eval bindings with
      | .ok value =>
        (.ok (statement.outcome value), bindings.assign (statement.outcome value).assignment?)
      | .error error => (.error error, bindings) := by
  cases statement with
  | assignment name expr =>
    rw [perform, Statement.eval, Statement.expr]
    cases expr.eval bindings <;> rfl
  | expression expr =>
    rw [perform, Statement.eval, Statement.expr]
    cases expr.eval bindings <;> rfl

/-- A statement has an outcome if its expression has a value. -/
theorem perform_fst (bindings : Bindings) (statement : Statement) :
    (statement.perform bindings).1 = (statement.expr.eval bindings).map statement.outcome := by
  rw [perform_eq]
  cases statement.expr.eval bindings <;> rfl

/-- After a statement, the name that it assigns has the value of its expression, if there is one,
and every other name has the value that it had. By cases on whether there is a value, and on whether
the statement assigns at all. -/
theorem get?_perform (bindings : Bindings) (statement : Statement) (name : String) :
    (statement.perform bindings).2.get? name =
      if statement.target? = some name then
        (statement.expr.eval bindings).toOption.or (bindings.get? name)
      else bindings.get? name := by
  rw [perform_eq]
  cases statement.expr.eval bindings with
  | error error => exact (ite_self _).symm
  | ok value =>
    cases statement with
    | assignment target expr =>
      have assigned : (bindings.set target.text value).get? name =
          if name = target.text then some value else bindings.get? name :=
        bindings.get?_set target.text name value
      simpa [outcome, target?, Outcome.assignment?, Bindings.assign, Except.toOption, eq_comm]
        using assigned
    | expression expr => rfl

/-- The expression of a statement that is left alone comes to the same, because the names in it are
bound to the same values. -/
theorem Spares.eval_eq {statement other : Statement} (spares : statement.Spares other)
    (bindings : Bindings) :
    other.expr.eval (statement.perform bindings).2 = other.expr.eval bindings := by
  apply Expr.eval_of_agree
  intro written occurs
  rw [get?_perform, if_neg]
  intro assigned
  exact (spares written.text assigned).2 ⟨written.span, occurs⟩

/-- Of two statements that leave each other alone, either may come first. Each of them has the
outcome or the error that it has by itself, and the bindings in the end bind the same names to the
same values, in whatever order.

Neither expression has a name in it that the other statement assigns, so both come to the same after
the other; and the two assign to different names. -/
theorem perform_commute (bindings : Bindings) {first second : Statement}
    (spares : first.Spares second) (spares' : second.Spares first) :
    (first.perform (second.perform bindings).2).1 = (first.perform bindings).1 ∧
    (second.perform (first.perform bindings).2).1 = (second.perform bindings).1 ∧
    (∀ name, (second.perform (first.perform bindings).2).2.get? name =
      (first.perform (second.perform bindings).2).2.get? name) ∧
    (second.perform (first.perform bindings).2).2.entries.Perm
      (first.perform (second.perform bindings).2).2.entries := by
  have same (name : String) : (second.perform (first.perform bindings).2).2.get? name =
      (first.perform (second.perform bindings).2).2.get? name := by
    simp only [get?_perform, spares.eval_eq, spares'.eval_eq]
    by_cases assigned : first.target? = some name
    · have other : second.target? ≠ some name := (spares name assigned).1
      simp only [if_pos assigned, if_neg other]
    · simp only [if_neg assigned]
  refine ⟨?_, ?_, same, Bindings.perm_iff.mpr same⟩
  · rw [perform_fst, perform_fst, spares'.eval_eq]
  · rw [perform_fst, perform_fst, spares.eval_eq]

/-- The assignments `y = x` and `z = [x]` may change places. Only the order of the names tells which
of them came first. -/
theorem perform_commute_assignments :
    let x := Expr.name ⟨"x", ⟨⟨1, 5⟩, ⟨1, 6⟩⟩⟩
    let first := Statement.assignment ⟨"y", ⟨⟨1, 1⟩, ⟨1, 2⟩⟩⟩ x
    let second := Statement.assignment ⟨"z", ⟨⟨1, 1⟩, ⟨1, 2⟩⟩⟩ (.list [x] ⟨⟨1, 5⟩, ⟨1, 8⟩⟩)
    let bindings := Bindings.empty.set "x" (.integer 7)
    let one := (second.perform (first.perform bindings).2).2
    let other := (first.perform (second.perform bindings).2).2
    one.entries.Perm other.entries ∧ one.names = ["x", "y", "z"] ∧
      other.names = ["x", "z", "y"] := by
  intro x first second bindings one other
  have spares : first.Spares second := by
    rintro name ⟨⟩
    refine ⟨by decide, ?_⟩
    rintro ⟨span, occurs⟩
    simp [second, x, Statement.expr, Expr.parts, Expr.elementParts] at occurs
  have spares' : second.Spares first := by
    rintro name ⟨⟩
    refine ⟨by decide, ?_⟩
    rintro ⟨span, occurs⟩
    simp [first, x, Statement.expr, Expr.parts] at occurs
  obtain ⟨-, -, -, same⟩ := perform_commute bindings spares spares'
  exact ⟨same, rfl, rfl⟩

end Statement

end Formula
