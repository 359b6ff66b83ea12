import Formula.Proofs.Places

/-!
# Evaluation does not look at places

An expression without its places has the same value, or has the same fault, for which another place
is told. The steps that wait for a value may tell other places too.
-/

namespace Formula

open Placed

namespace Expr

/-- Whatever value is handed to the first of these steps, the last ones differ at most in the place
of an error. -/
def SameSteps (waiting waiting' : List Waiting) : Prop :=
  ∀ value, SameFault (resume value waiting) (resume value waiting')

/-- With no steps waiting the value itself is the result. -/
theorem sameSteps_nil : SameSteps [] [] := fun _ => rfl

/-- One step more may be put in front on both sides, if the two give results that differ at most in
places. -/
theorem SameSteps.cons {waiting waiting' : List Waiting} (same : SameSteps waiting waiting')
    {step step' : Waiting} (first : ∀ value, SameFault (step value) (step' value)) :
    SameSteps (step :: waiting) (step' :: waiting') :=
  fun value => (first value).bind same

/-- An operator gives the same value or the same fault wherever it stands. -/
theorem sameFault_applyAt (operator : Operator) (position position' : Position)
    (left right : Value) :
    SameFault (operator.applyAt position left right) (operator.applyAt position' left right) := by
  unfold Operator.applyAt SameFault
  cases operator.apply left right <;> rfl

mutual

/-- An expression and the same expression without places are handed on to steps that do the same. By
induction over the tree, together with the lists of its elements and pairs; a chain hands its
operators to the left, where they stand in front of the waiting steps. -/
theorem sameFault_evalThen (bindings : Bindings) (expr : Expr) {waiting waiting' : List Waiting}
    (same : SameSteps waiting waiting') :
    SameFault (evalThen bindings expr waiting) (evalThen bindings expr.unplaced waiting') := by
  cases expr with
  | literal value span => exact same value
  | name written =>
    have text : (Placed.unplaced written).text = written.text := rfl
    simp only [evalThen, Expr.unplaced, text]
    cases bindings.get? written.text with
    | none => rfl
    | some value => exact same value
  | operation operator left right span =>
    simp only [evalThen, Expr.unplaced]
    refine sameFault_evalThen bindings left (same.cons fun leftValue => ?_)
    refine (sameFault_evalThen bindings right sameSteps_nil).bind fun rightValue => ?_
    exact sameFault_applyAt operator span.start _ leftValue rightValue
  | list elements span =>
    simp only [evalThen, Expr.unplaced]
    exact (sameFault_evalElements bindings elements).bind fun items => same (.list items)
  | dictionary pairs span =>
    simp only [evalThen, Expr.unplaced]
    exact (sameFault_evalPairs bindings pairs []).bind fun entries => same (.dictionary entries)

/-- The elements of a list, one after the other. -/
theorem sameFault_evalElements (bindings : Bindings) (elements : List Expr) :
    SameFault (evalElements bindings elements)
      (evalElements bindings (unplacedElements elements)) := by
  cases elements with
  | nil => rfl
  | cons element later =>
    simp only [evalElements, unplacedElements]
    refine (sameFault_evalThen bindings element sameSteps_nil).bind fun item => ?_
    exact (sameFault_evalElements bindings later).bind fun items => rfl

/-- The pairs of a dictionary, one after the other. Whether a key is a string does not depend on its
place. -/
theorem sameFault_evalPairs (bindings : Bindings) (pairs : List (Expr × Expr))
    (entries : List (String × Value)) :
    SameFault (evalPairs bindings pairs entries)
      (evalPairs bindings (unplacedPairs pairs) entries) := by
  cases pairs with
  | nil => rfl
  | cons pair later =>
    obtain ⟨keyExpr, valueExpr⟩ := pair
    simp only [evalPairs, unplacedPairs]
    refine (sameFault_evalThen bindings keyExpr sameSteps_nil).bind fun key => ?_
    cases key with
    | string key =>
      refine (sameFault_evalThen bindings valueExpr sameSteps_nil).bind fun value => ?_
      exact sameFault_evalPairs bindings later (Entries.set key value entries)
    | integer | float | boolean | list | dictionary => rfl

end

end Expr

/-- A statement does the same without its places, or has the same fault. It has one expression, to
which the lemma on trees applies with no step waiting. -/
theorem Statement.sameFault_eval (bindings : Bindings) (statement : Statement) :
    SameFault (statement.eval bindings) ((unplaced statement).eval bindings) := by
  cases statement with
  | assignment name expr =>
    exact (expr.sameFault_evalThen bindings Expr.sameSteps_nil).bind fun value => rfl
  | expression expr =>
    exact (expr.sameFault_evalThen bindings Expr.sameSteps_nil).bind fun value => rfl

end Formula
