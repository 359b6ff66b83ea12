import Formula.Proofs.Expr.Evaluation

/-!
# Evaluation from left to right

What an expression means is told by its tree: the left operand has a value, then the right operand,
and then the operator is applied to both; elements and pairs have theirs one after the other; and the
first fault that is met on the way is the result. Evaluation keeps to this order although it goes
down to the leftmost operand first and comes back along the operations that were passed.
-/

namespace Formula.Expr

/-- A pair of a dictionary is larger than its key and its value. -/
theorem sizeOf_lt_of_mem {pair : Expr × Expr} {pairs : List (Expr × Expr)} (member : pair ∈ pairs) :
    sizeOf pair.1 < sizeOf pairs ∧ sizeOf pair.2 < sizeOf pairs := by
  have inside := List.sizeOf_lt_of_mem member
  obtain ⟨key, value⟩ := pair
  rw [Prod.mk.sizeOf_spec] at inside
  constructor <;> dsimp only <;> omega

/-- The value of an expression, or the first fault in it, as its tree tells it. -/
def plain (bindings : Bindings) : Expr → Except EvalError Value
  | .literal value _ => .ok value
  | .name written =>
    match bindings.get? written.text with
    | some value => .ok value
    | none => .error ⟨.unbound written.text, written.span.start⟩
  | .operation operator left right span => do
    let leftValue ← plain bindings left
    let rightValue ← plain bindings right
    operator.applyAt span.start leftValue rightValue
  | .list elements _ => do
    let items ← elements.mapM (plain bindings)
    return .list items
  | .dictionary pairs _ => do
    let entries ← pairs.foldlM (fun entries pair => do
      match ← plain bindings pair.1 with
      | .string key =>
        let value ← plain bindings pair.2
        return Entries.set key value entries
      | other => .error ⟨.invalidKey other.kind, pair.1.start⟩) []
    return .dictionary entries
termination_by expr => sizeOf expr
decreasing_by
  all_goals first
    | decreasing_tactic
    | have smaller := sizeOf_lt_of_mem ‹_ ∈ _›
      decreasing_with omega

/-- Add a pair to the entries of a dictionary. Its key is looked at before its value is evaluated. -/
def addPair (evaluate : Expr → Except EvalError Value) (entries : List (String × Value))
    (pair : Expr × Expr) : Except EvalError (List (String × Value)) := do
  match ← evaluate pair.1 with
  | .string key =>
    let value ← evaluate pair.2
    return Entries.set key value entries
  | other => .error ⟨.invalidKey other.kind, pair.1.start⟩

section Parts

variable {bindings : Bindings} {evaluate : Expr → Except EvalError Value}

/-- Elements are evaluated one after the other. By induction on the elements. -/
theorem evalElements_eq_mapM {elements : List Expr}
    (same : ∀ element ∈ elements, eval bindings element = evaluate element) :
    evalElements bindings elements = elements.mapM evaluate := by
  induction elements with
  | nil => rfl
  | cons element later ih =>
    obtain ⟨first, others⟩ := List.forall_mem_cons.mp same
    rw [evalElements_cons, List.mapM_cons, first, ih others]

/-- So are pairs, each added to the entries before it. By induction on the pairs, with any entries
made so far. -/
theorem evalPairs_eq_foldlM {pairs : List (Expr × Expr)}
    (same : ∀ pair ∈ pairs, eval bindings pair.1 = evaluate pair.1 ∧
      eval bindings pair.2 = evaluate pair.2) (entries : List (String × Value)) :
    evalPairs bindings pairs entries = pairs.foldlM (addPair evaluate) entries := by
  induction pairs generalizing entries with
  | nil => rw [evalPairs, List.foldlM_nil]; rfl
  | cons pair later ih =>
    obtain ⟨⟨sameKey, sameValue⟩, others⟩ := List.forall_mem_cons.mp same
    rw [evalPairs_cons, List.foldlM_cons, addPair, sameKey, sameValue, bind_assoc]
    apply bind_congr
    intro key
    cases key with
    | string text =>
      dsimp only
      rw [bind_assoc]
      apply bind_congr
      intro value
      rw [pure_bind, ih others]
    | integer | float | boolean | list | dictionary =>
      -- A key of another kind is the fault, before its value is looked at.
      rfl

end Parts

/-- Evaluation gives the value that the tree of an expression tells, and the same fault in the same
place if there is none. By induction over the calls of the reference, with the equations of the
evaluator for each kind of expression. -/
theorem eval_eq_plain (bindings : Bindings) (expr : Expr) :
    eval bindings expr = plain bindings expr := by
  fun_induction plain bindings expr with
  | case1 value span => exact eval_literal bindings value span
  | case2 written value found => rw [eval_name, found]; rfl
  | case3 written notBound => rw [eval_name, notBound]; rfl
  | case4 operator left right span ihLeft ihRight => rw [eval_operation, ihLeft, ihRight]
  | case5 elements span ih => rw [eval_list, evalElements_eq_mapM ih]
  | case6 pairs span ihKey ihValue =>
    have same : ∀ pair ∈ pairs, eval bindings pair.1 = plain bindings pair.1 ∧
        eval bindings pair.2 = plain bindings pair.2 :=
      fun pair member => ⟨ihKey pair member, ihValue pair member⟩
    rw [eval_dictionary, evalPairs_eq_foldlM same]
    rfl

/-- An operation without its left operand: what is still to be done with the value of that. -/
structure Link where
  operator : Operator
  operand : Expr
  position : Position

/-- The leftmost operand of an expression, and the operations above it from the innermost to the
outermost, before some others. -/
def unchain : Expr → List Link → Expr × List Link
  | .operation operator left right span, links =>
    unchain left (⟨operator, right, span.start⟩ :: links)
  | head, links => (head, links)

/-- Do what is to be done with the value of a left operand. -/
def follow (bindings : Bindings) (value : Value) (link : Link) : Except EvalError Value := do
  let operand ← eval bindings link.operand
  link.operator.applyAt link.position value operand

/-- What follows an expression goes on from its leftmost operand along the operations above it. By
induction on the way down to the left; every operation on it becomes one link more in front. -/
theorem eval_unchain (bindings : Bindings) (expr : Expr) (links : List Link) :
    (eval bindings expr >>= fun value => links.foldlM (follow bindings) value) =
      eval bindings (unchain expr links).1 >>= fun value =>
        (unchain expr links).2.foldlM (follow bindings) value := by
  fun_induction unchain expr links with
  | case1 operator left right span links ih =>
    rw [← ih, eval_operation, bind_assoc]
    rfl
  | case2 head links noOperation => rfl

/-- A chain of operations is evaluated from its leftmost operand on, one operation at a time, each
with the value up to there. -/
theorem eval_eq_chain (bindings : Bindings) (expr : Expr) :
    eval bindings expr = (do
      let first ← eval bindings (unchain expr []).1
      (unchain expr []).2.foldlM (follow bindings) first) := by
  rw [← eval_unchain]
  exact (bind_pure _).symm

end Formula.Expr
