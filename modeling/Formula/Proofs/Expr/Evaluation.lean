import Formula.Expr.Eval

/-!
# Evaluation part by part

Evaluation walks down to the leftmost operand with a list of the steps that wait for a value. The
list is a matter of how the walk is done: the value of an operation is that of its operands with the
operator applied, whatever else may wait. So the value of an expression, or the first fault in it,
is told here from the values of its parts alone, and what is proved of evaluation follows the tree.
-/

namespace Formula

section Results

variable {ε α β : Type}

/-- Two steps have a value if the first has one, and the second has one with it. By this evaluations
are taken apart step by step. -/
theorem bind_eq_ok_iff {result : Except ε α} {next : α → Except ε β} {value : β} :
    (result >>= next) = .ok value ↔ ∃ first, result = .ok first ∧ next first = .ok value := by
  cases result with
  | error error =>
    constructor
    · intro impossible
      cases impossible
    · rintro ⟨first, impossible, -⟩
      cases impossible
  | ok first =>
    constructor
    · intro found
      exact ⟨first, rfl, found⟩
    · rintro ⟨_, ⟨⟩, found⟩
      exact found

/-- The first fault of two steps is that of the first one, or else that of the second one, with the
value of the first. -/
theorem bind_eq_error_iff {result : Except ε α} {next : α → Except ε β} {error : ε} :
    (result >>= next) = .error error ↔
      result = .error error ∨ ∃ first, result = .ok first ∧ next first = .error error := by
  cases result with
  | error other =>
    constructor
    · intro failed
      apply Or.inl
      exact congrArg Except.error (Except.error.inj failed)
    · rintro (⟨⟨⟩⟩ | ⟨first, impossible, -⟩)
      · rfl
      · cases impossible
  | ok first =>
    constructor
    · intro failed
      exact .inr ⟨first, rfl, failed⟩
    · rintro (impossible | ⟨_, ⟨⟩, failed⟩)
      · cases impossible
      · exact failed

end Results

namespace Operator

variable {operator : Operator} {position : Position} {left right value : Value}

/-- Where an operator stands does not matter for its value. -/
theorem applyAt_eq_ok_iff :
    operator.applyAt position left right = .ok value ↔ operator.apply left right = .ok value := by
  unfold applyAt
  cases operator.apply left right <;> simp

/-- The error of an operation is its fault, in the place of the operator. -/
theorem applyAt_eq_error_iff {error : EvalError} :
    operator.applyAt position left right = .error error ↔
      operator.apply left right = .error error.fault ∧ error.position = position := by
  unfold applyAt
  obtain ⟨fault, place⟩ := error
  cases operator.apply left right <;> simp [eq_comm (a := position)]

/-- Operators give numbers, and `+` also gives strings: two of them joined. Arithmetic is looked at
once, for all operators that are applied by it. -/
theorem apply_eq_ok (applied : operator.apply left right = .ok value) :
    (∃ number, value = .integer number) ∨ (∃ number, value = .float number) ∨
      ∃ first second, left = .string first ∧ right = .string second ∧
        value = .string (first ++ second) := by
  have ofArithmetic {combine : Int64 → Int64 → Option Int64} {rounded : Float → Float → Float}
      (found : arithmetic operator combine rounded left right = .ok value) :
      (∃ number, value = .integer number) ∨ ∃ number, value = .float number := by
    unfold arithmetic at found
    split at found
    · split at found <;> cases found
      exact .inl ⟨_, rfl⟩
    · split at found <;> cases found
      exact .inr ⟨_, rfl⟩
  cases operator with
  | plus =>
    simp only [apply, add] at applied
    split at applied
    · cases applied
      exact .inr (.inr ⟨_, _, rfl, rfl, rfl⟩)
    · exact (ofArithmetic applied).imp_right .inl
  | minus => exact (ofArithmetic applied).imp_right .inl
  | times => exact (ofArithmetic applied).imp_right .inl
  | divide =>
    simp only [apply, quotient] at applied
    split at applied
    · split at applied <;> cases applied
      exact .inr (.inl ⟨_, rfl⟩)
    · cases applied

/-- What can be wrong with an operation: it does not fit its operands, divides by zero, or goes over
the range of whole numbers. -/
theorem apply_eq_error {fault : EvalFault} (failed : operator.apply left right = .error fault) :
    fault = .typeMismatch operator left.kind right.kind ∨
      fault = .divisionByZero ∧ operator = .divide ∨ fault = .integerOverflow operator := by
  have ofArithmetic {combine : Int64 → Int64 → Option Int64} {rounded : Float → Float → Float}
      (found : arithmetic operator combine rounded left right = .error fault) :
      fault = .typeMismatch operator left.kind right.kind ∨ fault = .integerOverflow operator := by
    unfold arithmetic at found
    split at found
    · split at found <;> cases found
      exact .inr rfl
    · split at found <;> cases found
      exact .inl rfl
  cases operator with
  | plus =>
    simp only [apply, add] at failed
    split at failed
    · cases failed
    · exact (ofArithmetic failed).imp_right .inr
  | minus => exact (ofArithmetic failed).imp_right .inr
  | times => exact (ofArithmetic failed).imp_right .inr
  | divide =>
    simp only [apply, quotient] at failed
    split at failed
    · split at failed <;> cases failed
      exact .inr (.inl ⟨rfl, rfl⟩)
    · cases failed
      exact .inl rfl

end Operator

namespace Expr

variable (bindings : Bindings)

/-- If nothing waits for a value, it is the result. -/
theorem resume_nil (value : Value) : resume value [] = .ok value := rfl

/-- What waits first is resumed first. -/
theorem resume_append (value : Value) (first second : List Waiting) :
    resume value (first ++ second) = resume value first >>= fun value => resume value second :=
  List.foldlM_append

/-- What waits for the value of an expression is handed the value, once there is one. By induction
on the expression: for an operation, its right operand waits for the left one, and the operator for
both. -/
theorem evalThen_eq (expr : Expr) (waiting : List Waiting) :
    evalThen bindings expr waiting = eval bindings expr >>= fun value => resume value waiting := by
  cases expr with
  | literal value span => rw [eval, evalThen, evalThen]; rfl
  | name written =>
    rw [eval, evalThen, evalThen]
    cases bindings.get? written.text <;> rfl
  | operation operator left right span =>
    rw [eval, evalThen, evalThen, evalThen_eq left, evalThen_eq left [_], bind_assoc]
    simp only [← resume_append, List.singleton_append]
  | list elements span =>
    rw [eval, evalThen, evalThen, bind_assoc]
    rfl
  | dictionary pairs span =>
    rw [eval, evalThen, evalThen, bind_assoc]
    rfl

/-- A literal is its value. -/
@[simp] theorem eval_literal (value : Value) (span : Span) :
    eval bindings (.literal value span) = .ok value := by
  rw [eval, evalThen, resume_nil]

/-- A name has the value that is bound to it, and is at fault where it stands if there is none. -/
theorem eval_name (written : Name) :
    eval bindings (.name written) =
      (bindings.get? written.text).elim (.error ⟨.unbound written.text, written.span.start⟩) .ok := by
  rw [eval, evalThen]
  cases bindings.get? written.text <;> rfl

/-- The operands are evaluated from left to right, and then the operator is applied to their values.
So the loop that goes down to the left does what the recursion over the tree would do. -/
theorem eval_operation (operator : Operator) (left right : Expr) (span : Span) :
    eval bindings (.operation operator left right span) = (do
      let leftValue ← eval bindings left
      let rightValue ← eval bindings right
      operator.applyAt span.start leftValue rightValue) := by
  rw [eval, evalThen, evalThen_eq]
  congr 1
  funext leftValue
  exact bind_pure _

/-- A list has the values of its elements. -/
theorem eval_list (elements : List Expr) (span : Span) :
    eval bindings (.list elements span) = do
      let items ← evalElements bindings elements
      return .list items := by
  rw [eval, evalThen]
  rfl

/-- A dictionary has the entries that its pairs make, beginning with none. -/
theorem eval_dictionary (pairs : List (Expr × Expr)) (span : Span) :
    eval bindings (.dictionary pairs span) = do
      let entries ← evalPairs bindings pairs []
      return .dictionary entries := by
  rw [eval, evalThen]
  rfl

/-- The first element is evaluated before the later ones. -/
theorem evalElements_cons (element : Expr) (later : List Expr) :
    evalElements bindings (element :: later) = do
      let item ← eval bindings element
      let items ← evalElements bindings later
      return item :: items := by
  rw [evalElements]
  rfl

/-- For a pair the key is evaluated first and has to be a string; then its value is, and the entry
is made before the later pairs are gone through. -/
theorem evalPairs_cons (key value : Expr) (later : List (Expr × Expr))
    (entries : List (String × Value)) :
    evalPairs bindings ((key, value) :: later) entries = (do
      match ← eval bindings key with
      | .string text =>
        let bound ← eval bindings value
        evalPairs bindings later (Entries.set text bound entries)
      | other => .error ⟨.invalidKey other.kind, key.start⟩) := by
  rw [evalPairs]
  rfl

section Inversion

variable {bindings} {key value : Expr} {later : List (Expr × Expr)}
  {entries results : List (String × Value)} {error : EvalError}

/-- A name has the value that is bound to it. -/
theorem eval_name_eq_ok_iff {written : Name} {value : Value} :
    eval bindings (.name written) = .ok value ↔ bindings.get? written.text = some value := by
  rw [eval_name]
  cases bindings.get? written.text <;> simp

/-- A name is at fault if nothing is bound to it. -/
theorem eval_name_eq_error_iff {written : Name} :
    eval bindings (.name written) = .error error ↔
      bindings.get? written.text = none ∧ error = ⟨.unbound written.text, written.span.start⟩ := by
  rw [eval_name]
  cases bindings.get? written.text <;> simp [eq_comm]

/-- A pair is done with if its key is a string and its value has a value; then the later pairs go on
with the new entry. -/
theorem evalPairs_cons_eq_ok_iff :
    evalPairs bindings ((key, value) :: later) entries = .ok results ↔
      ∃ text bound, eval bindings key = .ok (.string text) ∧ eval bindings value = .ok bound ∧
        evalPairs bindings later (Entries.set text bound entries) = .ok results := by
  rw [evalPairs_cons]
  constructor
  · intro evaluated
    obtain ⟨named, ofKey, evaluated⟩ := bind_eq_ok_iff.mp evaluated
    cases named with
    | string text =>
      obtain ⟨bound, ofValue, evaluated⟩ := bind_eq_ok_iff.mp evaluated
      exact ⟨text, bound, ofKey, ofValue, evaluated⟩
    | integer | float | boolean | list | dictionary => cases evaluated
  · rintro ⟨text, bound, ofKey, ofValue, evaluated⟩
    refine bind_eq_ok_iff.mpr ⟨.string text, ofKey, ?_⟩
    exact bind_eq_ok_iff.mpr ⟨bound, ofValue, evaluated⟩

/-- Pairs fail with the first of these: the fault in a key, a key that is no string, the fault in the
value, and what comes of the later pairs. -/
theorem evalPairs_cons_eq_error_iff :
    evalPairs bindings ((key, value) :: later) entries = .error error ↔
      eval bindings key = .error error ∨
      (∃ named, eval bindings key = .ok named ∧ named.kind ≠ .string ∧
        error = ⟨.invalidKey named.kind, key.start⟩) ∨
      ∃ text, eval bindings key = .ok (.string text) ∧
        (eval bindings value = .error error ∨ ∃ bound, eval bindings value = .ok bound ∧
          evalPairs bindings later (Entries.set text bound entries) = .error error) := by
  rw [evalPairs_cons, bind_eq_error_iff]
  refine or_congr_right ?_
  constructor
  · rintro ⟨named, ofKey, failed⟩
    cases named with
    | string text => exact .inr ⟨text, ofKey, bind_eq_error_iff.mp failed⟩
    | integer | float | boolean | list | dictionary =>
      refine .inl ⟨_, ofKey, ?_, (Except.error.inj failed).symm⟩
      rintro ⟨⟩
  · rintro (⟨named, ofKey, noString, rfl⟩ | ⟨text, ofKey, failed⟩)
    · refine ⟨named, ofKey, ?_⟩
      cases named with
      | string text => exact absurd rfl noString
      | integer | float | boolean | list | dictionary => rfl
    · exact ⟨.string text, ofKey, bind_eq_error_iff.mpr failed⟩

end Inversion

end Expr

end Formula
