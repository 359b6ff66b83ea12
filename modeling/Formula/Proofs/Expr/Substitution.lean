import Formula.Proofs.Expr.Evaluation
import Formula.Proofs.Expr.Parts

/-!
# A bound name and its value

A name that is bound stands for its value, and for nothing else: an expression comes to the same if
the value is written in place of the name wherever it occurs, as an operand, an element, a key or a
value of a dictionary. The value stands where the name stood, so an error is in the same place too.
-/

namespace Formula

namespace Expr

mutual

/-- Write a value in place of every occurrence of a name, with the span of the occurrence. -/
def substitute (name : String) (value : Value) : Expr → Expr
  | .literal known span => .literal known span
  | .name written => if written.text = name then .literal value written.span else .name written
  | .operation operator left right span =>
    .operation operator (substitute name value left) (substitute name value right) span
  | .list elements span => .list (substituteElements name value elements) span
  | .dictionary pairs span => .dictionary (substitutePairs name value pairs) span

/-- Write a value in place of a name in every element. -/
def substituteElements (name : String) (value : Value) : List Expr → List Expr
  | [] => []
  | element :: later => substitute name value element :: substituteElements name value later

/-- Write a value in place of a name in every key and every value of pairs. -/
def substitutePairs (name : String) (value : Value) : List (Expr × Expr) → List (Expr × Expr)
  | [] => []
  | (key, bound) :: later =>
    (substitute name value key, substitute name value bound) :: substitutePairs name value later

end

section Replaced

variable (name : String) (value : Value) (bindings : Bindings)

/-- A value in place of a name starts where the name did. Of an operation that is where its left
operand starts. -/
@[simp] theorem start_substitute (expr : Expr) : (expr.substitute name value).start = expr.start := by
  cases expr with
  | literal known span => rfl
  | name written =>
    rw [substitute]
    split <;> rfl
  | operation operator left right span => exact start_substitute left
  | list elements span => rfl
  | dictionary pairs span => rfl

mutual

/-- To evaluate with a name bound is to evaluate with its value in place of it. By induction on the
expression, where only names look at the bindings. -/
theorem eval_set (expr : Expr) :
    eval (bindings.set name value) expr = eval bindings (expr.substitute name value) := by
  cases expr with
  | literal known span => rw [substitute, eval_literal, eval_literal]
  | name written =>
    rw [substitute, eval_name, Bindings.get?_set]
    split
    · rw [eval_literal]
      rfl
    · rw [eval_name]
  | operation operator left right span =>
    rw [substitute, eval_operation, eval_operation, eval_set left, eval_set right]
  | list elements span =>
    rw [substitute, eval_list, eval_list, evalElements_set elements]
  | dictionary pairs span =>
    rw [substitute, eval_dictionary, eval_dictionary, evalPairs_set pairs]

/-- The same for elements. -/
theorem evalElements_set (elements : List Expr) :
    evalElements (bindings.set name value) elements =
      evalElements bindings (substituteElements name value elements) := by
  cases elements with
  | nil => rfl
  | cons element later =>
    rw [substituteElements, evalElements_cons, evalElements_cons, eval_set element,
      evalElements_set later]

/-- The same for pairs, with any entries made before. Keys may have the name in them as well as
values. -/
theorem evalPairs_set (pairs : List (Expr × Expr)) (entries : List (String × Value)) :
    evalPairs (bindings.set name value) pairs entries =
      evalPairs bindings (substitutePairs name value pairs) entries := by
  cases pairs with
  | nil => rfl
  | cons pair later =>
    obtain ⟨key, bound⟩ := pair
    -- The entries that the later pairs are added to depend on the key and the value.
    have others := evalPairs_set later
    simp only [substitutePairs, evalPairs_cons, eval_set key, eval_set bound, start_substitute,
      others]

end

end Replaced

/-- A name means the value that is bound to it: to evaluate an expression with the name bound is to
evaluate it with the value in place of every occurrence of the name. The value is the same, or the
fault and its place are. So an assignment does for an expression after it what writing out the
assigned value would do.

The first part goes by induction on the expression, and the second is the case of the value that was
assigned. -/
theorem eval_substitute (bindings : Bindings) (expr : Expr) :
    (∀ name value,
      eval (bindings.set name value) expr = eval bindings (expr.substitute name value)) ∧
    ∀ target source outcome after,
      (Statement.assignment target source).eval bindings = .ok (outcome, after) →
      eval after expr = eval bindings (expr.substitute target.text outcome.result) := by
  constructor
  · intro name value
    exact eval_set name value bindings expr
  · intro target source outcome after assigned
    obtain ⟨value, -, isOutcome⟩ := bind_eq_ok_iff.mp assigned
    cases isOutcome
    exact eval_set target.text value bindings expr

/-- With a number bound to `x`, the key of the dictionary `{x: 1}` is no string, and the fault is
where `x` stands. -/
example :
    let dictionary := Expr.dictionary [(.name ⟨"x", ⟨⟨1, 2⟩, ⟨1, 3⟩⟩⟩,
      .literal (.integer 1) ⟨⟨1, 5⟩, ⟨1, 6⟩⟩)] ⟨⟨1, 1⟩, ⟨1, 7⟩⟩
    eval Bindings.empty (dictionary.substitute "x" (.integer 7)) =
      .error ⟨.invalidKey .integer, ⟨1, 2⟩⟩ := rfl

/-- A name occurs in an expression. -/
def Mentions (name : String) (expr : Expr) : Prop := ∃ span, .name ⟨name, span⟩ ∈ expr.parts

/-- Two bindings have the same values for the names among some parts. -/
def Agree (first second : Bindings) (parts : List Expr) : Prop :=
  ∀ written, .name written ∈ parts → first.get? written.text = second.get? written.text

section Agreement

variable {first second : Bindings}

/-- Bindings that agree on the names in some parts agree on those in fewer parts. -/
theorem Agree.mono {parts parts' : List Expr} (agree : Agree first second parts)
    (within : parts' ⊆ parts) : Agree first second parts' :=
  fun written part => agree written (within part)

mutual

/-- Evaluation looks at the names in an expression and at no others. By induction on the expression,
the names of each part being among those of the whole. -/
theorem eval_of_agree (expr : Expr) (agree : Agree first second expr.parts) :
    eval first expr = eval second expr := by
  cases expr with
  | literal value span => rw [eval_literal, eval_literal]
  | name written =>
    rw [eval_name, eval_name, agree written (mem_parts _)]
  | operation operator left right span =>
    have ofLeft := eval_of_agree left (agree.mono left_subset)
    have ofRight := eval_of_agree right (agree.mono right_subset)
    rw [eval_operation, eval_operation, ofLeft, ofRight]
  | list elements span =>
    have ofElements := evalElements_of_agree elements (agree.mono elements_subset)
    rw [eval_list, eval_list, ofElements]
  | dictionary pairs span =>
    have ofPairs := evalPairs_of_agree pairs (agree.mono pairs_subset)
    rw [eval_dictionary, eval_dictionary, ofPairs]

/-- It looks at the names in elements where it evaluates these. -/
theorem evalElements_of_agree (elements : List Expr)
    (agree : Agree first second (elementParts elements)) :
    evalElements first elements = evalElements second elements := by
  cases elements with
  | nil => rfl
  | cons element later =>
    have one := eval_of_agree element (agree.mono element_subset)
    have others := evalElements_of_agree later (agree.mono laterElements_subset)
    rw [evalElements_cons, evalElements_cons, one, others]

/-- It looks at the names in keys and values where it evaluates pairs. -/
theorem evalPairs_of_agree (pairs : List (Expr × Expr)) (agree : Agree first second (pairParts pairs))
    (entries : List (String × Value)) :
    evalPairs first pairs entries = evalPairs second pairs entries := by
  cases pairs with
  | nil => rfl
  | cons pair later =>
    obtain ⟨key, value⟩ := pair
    have ofKey := eval_of_agree key (agree.mono key_subset)
    have ofValue := eval_of_agree value (agree.mono value_subset)
    have others := evalPairs_of_agree later (agree.mono laterPairs_subset)
    simp only [evalPairs_cons, ofKey, ofValue, others]

end

end Agreement

end Expr

end Formula
