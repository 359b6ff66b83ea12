import Formula.Expr

/-!
# The parts of an expression

What is said of every name, literal and operator in an expression is said of its parts: the
expression itself and the parts of its operands, elements or pairs. An expression is as deep as the
lists and dictionaries in it nest; chains of operators and parentheses do not count.
-/

namespace Formula.Expr

mutual

/-- An expression and everything inside it. -/
def parts : Expr → List Expr
  | .operation operator left right span =>
    .operation operator left right span :: (parts left ++ parts right)
  | .list elements span => .list elements span :: elementParts elements
  | .dictionary pairs span => .dictionary pairs span :: pairParts pairs
  | leaf => [leaf]

/-- The elements and everything inside them. -/
def elementParts : List Expr → List Expr
  | [] => []
  | element :: later => parts element ++ elementParts later

/-- The keys and values of pairs and everything inside them. -/
def pairParts : List (Expr × Expr) → List Expr
  | [] => []
  | (key, value) :: later => parts key ++ (parts value ++ pairParts later)

end

mutual

/-- How many lists and dictionaries are around one place in an expression at most. -/
def depth : Expr → Nat
  | .operation _ left right _ => max (depth left) (depth right)
  | .list elements _ => elementDepth elements + 1
  | .dictionary pairs _ => pairDepth pairs + 1
  | _ => 0

/-- How many brackets are inside one another in the deepest of some elements. -/
def elementDepth : List Expr → Nat
  | [] => 0
  | element :: later => max (depth element) (elementDepth later)

/-- The same for pairs, in their keys as well as in their values. -/
def pairDepth : List (Expr × Expr) → Nat
  | [] => 0
  | (key, value) :: later => max (max (depth key) (depth value)) (pairDepth later)

end

section Inside

variable {left right element key value : Expr} {elements : List Expr} {pairs : List (Expr × Expr)}
  {operator : Operator} {span : Span}

/-- An expression is one of its parts. -/
theorem mem_parts (expr : Expr) : expr ∈ expr.parts := by
  cases expr <;> exact List.mem_cons_self

/-! Every part of an operand, an element or a pair is a part of the whole. -/

/-- The parts of a left operand. -/
theorem left_subset : left.parts ⊆ (operation operator left right span).parts :=
  List.subset_cons_of_subset _ (List.subset_append_left left.parts right.parts)

/-- The parts of a right operand. -/
theorem right_subset : right.parts ⊆ (operation operator left right span).parts :=
  List.subset_cons_of_subset _ (List.subset_append_right left.parts right.parts)

/-- The parts of the elements of a list. -/
theorem elements_subset : elementParts elements ⊆ (list elements span).parts :=
  List.subset_cons_self _ _

/-- The parts of the first of some elements. -/
theorem element_subset : element.parts ⊆ elementParts (element :: elements) :=
  List.subset_append_left element.parts (elementParts elements)

/-- The parts of the elements after the first one. -/
theorem laterElements_subset : elementParts elements ⊆ elementParts (element :: elements) :=
  List.subset_append_right element.parts (elementParts elements)

/-- The parts of the pairs of a dictionary. -/
theorem pairs_subset : pairParts pairs ⊆ (dictionary pairs span).parts :=
  List.subset_cons_self _ _

/-- The parts of the first key. -/
theorem key_subset : key.parts ⊆ pairParts ((key, value) :: pairs) :=
  List.subset_append_left key.parts _

/-- The parts of the first value. -/
theorem value_subset : value.parts ⊆ pairParts ((key, value) :: pairs) :=
  List.subset_append_of_subset_right key.parts
    (List.subset_append_left value.parts (pairParts pairs))

/-- The parts of the pairs after the first one. -/
theorem laterPairs_subset : pairParts pairs ⊆ pairParts ((key, value) :: pairs) :=
  List.subset_append_of_subset_right key.parts
    (List.subset_append_right value.parts (pairParts pairs))

end Inside

section Forall

variable {property : Expr → Prop} {left right : Expr} {elements : List Expr}
  {pairs : List (Expr × Expr)} {operator : Operator} {span : Span}

/-- What holds of every part of an operation holds of the operation and of the parts of both
operands. -/
theorem forall_parts_operation :
    (∀ part ∈ (operation operator left right span).parts, property part) ↔
    property (.operation operator left right span) ∧
      (∀ part ∈ left.parts, property part) ∧ ∀ part ∈ right.parts, property part := by
  rw [parts, List.forall_mem_cons, List.forall_mem_append]

/-- The parts of elements are the parts of any of them. -/
theorem mem_elementParts_iff {part : Expr} :
    part ∈ elementParts elements ↔ ∃ element ∈ elements, part ∈ element.parts := by
  induction elements with
  | nil => simp [elementParts]
  | cons element later ih => simp [elementParts, ih]

/-- The parts of pairs are the parts of any key or value. -/
theorem mem_pairParts_iff {part : Expr} :
    part ∈ pairParts pairs ↔ ∃ pair ∈ pairs, part ∈ pair.1.parts ∨ part ∈ pair.2.parts := by
  induction pairs with
  | nil => simp [pairParts]
  | cons pair later ih =>
    obtain ⟨key, value⟩ := pair
    simp [pairParts, ih, or_assoc]

/-- Elements are no deeper than a limit if none of them is. -/
theorem elementDepth_le_iff {limit : Nat} :
    elementDepth elements ≤ limit ↔ ∀ element ∈ elements, element.depth ≤ limit := by
  induction elements with
  | nil => simp [elementDepth]
  | cons element later ih => rw [elementDepth, Nat.max_le, List.forall_mem_cons, ih]

/-- Pairs are no deeper than a limit if no key and no value is. -/
theorem pairDepth_le_iff {limit : Nat} :
    pairDepth pairs ≤ limit ↔ ∀ pair ∈ pairs, pair.1.depth ≤ limit ∧ pair.2.depth ≤ limit := by
  induction pairs with
  | nil => simp [pairDepth]
  | cons pair later ih =>
    obtain ⟨key, value⟩ := pair
    rw [pairDepth, Nat.max_le, Nat.max_le, List.forall_mem_cons, ih]

end Forall

end Formula.Expr
