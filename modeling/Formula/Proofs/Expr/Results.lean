import Formula.Proofs.Entries
import Formula.Proofs.Expr.Evaluation
import Formula.Proofs.Expr.Parts

/-!
# What the results of evaluation are made of

A property of values that literals and bound values have, that operators keep, and that goes over
from items to their list and from entries to their dictionary, is one of every result. The property
may speak of a level, which goes up by one with every list and dictionary around a value. Then the
result has the property at the level of what is bound plus the depth of the expression.
-/

namespace Formula

namespace Value

/-- A property of values at levels that every way to make a value from others keeps. -/
structure Graded (property : Nat → Value → Prop) : Prop where
  mono : ∀ {low high value}, low ≤ high → property low value → property high value
  applied : ∀ {level value} {operator : Operator} {left right : Value},
    operator.apply left right = .ok value → property level left → property level right →
      property level value
  list : ∀ {level items}, (∀ item ∈ items, property level item) → property (level + 1) (.list items)
  dictionary : ∀ {level entries}, Entries.Distinct entries →
    (∀ entry ∈ entries, property level (.string entry.1) ∧ property level entry.2) →
      property (level + 1) (.dictionary entries)

namespace Graded

open Formula.Expr

variable {property : Nat → Value → Prop} (graded : Graded property)
variable {bindings : Bindings} {level : Nat}
variable (bound : ∀ name value, bindings.get? name = some value → property level value)

include graded bound

-- The three lemmas use each other, and only the first looks a name up.
set_option linter.unusedSectionVars false in
mutual

/-- The result of an expression has the property at the level that its depth leads to. By induction
on the expression: names and literals have it by assumption, operators keep it, and a bracket makes
the value one level deeper. -/
theorem eval (expr : Expr)
    (literals : ∀ value span, .literal value span ∈ expr.parts → property level value)
    {value : Value} (evaluated : expr.eval bindings = .ok value) :
    property (level + expr.depth) value := by
  cases expr with
  | literal denoted span =>
    rw [eval_literal] at evaluated
    obtain rfl := Except.ok.inj evaluated
    exact literals denoted span (Expr.mem_parts _)
  | name written =>
    exact bound written.text value (eval_name_eq_ok_iff.mp evaluated)
  | operation operator left right span =>
    rw [eval_operation] at evaluated
    obtain ⟨leftValue, ofLeft, evaluated⟩ := bind_eq_ok_iff.mp evaluated
    obtain ⟨rightValue, ofRight, applied⟩ := bind_eq_ok_iff.mp evaluated
    have first := eval left (fun value span part => literals value span (left_subset part)) ofLeft
    have second := eval right
      (fun value span part => literals value span (right_subset part)) ofRight
    apply graded.applied (Operator.applyAt_eq_ok_iff.mp applied)
    · exact graded.mono (Nat.add_le_add_left (Nat.le_max_left _ _) level) first
    · exact graded.mono (Nat.add_le_add_left (Nat.le_max_right _ _) level) second
  | list elements span =>
    rw [eval_list] at evaluated
    obtain ⟨items, ofItems, isList⟩ := bind_eq_ok_iff.mp evaluated
    obtain rfl := Except.ok.inj isList
    exact graded.list (evalElements elements
      (fun value span part => literals value span (elements_subset part)) ofItems)
  | dictionary pairs span =>
    rw [eval_dictionary] at evaluated
    obtain ⟨entries, ofEntries, isDictionary⟩ := bind_eq_ok_iff.mp evaluated
    obtain rfl := Except.ok.inj isDictionary
    have none : Entries.Distinct ([] : List (String × Value)) := List.nodup_nil
    obtain ⟨distinct, each⟩ := evalPairs pairs
      (fun value span part => literals value span (pairs_subset part)) (Nat.le_refl _) none
      (List.forall_mem_nil _) ofEntries
    exact graded.dictionary distinct each

/-- So have the results of elements, all at the level of the deepest of them, to which the property
is carried from any lower one. -/
theorem evalElements (elements : List Expr)
    (literals : ∀ value span, .literal value span ∈ elementParts elements → property level value)
    {items : List Value} (evaluated : Expr.evalElements bindings elements = .ok items) :
    ∀ item ∈ items, property (level + elementDepth elements) item := by
  cases elements with
  | nil =>
    obtain rfl := Except.ok.inj evaluated
    exact List.forall_mem_nil _
  | cons element later =>
    rw [evalElements_cons] at evaluated
    obtain ⟨first, ofFirst, evaluated⟩ := bind_eq_ok_iff.mp evaluated
    obtain ⟨others, ofOthers, isCons⟩ := bind_eq_ok_iff.mp evaluated
    obtain rfl := Except.ok.inj isCons
    have one := eval element
      (fun value span part => literals value span (element_subset part)) ofFirst
    have more := evalElements later
      (fun value span part => literals value span (laterElements_subset part)) ofOthers
    intro item member
    obtain rfl | further := List.mem_cons.mp member
    · exact graded.mono (Nat.add_le_add_left (Nat.le_max_left _ _) level) one
    · exact graded.mono (Nat.add_le_add_left (Nat.le_max_right _ _) level) (more item further)

/-- Each key is bound once, and keys and values have the property, if this was so of the entries
that there were before. By induction on the pairs, with the entries made so far as the invariant. -/
theorem evalPairs (pairs : List (Expr × Expr))
    (literals : ∀ value span, .literal value span ∈ pairParts pairs → property level value)
    {deep : Nat} (within : pairDepth pairs ≤ deep) {entries results : List (String × Value)}
    (distinct : Entries.Distinct entries)
    (each : ∀ entry ∈ entries, property (level + deep) (.string entry.1) ∧
      property (level + deep) entry.2)
    (evaluated : Expr.evalPairs bindings pairs entries = .ok results) :
    Entries.Distinct results ∧
      ∀ entry ∈ results, property (level + deep) (.string entry.1) ∧
        property (level + deep) entry.2 := by
  cases pairs with
  | nil =>
    obtain rfl := Except.ok.inj evaluated
    exact ⟨distinct, each⟩
  | cons pair later =>
    obtain ⟨key, value⟩ := pair
    obtain ⟨text, kept, ofKey, ofValue, evaluated⟩ := evalPairs_cons_eq_ok_iff.mp evaluated
    rw [pairDepth, Nat.max_le, Nat.max_le] at within
    have one := eval key (fun value span part => literals value span (key_subset part)) ofKey
    have other := eval value
      (fun value span part => literals value span (value_subset part)) ofValue
    refine evalPairs later
      (fun value span part => literals value span (laterPairs_subset part))
      within.2 (distinct.set text kept) ?_ evaluated
    intro entry member
    obtain rfl | earlier := Entries.mem_set member
    · constructor
      · exact graded.mono (Nat.add_le_add_left within.1.1 level) one
      · exact graded.mono (Nat.add_le_add_left within.1.2 level) other
    · exact each entry earlier

end

end Graded

end Value

end Formula
