import Formula.Proofs.Expr.Evaluation
import Formula.Proofs.Expr.Parts

/-!
# Which part of an expression is at fault

Evaluation stops at the first fault. Whatever the expression is, the fault is that of one of its
parts: a name that is not bound, an operation whose operands have values that the operator does not
take, or a dictionary with a key that is no string. The position of the error is that of the part.
-/

namespace Formula.Expr

/-- A part that is at fault by itself, and the error that it gives. -/
inductive AtFault (bindings : Bindings) : Expr → EvalError → Prop
  | unbound (written : Name) (absent : bindings.get? written.text = none) :
      AtFault bindings (.name written) ⟨.unbound written.text, written.span.start⟩
  | operation (operator : Operator) (left right : Expr) (span : Span) (first second : Value)
      (fault : EvalFault) (ofLeft : left.eval bindings = .ok first)
      (ofRight : right.eval bindings = .ok second)
      (failed : operator.apply first second = .error fault) :
      AtFault bindings (.operation operator left right span) ⟨fault, span.start⟩
  | invalidKey (pairs : List (Expr × Expr)) (span : Span) (key value : Expr) (named : Value)
      (member : (key, value) ∈ pairs) (ofKey : key.eval bindings = .ok named)
      (noString : named.kind ≠ .string) :
      AtFault bindings (.dictionary pairs span) ⟨.invalidKey named.kind, key.start⟩

variable {bindings : Bindings} {error : EvalError}

mutual

/-- If an expression has no value, the fault is in one of its parts: a name that is not bound, an
operation on values that do not suit it, or a key that is no string. By induction on the expression,
where the fault of the whole is that of a part inside it or its own. -/
theorem exists_atFault (expr : Expr) (failed : expr.eval bindings = .error error) :
    ∃ part ∈ expr.parts, AtFault bindings part error := by
  cases expr with
  | literal value span =>
    rw [eval_literal] at failed
    cases failed
  | name written =>
    obtain ⟨absent, rfl⟩ := eval_name_eq_error_iff.mp failed
    exact ⟨.name written, mem_parts _, .unbound written absent⟩
  | operation operator left right span =>
    rw [eval_operation] at failed
    obtain failed | ⟨first, ofLeft, failed⟩ := bind_eq_error_iff.mp failed
    · obtain ⟨part, isPart, atFault⟩ := exists_atFault left failed
      exact ⟨part, left_subset isPart, atFault⟩
    · obtain failed | ⟨second, ofRight, failed⟩ := bind_eq_error_iff.mp failed
      · obtain ⟨part, isPart, atFault⟩ := exists_atFault right failed
        exact ⟨part, right_subset isPart, atFault⟩
      · obtain ⟨fault, position⟩ := error
        obtain ⟨applied, rfl⟩ := Operator.applyAt_eq_error_iff.mp failed
        refine ⟨.operation operator left right span, mem_parts _, ?_⟩
        exact .operation operator left right span first second fault ofLeft ofRight applied
  | list elements span =>
    rw [eval_list] at failed
    obtain failed | ⟨items, -, impossible⟩ := bind_eq_error_iff.mp failed
    · obtain ⟨part, isPart, atFault⟩ := exists_atFault_elements elements failed
      exact ⟨part, elements_subset isPart, atFault⟩
    · cases impossible
  | dictionary pairs span =>
    rw [eval_dictionary] at failed
    obtain failed | ⟨entries, -, impossible⟩ := bind_eq_error_iff.mp failed
    · obtain ⟨part, isPart, atFault⟩ | ⟨key, value, named, member, ofKey, noString, rfl⟩ :=
        exists_atFault_pairs pairs [] failed
      · exact ⟨part, pairs_subset isPart, atFault⟩
      · refine ⟨.dictionary pairs span, mem_parts _, ?_⟩
        exact .invalidKey pairs span key value named member ofKey noString
    · cases impossible

/-- If elements have no values, the fault is in a part of one of them, the first that has none. -/
theorem exists_atFault_elements (elements : List Expr)
    (failed : evalElements bindings elements = .error error) :
    ∃ part ∈ elementParts elements, AtFault bindings part error := by
  cases elements with
  | nil => cases failed
  | cons element later =>
    rw [evalElements_cons] at failed
    obtain failed | ⟨item, -, failed⟩ := bind_eq_error_iff.mp failed
    · obtain ⟨part, isPart, atFault⟩ := exists_atFault element failed
      exact ⟨part, element_subset isPart, atFault⟩
    · obtain failed | ⟨items, -, impossible⟩ := bind_eq_error_iff.mp failed
      · obtain ⟨part, isPart, atFault⟩ := exists_atFault_elements later failed
        exact ⟨part, laterElements_subset isPart, atFault⟩
      · cases impossible

/-- Of pairs it may also be a key that is at fault, which is known only where the pairs are. -/
theorem exists_atFault_pairs (pairs : List (Expr × Expr)) (entries : List (String × Value))
    (failed : evalPairs bindings pairs entries = .error error) :
    (∃ part ∈ pairParts pairs, AtFault bindings part error) ∨
      ∃ key value named, (key, value) ∈ pairs ∧ key.eval bindings = .ok named ∧
        named.kind ≠ .string ∧ error = ⟨.invalidKey named.kind, key.start⟩ := by
  cases pairs with
  | nil => cases failed
  | cons pair later =>
    obtain ⟨key, value⟩ := pair
    obtain failed | ⟨named, ofKey, noString, rfl⟩ | ⟨text, -, failed | ⟨bound, -, failed⟩⟩ :=
      evalPairs_cons_eq_error_iff.mp failed
    · obtain ⟨part, isPart, atFault⟩ := exists_atFault key failed
      exact .inl ⟨part, key_subset isPart, atFault⟩
    · exact .inr ⟨key, value, named, List.mem_cons_self, ofKey, noString, rfl⟩
    · obtain ⟨part, isPart, atFault⟩ := exists_atFault value failed
      exact .inl ⟨part, value_subset isPart, atFault⟩
    · obtain ⟨part, isPart, atFault⟩ | ⟨key', value', named, member, found⟩ :=
        exists_atFault_pairs later _ failed
      · exact .inl ⟨part, laterPairs_subset isPart, atFault⟩
      · exact .inr ⟨key', value', named, List.mem_cons_of_mem _ member, found⟩

end

end Formula.Expr
