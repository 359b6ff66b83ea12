import Formula.Proofs.Expr.Whole

/-!
# Kinds do not depend on values

Whether an operator takes its operands, whether a key is a string and whether a name is bound can be
told from kinds alone. So an expression can be gone through with the kinds of the bound names in
place of their values, and what comes out is the kind of its value or the error that it has. Numbers
can only get in the way of this: an operation that overflows or divides by zero ends the evaluation
before it has come to all that was foretold.
-/

namespace Formula

/-- Faults that depend on the numbers in an expression, and not on kinds alone. -/
def EvalFault.isNumerical : EvalFault → Bool
  | .divisionByZero => true
  | .integerOverflow _ => true
  | _ => false

/-- Whether the values of a kind are numbers. -/
def Value.Kind.isNumber : Value.Kind → Bool
  | .integer => true
  | .float => true
  | _ => false

/-- The kind of what is bound to a name. -/
def Bindings.kind? (bindings : Bindings) (name : String) : Option Value.Kind :=
  (bindings.get? name).map Value.kind

/-- The kind that an operator gives, if it takes operands of two kinds. Strings are joined, whole
numbers stay whole unless they are divided, and all other numbers are computed in floating point. -/
def Operator.resultKind? : Operator → Value.Kind → Value.Kind → Option Value.Kind
  | .plus, .string, .string => some .string
  | .divide, left, right => if left.isNumber && right.isNumber then some .float else none
  | _, .integer, .integer => some .integer
  | _, left, right => if left.isNumber && right.isNumber then some .float else none

/-- The kind that an operator at a position gives. -/
def Operator.kindAt (operator : Operator) (position : Position) (left right : Value.Kind) :
    Except EvalError Value.Kind :=
  match operator.resultKind? left right with
  | some kind => .ok kind
  | none => .error ⟨.typeMismatch operator left right, position⟩

namespace Expr

mutual

/-- Tell the kind of an expression, or the error in it, from the kinds of the bound names. -/
def foretell (kinds : String → Option Value.Kind) : Expr → Except EvalError Value.Kind
  | .literal value _ => .ok value.kind
  | .name written =>
    match kinds written.text with
    | some kind => .ok kind
    | none => .error ⟨.unbound written.text, written.span.start⟩
  | .operation operator left right span => do
    let leftKind ← foretell kinds left
    let rightKind ← foretell kinds right
    operator.kindAt span.start leftKind rightKind
  | .list elements _ => do
    foretellElements kinds elements
    return .list
  | .dictionary pairs _ => do
    foretellPairs kinds pairs
    return .dictionary

/-- Find the error in the elements of a list. -/
def foretellElements (kinds : String → Option Value.Kind) : List Expr → Except EvalError Unit
  | [] => .ok ()
  | element :: later => do
    let _ ← foretell kinds element
    foretellElements kinds later

/-- Find the error in the pairs of a dictionary, which may be a key that is no string. -/
def foretellPairs (kinds : String → Option Value.Kind) : List (Expr × Expr) → Except EvalError Unit
  | [] => .ok ()
  | (key, value) :: later => do
    match ← foretell kinds key with
    | .string =>
      let _ ← foretell kinds value
      foretellPairs kinds later
    | other => .error ⟨.invalidKey other, key.start⟩

end

end Expr

section Foretold

variable {α β γ δ : Type} {view : α → β} {view' : γ → δ}

/-- A result is what was foretold of it, in a view of it, unless numbers have got in the way. -/
def Foretold (view : α → β) (result : Except EvalError α) (told : Except EvalError β) : Prop :=
  result.map view = told ∨ ∃ error, result = .error error ∧ error.fault.isNumerical = true

/-- A value was foretold if its view was. -/
theorem foretold_ok (value : α) : Foretold view (.ok value) (.ok (view value)) := .inl rfl

/-- An error that was foretold came. -/
theorem foretold_error (error : EvalError) : Foretold view (.error error) (.error error) := .inl rfl

/-- Where numbers have not got in the way, all was foretold, as only they can make a difference. -/
theorem Foretold.map_eq {result : Except EvalError α} {told : Except EvalError β}
    (foretold : Foretold view result told)
    (fits : ∀ error, result = .error error → error.fault.isNumerical = false) :
    result.map view = told := by
  obtain same | ⟨error, failed, numerical⟩ := foretold
  · exact same
  · rw [fits error failed] at numerical
    cases numerical

/-- What is done with a value is foretold if it is from every view of a value. If numbers were in
the way of the first step, they are in the way of both. -/
theorem Foretold.bind {result : Except EvalError α} {told : Except EvalError β}
    {next : α → Except EvalError γ} {next' : β → Except EvalError δ}
    (first : Foretold view result told)
    (others : ∀ value, Foretold view' (next value) (next' (view value))) :
    Foretold view' (result >>= next) (told >>= next') := by
  obtain rfl | ⟨error, rfl, numerical⟩ := first
  · cases result with
    | error error => exact foretold_error error
    | ok value => exact others value
  · exact .inr ⟨error, rfl, numerical⟩

end Foretold

namespace Operator

variable {operator : Operator} {position : Position} {left right : Value}

/-- Whole numbers stay whole, or overflow. -/
theorem foretold_whole (whole : operator ≠ .divide) (m n : Int64) :
    Foretold Value.kind (operator.applyAt position (.integer m) (.integer n)) (.ok .integer) := by
  rw [applyAt, apply_integers whole]
  cases Checked.ofInt? (operator.exact m.toInt n.toInt) with
  | some result => exact .inl rfl
  | none => exact .inr ⟨_, rfl, rfl⟩

/-- A quotient of numbers is computed in floating point, or it is one by zero. -/
theorem foretold_quotient {x y : Float} (ofLeft : left.asFloat? = some x)
    (ofRight : right.asFloat? = some y) :
    Foretold Value.kind (divide.applyAt position left right) (.ok .float) := by
  rw [applyAt, apply, quotient, ofLeft, ofRight]
  by_cases zero : (y == 0.0) = true
  · exact .inr ⟨⟨.divisionByZero, position⟩, by simp [zero], rfl⟩
  · exact .inl (by simp [zero]; rfl)

/-- What comes of an operation is foretold from the kinds of its operands. By cases on these kinds:
numbers fit every operator, strings fit the sum, and nothing else fits any. -/
theorem foretold_applyAt (operator : Operator) (position : Position) (left right : Value) :
    Foretold Value.kind (operator.applyAt position left right)
      (operator.kindAt position left.kind right.kind) := by
  cases left with
  | integer m =>
    cases right with
    | integer n =>
      cases operator with
      | plus | minus | times => exact foretold_whole (by decide) m n
      | divide => exact foretold_quotient rfl rfl
    | float y =>
      cases operator with
      | plus | minus | times => exact .inl rfl
      | divide => exact foretold_quotient rfl rfl
    | string | boolean | list | dictionary => cases operator <;> exact .inl rfl
  | float x =>
    cases right with
    | integer | float =>
      cases operator with
      | plus | minus | times => exact .inl rfl
      | divide => exact foretold_quotient rfl rfl
    | string | boolean | list | dictionary => cases operator <;> exact .inl rfl
  | string | boolean | list | dictionary => cases right <;> cases operator <;> exact .inl rfl

end Operator

namespace Expr

variable (bindings : Bindings)

mutual

/-- What comes of an expression is foretold from the kinds of the bound names. By induction on the
expression, in the steps of evaluation: each of them looks at the kinds of values only, and
operators at the numbers besides. -/
theorem foretold_eval (expr : Expr) :
    Foretold Value.kind (eval bindings expr) (foretell bindings.kind? expr) := by
  cases expr with
  | literal value span =>
    rw [eval_literal, foretell]
    exact foretold_ok value
  | name written =>
    rw [eval_name, foretell, Bindings.kind?]
    cases bindings.get? written.text with
    | some value => exact foretold_ok value
    | none => exact foretold_error _
  | operation operator left right span =>
    rw [eval_operation, foretell]
    refine (foretold_eval left).bind fun leftValue => ?_
    refine (foretold_eval right).bind fun rightValue => ?_
    exact operator.foretold_applyAt span.start leftValue rightValue
  | list elements span =>
    rw [eval_list, foretell]
    exact (foretold_evalElements elements).bind fun items => foretold_ok (Value.list items)
  | dictionary pairs span =>
    rw [eval_dictionary, foretell]
    exact (foretold_evalPairs pairs []).bind fun entries => foretold_ok (Value.dictionary entries)

/-- Whether elements have values is foretold, though not what these are. -/
theorem foretold_evalElements (elements : List Expr) :
    Foretold (fun _ => ()) (evalElements bindings elements)
      (foretellElements bindings.kind? elements) := by
  cases elements with
  | nil => exact foretold_ok []
  | cons element later =>
    rw [evalElements_cons, foretellElements, ← bind_pure (foretellElements bindings.kind? later)]
    refine (foretold_eval element).bind fun item => ?_
    exact (foretold_evalElements later).bind fun items => foretold_ok (item :: items)

/-- Whether pairs make entries is foretold. That a key is a string is known from its kind, and which
string it is has no part in whether there is an error. -/
theorem foretold_evalPairs (pairs : List (Expr × Expr)) (entries : List (String × Value)) :
    Foretold (fun _ => ()) (evalPairs bindings pairs entries)
      (foretellPairs bindings.kind? pairs) := by
  cases pairs with
  | nil => exact foretold_ok entries
  | cons pair later =>
    obtain ⟨key, value⟩ := pair
    rw [evalPairs_cons, foretellPairs]
    refine (foretold_eval key).bind fun named => ?_
    cases named with
    | string text =>
      refine (foretold_eval value).bind fun bound => ?_
      exact foretold_evalPairs later (Entries.set text bound entries)
    | integer | float | boolean | list | dictionary => exact foretold_error _

end

variable {first second : Bindings}

/-- Where numbers do not get in the way, it does not matter to which values of their kinds names are
bound: an expression has a value of the same kind, or the same error in the same place. Which it is
can be foretold from the kinds alone.

Both evaluations are foretold by the same kinds, so they agree with each other. -/
theorem eval_kinds (expr : Expr) (alike : ∀ name, first.kind? name = second.kind? name)
    (ofFirst : ∀ error, eval first expr = .error error → error.fault.isNumerical = false)
    (ofSecond : ∀ error, eval second expr = .error error → error.fault.isNumerical = false) :
    ((∃ value value', eval first expr = .ok value ∧ eval second expr = .ok value' ∧
        value.kind = value'.kind) ∨
      ∃ error, eval first expr = .error error ∧ eval second expr = .error error) ∧
    (eval first expr).map Value.kind = expr.foretell first.kind? := by
  have toldFirst := (foretold_eval first expr).map_eq ofFirst
  have toldSecond := (foretold_eval second expr).map_eq ofSecond
  rw [← show first.kind? = second.kind? from funext alike, ← toldFirst] at toldSecond
  refine ⟨?_, toldFirst⟩
  cases found : eval first expr with
  | error error =>
    cases found' : eval second expr with
    | error error' =>
      rw [found, found'] at toldSecond
      obtain rfl := Except.error.inj toldSecond
      exact .inr ⟨error', rfl, rfl⟩
    | ok value' =>
      rw [found, found'] at toldSecond
      cases toldSecond
  | ok value =>
    cases found' : eval second expr with
    | error error' =>
      rw [found, found'] at toldSecond
      cases toldSecond
    | ok value' =>
      rw [found, found'] at toldSecond
      exact .inl ⟨value, value', rfl, rfl, (Except.ok.inj toldSecond).symm⟩

/-- Whatever number is bound to `x` and whatever string to `s`, the sum in `[x * 2, x + s]` does not
fit its operands. -/
theorem eval_kinds_mismatch :
    let expr := Expr.list [.operation .times (.name ⟨"x", ⟨⟨1, 2⟩, ⟨1, 3⟩⟩⟩)
        (.literal (.integer 2) ⟨⟨1, 6⟩, ⟨1, 7⟩⟩) ⟨⟨1, 4⟩, ⟨1, 5⟩⟩,
      .operation .plus (.name ⟨"x", ⟨⟨1, 9⟩, ⟨1, 10⟩⟩⟩) (.name ⟨"s", ⟨⟨1, 13⟩, ⟨1, 14⟩⟩⟩)
        ⟨⟨1, 11⟩, ⟨1, 12⟩⟩] ⟨⟨1, 1⟩, ⟨1, 15⟩⟩
    let first := (Bindings.empty.set "x" (.integer 20)).set "s" (.string "a")
    let second := (Bindings.empty.set "x" (.integer 3)).set "s" (.string "")
    ∃ error, eval first expr = .error error ∧ eval second expr = .error error ∧
      error = ⟨.typeMismatch .plus .integer .string, ⟨1, 11⟩⟩ := by
  intro expr first second
  have alike : ∀ name, first.kind? name = second.kind? name := by
    intro name
    simp only [first, second, Bindings.kind?, Bindings.get?_set]
    split
    · rfl
    · split <;> rfl
  have ofFirst : eval first expr = .error ⟨.typeMismatch .plus .integer .string, ⟨1, 11⟩⟩ := rfl
  have ofSecond : eval second expr = .error ⟨.typeMismatch .plus .integer .string, ⟨1, 11⟩⟩ := rfl
  have noNumbers : ∀ error, Except.error ⟨.typeMismatch .plus .integer .string, ⟨1, 11⟩⟩ =
      (Except.error error : Except EvalError Value) → error.fault.isNumerical = false := by
    rintro error ⟨⟩
    rfl
  obtain ⟨⟨value, value', found, -⟩ | ⟨error, failed, failed'⟩, -⟩ :=
    eval_kinds expr alike (ofFirst ▸ noNumbers) (ofSecond ▸ noNumbers)
  · rw [ofFirst] at found
    cases found
  · exact ⟨error, failed, failed', (Except.error.inj (failed.symm.trans ofFirst))⟩

end Expr

end Formula
