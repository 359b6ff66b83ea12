/-!
# Whole numbers that never wrap

Whole numbers have 64 bits and a sign. Sums, differences and products are taken exactly and then
have to fit: where the exact result is out of range there is no result, so no operation wraps.
-/

namespace Formula.Checked

-- Powers are those of whole numbers themselves, also where numbers are known as a monoid.
attribute [local instance (high)] instPowNat

/-- The whole number of this value, if 64 bits hold it. -/
def ofInt? (value : Int) : Option Int64 :=
  if -2 ^ (63 : Nat) ≤ value ∧ value < 2 ^ (63 : Nat) then some (Int64.ofInt value) else none

/-- The sum, if 64 bits hold it. -/
def add? (left right : Int64) : Option Int64 := ofInt? (left.toInt + right.toInt)

/-- The difference, if 64 bits hold it. -/
def sub? (left right : Int64) : Option Int64 := ofInt? (left.toInt - right.toInt)

/-- The product, if 64 bits hold it. -/
def mul? (left right : Int64) : Option Int64 := ofInt? (left.toInt * right.toInt)

/-- A result has exactly the value asked for. It is given only within the range, in which conversion
there and back loses nothing. -/
theorem ofInt?_eq_some_iff {value : Int} {n : Int64} :
    ofInt? value = some n ↔ n.toInt = value := by
  unfold ofInt?
  constructor
  · intro found
    split at found
    · next fits =>
      obtain rfl := Option.some.inj found
      exact Int64.toInt_ofInt_of_le fits.1 fits.2
    · simp at found
  · rintro rfl
    rw [if_pos ⟨Int64.le_toInt n, Int64.toInt_lt n⟩, Int64.ofInt_toInt]

/-- There is no result exactly when the value is out of range. -/
theorem ofInt?_eq_none_iff {value : Int} :
    ofInt? value = none ↔ value < -2 ^ (63 : Nat) ∨ 2 ^ (63 : Nat) ≤ value := by
  unfold ofInt?
  split <;> simp <;> omega

end Formula.Checked
