import Formula.Number.Decimal
import Formula.Proofs.Number.Words

/-!
# The shortest decimal reads back

Rounding depends on a ratio alone, and a ratio that a word stands for is rounded to that word. So
the exact expansion of a word reads back as the word. The neighbours tried before it are only taken
if they read back, so whatever is chosen does.
-/

namespace Formula

namespace Binary64

section Ratio

variable (numerator denominator : Nat) {factor : Nat} (positive : 0 < factor)

include positive

/-- Only the ratio matters for a rounded quotient: its remainder grows with the denominator, so both
comparisons with the half come out the same. -/
theorem divideRounding_mul_mul :
    divideRounding (numerator * factor) (denominator * factor) =
      divideRounding numerator denominator := by
  have quotient : numerator * factor / (denominator * factor) = numerator / denominator :=
    Nat.mul_div_mul_right numerator denominator positive
  have remainder : 2 * (numerator * factor % (denominator * factor)) =
      2 * (numerator % denominator) * factor := by
    rw [Nat.mul_mod_mul_right, Nat.mul_assoc]
  have below : 2 * (numerator % denominator) * factor < denominator * factor ↔
      2 * (numerator % denominator) < denominator := Nat.mul_lt_mul_right positive
  have even : 2 * (numerator % denominator) * factor = denominator * factor ↔
      2 * (numerator % denominator) = denominator := Nat.mul_left_inj (Nat.ne_of_gt positive)
  simp only [divideRounding, quotient, remainder, below, even]

/-- Only the ratio matters for the nearest word, as only quotients of the two numbers are looked
at. -/
theorem nearestWord_mul_mul :
    nearestWord (numerator * factor) (denominator * factor) = nearestWord numerator denominator := by
  have quotient : numerator * factor / (denominator * factor) = numerator / denominator :=
    Nat.mul_div_mul_right numerator denominator positive
  simp only [nearestWord, quotient, Nat.mul_right_comm denominator factor,
    divideRounding_mul_mul _ _ positive]

end Ratio

/-- How often the units of a word were doubled, told from their size. Those of a normal number have
their highest bit as far above the 52 as they were doubled; those of a subnormal number were not. -/
theorem log2_units (word : Nat) : (units word).log2 - 52 = word / binade - 1 := by
  unfold units
  split
  · next small =>
    have low : word.log2 ≤ 51 := by
      cases Nat.eq_zero_or_pos word with
      | inl zero => simp [zero]
      | inr positive => exact Nat.le_of_lt_succ ((Nat.log2_lt (Nat.ne_of_gt positive)).mpr small)
    have first : word / binade = 0 := Nat.div_eq_of_lt small
    omega
  · next large =>
    have fits : word % binade < binade := Nat.mod_lt _ (by decide)
    have lower : 2 ^ 52 ≤ binade + word % binade := Nat.le_add_right _ _
    have upper : binade + word % binade < 2 ^ 53 := by
      simp only [binade] at fits ⊢
      omega
    have highest : ((binade + word % binade) * 2 ^ (word / binade - 1)).log2 =
        52 + (word / binade - 1) := by
      apply log2_of_bounds
      · rw [Nat.pow_add]
        exact Nat.mul_le_mul_right _ lower
      · rw [Nat.add_right_comm, Nat.pow_add]
        exact Nat.mul_lt_mul_of_pos_right upper (Nat.two_pow_pos _)
    omega

/-- The ratio that a finite word stands for is rounded to the word. Its units are exact, so nothing
is lost in the division. -/
theorem nearestWord_units {word denominator : Nat} (finite : word < infinityWord)
    (positive : 0 < denominator) : nearestWord (units word * denominator) denominator = word := by
  have rounded : divideRounding (units word * denominator)
      (denominator * 2 ^ (word / binade - 1)) =
        if word < binade then word else binade + word % binade := by
    unfold units
    split
    · next small =>
      rw [Nat.div_eq_of_lt small]
      exact (congrArg _ (Nat.mul_one denominator)).trans (divideRounding_mul word denominator positive)
    · rw [Nat.mul_assoc, Nat.mul_comm denominator]
      exact divideRounding_mul _ _ (Nat.mul_pos (Nat.two_pow_pos _) positive)
  have whole : binade * (word / binade) + word % binade = word := Nat.div_add_mod word binade
  have same : (word / binade - 1) * binade +
      (if word < binade then word else binade + word % binade) = word := by
    split
    · next small => rw [Nat.div_eq_of_lt small, Nat.zero_sub, Nat.zero_mul, Nat.zero_add]
    · next large =>
      have atLeast : 1 * binade ≤ word / binade * binade :=
        Nat.mul_le_mul_right binade (Nat.div_pos (Nat.le_of_not_lt large) (by decide))
      rw [Nat.sub_mul, Nat.mul_comm (word / binade)] at *
      omega
  simp only [nearestWord, Nat.mul_div_cancel _ positive, log2_units, rounded, same]
  exact Nat.min_eq_right (Nat.le_of_lt finite)

end Binary64

namespace Decimal

/-- The exact expansion of a word reads back as the word, since its ratio is that of the units.
Powers of five times powers of two are the powers of ten by which it is shifted. -/
theorem toWord_exactDigits {word : Nat} (finite : word < Binary64.infinityWord) :
    (onGrid (exactDigits word) 0).toWord = word := by
  have below : ¬0 ≤ (onGrid (exactDigits word) 0).exponent := by simp [onGrid, exactPlaces]
  have places : (-(onGrid (exactDigits word) 0).exponent).toNat = exactPlaces := by
    simp [onGrid]
  have tens (count : Nat) : Binary64.units word * 5 ^ count * 2 ^ count =
      Binary64.units word * 10 ^ count := by
    rw [Nat.mul_assoc, ← Nat.mul_pow]
  have counted : (onGrid (exactDigits word) 0).digits * Binary64.unitsPerOne =
      Binary64.units word * 10 ^ exactPlaces := by
    have unit : Binary64.unitsPerOne = 2 ^ exactPlaces := by decide +kernel
    rw [unit]
    exact tens exactPlaces
  rw [toWord, if_neg below, places, counted]
  exact Binary64.nearestWord_units finite (Nat.pow_pos (by decide))

/-- So does what is found on a coarser grid, which is kept only if it reads back as the word. By
induction on the grids, from the coarsest one that is tried to the exact one. -/
theorem toWord_shortestWithin {word : Nat} (finite : word < Binary64.infinityWord) (limit : Nat) :
    (shortestWithin word (exactDigits word) limit).toWord = word := by
  induction limit with
  | zero => exact toWord_exactDigits finite
  | succ limit ih =>
    rw [shortestWithin]
    split
    · next digits chosen => exact toWord_of_neighbour? chosen
    · exact ih

/-- The decimal that is written for a finite magnitude reads back as this magnitude. -/
theorem toWord_shortest {word : Nat} (finite : word < Binary64.infinityWord) :
    (shortest word).toWord = word :=
  toWord_shortestWithin finite _

end Decimal

end Formula
