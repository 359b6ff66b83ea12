import Formula.Number.FloatText
import Formula.Proofs.Number.Shortest
import Formula.Text.CharClass

/-!
# What digits say

Digits are read back as the number that was written with them, and zeros before them or after the
point do not change it. So a decimal written without an exponent has digits on both sides of its
point, which denote a number that rounds as the decimal does.
-/

namespace Formula

open CharClass

namespace Decimal

/-- The digits of a number are digits. -/
theorem isDigit_of_mem_toDigits {number : Nat} {c : Char} (member : c ∈ Nat.toDigits 10 number) :
    isDigit c = true := by
  have digit := Nat.isDigit_of_mem_toDigits (by decide) (by decide) member
  simpa [isDigit, Char.isDigit, Char.le_def] using digit

/-- Zeros after digits multiply their number. -/
theorem ofDigitChars_append_zeros (digits : List Char) (count : Nat) :
    Nat.ofDigitChars 10 (digits ++ List.replicate count '0') 0 =
      Nat.ofDigitChars 10 digits 0 * 10 ^ count := by
  rw [Nat.ofDigitChars_append, Nat.ofDigitChars_replicate_zero, Nat.mul_comm]

/-- Zeros before digits leave it as it is. -/
theorem ofDigitChars_zeros_append (digits : List Char) (count : Nat) :
    Nat.ofDigitChars 10 (List.replicate count '0' ++ digits) 0 = Nat.ofDigitChars 10 digits 0 := by
  rw [Nat.ofDigitChars_append, Nat.ofDigitChars_replicate_zero, Nat.mul_zero]

/-- A decimal with some places after its point stands for a ratio. -/
theorem toWord_places (digits places : Nat) :
    toWord ⟨digits, -(places : Int)⟩ =
      Binary64.nearestWord (digits * Binary64.unitsPerOne) (10 ^ places) := by
  unfold toWord
  cases places with
  | zero => simp
  | succ places =>
    have below : ¬(0 : Int) ≤ -((places + 1 : Nat) : Int) := by omega
    rw [if_neg below, Int.neg_neg, Int.toNat_natCast]

/-- Digits on both sides of a point that denote what rounds as a decimal does. -/
structure Spells (whole fraction : List Char) (decimal : Decimal) : Prop where
  begun : whole ≠ []
  digits : ∀ c ∈ whole, isDigit c = true
  places : fraction ≠ []
  digits' : ∀ c ∈ fraction, isDigit c = true
  rounds : (ofDigits whole fraction).toWord = decimal.toWord

variable (decimal : Decimal)

/-- A whole number ends in a zero after its point. The zeros after its digits make up for its
exponent, and the one after the point multiplies both sides of the ratio by ten. -/
theorem spells_whole (whole : 0 ≤ decimal.exponent) :
    Spells (decimal.digitText ++ List.replicate decimal.exponent.toNat '0') ['0'] decimal where
  begun := by simp [digitText]
  digits := by
    intro c member
    cases List.mem_append.mp member with
    | inl member => exact isDigit_of_mem_toDigits member
    | inr member =>
      rw [List.eq_of_mem_replicate member]
      rfl
  places := by simp
  digits' := by simp [isDigit]
  rounds := by
    have shifted : Nat.ofDigitChars 10 (decimal.digitText ++
        List.replicate decimal.exponent.toNat '0' ++ List.replicate 1 '0') 0 =
          decimal.digits * 10 ^ decimal.exponent.toNat * 10 := by
      rw [ofDigitChars_append_zeros, ofDigitChars_append_zeros, digitText,
        Nat.ofDigitChars_ten_toDigits, Nat.pow_one]
    have read : ofDigits (decimal.digitText ++ List.replicate decimal.exponent.toNat '0') ['0'] =
        ⟨decimal.digits * 10 ^ decimal.exponent.toNat * 10, -(1 : Nat)⟩ :=
      congrArg (Decimal.mk · (-(1 : Nat))) shifted
    rw [read, toWord_places, toWord, if_pos whole, Nat.mul_right_comm _ 10]
    exact Binary64.nearestWord_mul_mul _ 1 (by decide)

/-- The same digits with the point at the same place are the same decimal. -/
theorem toWord_ofDigits {whole fraction : List Char} (below : ¬0 ≤ decimal.exponent)
    (same : Nat.ofDigitChars 10 (whole ++ fraction) 0 = decimal.digits)
    (counted : fraction.length = (-decimal.exponent).toNat) :
    (ofDigits whole fraction).toWord = decimal.toWord := by
  have place : -(fraction.length : Int) = decimal.exponent := by omega
  rw [ofDigits, natOfDigits, same, place]

/-- A point inside the digits parts them, with as many after it as the exponent is below zero. -/
theorem spells_parted (below : ¬0 ≤ decimal.exponent)
    (inside : (-decimal.exponent).toNat < decimal.digitText.length) :
    Spells (decimal.digitText.take (decimal.digitText.length - (-decimal.exponent).toNat))
      (decimal.digitText.drop (decimal.digitText.length - (-decimal.exponent).toNat)) decimal where
  begun := by
    rw [ne_eq, List.take_eq_nil_iff, ← List.length_eq_zero_iff]
    omega
  digits := fun c member => isDigit_of_mem_toDigits (List.mem_of_mem_take member)
  places := by
    rw [ne_eq, List.drop_eq_nil_iff]
    omega
  digits' := fun c member => isDigit_of_mem_toDigits (List.mem_of_mem_drop member)
  rounds := by
    refine decimal.toWord_ofDigits below ?_ ?_
    · rw [List.take_append_drop, digitText, Nat.ofDigitChars_ten_toDigits]
    · rw [List.length_drop]
      omega

/-- Zeros fill the places between the point and the digits, and do not change their number. -/
theorem spells_filled (below : ¬0 ≤ decimal.exponent)
    (outside : ¬(-decimal.exponent).toNat < decimal.digitText.length) :
    Spells ['0'] (List.replicate ((-decimal.exponent).toNat - decimal.digitText.length) '0' ++
      decimal.digitText) decimal where
  begun := by simp
  digits := by simp [isDigit]
  places := by simp [digitText]
  digits' := by
    intro c member
    cases List.mem_append.mp member with
    | inl member =>
      rw [List.eq_of_mem_replicate member]
      rfl
    | inr member => exact isDigit_of_mem_toDigits member
  rounds := by
    refine decimal.toWord_ofDigits below ?_ ?_
    · have led : Nat.ofDigitChars 10 ('0' :: (List.replicate
          ((-decimal.exponent).toNat - decimal.digitText.length) '0' ++ decimal.digitText)) 0 =
          Nat.ofDigitChars 10 decimal.digitText 0 :=
        ofDigitChars_zeros_append decimal.digitText _
      exact led.trans Nat.ofDigitChars_ten_toDigits
    · rw [List.length_append, List.length_replicate]
      omega

/-- A decimal written without an exponent. By cases on where the point is: after the digits, inside
them or before them. -/
theorem spells_positional : ∃ whole fraction, decimal.positional = whole ++ '.' :: fraction ∧
    Spells whole fraction decimal := by
  unfold positional
  dsimp only
  split
  · next whole => exact ⟨_, _, rfl, decimal.spells_whole whole⟩
  · next below =>
    split
    · next inside => exact ⟨_, _, rfl, decimal.spells_parted below inside⟩
    · next outside => exact ⟨_, _, rfl, decimal.spells_filled below outside⟩

end Decimal

namespace FloatText

/-- Plain text writes the shortest decimal without an exponent. -/
theorem magnitude_plain (word : Nat) :
    magnitude plain word = (Decimal.shortest word).positional := by
  simp only [magnitude, plain, if_true]

variable {x : Float}

/-- The text of a finite number without a sign spells a decimal that rounds to the number. That
decimal is the shortest one, of which it is known that it reads back; zero is written apart. -/
theorem spells_write (finite : x.isFinite = true) (unsigned : Binary64.isNegative x = false) :
    ∃ whole fraction decimal, (write plain x).toList = whole ++ '.' :: fraction ∧
      Decimal.Spells whole fraction decimal ∧ decimal.toWord = Binary64.word x := by
  have below := (Binary64.isFinite_iff x).mp finite
  have isNumber : x.isNaN = false := by
    rw [← Bool.not_eq_true, Binary64.isNaN_iff]
    omega
  simp only [write, isNumber, unsigned, Nat.ne_of_lt below, Bool.false_eq_true, if_false,
    String.toList_ofList]
  split
  · next zero =>
    refine ⟨['0'], ['0'], ⟨0, 0⟩, rfl, Decimal.spells_whole ⟨0, 0⟩ (Int.le_refl 0), ?_⟩
    rw [zero]
    simp [Decimal.toWord, Binary64.nearestWord, Binary64.divideRounding]
  · obtain ⟨whole, fraction, written, spells⟩ :=
      (Decimal.shortest (Binary64.word x)).spells_positional
    refine ⟨whole, fraction, _, ?_, spells, Decimal.toWord_shortest below⟩
    rw [magnitude_plain, written]

/-- The text of a number with a sign begins with the sign. -/
theorem write_signed (isNumber : x.isNaN = false) (signed : Binary64.isNegative x = true) :
    ∃ rest, (write plain x).toList = '-' :: rest := by
  simp only [write, isNumber, signed, Bool.false_eq_true, if_false, if_true, String.toList_ofList]
  exact ⟨_, rfl⟩

/-- Infinity and what is no number have texts without digits. What is neither finite nor no number
has the word of infinity. -/
theorem write_nameless (other : x.isFinite = false)
    (unsigned : x.isNaN = true ∨ Binary64.isNegative x = false) :
    write plain x = "inf" ∨ write plain x = "NaN" := by
  by_cases isNumber : x.isNaN = true
  · exact .inr (if_pos isNumber)
  · have notBelow : ¬Binary64.word x < Binary64.infinityWord := by
      rw [← Binary64.isFinite_iff, other]
      exact Bool.false_ne_true
    have infinite : Binary64.word x = Binary64.infinityWord := by
      rw [Binary64.isNaN_iff] at isNumber
      omega
    refine .inl ?_
    rw [write, if_neg isNumber]
    simp only [infinite, if_true, unsigned.resolve_left isNumber, Bool.false_eq_true, if_false]

/-- The text of a number is made of digits, a point, a sign, and the letters of what has no
digits. -/
theorem mem_write (x : Float) : ∀ c ∈ (write plain x).toList,
    isDigit c = true ∨ c ∈ ['-', '.', 'i', 'n', 'f', 'N', 'a'] := by
  have digits : ∀ c ∈ magnitude plain (Binary64.word x),
      isDigit c = true ∨ c ∈ ['-', '.', 'i', 'n', 'f', 'N', 'a'] := by
    obtain ⟨whole, fraction, written, spells⟩ :=
      (Decimal.shortest (Binary64.word x)).spells_positional
    rw [magnitude_plain, written]
    intro c member
    obtain before | ⟨⟩ | ⟨_, after⟩ := List.mem_append.mp member
    · exact .inl (spells.digits c before)
    · exact .inr (by decide)
    · exact .inl (spells.digits' c after)
  by_cases isNumber : x.isNaN = true
  · rw [write, if_pos isNumber]
    simp
  · rw [write, if_neg isNumber]
    simp only [String.toList_ofList]
    have unsigned : ∀ c ∈ if Binary64.word x = Binary64.infinityWord then ['i', 'n', 'f']
        else if Binary64.word x = 0 then ['0', '.', '0'] else magnitude plain (Binary64.word x),
        isDigit c = true ∨ c ∈ ['-', '.', 'i', 'n', 'f', 'N', 'a'] := by
      split
      · simp
      · split
        · simp [isDigit]
        · exact digits
    split
    · exact List.forall_mem_cons.mpr ⟨.inr (by decide), unsigned⟩
    · exact unsigned

end FloatText

end Formula
