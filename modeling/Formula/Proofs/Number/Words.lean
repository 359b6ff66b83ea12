import Formula.Number.Binary64
import Mathlib.Algebra.Ring.Nat

/-!
# Numbers and their words

A floating-point number is taken apart into a sign, an exponent and a fraction before anything is
computed with it, and put together afterwards. For a number as it is stored this changes nothing.
So a number is known by its sign and the word of its magnitude, and the word alone says whether it
is finite, infinite or no number.
-/

namespace Formula.Binary64

open Float.Model Float.Model.UnpackedFloat

/-- Numbers of 64 bits. -/
abbrev format : Format := .binary64

section Parts

/-- The exponent as it is stored. -/
abbrev exponent (bits : BitVec 64) : BitVec 11 := @unpackExponent format bits

/-- The fraction without the bit before it, which is not stored. -/
abbrev fraction (bits : BitVec 64) : BitVec 52 := @unpackMantissa format bits

/-- The first bit of a word. -/
abbrev signBit (bits : BitVec 64) : BitVec 1 := @unpackSign format bits

/-- The exponent is what stands above 52 bits, below the sign. -/
theorem toNat_exponent (bits : BitVec 64) :
    (exponent bits).toNat = bits.toNat / 2 ^ 52 % 2 ^ 11 := by
  simp [unpackExponent, BitVec.extractLsb, Nat.shiftRight_eq_div_pow]

/-- The fraction is the lowest 52 bits. -/
theorem toNat_fraction (bits : BitVec 64) : (fraction bits).toNat = bits.toNat % 2 ^ 52 := by
  simp [unpackMantissa, BitVec.extractLsb]

/-- The sign is what stands above 63 bits. -/
theorem toNat_signBit (bits : BitVec 64) : (signBit bits).toNat = bits.toNat / 2 ^ 63 := by
  have bound : bits.toNat < 2 ^ 64 := bits.isLt
  have highest : (signBit bits).toNat = bits.toNat / 2 ^ 63 % 2 := by
    have highBit : signBit bits = BitVec.extractLsb 63 63 bits := rfl
    simp [highBit, BitVec.extractLsb, Nat.shiftRight_eq_div_pow]
  omega

/-- A sign is its bit. -/
theorem toBitVec_ofBitVec (sign : BitVec 1) : (Sign.ofBitVec sign).toBitVec = sign := by
  revert sign
  decide

/-- The number that a word of given parts is. -/
theorem toNat_packComponents (sign : Sign) (exponent : BitVec 11) (fraction : BitVec 52) :
    (packComponents format sign exponent fraction).toNat =
      (sign.toBitVec.toNat * 2 ^ 11 + exponent.toNat) * 2 ^ 52 + fraction.toNat := by
  unfold packComponents
  rw [BitVec.toNat_append, BitVec.toNat_append, ← Nat.shiftLeft_add_eq_or_of_lt exponent.isLt,
    ← Nat.shiftLeft_add_eq_or_of_lt fraction.isLt, Nat.shiftLeft_eq, Nat.shiftLeft_eq]

/-- A word is made of its parts, as can be seen from the numbers that they are. -/
theorem packComponents_parts (bits : BitVec 64) :
    packComponents format (.ofBitVec (signBit bits)) (exponent bits) (fraction bits) = bits := by
  apply BitVec.eq_of_toNat_eq
  rw [toNat_packComponents, toBitVec_ofBitVec, toNat_exponent, toNat_fraction, toNat_signBit]
  omega

end Parts

section Packing

/-- The significand of a normal number has one bit more in front of its fraction. -/
theorem toNat_significand (fraction : BitVec 52) :
    (1#1 ++ fraction).toNat = 2 ^ 52 + fraction.toNat := by
  rw [BitVec.toNat_append, ← Nat.shiftLeft_add_eq_or_of_lt fraction.isLt]
  rfl

/-- Between two powers of two, the logarithm is the lower exponent. -/
theorem log2_of_bounds {number power : Nat} (lower : 2 ^ power ≤ number)
    (upper : number < 2 ^ (power + 1)) : number.log2 = power := by
  have positive : number ≠ 0 := by
    have := Nat.two_pow_pos power
    omega
  have atLeast := (Nat.le_log2 positive).mpr lower
  have atMost := (Nat.log2_lt positive).mpr upper
  omega

/-- A fraction alone is packed as a subnormal number, with the exponent zero, because its highest
bit is below that of a full significand. -/
theorem pack_subnormal (sign : Sign) (fraction : BitVec 52) (positive : 0 < fraction.toNat) :
    UnpackedFloat.pack format (.finite sign fraction.toNat (-1074) positive) =
      packComponents format sign 0#11 fraction := by
  have small : fraction.toNat.log2 < 52 :=
    (Nat.log2_lt (Nat.ne_of_gt positive)).mpr fraction.isLt
  have unsaved : fraction.toNat.log2 + 1 ≠ format.mantissaBits := by
    have saved : format.mantissaBits = 53 := rfl
    omega
  unfold UnpackedFloat.pack
  rw [if_neg (by decide), if_neg unsaved]
  simp

/-- A significand in full is packed with its exponent and without its first bit. The bias is taken
off and put on again, and the exponent stays below the highest one. -/
theorem pack_normal (sign : Sign) (exponent : BitVec 11) (fraction : BitVec 52) (power : Int)
    (biased : power = exponent.toNat - 1075) (notTop : exponent.toNat < 2047)
    (positive : 0 < (1#1 ++ fraction).toNat) :
    UnpackedFloat.pack format (.finite sign (1#1 ++ fraction).toNat power positive) =
      packComponents format sign exponent fraction := by
  have significand := toNat_significand fraction
  have small : fraction.toNat < 2 ^ 52 := fraction.isLt
  have highest : (1#1 ++ fraction).toNat.log2 = 52 := log2_of_bounds (by omega) (by omega)
  have restored : (power + format.exponentBias + format.mantissaBitsWithoutImplicit).toNat =
      exponent.toNat := by
    simp only [Format.exponentBias]
    omega
  have cut : BitVec.ofNat 52 (1#1 ++ fraction).toNat = fraction := by
    apply BitVec.eq_of_toNat_eq
    rw [BitVec.toNat_ofNat, significand]
    omega
  have inRange : ¬2 ^ 11 ≤ exponent.toNat + 1 := by omega
  unfold UnpackedFloat.pack
  dsimp only
  rw [restored, highest, if_neg inRange, if_pos (by decide), cut]
  simp

/-- Taking a word apart and putting it together again gives the word. By cases on the exponent: the
highest one is that of infinity, zero is that of subnormal numbers, and the others are those of
normal ones. -/
theorem pack_unpack {bits : BitVec 64} (valid : format.Valid bits) :
    UnpackedFloat.pack format (UnpackedFloat.unpack format bits) = bits := by
  have rebuilt {high : BitVec 11} {low : BitVec 52} (isExponent : exponent bits = high)
      (isFraction : fraction bits = low) :
      packComponents format (.ofBitVec (signBit bits)) high low = bits := by
    subst isExponent isFraction
    exact packComponents_parts bits
  unfold UnpackedFloat.unpack
  dsimp only
  by_cases top : exponent bits = -1#(format.exponentBits)
  · rw [if_pos top]
    by_cases vanishes : fraction bits = 0#(format.mantissaBitsWithoutImplicit)
    · rw [if_pos vanishes]
      exact rebuilt top vanishes
    · rw [if_neg vanishes]
      exact (valid.eq_packedNaN top vanishes).symm
  rw [if_neg top]
  by_cases bottom : exponent bits = 0#(format.exponentBits)
  · rw [if_pos bottom]
    by_cases vanishes : fraction bits = 0#(format.mantissaBitsWithoutImplicit)
    · rw [dif_pos vanishes]
      exact rebuilt bottom vanishes
    · rw [dif_neg vanishes, show @unpackExponent format bits = 0#11 from bottom]
      exact (pack_subnormal _ _ _).trans (rebuilt bottom rfl)
  · rw [if_neg bottom]
    have bound : (exponent bits).toNat < 2 ^ 11 := BitVec.isLt _
    have differs : (exponent bits).toNat ≠ 2047 := by
      intro same
      exact top (BitVec.eq_of_toNat_eq same)
    have finite : (exponent bits).toNat < 2047 := by omega
    exact (pack_normal _ _ _ _ rfl finite _).trans (rebuilt rfl rfl)

end Packing

/-- A number is made of its bits. -/
theorem ofBits_toBits (x : Float) : Float.ofBits x.toBits = x := by
  obtain ⟨⟨bits, valid⟩⟩ := x
  have whole : (Float.ofBits (Float.ofModel ⟨bits, valid⟩).toBits).toModel.toBits = bits :=
    congrArg UInt64.ofBitVec (pack_unpack valid)
  have determined (model : Float.Model) (same : model.toBits = bits) :
      Float.ofModel model = Float.ofModel ⟨bits, valid⟩ := by
    obtain ⟨_, _⟩ := model
    subst same
    rfl
  exact determined _ whole

/-- A number is made of its sign and the word of its magnitude. The sign is the highest bit, and the
word is all the others. -/
theorem ofWord_word (x : Float) : ofWord (isNegative x) (word x) = x := by
  have bound : x.toBits.toNat < 2 ^ 64 := x.toBits.toNat_lt
  have whole : (if isNegative x then word x + 2 ^ 63 else word x) = x.toBits.toNat := by
    unfold isNegative word
    split
    · next negative =>
      have := of_decide_eq_true negative
      omega
    · next positive =>
      have : ¬2 ^ 63 ≤ x.toBits.toNat := by simpa using positive
      omega
  rw [ofWord, whole, UInt64.ofNat_toNat, ofBits_toBits]

section Classes

variable (x : Float)

/-- The magnitude of a number is the word of its exponent and its fraction. -/
theorem word_eq : word x = (exponent x.toBits.toBitVec).toNat * 2 ^ 52 +
    (fraction x.toBits.toBitVec).toNat := by
  rw [toNat_exponent, toNat_fraction, word, UInt64.toNat_toBitVec]
  omega

/-- What is not finite has the highest exponent, and infinity has no fraction. By cases on the
exponent and on the fraction, as numbers are unpacked. -/
theorem unpack_class (bits : BitVec 64) :
    ((UnpackedFloat.unpack format bits).isFinite = true ↔ (exponent bits).toNat ≠ 2047) ∧
      ((UnpackedFloat.unpack format bits).isNaN = true ↔
        (exponent bits).toNat = 2047 ∧ (fraction bits).toNat ≠ 0) := by
  have isTop : exponent bits = -1#11 ↔ (exponent bits).toNat = 2047 := BitVec.toNat_inj.symm
  have vanishes : fraction bits = 0#52 ↔ (fraction bits).toNat = 0 := BitVec.toNat_inj.symm
  rw [ne_eq, ← isTop, ne_eq, ← vanishes]
  unfold UnpackedFloat.unpack
  dsimp only
  by_cases top : exponent bits = -1#(format.exponentBits)
  · rw [if_pos top]
    by_cases nothing : fraction bits = 0#(format.mantissaBitsWithoutImplicit)
    · rw [if_pos nothing]
      exact ⟨iff_of_false Bool.false_ne_true fun other => other top,
        iff_of_false Bool.false_ne_true fun both => both.2 nothing⟩
    · rw [if_neg nothing]
      exact ⟨iff_of_false Bool.false_ne_true fun other => other top, iff_of_true rfl ⟨top, nothing⟩⟩
  rw [if_neg top]
  have ordinary (number : UnpackedFloat) (finite : number.isFinite = true)
      (isNumber : number.isNaN = false) :
      (number.isFinite = true ↔ ¬exponent bits = -1#11) ∧
        (number.isNaN = true ↔ exponent bits = -1#11 ∧ ¬fraction bits = 0#52) := by
    rw [isNumber]
    exact ⟨iff_of_true finite top, iff_of_false Bool.false_ne_true fun both => top both.1⟩
  by_cases bottom : exponent bits = 0#(format.exponentBits)
  · rw [if_pos bottom]
    by_cases nothing : fraction bits = 0#(format.mantissaBitsWithoutImplicit)
    · rw [dif_pos nothing]
      exact ordinary _ rfl rfl
    · rw [dif_neg nothing]
      exact ordinary _ rfl rfl
  · rw [if_neg bottom]
    exact ordinary _ rfl rfl

/-- The words of finite numbers are those below infinity. -/
theorem isFinite_iff : x.isFinite = true ↔ word x < infinityWord := by
  have bound : (exponent x.toBits.toBitVec).toNat < 2 ^ 11 := BitVec.isLt _
  have bound' : (fraction x.toBits.toBitVec).toNat < 2 ^ 52 := BitVec.isLt _
  rw [word_eq, infinityWord]
  refine (unpack_class x.toBits.toBitVec).1.trans ?_
  omega

/-- The words of what is no number are those above infinity. -/
theorem isNaN_iff : x.isNaN = true ↔ infinityWord < word x := by
  have bound : (exponent x.toBits.toBitVec).toNat < 2 ^ 11 := BitVec.isLt _
  have bound' : (fraction x.toBits.toBitVec).toNat < 2 ^ 52 := BitVec.isLt _
  rw [word_eq, infinityWord]
  refine (unpack_class x.toBits.toBitVec).2.trans ?_
  omega

end Classes

end Formula.Binary64
