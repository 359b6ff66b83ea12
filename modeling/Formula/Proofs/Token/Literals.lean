import Formula.Proofs.Number.Positional
import Formula.Proofs.Token.Words
import Formula.Value

/-!
# Literals and the values they denote

The text of a number without a sign, of a string without quotes in it, and of a truth value is a
literal that denotes the value again. A number with a sign is no literal, because the sign is a
symbol by itself; infinity and what is no number are names.
-/

namespace Formula

open CharClass

namespace Front

/-- What begins with a digit is read as a number, as a digit is neither a blank nor a slash. -/
theorem ofChars_digit {c : Char} (digit : isDigit c = true) (later : List Char) :
    ofChars c later = number (c :: later) := by
  have noSlash : c ≠ '/' := by
    rintro rfl
    cases digit
  simp [ofChars, (classes_of_isDigit digit).1, noSlash, digit]

section Numbers

variable {whole fraction : List Char} (digits : ∀ c ∈ whole, isDigit c = true)

include digits

/-- Digits alone are a whole number. -/
theorem number_of_digits :
    number whole = (integerLiteral whole).map fun content => ⟨.token content, whole, []⟩ := by
  obtain ⟨-, taken, dropped⟩ := Front.mk.inj (run_of_all .remark digits)
  simp only [number, taken, dropped, fraction?]

/-- Digits, a point and digits are a floating-point number. The first run of digits ends at the
point, and the second at the end. -/
theorem number_of_point (digits' : ∀ c ∈ fraction, isDigit c = true) (places : fraction ≠ []) :
    number (whole ++ '.' :: fraction) = (floatLiteral whole fraction).map fun content =>
      ⟨.token content, whole ++ '.' :: fraction, []⟩ := by
  have point : isDigit '.' = false := by decide
  obtain ⟨-, taken, dropped⟩ := Front.mk.inj (run_of_all .remark digits')
  have parted : fraction? ('.' :: fraction) = some (fraction, []) := by
    cases fraction with
    | nil => exact absurd rfl places
    | cons c later =>
      have digit : isDigit c = true := digits' c (by simp)
      rw [fraction?, if_pos digit, taken, dropped]
  simp [number, List.takeWhile_append_of_pos digits, List.dropWhile_append_of_pos digits, point,
    parted]

end Numbers

/-- What is read as a number is a token, if it begins with a digit. -/
theorem stands_of_number {content : Token.Content} {chars : List Char} (nonempty : chars ≠ [])
    (begins : ∀ c ∈ chars.head?, isDigit c = true)
    (read : number chars = .ok ⟨.token content, chars, []⟩) : Stands content chars := by
  cases chars with
  | nil => exact absurd rfl nonempty
  | cons c later => exact ⟨c, later, rfl, (ofChars_digit (begins c rfl) later).trans read⟩

/-- Digits that denote a whole number of 64 bits are a literal of it. -/
theorem stands_of_digits {digits : List Char} {value : Int64} (nonempty : digits ≠ [])
    (all : ∀ c ∈ digits, isDigit c = true)
    (fits : Checked.ofInt? (Nat.ofDigitChars 10 digits 0) = some value) :
    Stands (.integer value) digits := by
  have denoted : integerLiteral digits = .ok (.integer value) := by
    rw [integerLiteral, fits, Option.elim_some]
  refine stands_of_number nonempty ?_ ?_
  · exact fun c isHead => all c (List.mem_of_mem_head? isHead)
  · rw [number_of_digits all, denoted, Except.map]

/-- A whole number without a sign is its own literal: its digits denote it, and it is in range. -/
theorem stands_integer {value : Int64} (natural : 0 ≤ value.toInt) :
    Stands (.integer value) (toString value.toInt).toList := by
  obtain ⟨count, isCount⟩ := Int.eq_ofNat_of_zero_le natural
  have written : (toString value.toInt).toList = Nat.toDigits 10 count := by
    rw [isCount]
    exact Nat.toList_repr
  rw [written]
  refine stands_of_digits Nat.toDigits_ne_nil ?_ ?_
  · exact fun c member => Decimal.isDigit_of_mem_toDigits member
  · rw [Nat.ofDigitChars_ten_toDigits, Checked.ofInt?_eq_some_iff, isCount]

/-- A finite number without a sign is its own literal, since the decimal that is written for it
rounds to it. -/
theorem stands_float {x : Float} (finite : x.isFinite = true)
    (unsigned : Binary64.isNegative x = false) :
    Stands (.float x) (FloatText.write FloatText.plain x).toList := by
  obtain ⟨whole, fraction, decimal, written, spells, rounds⟩ :=
    FloatText.spells_write finite unsigned
  have denoted : (Decimal.ofDigits whole fraction).toFloat false = x := by
    rw [Decimal.toFloat, spells.rounds, rounds, ← unsigned, Binary64.ofWord_word]
  rw [written]
  refine stands_of_number (by simp) ?_ ?_
  · intro c isHead
    rw [List.head?_append, Option.or_of_isSome (by simpa using spells.begun)] at isHead
    exact spells.digits c (List.mem_of_mem_head? isHead)
  · rw [number_of_point spells.digits spells.digits' spells.places, floatLiteral]
    simp only [denoted, finite]
    rfl

/-- A string without quotes in it is its own literal between quotes. -/
theorem stands_string {text : String} (free : '"' ∉ text.toList) :
    Stands (.string text) ('"' :: text.toList ++ ['"']) := by
  refine ⟨'"', text.toList ++ ['"'], rfl, ?_⟩
  have opened (later : List Char) : ofChars '"' later = string later := rfl
  rw [opened, string_of_quote free, String.ofList_toList]

/-- A truth value is its own literal. -/
theorem stands_boolean (truth : Bool) :
    Stands (.boolean truth) (if truth then "true" else "false").toList := by
  cases truth with
  | true => exact ⟨'t', ['r', 'u', 'e'], rfl, rfl⟩
  | false => exact ⟨'f', ['a', 'l', 's', 'e'], rfl, rfl⟩

/-- Infinity without a sign and what is no number are called by names, since their texts begin like
names and are no truth values. -/
theorem stands_nameless {x : Float} (other : x.isFinite = false)
    (unsigned : x.isNaN = true ∨ Binary64.isNegative x = false) :
    Stands .name (FloatText.write FloatText.plain x).toList := by
  cases FloatText.write_nameless other unsigned with
  | inl written =>
    rw [written]
    exact ⟨'i', ['n', 'f'], rfl, rfl⟩
  | inr written =>
    rw [written]
    exact ⟨'N', ['a', 'N'], rfl, rfl⟩

end Front

end Formula
