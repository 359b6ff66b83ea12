import Formula.Number.Decimal

/-!
# How floating-point numbers are written

Numbers are written with the fewest digits that read back as the same number. The two ways of
writing here differ only in which magnitudes are given an exponent: the text of a value never has
one, the outline of a value has one outside a middle range.
-/

namespace Formula.FloatText

/-- Which numbers are written without an exponent, by the power of ten of the first digit. -/
structure Style where
  positional : Int → Bool

/-- No number is given an exponent. -/
def plain : Style := ⟨fun _ => true⟩

/-- Numbers from a ten-thousandth up to, not including, ten to the sixteenth have no exponent. -/
def compact : Style := ⟨fun place => -4 ≤ place && place < 16⟩

/-- The text of a positive finite magnitude. -/
def magnitude (style : Style) (word : Nat) : List Char :=
  let decimal := Decimal.shortest word
  if style.positional decimal.leadingPlace then decimal.positional else decimal.scientific

/-- The text of any number. Both zeros keep their signs, and what is no number has none. -/
def write (style : Style) (x : Float) : String :=
  if x.isNaN then "NaN"
  else
    let word := Binary64.word x
    let text :=
      if word = Binary64.infinityWord then ['i', 'n', 'f']
      else if word = 0 then ['0', '.', '0']
      else magnitude style word
    String.ofList (if Binary64.isNegative x then '-' :: text else text)

end Formula.FloatText
