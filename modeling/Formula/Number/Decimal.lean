import Formula.Number.Binary64

/-!
# Decimals

A decimal is a whole number of units of a power of ten. This module reads one from its digits,
rounds it to binary64, and chooses for a binary64 magnitude the decimal with the fewest digits
that rounds back to it.

The choice starts from the exact decimal expansion, which every binary64 magnitude has, and drops
as many of its last places as it can: at each number of dropped places the two neighbours on the
remaining grid are tried, and of two that both read back the nearer wins, the upper one in a tie.
Dropping nothing leaves the exact expansion, so there is always an answer that reads back.
-/

namespace Formula

/-- The number `digits` times ten to the power `exponent`. -/
structure Decimal where
  digits : Nat
  exponent : Int
  deriving DecidableEq

namespace Decimal

-- Powers are those of whole numbers themselves, also where numbers are known as a monoid.
attribute [local instance (high)] instPowNat

/-- The number that a run of ASCII digits denotes. -/
abbrev natOfDigits (digits : List Char) : Nat := Nat.ofDigitChars 10 digits 0

/-- The decimal with these digits before and after its point. -/
def ofDigits (whole fraction : List Char) : Decimal :=
  ⟨natOfDigits (whole ++ fraction), -fraction.length⟩

/-- The word of the nearest binary64 magnitude. -/
def toWord (decimal : Decimal) : Nat :=
  if 0 ≤ decimal.exponent then
    Binary64.nearestWord (decimal.digits * 10 ^ decimal.exponent.toNat * Binary64.unitsPerOne) 1
  else
    Binary64.nearestWord (decimal.digits * Binary64.unitsPerOne)
      (10 ^ (-decimal.exponent).toNat)

/-- The nearest binary64 number with a given sign. -/
def toFloat (negative : Bool) (decimal : Decimal) : Float :=
  Binary64.ofWord negative decimal.toWord

/-- How many places the exact expansion of a binary64 number has after the point at most. -/
def exactPlaces : Nat := 1074

/-- The exact expansion of a word, counted in its last place: a unit of 2 to the power -1074 is
    5 to the power 1074 units of 10 to the power -1074. -/
def exactDigits (word : Nat) : Nat := Binary64.units word * 5 ^ exactPlaces

/-- The decimal that counts places of the exact expansion after `dropped` of them are gone. -/
def onGrid (digits dropped : Nat) : Decimal := ⟨digits, dropped - exactPlaces⟩

/-- Of the two neighbours of an exact expansion on the grid with `dropped` places less, the one
    that reads back as the word; if both do, the nearer one, and the upper in a tie. -/
def neighbour? (word exact dropped : Nat) : Option Nat :=
  let lower := exact / 10 ^ dropped
  let readsBack (digits : Nat) : Bool := (onGrid digits dropped).toWord == word
  if readsBack lower then
    if readsBack (lower + 1) && 10 ^ dropped ≤ 2 * (exact % 10 ^ dropped) then some (lower + 1)
    else some lower
  else if readsBack (lower + 1) then some (lower + 1)
  else none

/-- The neighbour with the most places dropped, at most `limit`, that reads back as the word, or
    the exact expansion itself. -/
def shortestWithin (word exact : Nat) : (limit : Nat) → Decimal
  | 0 => onGrid exact 0
  | limit + 1 =>
    match neighbour? word exact (limit + 1) with
    | some digits => onGrid digits (limit + 1)
    | none => shortestWithin word exact limit

/-- No fewer than the decimal places of a number: ten to the power 30103 is more than two to the
    power 100000. -/
def placesBound (number : Nat) : Nat := number.log2 * 30103 / 100000 + 2

/-- The decimal with the fewest digits that reads back as the word of a finite magnitude. -/
def shortest (word : Nat) : Decimal :=
  let exact := exactDigits word
  shortestWithin word exact (placesBound exact)

/-- A neighbour is only ever chosen if it reads back. Both neighbours on the grid are looked at, and
each is chosen on this condition alone. -/
theorem toWord_of_neighbour? {word exact dropped digits : Nat}
    (chosen : neighbour? word exact dropped = some digits) :
    (onGrid digits dropped).toWord = word := by
  unfold neighbour? at chosen
  dsimp only at chosen
  split at chosen
  · next lowerBack =>
    split at chosen
    · next upperBack =>
      obtain rfl := Option.some.inj chosen
      simp_all
    · obtain rfl := Option.some.inj chosen
      simpa using lowerBack
  · split at chosen
    · next upperBack =>
      obtain rfl := Option.some.inj chosen
      simpa using upperBack
    · simp at chosen

/-- The digits themselves, most significant first. -/
def digitText (decimal : Decimal) : List Char := Nat.toDigits 10 decimal.digits

/-- The power of ten that the first digit counts. -/
def leadingPlace (decimal : Decimal) : Int :=
  decimal.exponent + decimal.digitText.length - 1

/-- Digits on both sides of a point and never an exponent; zeros fill the places between the
    digits and the point, and a whole number ends in one zero after it. -/
def positional (decimal : Decimal) : List Char :=
  let digits := decimal.digitText
  if 0 ≤ decimal.exponent then
    digits ++ List.replicate decimal.exponent.toNat '0' ++ ['.', '0']
  else
    let places := (-decimal.exponent).toNat
    if places < digits.length then
      digits.take (digits.length - places) ++ '.' :: digits.drop (digits.length - places)
    else
      '0' :: '.' :: List.replicate (places - digits.length) '0' ++ digits

/-- One digit, a point and the others if there are others, and the power of ten. -/
def scientific (decimal : Decimal) : List Char :=
  let mantissa := match decimal.digitText with
    | lead :: second :: others => lead :: '.' :: second :: others
    | short => short
  mantissa ++ 'e' :: (toString decimal.leadingPlace).toList

end Decimal

end Formula
