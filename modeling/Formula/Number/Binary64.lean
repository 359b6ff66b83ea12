/-!
# Binary64 numbers as whole counts of a least unit

Every finite binary64 magnitude is a whole number of units of 2 to the power -1074, the least
positive one. Read as a natural number, the word of a magnitude (the bit pattern without its
sign) counts these magnitudes in ascending order, with infinity right after the largest. Both
ways between a word and its units are therefore exact arithmetic on natural numbers: a word gives
its units, and a ratio of units is rounded to the nearest word, a tie going to the even one.
-/

namespace Formula.Binary64

-- Powers are those of whole numbers themselves, also where numbers are known as a monoid.
attribute [local instance (high)] instPowNat

/-- How many words share one power of two. -/
def binade : Nat := 2 ^ (52 : Nat)

/-- How many least units make one. -/
def unitsPerOne : Nat := 2 ^ (1074 : Nat)

/-- The word of infinity. Smaller words are finite magnitudes, larger ones are no numbers. -/
def infinityWord : Nat := 2047 * 2 ^ (52 : Nat)

/-- The word of a number's magnitude. -/
def word (x : Float) : Nat := x.toBits.toNat % 2 ^ (63 : Nat)

/-- Whether the sign bit is set, as it also is in negative zero. -/
def isNegative (x : Float) : Bool := 2 ^ (63 : Nat) ≤ x.toBits.toNat

/-- The number with a given sign and magnitude. -/
def ofWord (negative : Bool) (word : Nat) : Float :=
  Float.ofBits (UInt64.ofNat (if negative then word + 2 ^ (63 : Nat) else word))

/-- How many units a finite word stands for. Words of the first binade count units one by one;
    in each later binade the step between neighbours doubles. -/
def units (word : Nat) : Nat :=
  if word < binade then word else (binade + word % binade) * 2 ^ (word / binade - 1)

/-- The quotient rounded to the nearest whole number, a tie to the even one. -/
def divideRounding (numerator denominator : Nat) : Nat :=
  let quotient := numerator / denominator
  let doubled := 2 * (numerator % denominator)
  if doubled < denominator then quotient
  else if doubled = denominator then quotient + quotient % 2
  else quotient + 1

/-- The word nearest to a ratio of units. The ratio is first scaled to the step of the binade it
    falls in. Rounding up to the next binade and past the largest finite word needs no case of
    its own, because words of neighbouring binades follow each other. -/
def nearestWord (numerator denominator : Nat) : Nat :=
  let halvings := (numerator / denominator).log2 - 52
  min infinityWord
    (halvings * binade + divideRounding numerator (denominator * 2 ^ halvings))

/-- A quotient without remainder is not rounded. -/
theorem divideRounding_mul (quotient denominator : Nat) (positive : 0 < denominator) :
    divideRounding (quotient * denominator) denominator = quotient := by
  simp [divideRounding, positive]

end Formula.Binary64
