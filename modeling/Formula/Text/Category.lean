/-!
# Character categories

The categories of characters that this language tells apart. They are the general categories of
the Unicode standard, coarsened where no rule here sees the difference and split where one does.
Names and words are read by an earlier version of the standard than texts are shown by, and what
the later one adds has a category to itself. A character has exactly one category, so classes
defined by category are disjoint when their categories are.
-/

namespace Formula

/-- What kind of character a code point is. -/
inductive Category where
  /-- A letter of any script. -/
  | letter
  /-- A letter that shows nothing and only fills the place of another. -/
  | filler
  /-- A mark that extends the character before it when shown. -/
  | extendingMark
  /-- A mark that takes up room of its own. -/
  | spacingMark
  /-- A digit of a decimal system. -/
  | decimalDigit
  /-- A numeral made of a letter. -/
  | letterNumber
  /-- Any other numeral: fractions, superscripts, circled numbers. -/
  | otherNumber
  /-- Punctuation that joins words, such as the underscore. -/
  | connector
  /-- A symbol made of a letter, such as a circled one. -/
  | letterlikeSymbol
  /-- Any other punctuation or symbol. -/
  | graphic
  /-- A space, or a separator of lines or paragraphs. -/
  | separator
  /-- One of the two characters that say whether their neighbours join. -/
  | joiner
  /-- A character with a shape of its own that is younger than the rules of names and words:
      it can be shown, and is part of neither. -/
  | recent
  /-- A control or format character, or a code point with no character. -/
  | other
  deriving DecidableEq

namespace Category

/-- The category at `code`, found in runs given by their first code points in ascending order;
    `current` is the category of the run that reaches up to the first of them. -/
def seek (code : Nat) (current : Category) : List (Nat × Category) → Category
  | [] => current
  | (start, next) :: later => if code < start then current else seek code next later

/-- Letters, which may begin a name. -/
def isLetter : Category → Bool
  | letter | filler => true
  | _ => false

/-- Numerals, which may stand in a name after its first character. -/
def isNumber : Category → Bool
  | decimalDigit | letterNumber | otherNumber => true
  | _ => false

/-- The characters of a word. Fractions and superscripts are not among them, marks are. -/
def isWord : Category → Bool
  | letter | filler | extendingMark | spacingMark | decimalDigit | letterNumber
  | connector | letterlikeSymbol | joiner => true
  | otherNumber | graphic | recent | separator | other => false

/-- What can be shown by itself in a quotation: all that leaves a mark and needs no neighbour. -/
def isVisible : Category → Bool
  | letter | spacingMark | decimalDigit | letterNumber | otherNumber | connector
  | letterlikeSymbol | graphic | recent => true
  | filler | extendingMark | separator | joiner | other => false

/-- Letters belong to words. -/
theorem isWord_of_isLetter (category : Category) (letter : category.isLetter = true) :
    category.isWord = true := by
  cases category <;> simp_all [isLetter, isWord]

end Category

end Formula
