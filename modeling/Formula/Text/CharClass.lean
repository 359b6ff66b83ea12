import Formula.Text.CategoryTable

/-!
# Character classes

The classes by which a text is read: blanks between tokens, the characters of names and words,
and the ASCII digits of numbers. Each is a set of categories with the exceptions of its rule, so
that the categories decide which classes are disjoint.
-/

namespace Formula

/-- The category of a character. -/
def categoryOf (c : Char) : Category := Category.seek c.toNat .other Category.runs

namespace CharClass

/-- White space: every separator, and the control characters that move the place of writing. -/
def isBlank (c : Char) : Bool :=
  (9 ≤ c.toNat && c.toNat ≤ 13) || c.toNat == 0x85 || categoryOf c == .separator

/-- The ten digits that numbers are written with. -/
def isDigit (c : Char) : Bool := '0' ≤ c && c ≤ '9'

/-- A name begins with a letter or an underscore. -/
def isNameStart (c : Char) : Bool := c == '_' || (categoryOf c).isLetter

/-- A name goes on with letters, numerals and underscores. -/
def isNamePart (c : Char) : Bool := isNameStart c || (categoryOf c).isNumber

/-- The characters between which no word ends. -/
def isWordPart (c : Char) : Bool := (categoryOf c).isWord

/-- Whatever begins a name may go on with it. -/
theorem isNamePart_of_isNameStart (c : Char) (start : isNameStart c = true) :
    isNamePart c = true := by
  simp [isNamePart, start]

/-- Whatever begins a name belongs to a word. -/
theorem isWordPart_of_isNameStart (c : Char) (start : isNameStart c = true) :
    isWordPart c = true := by
  cases Bool.or_eq_true_iff.mp start with
  | inl underscore =>
    obtain rfl : c = '_' := by simpa using underscore
    decide +kernel
  | inr letter => exact (categoryOf c).isWord_of_isLetter letter

/-- Within ASCII a name part and a word part are the same thing. -/
theorem isNamePart_ascii : ∀ code : Fin 128,
    isNamePart (Char.ofNat code) = isWordPart (Char.ofNat code) := by
  decide +kernel

/-- A digit is no blank, begins no name, and goes on with one. -/
theorem isDigit_ascii : ∀ code : Fin 128, isDigit (Char.ofNat code) = true →
    isBlank (Char.ofNat code) = false ∧ isNameStart (Char.ofNat code) = false ∧
      isNamePart (Char.ofNat code) = true := by
  decide +kernel

/-- The digits are ten code points in a row. -/
theorem toNat_of_isDigit {c : Char} (digit : isDigit c = true) :
    48 ≤ c.toNat ∧ c.toNat ≤ 57 := by
  simpa [isDigit, Char.le_def, UInt32.le_iff_toNat_le] using digit

/-- The same of any digit, since all digits belong to ASCII. -/
theorem classes_of_isDigit {c : Char} (digit : isDigit c = true) :
    isBlank c = false ∧ isNameStart c = false ∧ isNamePart c = true := by
  have bounds := toNat_of_isDigit digit
  have ascii := isDigit_ascii ⟨c.toNat, by omega⟩
  rw [Char.ofNat_toNat] at ascii
  exact ascii digit

/-- No blank is a part of a name or of a word. Up to the controls this is checked one by one; past
them a blank is a separator by its category. -/
theorem not_inWord_of_isBlank {c : Char} (blank : isBlank c = true) :
    isNamePart c = false ∧ isWordPart c = false := by
  by_cases early : c.toNat < 0x86
  · have listed : ∀ code : Fin 0x86, isBlank (Char.ofNat code) = true →
        isNamePart (Char.ofNat code) = false ∧ isWordPart (Char.ofNat code) = false := by
      decide +kernel
    have known := listed ⟨c.toNat, early⟩
    rw [Char.ofNat_toNat] at known
    exact known blank
  · -- Past the controls the only blanks are the separators, which are no letters or numerals.
    have separator : categoryOf c = .separator := by
      simp only [isBlank, Bool.or_eq_true, Bool.and_eq_true, decide_eq_true_eq, beq_iff_eq] at blank
      rcases blank with (control | nextLine) | separator
      · omega
      · omega
      · exact separator
    have other : c ≠ '_' := by
      rintro rfl
      exact early (by decide)
    simp [isNamePart, isNameStart, isWordPart, separator, other, Category.isLetter,
      Category.isNumber, Category.isWord]

end CharClass

end Formula
