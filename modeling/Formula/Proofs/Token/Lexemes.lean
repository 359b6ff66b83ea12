import Formula.Proofs.Token.Found
import Formula.Proofs.Token.Literals
import Formula.Proofs.Token.Spelling

/-!
# Tokens by themselves

Where no fault is found, no token owes anything to its neighbours: its characters by themselves are
the same token. Numbers, strings and symbols end where they end. A name ends before the first
character that is no part of names, and it could owe to this character that it is no truth value:
before a combining mark `true` is a name, by itself it is none. But no piece of a line begins with
such a character, so a fault is found right after the name.
-/

namespace Formula

namespace Front

open CharClass

/-- No piece begins with a character that belongs to words but not to names, or to names but not to
words: a mark is the one and a fraction the other. -/
theorem ofChars_of_ne {c : Char} (differs : isWordPart c ≠ isNamePart c) (later : List Char) :
    ofChars c later = .error (.invalidCharacter c) := by
  have late : ¬c.toNat < 128 := by
    intro ascii
    have same := isNamePart_ascii ⟨c.toNat, ascii⟩
    rw [Char.ofNat_toNat] at same
    exact differs same.symm
  have other {d : Char} (ascii : d.toNat < 128) : c ≠ d := by
    rintro rfl
    exact late ascii
  have notBlank : isBlank c = false := by
    apply eq_false_of_ne_true
    intro blank
    obtain ⟨notNamed, notInWord⟩ := not_inWord_of_isBlank blank
    exact differs (notInWord.trans notNamed.symm)
  have noDigit : isDigit c = false := by
    apply eq_false_of_ne_true
    intro digit
    have bounds := toNat_of_isDigit digit
    omega
  have noStart : isNameStart c = false := by
    apply eq_false_of_ne_true
    intro start
    have inWord := isWordPart_of_isNameStart c start
    exact differs (inWord.trans (isNamePart_of_isNameStart c start).symm)
  have noSymbol : Symbol.ofChar? c = none := by
    cases found : Symbol.ofChar? c with
    | none => rfl
    | some mark =>
      have written := Symbol.ofChar?_eq_some_iff.mp found
      exact (other (by cases mark <;> decide) written.symm).elim
  simp [ofChars, notBlank, noDigit, noStart, symbol, noSymbol, other (d := '/') (by decide),
    other (d := '"') (by decide)]

/-- So where another piece begins, names and words go on alike: a character on which they differ
begins no piece. -/
theorem alike_of_goesOn {rest : List Char}
    (goesOn : ∀ d more, rest = d :: more → ∃ front, ofChars d more = .ok front) :
    ∀ d ∈ rest.head?, isWordPart d = isNamePart d := by
  intro d isHead
  obtain ⟨more, split⟩ := List.head?_eq_some_iff.mp isHead
  obtain ⟨front, next⟩ := goesOn d more split
  apply Decidable.byContradiction
  intro differs
  rw [ofChars_of_ne differs] at next
  cases next

section Tokens

variable {content : Token.Content} {c : Char} {later lexeme rest : List Char}

/-- A number is the same number without what comes after it, because its digits alone are read as
the same literal. -/
theorem stands_of_number_front (digit : isDigit c = true)
    (found : number (c :: later) = .ok ⟨.token content, lexeme, rest⟩) : Stands content lexeme := by
  have whole : ∀ d ∈ (c :: later).takeWhile isDigit, isDigit d = true :=
    List.all_eq_true.mp List.all_takeWhile
  have begins : (c :: later).takeWhile isDigit = c :: later.takeWhile isDigit := by
    rw [List.takeWhile_cons, if_pos digit]
  obtain ⟨fraction, parted, literal, rfl⟩ | ⟨-, -, literal, rfl⟩ := number_eq_ok found
  · obtain ⟨places, digits⟩ := digits_of_fraction? parted
    refine stands_of_number (by simp) ?_ ?_
    · simp [begins, digit]
    · rw [number_of_point whole digits places, literal]
      rfl
  · refine stands_of_number (by simp [begins]) ?_ ?_
    · simp [begins, digit]
    · rw [number_of_digits whole, literal]
      rfl

/-- What begins with the start of a name is read as a word. Such a character is no blank, no slash
and no digit, so the earlier rules are not chosen. -/
theorem ofChars_nameStart (start : isNameStart c = true) (later : List Char) :
    ofChars c later = .ok (word (c :: later)) := by
  have notBlank : isBlank c = false := by
    cases blank : isBlank c with
    | false => rfl
    | true =>
      have inName := isNamePart_of_isNameStart c start
      rw [(not_inWord_of_isBlank blank).1] at inName
      cases inName
  have noDigit : isDigit c = false := by
    cases digit : isDigit c with
    | false => rfl
    | true =>
      rw [(classes_of_isDigit digit).2.1] at start
      cases start
  have noSlash : c ≠ '/' := by
    rintro rfl
    exact absurd start (by decide +kernel)
  simp [ofChars, notBlank, noSlash, noDigit, start]

/-- A name, or a truth value, is the same without what comes after it, if another piece does. What
comes after a name stops names, and where another piece begins, what stops names stops words. -/
theorem stands_of_word_front (start : isNameStart c = true)
    (found : word (c :: later) = ⟨.token content, lexeme, rest⟩)
    (ends : ∀ d ∈ rest.head?, isNamePart d = false → isWordPart d = false) :
    Stands content lexeme := by
  have split := (word_splits c later start).2
  rw [found] at split
  obtain ⟨truth, -, isTruth⟩ | ⟨-, isName⟩ := word_cases (c :: later)
  · obtain ⟨⟨⟩, rfl, -⟩ := Front.mk.inj (isTruth.symm.trans found)
    cases truth
    · exact stands_boolean false
    · exact stands_boolean true
  · obtain ⟨⟨⟩, taken, dropped⟩ := Front.mk.inj (isName.symm.trans found)
    have stops : StopsWord rest := by
      intro d isHead
      have notNamed := List.head?_dropWhile_not isNamePart (c :: later)
      rw [dropped, isHead] at notNamed
      exact ⟨notNamed, ends d isHead notNamed⟩
    have alone := word_append stops lexeme
    rw [split, found] at alone
    have nothing : (word lexeme).rest = [] := by
      have same := congrArg Front.rest alone
      simpa [before] using same
    have isLexeme : lexeme = c :: later.takeWhile isNamePart := by
      rw [List.takeWhile_cons, if_pos (isNamePart_of_isNameStart c start)] at taken
      exact taken.symm
    refine ⟨c, _, isLexeme, ?_⟩
    rw [ofChars_nameStart start, ← isLexeme]
    rcases whole : word lexeme with ⟨piece, chars, after⟩
    rw [whole] at alone nothing
    simp only [before, Front.mk.injEq] at alone nothing
    simp [alone, nothing]

/-- A string is the same string without what comes after its quote. -/
theorem stands_of_string_front (found : string later = .ok ⟨.token content, lexeme, rest⟩) :
    Stands content lexeme := by
  obtain ⟨body, rfl, free, rfl, -⟩ := string_eq_ok found
  have free' : '"' ∉ (String.ofList body).toList := by simpa using free
  have stands := stands_string free'
  rwa [String.toList_ofList] at stands

/-- A symbol is a character by itself. -/
theorem stands_of_symbol_front (found : symbol c later = .ok ⟨.token content, lexeme, rest⟩) :
    Stands content lexeme := by
  obtain ⟨mark, rfl, rfl, rfl, -⟩ := symbol_eq_ok found
  cases mark <;> exact ⟨_, [], rfl, rfl⟩

/-- A token is the same token by itself, if nothing or another piece comes after it. By cases on the
rule that reads it; only words depend on what comes after, and a piece does not begin with a
character on which names and words differ. -/
theorem stands_of_front (found : ofChars c later = .ok ⟨.token content, lexeme, rest⟩)
    (goesOn : ∀ d more, rest = d :: more → ∃ front, ofChars d more = .ok front) :
    Stands content lexeme := by
  have ends : ∀ d ∈ rest.head?, isNamePart d = false → isWordPart d = false :=
    fun d isHead notNamed => (alike_of_goesOn goesOn d isHead).trans notNamed
  cases tokenRule_of_ofChars found with
  | number digit number => exact stands_of_number_front digit number
  | word start word => exact stands_of_word_front start word ends
  | string quote string => exact stands_of_string_front string
  | symbol alone symbol => exact stands_of_symbol_front symbol

/-- A name is made of the characters of names alone. -/
theorem Stands.isNamePart {chars : List Char} (stands : Stands .name chars) :
    ∀ d ∈ chars, isNamePart d = true := by
  obtain ⟨c, later, -, found⟩ := stands
  cases denotes_of_token found with
  | name d more start parts =>
    exact List.forall_mem_cons.mpr ⟨isNamePart_of_isNameStart d start, parts⟩

end Tokens

end Front

/-- A word that is read from its own characters, and from nothing else. -/
def Word.Stands (word : Word) : Prop := Front.Stands word.content word.lexeme.toList

namespace Token

variable {token : Token} {lines : List String} {before after : List Char}

/-- Where it was found, a token owes nothing to what stands around it. -/
theorem Found.stands (found : token.Found lines before after) : token.word.Stands := by
  obtain ⟨c, later, front⟩ := found.front
  exact Front.stands_of_front front found.goesOn

/-- Its characters are some of a line. -/
theorem Found.exists_line (found : token.Found lines before after) :
    ∃ line ∈ lines, token.lexeme.toList ⊆ line.toList := by
  obtain ⟨number, line, known, split, -⟩ := found.standsOn
  refine ⟨line, List.mem_of_getElem? known, ?_⟩
  rw [split]
  exact List.Subset.trans (List.subset_append_right before _) (List.subset_append_left _ after)

end Token

/-- Each token of lines that are read without a fault stands by itself. -/
theorem Draft.stands_of_finish {lines : List String} {tokens : List Token}
    (clean : (empty.readLines lines).2 = none)
    (finished : (empty.readLines lines).1.finish = .ok tokens) :
    ∀ token ∈ tokens, token.word.Stands ∧ ∃ line ∈ lines, token.lexeme.toList ⊆ line.toList := by
  intro token member
  obtain ⟨before, after, found⟩ := found_of_finish clean finished token member
  exact ⟨found.stands, found.exists_line⟩

/-- Each token of a text stands by itself, on one line: its characters are some of a line, and a
line has no feed in it. -/
theorem Token.stands_of_ofText {text : String} {tokens : List Token}
    (read : ofText text = .ok tokens) :
    ∀ token ∈ tokens, token.word.Stands ∧ '\n' ∉ token.lexeme.toList := by
  intro token member
  obtain ⟨before, after, found⟩ := found_of_ofText read token member
  refine ⟨found.stands, fun feed => ?_⟩
  obtain ⟨line, isLine, part⟩ := found.exists_line
  obtain ⟨chars, isCut, rfl⟩ := List.mem_map.mp isLine
  refine Lines.feed_not_mem_of_mem_cut '\n' '\r' text.toList chars isCut ?_
  simpa using part feed

end Formula
