import Formula.Number.Checked
import Formula.Number.Decimal
import Formula.Text.CharClass
import Formula.Token

/-!
# The front of a line

Outside comments a line is read piece by piece from its front. A piece is a stretch of blanks, a
remark up to the end of the line, the start of a comment, or a token. Runs of blanks, digits and
name characters are taken as far as they go. The characters of the pieces are the characters of
the line: nothing is lost between them.
-/

namespace Formula

/-- What can be wrong with the characters of a text. -/
inductive LexFault where
  | unterminatedString
  | unterminatedComment
  | invalidCharacter (c : Char)
  | integerOverflow (digits : String)
  | floatOverflow (digits : String)

/-- A fault in the characters of a text and where it stands. -/
structure LexError where
  fault : LexFault
  position : Position

namespace LexError

/-- The line that is shown for a lexical error. -/
def message (error : LexError) : String :=
  let place := error.position.text
  match error.fault with
  | .unterminatedString => "unterminated string starting at " ++ place
  | .unterminatedComment => "unterminated comment starting at " ++ place
  | .invalidCharacter c => "invalid character '" ++ String.ofList [c] ++ "' at " ++ place
  | .integerOverflow digits => "integer literal " ++ digits ++ " is too large at " ++ place
  | .floatOverflow digits => "float literal " ++ digits ++ " is out of range at " ++ place

end LexError

/-- What stands at the front of a line. -/
inductive Piece where
  | blanks
  | remark
  | commentStart
  | token (content : Token.Content)

/-- A piece, the characters it was read from, and the rest of the line. -/
structure Front where
  piece : Piece
  lexeme : List Char
  rest : List Char

namespace Front

open CharClass

/-- A front that takes the longest run of characters of one class. -/
def run (piece : Piece) (inClass : Char → Bool) (chars : List Char) : Front :=
  ⟨piece, chars.takeWhile inClass, chars.dropWhile inClass⟩

/-- The digits after a decimal point and what follows them. A point without a digit right after
    it is no decimal point. -/
def fraction? : List Char → Option (List Char × List Char)
  | '.' :: digit :: later =>
    if isDigit digit then
      some ((digit :: later).takeWhile isDigit, (digit :: later).dropWhile isDigit)
    else none
  | _ => none

/-- The whole number that digits denote. -/
def integerLiteral (digits : List Char) : Except LexFault Token.Content :=
  (Checked.ofInt? (Decimal.natOfDigits digits)).elim
    (.error (.integerOverflow (String.ofList digits))) fun value => .ok (.integer value)

/-- The floating-point number nearest to the decimal with these digits around its point. -/
def floatLiteral (whole fraction : List Char) : Except LexFault Token.Content :=
  let value := (Decimal.ofDigits whole fraction).toFloat false
  if value.isFinite then .ok (.float value)
  else .error (.floatOverflow (String.ofList (whole ++ '.' :: fraction)))

/-- A number: with a decimal point a floating-point number, otherwise a whole one. -/
def number (chars : List Char) : Except LexFault Front :=
  let whole := chars.takeWhile isDigit
  let after := chars.dropWhile isDigit
  match fraction? after with
  | some (fraction, rest) =>
    (floatLiteral whole fraction).map fun content =>
      ⟨.token content, whole ++ '.' :: fraction, rest⟩
  | none => (integerLiteral whole).map fun content => ⟨.token content, whole, after⟩

/-- Whether a word can end before these characters. -/
def endsWord : List Char → Bool
  | [] => true
  | c :: _ => !isWordPart c

/-- Whether a word of its own stands at the front. -/
def startsWith (word chars : List Char) : Bool :=
  word.isPrefixOf chars && endsWord (chars.drop word.length)

/-- A truth value or a name. A truth value is a word of its own, so a longer word that starts with
    one is a name. A superscript ends a word, though it does not end a name. -/
def word (chars : List Char) : Front :=
  if startsWith ['t', 'r', 'u', 'e'] chars then
    ⟨.token (.boolean true), chars.take 4, chars.drop 4⟩
  else if startsWith ['f', 'a', 'l', 's', 'e'] chars then
    ⟨.token (.boolean false), chars.take 5, chars.drop 5⟩
  else run (.token .name) isNamePart chars

/-- A string, from right after its opening quote up to the next quote. -/
def string (chars : List Char) : Except LexFault Front :=
  let body := chars.takeWhile (· != '"')
  match chars.dropWhile (· != '"') with
  | [] => .error .unterminatedString
  | quote :: rest =>
    .ok ⟨.token (.string (String.ofList body)), '"' :: body ++ [quote], rest⟩

/-- A symbol, if there is one that the character writes. -/
def symbol (c : Char) (later : List Char) : Except LexFault Front :=
  match Symbol.ofChar? c with
  | some mark => .ok ⟨.token (.symbol mark), [c], later⟩
  | none => .error (.invalidCharacter c)

/-- The piece at the front of a line that begins with `c`. -/
def ofChars (c : Char) (later : List Char) : Except LexFault Front :=
  let chars := c :: later
  if isBlank c then .ok (run .blanks isBlank chars)
  else if c = '/' ∧ later.head? = some '/' then .ok ⟨.remark, chars, []⟩
  else if c = '/' ∧ later.head? = some '*' then .ok ⟨.commentStart, chars.take 2, chars.drop 2⟩
  else if isDigit c then number chars
  else if isNameStart c then .ok (word chars)
  else if c = '"' then string later
  else symbol c later

/-- What a piece and the rest of the line are made of: some characters, and all the others. -/
def Splits (front : Front) (chars : List Char) : Prop :=
  front.lexeme ≠ [] ∧ front.lexeme ++ front.rest = chars

/-- What a result was made from is a result. -/
theorem ok_of_map_eq_ok {α : Type} {literal : Except LexFault α} {make : α → Front} {front : Front}
    (found : literal.map make = .ok front) : ∃ content, make content = front := by
  cases literal with
  | error fault => cases found
  | ok content => exact ⟨content, Except.ok.inj found⟩

/-- A run takes its first character and leaves what it does not take. -/
theorem run_splits (piece : Piece) (inClass : Char → Bool) (c : Char) (later : List Char)
    (member : inClass c = true) : (run piece inClass (c :: later)).Splits (c :: later) :=
  ⟨by simp [run, member], List.takeWhile_append_dropWhile⟩

/-- A point, the digits after it and what is left make up the characters. -/
theorem fraction?_splits {chars fraction rest : List Char}
    (found : fraction? chars = some (fraction, rest)) : '.' :: fraction ++ rest = chars := by
  unfold fraction? at found
  split at found
  · split at found
    · obtain ⟨rfl, rfl⟩ := Prod.mk.inj (Option.some.inj found)
      rw [List.cons_append, List.takeWhile_append_dropWhile]
    · cases found
  · cases found

/-- A number takes a digit at least and leaves what it does not take. What it takes are the digits,
and the fraction if there is one. -/
theorem number_splits {front : Front} {c : Char} {later : List Char} (digit : isDigit c = true)
    (found : number (c :: later) = .ok front) : front.Splits (c :: later) := by
  unfold number at found
  dsimp only at found
  split at found
  · next fraction rest fractionFound =>
    obtain ⟨content, same⟩ := ok_of_map_eq_ok found
    subst same
    refine ⟨by simp, ?_⟩
    have tail := fraction?_splits fractionFound
    simp only [List.append_assoc]
    rw [tail]
    exact List.takeWhile_append_dropWhile
  · obtain ⟨content, same⟩ := ok_of_map_eq_ok found
    subst same
    exact ⟨by simp [digit], List.takeWhile_append_dropWhile⟩

/-- A word takes its first character and leaves what it does not take. -/
theorem word_splits (c : Char) (later : List Char) (start : isNameStart c = true) :
    (word (c :: later)).Splits (c :: later) := by
  unfold word
  split
  · exact ⟨by simp, List.take_append_drop 4 _⟩
  · split
    · exact ⟨by simp, List.take_append_drop 5 _⟩
    · exact run_splits _ _ c later (isNamePart_of_isNameStart c start)

/-- A string takes its quotes and leaves what comes after them. The body is a run, and the quote
that ends it is taken too. -/
theorem string_splits {front : Front} {chars : List Char} (found : string chars = .ok front) :
    front.Splits ('"' :: chars) := by
  unfold string at found
  dsimp only at found
  split at found
  · cases found
  · next quote rest after =>
    cases found
    refine ⟨by simp, ?_⟩
    have parts : chars.takeWhile (· != '"') ++ chars.dropWhile (· != '"') = chars :=
      List.takeWhile_append_dropWhile
    rw [after] at parts
    simpa using parts

/-- A symbol takes one character. -/
theorem symbol_splits {front : Front} {c : Char} {later : List Char}
    (found : symbol c later = .ok front) : front.Splits (c :: later) := by
  unfold symbol at found
  split at found
  · cases found
    exact ⟨by simp, rfl⟩
  · cases found

/-- A piece takes some characters from the front of the line and leaves all the others. By cases on
the rule that is chosen, each of which does so. -/
theorem ofChars_splits {front : Front} {c : Char} {later : List Char}
    (found : ofChars c later = .ok front) : front.Splits (c :: later) := by
  unfold ofChars at found
  dsimp only at found
  split at found
  · next blank =>
    cases found
    exact run_splits _ _ c later blank
  · split at found
    · cases found
      exact ⟨by simp, by simp⟩
    · split at found
      · cases found
        exact ⟨by simp, List.take_append_drop 2 _⟩
      · split at found
        · next digit => exact number_splits digit found
        · split at found
          · next start =>
            cases found
            exact word_splits c later start
          · split at found
            · next quote =>
              subst quote
              exact string_splits found
            · exact symbol_splits found

/-- So the rest of the line is shorter than the line, and reading piece after piece comes to an
end. -/
theorem rest_shorter {front : Front} {c : Char} {later : List Char}
    (found : ofChars c later = .ok front) : front.rest.length < (c :: later).length := by
  obtain ⟨nonempty, split⟩ := ofChars_splits found
  have sizes := congrArg List.length split
  have positive := List.length_pos_iff.mpr nonempty
  rw [List.length_append] at sizes
  omega

end Front

end Formula
