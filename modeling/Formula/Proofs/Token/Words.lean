import Formula.Draft
import Formula.Proofs.Token.Boundary

/-!
# Words in a row

A word is a token without its place. Characters that are a token by themselves are the same token
in front of whatever separates them from what follows. So the words of a line that was put together
from such characters, symbols and single spaces are found again one after another.
-/

namespace Formula

/-- What a token is and what it was read from. -/
structure Word where
  content : Token.Content
  lexeme : String

/-- A token without its place. -/
def Token.word (token : Token) : Word := ⟨token.content, token.lexeme⟩

namespace Front

open CharClass

/-- By themselves, these characters are one token. -/
def Stands (content : Token.Content) (chars : List Char) : Prop :=
  ∃ c later, chars = c :: later ∧ ofChars c later = .ok ⟨.token content, chars, []⟩

/-- No token begins with a blank. -/
theorem isBlank_of_token {content : Token.Content} {c : Char} {later lexeme rest : List Char}
    (found : ofChars c later = .ok ⟨.token content, lexeme, rest⟩) : isBlank c = false := by
  by_cases blank : isBlank c = true
  · rw [ofChars, if_pos blank] at found
    cases found
  · simpa using blank

/-- A token begins with a character that is not blank. -/
theorem Stands.begins {content : Token.Content} {chars : List Char} (stands : Stands content chars) :
    ∃ c later, chars = c :: later ∧ isBlank c = false := by
  obtain ⟨c, later, rfl, found⟩ := stands
  exact ⟨c, later, rfl, isBlank_of_token found⟩

/-- What stands by itself as a token is the same token before other characters that separate it. It
is neither blank nor a remark, and if it is a string it has its second quote. -/
theorem Stands.before {content : Token.Content} {chars tail : List Char}
    (stands : Stands content chars) (separates : Separates tail) :
    ∃ c later, chars ++ tail = c :: later ∧
      ofChars c later = .ok ⟨.token content, chars, tail⟩ := by
  obtain ⟨c, later, rfl, found⟩ := stands
  have notBlank := isBlank_of_token found
  have noRemark : ¬(c = '/' ∧ later.head? = some '/') := by
    intro remark
    rw [ofChars, notBlank, if_neg Bool.false_ne_true, if_pos remark] at found
    cases found
  have closed : c = '"' → '"' ∈ later ∨ '"' ∉ tail := by
    rintro rfl
    by_cases quoted : '"' ∈ later
    · exact .inl quoted
    · have opened : ofChars '"' later = string later := rfl
      rw [opened, string_of_no_quote quoted] at found
      cases found
  refine ⟨c, later ++ tail, rfl, ?_⟩
  rw [ofChars_append separates closed notBlank noRemark, found]
  rfl

/-- A symbol is a token whatever follows, but for the slash, with which a remark or a comment may
begin. -/
theorem ofChars_symbol {mark : Symbol} (noSlash : mark ≠ .slash) (tail : List Char) :
    ofChars mark.char tail = .ok ⟨.token (.symbol mark), [mark.char], tail⟩ := by
  cases mark with
  | slash => exact absurd rfl noSlash
  | _ => rfl

end Front

namespace Draft

open CharClass Front

/-- The words read so far. -/
def words (draft : Draft) : List Word := draft.tokens.toList.map Token.word

/-- A token adds its word. -/
theorem words_add (draft : Draft) (position : Position) (content : Token.Content)
    (lexeme rest : List Char) : (draft.add position ⟨.token content, lexeme, rest⟩).words =
      draft.words ++ [⟨content, String.ofList lexeme⟩] := by
  simp [words, Draft.add, Token.word]

/-- Outside comments, these characters before the others add words and leave the others to read. -/
def Adds (chars tail : List Char) (words : List Word) : Prop :=
  ∀ (draft : Draft) (position : Position), draft.comment = none →
    ∃ (after : Draft) (position' : Position), after.comment = none ∧
      after.words = draft.words ++ words ∧
      draft.readFrom position (chars ++ tail) = after.readFrom position' tail

/-- Blanks are skipped together, which is the same as one by one: what is left after the first blank
is skipped in the same way. -/
theorem readFrom_blank {draft : Draft} {position : Position} {c : Char}
    (outside : draft.comment = none) (blank : isBlank c = true) (later : List Char) :
    draft.readFrom position (c :: later) =
      draft.readFrom (position.advance (byteLength [c])) later := by
  have skips (position : Position) {d : Char} (blank : isBlank d = true) (more : List Char) :
      draft.readFrom position (d :: more) = draft.readFrom
        (position.advance (byteLength ((d :: more).takeWhile isBlank)))
        ((d :: more).dropWhile isBlank) := by
    have front : ofChars d more = .ok (run .blanks isBlank (d :: more)) := if_pos blank
    exact readFrom_of_ok outside front
  rw [skips position blank, List.takeWhile_cons, List.dropWhile_cons, if_pos blank, if_pos blank,
    ← List.singleton_append, byteLength_append, ← Position.advance_advance]
  cases later with
  | nil => exact (readFrom_nil outside).trans (readFrom_nil outside).symm
  | cons d more =>
    by_cases another : isBlank d = true
    · exact (skips _ another more).symm
    · rw [List.takeWhile_cons, List.dropWhile_cons, if_neg another, if_neg another]
      rfl

section Adding

variable {chars tail : List Char} {found : List Word}

/-- No characters add no words. -/
theorem adds_nil (tail : List Char) : Adds [] tail [] := by
  intro draft position outside
  exact ⟨draft, position, outside, (List.append_nil _).symm, rfl⟩

/-- What is read one after the other is read in a row. -/
theorem Adds.append {more : List Char} {others : List Word} (first : Adds chars (more ++ tail) found)
    (second : Adds more tail others) : Adds (chars ++ more) tail (found ++ others) := by
  intro draft position outside
  obtain ⟨middle, position', outside', added, read⟩ := first draft position outside
  obtain ⟨after, position'', outside'', added', read'⟩ := second middle position' outside'
  refine ⟨after, position'', outside'', ?_, ?_⟩
  · rw [added', added, List.append_assoc]
  · rw [List.append_assoc, read, read']

/-- The token at the front adds its word, and what is left is read after it. -/
theorem adds_of_front {content : Token.Content}
    (front : ∃ c later, chars ++ tail = c :: later ∧
      ofChars c later = .ok ⟨.token content, chars, tail⟩) :
    Adds chars tail [⟨content, String.ofList chars⟩] := by
  obtain ⟨c, later, split, front⟩ := front
  intro draft position outside
  refine ⟨draft.add position ⟨.token content, chars, tail⟩, position.advance (byteLength chars),
    outside, ?_, ?_⟩
  · exact words_add draft position content chars tail
  · rw [split]
    exact readFrom_of_ok outside front

/-- A token that stands by itself adds its word before what separates it. -/
theorem adds_word {content : Token.Content} (stands : Stands content chars)
    (separates : Separates tail) : Adds chars tail [⟨content, String.ofList chars⟩] :=
  adds_of_front (stands.before separates)

/-- A symbol adds its word before anything. -/
theorem adds_symbol {mark : Symbol} (noSlash : mark ≠ .slash) (tail : List Char) :
    Adds [mark.char] tail [⟨.symbol mark, String.ofList [mark.char]⟩] :=
  adds_of_front ⟨mark.char, tail, rfl, ofChars_symbol noSlash tail⟩

/-- A blank adds nothing, whatever follows it. -/
theorem adds_blank {c : Char} (blank : isBlank c = true) (tail : List Char) : Adds [c] tail [] := by
  intro draft position outside
  exact ⟨draft, position.advance (byteLength [c]), outside, (List.append_nil _).symm,
    readFrom_blank outside blank tail⟩

end Adding

/-- The words of a finished draft are those of its tokens. -/
theorem words_of_finish {draft : Draft} {tokens : List Token}
    (finished : draft.finish = .ok tokens) : tokens.map Token.word = draft.words := by
  unfold finish at finished
  split at finished
  · cases finished
  · obtain rfl := Except.ok.inj finished
    rfl

/-- Whatever is read comes after the words that were there. By induction over the pieces that are
read, of which only tokens add a word, at the end. -/
theorem words_readFrom (draft : Draft) (position : Position) (chars : List Char) :
    draft.words <+: (draft.readFrom position chars).1.words := by
  fun_induction readFrom draft position chars with
  | case1 draft => exact List.prefix_refl draft.words
  | case2 draft position chars start inside skipped rest closed ih => exact ih
  | case3 draft => exact List.prefix_refl draft.words
  | case4 draft => exact List.prefix_refl draft.words
  | case5 draft position outside c later front found ih =>
    refine List.IsPrefix.trans ?_ ih
    unfold Draft.add
    split
    · exact List.prefix_refl draft.words
    · exact List.prefix_refl draft.words
    · exact List.prefix_refl draft.words
    · simp [words]

end Draft

end Formula
