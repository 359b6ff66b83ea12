import Formula.Proofs.Value.Parts

/-!
# The words of a value

The text of a value is read as the words of its parts with symbols around and between them, as long
as no number in it has a sign. Each part is followed by a symbol that separates it from what comes
after it, and the spaces in the text add nothing.
-/

namespace Formula

/-- A symbol as it is written. -/
def Symbol.word (mark : Symbol) : Word := ⟨.symbol mark, String.ofList [mark.char]⟩

/-- No token goes on with a symbol, unless a remark or a comment begins with it. -/
theorem Front.separates_symbol {mark : Symbol} (noSlash : mark ≠ .slash) (noStar : mark ≠ .star)
    (rest : List Char) : Separates (mark.char :: rest) := by
  rintro _ ⟨⟩
  cases mark with
  | slash => exact absurd rfl noSlash
  | star => exact absurd rfl noStar
  | _ => refine ⟨by decide, ?_, ?_, by decide, by decide, by decide⟩ <;> decide +kernel

namespace Value

open CharClass Front

/-- A key as it is written. -/
def keyWord (key : String) : Word := ⟨.string key, text (.string key)⟩

mutual

/-- What the text of a value is read as, if no number in it has a sign. -/
def words : Value → List Word
  | .integer number => [⟨.integer number, text (.integer number)⟩]
  | .float number =>
    [⟨if number.isFinite then .float number else .name, text (.float number)⟩]
  | .string content => [keyWord content]
  | .boolean truth => [⟨.boolean truth, text (.boolean truth)⟩]
  | .list items => Symbol.leftBracket.word :: (itemWords items ++ [Symbol.rightBracket.word])
  | .dictionary entries =>
    Symbol.leftBrace.word :: (entryWords entries ++ [Symbol.rightBrace.word])

/-- The items with commas between them. -/
def itemWords : List Value → List Word
  | [] => []
  | first :: later => words first ++ laterItemWords later

/-- The items after the first one, each after a comma. -/
def laterItemWords : List Value → List Word
  | [] => []
  | item :: later => Symbol.comma.word :: words item ++ laterItemWords later

/-- The entries with commas between them. -/
def entryWords : List (String × Value) → List Word
  | [] => []
  | (key, first) :: later =>
    keyWord key :: Symbol.colon.word :: words first ++ laterEntryWords later

/-- The entries after the first one, each after a comma. -/
def laterEntryWords : List (String × Value) → List Word
  | [] => []
  | (key, value) :: later =>
    Symbol.comma.word :: keyWord key :: Symbol.colon.word :: words value ++ laterEntryWords later

end

/-- Later items have the words of items after a comma. -/
theorem laterItemWords_cons (item : Value) (later : List Value) :
    laterItemWords (item :: later) = Symbol.comma.word :: itemWords (item :: later) := by
  rw [laterItemWords, itemWords, List.cons_append]

/-- Later entries have the words of entries after a comma. -/
theorem laterEntryWords_cons (entry : String × Value) (later : List (String × Value)) :
    laterEntryWords (entry :: later) = Symbol.comma.word :: entryWords (entry :: later) := by
  rw [laterEntryWords, entryWords]
  rfl

section Pieces

variable {tail : List Char}

/-- What follows an item in a list is a comma or the bracket, and both separate. -/
theorem separates_laterItems (items : List Value) (tail : List Char) :
    Separates (laterItems items ++ ']' :: tail) := by
  cases items with
  | nil => exact separates_symbol (by decide : Symbol.rightBracket ≠ .slash) (by decide) tail
  | cons item later =>
    rw [laterItems]
    exact separates_symbol (by decide : Symbol.comma ≠ .slash) (by decide) _

/-- What follows an entry in a dictionary is a comma or the brace, and both separate. -/
theorem separates_laterEntries (entries : List (String × Value)) (tail : List Char) :
    Separates (laterEntries entries ++ '\x7d' :: tail) := by
  cases entries with
  | nil => exact separates_symbol (by decide : Symbol.rightBrace ≠ .slash) (by decide) tail
  | cons entry later =>
    rw [laterEntries]
    exact separates_symbol (by decide : Symbol.comma ≠ .slash) (by decide) _

/-- A comma and the space after it. -/
theorem adds_comma (tail : List Char) :
    Draft.Adds [',', ' '] tail [Symbol.comma.word] :=
  (Draft.adds_symbol (by decide : Symbol.comma ≠ .slash) (' ' :: tail)).append
    (Draft.adds_blank (by decide) tail)

/-- A key, its colon and the space after it. -/
theorem adds_key {key : String} (quotable : Quotable key) (tail : List Char) :
    Draft.Adds ('"' :: key.toList ++ ['"', ':', ' ']) tail [keyWord key, Symbol.colon.word] := by
  have named : Draft.Adds ('"' :: key.toList ++ ['"']) (':' :: ' ' :: tail) [keyWord key] := by
    have separates : Separates (':' :: ' ' :: tail) :=
      separates_symbol (by decide : Symbol.colon ≠ .slash) (by decide) _
    rw [keyWord, text, chars]
    exact Draft.adds_word (stands_string quotable.1) separates
  have parted : Draft.Adds [':', ' '] tail [Symbol.colon.word] :=
    (Draft.adds_symbol (by decide : Symbol.colon ≠ .slash) (' ' :: tail)).append
      (Draft.adds_blank (by decide) tail)
  have both := named.append parted
  rw [List.append_assoc] at both
  exact both

/-- After a comma, items add what they add at the beginning of a list. -/
theorem adds_laterItems {items : List Value}
    (adds : Draft.Adds (itemChars items) tail (itemWords items)) :
    Draft.Adds (laterItems items) tail (laterItemWords items) := by
  cases items with
  | nil => exact Draft.adds_nil tail
  | cons item later =>
    rw [laterItems_cons, laterItemWords_cons]
    exact (adds_comma _).append adds

/-- After a comma, entries add what they add at the beginning of a dictionary. -/
theorem adds_laterEntries {entries : List (String × Value)}
    (adds : Draft.Adds (entryChars entries) tail (entryWords entries)) :
    Draft.Adds (laterEntries entries) tail (laterEntryWords entries) := by
  cases entries with
  | nil => exact Draft.adds_nil tail
  | cons entry later =>
    rw [laterEntries_cons, laterEntryWords_cons]
    exact (adds_comma _).append adds

end Pieces

mutual

/-- The text of a value without signs adds its words. By induction on the value: numbers, strings
and truth values stand by themselves, and items and entries are separated from what follows them. -/
theorem adds_chars (value : Value) {tail : List Char} (separates : Separates tail)
    (plain : ∀ part ∈ value.parts, part.IsPlain)
    (unsigned : ∀ part ∈ value.parts, ¬part.IsSigned) :
    Draft.Adds value.chars tail value.words := by
  cases value with
  | integer number =>
    have natural : 0 ≤ number.toInt := Int.not_lt.mp (unsigned (.integer number) (mem_parts _))
    rw [words, text, chars]
    exact Draft.adds_word (stands_integer natural) separates
  | float number =>
    rw [words, text, chars]
    exact Draft.adds_word (stands_float (unsigned (.float number) (mem_parts _))) separates
  | string content =>
    have quotable : Quotable content := plain (.string content) (mem_parts _)
    rw [words, keyWord, text, chars]
    exact Draft.adds_word (stands_string quotable.1) separates
  | boolean truth =>
    rw [words, text, chars]
    exact Draft.adds_word (stands_boolean truth) separates
  | list items =>
    obtain ⟨-, plain⟩ := forall_parts_list.mp plain
    obtain ⟨-, unsigned⟩ := forall_parts_list.mp unsigned
    have opened := Draft.adds_symbol (by decide : Symbol.leftBracket ≠ .slash)
      (itemChars items ++ [']'] ++ tail)
    have inside := adds_itemChars items tail plain unsigned
    have closed := Draft.adds_symbol (by decide : Symbol.rightBracket ≠ .slash) tail
    rw [chars_list, words]
    exact opened.append (inside.append closed)
  | dictionary entries =>
    obtain ⟨keys, plain⟩ := forall_parts_dictionary.mp plain
    obtain ⟨-, unsigned⟩ := forall_parts_dictionary.mp unsigned
    have opened := Draft.adds_symbol (by decide : Symbol.leftBrace ≠ .slash)
      (entryChars entries ++ ['\x7d'] ++ tail)
    have inside := adds_entryChars entries tail keys plain unsigned
    have closed := Draft.adds_symbol (by decide : Symbol.rightBrace ≠ .slash) tail
    rw [chars_dictionary, words]
    exact opened.append (inside.append closed)

/-- The text of items adds their words. -/
theorem adds_itemChars (items : List Value) (tail : List Char)
    (plain : ∀ part ∈ itemParts items, part.IsPlain)
    (unsigned : ∀ part ∈ itemParts items, ¬part.IsSigned) :
    Draft.Adds (itemChars items) (']' :: tail) (itemWords items) := by
  cases items with
  | nil => exact Draft.adds_nil (']' :: tail)
  | cons item later =>
    obtain ⟨plain, plain'⟩ := forall_itemParts_cons.mp plain
    obtain ⟨unsigned, unsigned'⟩ := forall_itemParts_cons.mp unsigned
    have one := adds_chars item (separates_laterItems later tail) plain unsigned
    have others := adds_laterItems (adds_itemChars later tail plain' unsigned')
    rw [itemChars, itemWords]
    exact one.append others

/-- The text of entries adds their words, a key and a colon before those of each value. -/
theorem adds_entryChars (entries : List (String × Value)) (tail : List Char)
    (keys : ∀ key ∈ Entries.keys entries, Quotable key)
    (plain : ∀ part ∈ entryParts entries, part.IsPlain)
    (unsigned : ∀ part ∈ entryParts entries, ¬part.IsSigned) :
    Draft.Adds (entryChars entries) ('\x7d' :: tail) (entryWords entries) := by
  cases entries with
  | nil => exact Draft.adds_nil ('\x7d' :: tail)
  | cons entry later =>
    obtain ⟨key, value⟩ := entry
    obtain ⟨quotable, keys⟩ := List.forall_mem_cons.mp keys
    obtain ⟨plain, plain'⟩ := forall_entryParts_cons.mp plain
    obtain ⟨unsigned, unsigned'⟩ := forall_entryParts_cons.mp unsigned
    have one := adds_chars value (separates_laterEntries later tail) plain unsigned
    have others := adds_laterEntries (adds_entryChars later tail keys plain' unsigned')
    have valued := one.append others
    rw [entryChars, entryWords]
    exact (adds_key quotable _).append valued

end

end Value

end Formula
