import Formula.Proofs.Value.Parts

/-!
# Where the strings in a text end

The text of a value shows strings and keys between quotes as they are, with nothing escaped. A
reader who takes every second quote for the end of what the quote before it began finds the strings
and keys of the value again, in order, as long as no quote is among their own characters.
-/

namespace Formula

/-- What stands between quotes in a text. Inside quotes, the characters since the last quote are
given. -/
def betweenQuotes : Option (List Char) → List Char → List String
  | _, [] => []
  | none, c :: rest =>
    if c = '"' then betweenQuotes (some []) rest else betweenQuotes none rest
  | some body, c :: rest =>
    if c = '"' then String.ofList body :: betweenQuotes none rest
    else betweenQuotes (some (body ++ [c])) rest

section Reading

variable {front text : List Char} (free : '"' ∉ front)

include free

/-- Outside quotes, characters other than quotes are passed over. By induction on them. -/
theorem betweenQuotes_outside (rest : List Char) :
    betweenQuotes none (front ++ rest) = betweenQuotes none rest := by
  induction front with
  | nil => rfl
  | cons c later ih =>
    have differs : c ≠ '"' := fun same => free (by simp [same])
    rw [List.cons_append, betweenQuotes, if_neg differs]
    exact ih fun member => free (List.mem_cons_of_mem c member)

/-- Inside quotes, they are kept up to the next quote. By induction on them. -/
theorem betweenQuotes_inside (body rest : List Char) :
    betweenQuotes (some body) (front ++ '"' :: rest) =
      String.ofList (body ++ front) :: betweenQuotes none rest := by
  induction front generalizing body with
  | nil => rw [List.nil_append, List.append_nil, betweenQuotes, if_pos rfl]
  | cons c later ih =>
    have differs : c ≠ '"' := fun same => free (by simp [same])
    rw [List.cons_append, betweenQuotes, if_neg differs,
      ih (fun member => free (List.mem_cons_of_mem c member)), List.append_assoc,
      List.singleton_append]

end Reading

/-- A text between quotes is found. -/
theorem betweenQuotes_quoted {text : String} (free : '"' ∉ text.toList) (rest : List Char) :
    betweenQuotes none ('"' :: (text.toList ++ '"' :: rest)) = text :: betweenQuotes none rest := by
  rw [betweenQuotes, if_pos rfl, betweenQuotes_inside free, List.nil_append, String.ofList_toList]

namespace Value

mutual

/-- The strings and keys in a value, in the order in which its text shows them. -/
def quotations : Value → List String
  | .string text => [text]
  | .list items => itemQuotations items
  | .dictionary entries => entryQuotations entries
  | _ => []

/-- The strings and keys of items, in order. -/
def itemQuotations : List Value → List String
  | [] => []
  | item :: later => quotations item ++ itemQuotations later

/-- The keys of entries, each before the strings and keys of its value. -/
def entryQuotations : List (String × Value) → List String
  | [] => []
  | (key, value) :: later => key :: (quotations value ++ entryQuotations later)

end

/-- After a comma, items are found as they are at the beginning of a list. -/
theorem betweenQuotes_laterItems (items : List Value) (rest : List Char) :
    betweenQuotes none (laterItems items ++ rest) =
      betweenQuotes none (itemChars items ++ rest) := by
  cases items with
  | nil => rfl
  | cons item later =>
    rw [laterItems_cons]
    exact betweenQuotes_outside (by decide : '"' ∉ [',', ' ']) _

/-- Entries are found after a comma as they are at the beginning of a dictionary. -/
theorem betweenQuotes_laterEntries (entries : List (String × Value)) (rest : List Char) :
    betweenQuotes none (laterEntries entries ++ rest) =
      betweenQuotes none (entryChars entries ++ rest) := by
  cases entries with
  | nil => rfl
  | cons entry later =>
    rw [laterEntries_cons]
    exact betweenQuotes_outside (by decide : '"' ∉ [',', ' ']) _

mutual

/-- What stands between quotes in the text of a value are its strings and keys. By induction on the
value, with any text after it. -/
theorem betweenQuotes_chars (value : Value) (plain : ∀ part ∈ value.parts, part.IsPlain)
    (rest : List Char) :
    betweenQuotes none (value.chars ++ rest) = value.quotations ++ betweenQuotes none rest := by
  cases value with
  | integer number => exact betweenQuotes_outside (not_mem_integer (.inr rfl) number) rest
  | float number => exact betweenQuotes_outside (not_mem_float (.inr rfl) number) rest
  | string text =>
    have quotable : Quotable text := plain (.string text) (mem_parts _)
    rw [chars, quotations, List.cons_append, List.cons_append, List.append_assoc]
    exact betweenQuotes_quoted quotable.1 rest
  | boolean truth =>
    apply betweenQuotes_outside
    cases truth <;> decide
  | list items =>
    have opened := betweenQuotes_outside (by decide : '"' ∉ ['['])
      (itemChars items ++ (']' :: rest))
    have inside := betweenQuotes_itemChars items (forall_parts_list.mp plain).2 (']' :: rest)
    have closed := betweenQuotes_outside (by decide : '"' ∉ [']']) rest
    rw [chars_list, quotations, List.cons_append, List.append_assoc]
    exact opened.trans (inside.trans (congrArg (_ ++ ·) closed))
  | dictionary entries =>
    obtain ⟨keys, plain⟩ := forall_parts_dictionary.mp plain
    have opened := betweenQuotes_outside (by decide : '"' ∉ ['\x7b'])
      (entryChars entries ++ ('\x7d' :: rest))
    have inside := betweenQuotes_entryChars entries keys plain ('\x7d' :: rest)
    have closed := betweenQuotes_outside (by decide : '"' ∉ ['\x7d']) rest
    rw [chars_dictionary, quotations, List.cons_append, List.append_assoc]
    exact opened.trans (inside.trans (congrArg (_ ++ ·) closed))

/-- So it is in the text of items. -/
theorem betweenQuotes_itemChars (items : List Value)
    (plain : ∀ part ∈ itemParts items, part.IsPlain) (rest : List Char) :
    betweenQuotes none (itemChars items ++ rest) =
      itemQuotations items ++ betweenQuotes none rest := by
  cases items with
  | nil => rfl
  | cons item later =>
    obtain ⟨plain, plain'⟩ := forall_itemParts_cons.mp plain
    have one := betweenQuotes_chars item plain (laterItems later ++ rest)
    have others := betweenQuotes_itemChars later plain' rest
    rw [itemChars, itemQuotations, List.append_assoc, List.append_assoc, one,
      betweenQuotes_laterItems, others]

/-- So it is in the text of entries, where a key comes before each value. -/
theorem betweenQuotes_entryChars (entries : List (String × Value))
    (keys : ∀ key ∈ Entries.keys entries, Quotable key)
    (plain : ∀ part ∈ entryParts entries, part.IsPlain) (rest : List Char) :
    betweenQuotes none (entryChars entries ++ rest) =
      entryQuotations entries ++ betweenQuotes none rest := by
  cases entries with
  | nil => rfl
  | cons entry later =>
    obtain ⟨key, value⟩ := entry
    obtain ⟨quotable, keys⟩ := List.forall_mem_cons.mp keys
    obtain ⟨plain, plain'⟩ := forall_entryParts_cons.mp plain
    have named := betweenQuotes_quoted quotable.1
      (':' :: ' ' :: (value.chars ++ (laterEntries later ++ rest)))
    have parted := betweenQuotes_outside (by decide : '"' ∉ [':', ' '])
      (value.chars ++ (laterEntries later ++ rest))
    have one := betweenQuotes_chars value plain (laterEntries later ++ rest)
    have others := betweenQuotes_entryChars later keys plain' rest
    calc betweenQuotes none (entryChars ((key, value) :: later) ++ rest)
      _ = betweenQuotes none ('"' :: (key.toList ++ '"' ::
            (':' :: ' ' :: (value.chars ++ (laterEntries later ++ rest))))) := by
          simp [entryChars]
      _ = key :: (value.quotations ++ betweenQuotes none (laterEntries later ++ rest)) := by
          rw [named, ← one]
          exact congrArg (key :: ·) parted
      _ = entryQuotations ((key, value) :: later) ++ betweenQuotes none rest := by
          rw [betweenQuotes_laterEntries, others, entryQuotations, List.cons_append,
            List.append_assoc]

end

end Value

end Formula
