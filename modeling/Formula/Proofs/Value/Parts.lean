import Formula.Proofs.Token.Literals

/-!
# The parts of a value

What is said of every string, key and number in a value is said of its parts: the value itself and
the parts of its items or entries. The text of a value is on one line if no string or key has a
line feed in it, and never begins with a blank.
-/

namespace Formula.Value

open CharClass

mutual

/-- A value and everything inside it. -/
def parts : Value → List Value
  | .list items => .list items :: itemParts items
  | .dictionary entries => .dictionary entries :: entryParts entries
  | scalar => [scalar]

/-- The items and everything inside them. -/
def itemParts : List Value → List Value
  | [] => []
  | item :: later => parts item ++ itemParts later

/-- The values of entries and everything inside them. -/
def entryParts : List (String × Value) → List Value
  | [] => []
  | (_, value) :: later => parts value ++ entryParts later

end

mutual

/-- How many lists and dictionaries are around one place in a value at most. -/
def depth : Value → Nat
  | .list items => itemDepth items + 1
  | .dictionary entries => entryDepth entries + 1
  | _ => 0

/-- How deep the deepest of some items nests. -/
def itemDepth : List Value → Nat
  | [] => 0
  | item :: later => max (depth item) (itemDepth later)

/-- How deep the deepest value of some entries nests. -/
def entryDepth : List (String × Value) → Nat
  | [] => 0
  | (_, value) :: later => max (depth value) (entryDepth later)

end

/-- A value is one of its parts. -/
theorem mem_parts (value : Value) : value ∈ value.parts := by
  cases value <;> exact List.mem_cons_self

section Texts

/-- The texts of items with commas between them. -/
def itemChars : List Value → List Char
  | [] => []
  | first :: later => chars first ++ laterItems later

/-- The texts of entries with commas between them. -/
def entryChars : List (String × Value) → List Char
  | [] => []
  | (key, value) :: later =>
    ('"' :: key.toList ++ ['"', ':', ' ']) ++ (chars value ++ laterEntries later)

/-- The text of a list has its items between brackets. -/
theorem chars_list (items : List Value) :
    chars (.list items) = '[' :: (itemChars items ++ [']']) := by
  cases items with
  | nil => rw [chars, itemChars, List.nil_append]
  | cons first later => rw [chars, itemChars, List.cons_append, List.cons_append]

/-- The text of a dictionary has its entries between braces. -/
theorem chars_dictionary (entries : List (String × Value)) :
    chars (.dictionary entries) = '\x7b' :: (entryChars entries ++ ['\x7d']) := by
  cases entries with
  | nil => rw [chars, entryChars, List.nil_append]
  | cons entry later => simp [chars, entryChars]

/-- Later items are written like items, after a comma and a space. -/
theorem laterItems_cons (item : Value) (later : List Value) :
    laterItems (item :: later) = ',' :: ' ' :: itemChars (item :: later) := by
  rw [laterItems, itemChars, List.cons_append, List.cons_append]

/-- Later entries are written like entries, after a comma and a space. -/
theorem laterEntries_cons (entry : String × Value) (later : List (String × Value)) :
    laterEntries (entry :: later) = ',' :: ' ' :: entryChars (entry :: later) := by
  simp [laterEntries, entryChars]

end Texts

section Forall

variable {property : Value → Prop} {items later : List Value} {entries others : List (String × Value)}
  {value : Value} {key : String}

/-- What holds of every part of a list holds of the list and of the parts of its items. -/
theorem forall_parts_list : (∀ part ∈ (list items).parts, property part) ↔
    property (.list items) ∧ ∀ part ∈ itemParts items, property part := by
  rw [parts, List.forall_mem_cons]

/-- What holds of every part of a dictionary holds of the dictionary and of the parts of its
values. -/
theorem forall_parts_dictionary : (∀ part ∈ (dictionary entries).parts, property part) ↔
    property (.dictionary entries) ∧ ∀ part ∈ entryParts entries, property part := by
  rw [parts, List.forall_mem_cons]

/-- The parts of items are those of the first and of the others. -/
theorem forall_itemParts_cons : (∀ part ∈ itemParts (value :: later), property part) ↔
    (∀ part ∈ value.parts, property part) ∧ ∀ part ∈ itemParts later, property part := by
  rw [itemParts, List.forall_mem_append]

/-- The parts of entries are those of the first value and of the others. -/
theorem forall_entryParts_cons : (∀ part ∈ entryParts ((key, value) :: others), property part) ↔
    (∀ part ∈ value.parts, property part) ∧ ∀ part ∈ entryParts others, property part := by
  rw [entryParts, List.forall_mem_append]

/-- What holds of the parts of items holds of the parts of each item. -/
theorem forall_itemParts_iff : (∀ part ∈ itemParts items, property part) ↔
    ∀ item ∈ items, ∀ part ∈ item.parts, property part := by
  induction items with
  | nil => simp [itemParts]
  | cons item later ih => rw [forall_itemParts_cons, ih, List.forall_mem_cons]

/-- What holds of the parts of entries holds of the parts of each value. -/
theorem forall_entryParts_iff : (∀ part ∈ entryParts entries, property part) ↔
    ∀ entry ∈ entries, ∀ part ∈ entry.2.parts, property part := by
  induction entries with
  | nil => simp [entryParts]
  | cons entry later ih =>
    obtain ⟨key, value⟩ := entry
    rw [forall_entryParts_cons, ih, List.forall_mem_cons]

/-- Items nest no deeper than a limit if none of them does. -/
theorem itemDepth_le_iff {limit : Nat} :
    itemDepth items ≤ limit ↔ ∀ item ∈ items, item.depth ≤ limit := by
  induction items with
  | nil => simp [itemDepth]
  | cons item later ih => rw [itemDepth, Nat.max_le, List.forall_mem_cons, ih]

/-- Entries nest no deeper than a limit if none of their values does. -/
theorem entryDepth_le_iff {limit : Nat} :
    entryDepth entries ≤ limit ↔ ∀ entry ∈ entries, entry.2.depth ≤ limit := by
  induction entries with
  | nil => simp [entryDepth]
  | cons entry later ih =>
    obtain ⟨key, value⟩ := entry
    rw [entryDepth, Nat.max_le, List.forall_mem_cons, ih]

end Forall

/-- A text that can stand between quotes on one line. -/
def Quotable (text : String) : Prop := '"' ∉ text.toList ∧ '\n' ∉ text.toList

/-- A string, or a dictionary with keys, that can be quoted; other values have nothing to quote. -/
def IsPlain : Value → Prop
  | .string text => Quotable text
  | .dictionary entries => ∀ key ∈ Entries.keys entries, Quotable key
  | _ => True

/-- A dictionary holds each key once. -/
def HasDistinctKeys : Value → Prop
  | .dictionary entries => Entries.Distinct entries
  | _ => True

/-- A number that a literal denotes: a whole number that is not negative, or a finite one with a
positive sign. -/
def HasLiteral : Value → Prop
  | .integer number => 0 ≤ number.toInt
  | .float number => number.isFinite = true ∧ Binary64.isNegative number = false
  | _ => True

/-- A number that is written with a sign before it. -/
def IsSigned : Value → Prop
  | .integer number => number.toInt < 0
  | .float number => number.isNaN = false ∧ Binary64.isNegative number = true
  | _ => False

/-- A literal has no sign. -/
theorem HasLiteral.not_isSigned {value : Value} (literal : value.HasLiteral) :
    ¬value.IsSigned := by
  intro signed
  cases value with
  | integer number => exact absurd signed (Int.not_lt.mpr literal)
  | float number => cases literal.2.symm.trans signed.2
  | string | boolean | list | dictionary => exact signed

/-- A whole number is written with its digits, after a sign if it is below zero. -/
theorem toList_toString (number : Int) : (toString number).toList =
    if number < 0 then '-' :: Nat.toDigits 10 number.natAbs else Nat.toDigits 10 number.natAbs := by
  cases number with
  | ofNat count =>
    have natural : ¬Int.ofNat count < 0 := Int.not_lt.mpr (Int.natCast_nonneg count)
    rw [if_neg natural]
    exact Nat.toList_repr
  | negSucc count =>
    have written : (toString (Int.negSucc count)).toList = ("-" ++ toString (count + 1)).toList :=
      rfl
    rw [if_pos (Int.negSucc_lt_zero count), written, String.toList_append, Nat.toString_eq_repr,
      Nat.toList_repr]
    rfl

/-- The text of a number with a sign begins with the sign. -/
theorem chars_of_signed {value : Value} (signed : value.IsSigned) :
    ∃ rest, value.chars = '-' :: rest := by
  cases value with
  | integer number =>
    have negative : number.toInt < 0 := signed
    rw [chars, toList_toString, if_pos negative]
    exact ⟨_, rfl⟩
  | float number =>
    rw [chars]
    exact FloatText.write_signed signed.1 signed.2
  | string | boolean | list | dictionary => exact signed.elim

section Unsigned

variable {number : Float} (unsigned : ¬IsSigned (.float number))

include unsigned

/-- A float without a sign is no number, or it is not negative. -/
theorem either_of_unsigned : number.isNaN = true ∨ Binary64.isNegative number = false := by
  simpa [IsSigned, ← Bool.not_eq_true, Classical.or_iff_not_imp_left] using unsigned

/-- A finite number without a sign has a literal. -/
theorem hasLiteral_of_finite (finite : number.isFinite = true) : HasLiteral (.float number) := by
  have isNumber : ¬number.isNaN = true := by
    have below := (Binary64.isFinite_iff number).mp finite
    rw [Binary64.isNaN_iff]
    omega
  exact ⟨finite, (either_of_unsigned unsigned).resolve_left isNumber⟩

/-- It is read as the literal, and what is not finite as a name. -/
theorem stands_float : Front.Stands (if number.isFinite then .float number else .name)
    (FloatText.write FloatText.plain number).toList := by
  split
  · next finite => exact Front.stands_float finite (hasLiteral_of_finite unsigned finite).2
  · next other => exact Front.stands_nameless (by simpa using other) (either_of_unsigned unsigned)

end Unsigned

/-- The text of a value begins with something else than a blank. -/
theorem chars_begin (value : Value) :
    ∃ c later, value.chars = c :: later ∧ isBlank c = false := by
  by_cases signed : value.IsSigned
  · obtain ⟨rest, begins⟩ := chars_of_signed signed
    exact ⟨'-', rest, begins, by decide +kernel⟩
  cases value with
  | integer number =>
    rw [chars]
    exact (Front.stands_integer (Int.not_lt.mp signed)).begins
  | float number =>
    rw [chars]
    exact (stands_float signed).begins
  | string text => exact ⟨'"', _, by rw [chars]; rfl, by decide +kernel⟩
  | boolean truth =>
    rw [chars]
    exact (Front.stands_boolean truth).begins
  | list items => exact ⟨'[', _, chars_list items, by decide +kernel⟩
  | dictionary entries => exact ⟨'\x7b', _, chars_dictionary entries, by decide +kernel⟩

/-- A whole number is written with digits and perhaps a sign. -/
theorem mem_toString (number : Int) :
    ∀ c ∈ (toString number).toList, isDigit c = true ∨ c = '-' := by
  have digits : ∀ c ∈ Nat.toDigits 10 number.natAbs, isDigit c = true ∨ c = '-' :=
    fun c member => .inl (Decimal.isDigit_of_mem_toDigits member)
  rw [toList_toString]
  split
  · exact List.forall_mem_cons.mpr ⟨.inr rfl, digits⟩
  · exact digits

/-- The text of a value does not begin with a capital. By cases on the value; only what is no number
is written with one, and that is another. -/
theorem head?_chars_ne (value : Value) : value.chars.head? ≠ some 'E' := by
  intro capital
  cases value with
  | integer number =>
    rw [chars] at capital
    have member := List.mem_of_mem_head? capital
    obtain digit | sign := mem_toString number.toInt _ member <;> contradiction
  | float number =>
    rw [chars] at capital
    have member := List.mem_of_mem_head? capital
    obtain digit | other := FloatText.mem_write number _ member
    · contradiction
    · exact absurd other (by decide)
  | string text =>
    rw [chars] at capital
    cases capital
  | boolean truth =>
    rw [chars] at capital
    cases truth <;> exact absurd capital (by decide)
  | list items =>
    rw [chars_list] at capital
    cases capital
  | dictionary entries =>
    rw [chars_dictionary] at capital
    cases capital

section Numbers

variable {c : Char} (delimits : c = '\n' ∨ c = '"')

include delimits

/-- No number is written with a line feed or a quote in it. -/
theorem not_mem_integer (number : Int64) : c ∉ (integer number).chars := by
  intro member
  rw [chars] at member
  obtain rfl | rfl := delimits <;> obtain digit | sign := mem_toString number.toInt _ member <;>
    contradiction

/-- Nor is a floating-point number, whose text is made of digits, a point, a sign and a few
letters. -/
theorem not_mem_float (number : Float) : c ∉ (float number).chars := by
  intro member
  rw [chars] at member
  obtain rfl | rfl := delimits <;> obtain digit | other := FloatText.mem_write number _ member
  · contradiction
  · exact absurd other (by decide)
  · contradiction
  · exact absurd other (by decide)

end Numbers

mutual

/-- The text of a value is on one line. By induction on the value: its strings and keys have no line
feeds in them, and what is written around them has none. -/
theorem feed_not_mem_chars (value : Value) (plain : ∀ part ∈ value.parts, part.IsPlain) :
    '\n' ∉ value.chars := by
  cases value with
  | integer number => exact not_mem_integer (.inl rfl) number
  | float number => exact not_mem_float (.inl rfl) number
  | string text =>
    have quotable : Quotable text := plain (.string text) (mem_parts _)
    simp [chars, quotable.2]
  | boolean truth => cases truth <;> decide
  | list items =>
    have free := feed_not_mem_itemChars items (forall_parts_list.mp plain).2
    simp [chars_list, free]
  | dictionary entries =>
    obtain ⟨keys, plain⟩ := forall_parts_dictionary.mp plain
    have free := feed_not_mem_entryChars entries keys plain
    simp [chars_dictionary, free]

/-- So is the text of items. -/
theorem feed_not_mem_itemChars (items : List Value)
    (plain : ∀ part ∈ itemParts items, part.IsPlain) : '\n' ∉ itemChars items := by
  cases items with
  | nil => simp [itemChars]
  | cons item later =>
    obtain ⟨plain, plain'⟩ := forall_itemParts_cons.mp plain
    have free := feed_not_mem_chars item plain
    have others := feed_not_mem_itemChars later plain'
    have free' : '\n' ∉ laterItems later := by
      cases later with
      | nil => simp [laterItems]
      | cons next later => simp [laterItems_cons, others]
    simp [itemChars, free, free']

/-- So is the text of entries. -/
theorem feed_not_mem_entryChars (entries : List (String × Value))
    (keys : ∀ key ∈ Entries.keys entries, Quotable key)
    (plain : ∀ part ∈ entryParts entries, part.IsPlain) : '\n' ∉ entryChars entries := by
  cases entries with
  | nil => simp [entryChars]
  | cons entry later =>
    obtain ⟨key, value⟩ := entry
    obtain ⟨quotable, keys⟩ := List.forall_mem_cons.mp keys
    obtain ⟨plain, plain'⟩ := forall_entryParts_cons.mp plain
    have free := feed_not_mem_chars value plain
    have others := feed_not_mem_entryChars later keys plain'
    have free' : '\n' ∉ laterEntries later := by
      cases later with
      | nil => simp [laterEntries]
      | cons next later => simp [laterEntries_cons, others]
    simp [entryChars, free, free', quotable.2]

end

end Formula.Value
