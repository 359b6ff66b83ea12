import Formula.Proofs.Grammar.Exact
import Formula.Proofs.Value.Words

/-!
# Signs in the text of a value

No operator stands before its operand, so a sign before a number cannot be read. It is the first
thing in the text of a value, or it follows a bracket, a comma or a colon, and there no minus may
stand. What comes after it makes no difference, whether it can be cut into tokens or not.
-/

namespace Formula

/-- The symbols after which a value stands in a text. -/
def leaders : List Token.Kind := [.symbol .leftBracket, .symbol .comma, .symbol .colon]

/-- Nothing, or words of which the last one leads to a value. -/
def Leading (words : List Word) : Prop := ∀ word ∈ words.getLast?, word.content.kind ∈ leaders

/-- A symbol after which a value has to come leads to one. -/
theorem leading_append {mark : Symbol} (leads : Token.Kind.symbol mark ∈ leaders)
    (before : List Word) : Leading (before ++ [mark.word]) := by
  intro word isLast
  rw [List.getLast?_concat] at isLast
  obtain rfl := Option.some.inj isLast
  exact leads

namespace Grammar

/-- No minus stands after a symbol that leads to a value. By cases on what was awaited before the
symbol and on the brackets around it. -/
theorem Frontier.next_minus {place inside : Frontier} {kind : Token.Kind} (leads : kind ∈ leaders)
    (moved : place.next kind = some inside) : inside.next (.symbol .minus) = none := by
  obtain ⟨awaited, brackets⟩ := place
  simp only [leaders, List.mem_cons, List.not_mem_nil, or_false] at leads
  rcases leads with rfl | rfl | rfl <;> rcases brackets with _ | ⟨_ | _ | _, outer⟩ <;>
    cases awaited <;> cases moved <;> rfl

/-- So tokens with a minus there, or at the beginning, make no statement. -/
theorem not_derives_of_leading {limit : Nat} {front rest : List Token} {minus : Token}
    (isMinus : minus.kind = .symbol .minus) (leading : Leading (front.map Token.word))
    (statement : Statement) : ¬Derives limit (front ++ minus :: rest) statement := by
  intro derived
  obtain ⟨place, reached, -⟩ := within_of_derives derived
  have passed := Frontier.after_of_within reached
  rw [Frontier.after_append] at passed
  obtain ⟨middle, before, passed⟩ := Option.bind_eq_some_iff.mp passed
  have blocked : middle.next minus.kind = none := by
    rw [isMinus]
    rcases List.eq_nil_or_concat front with rfl | ⟨init, last, rfl⟩
    · obtain rfl := Option.some.inj before
      rfl
    · have leads : last.kind ∈ leaders := leading last.word (by simp)
      rw [List.concat_eq_append, Frontier.after_append] at before
      obtain ⟨earlier, -, moved⟩ := Option.bind_eq_some_iff.mp before
      have moved : earlier.next last.kind = some middle := by simpa using moved
      exact Frontier.next_minus leads moved
  rw [Frontier.after_cons, blocked] at passed
  cases passed

end Grammar

/-- After some words, a text goes on to a minus where a value is led to. -/
def Breaks (before : List Word) (text : List Char) : Prop :=
  ∃ front rest words, text = front ++ '-' :: rest ∧ Draft.Adds front ('-' :: rest) words ∧
    Leading (before ++ words)

section Breaking

variable {before words : List Word} {front text : List Char}

/-- A text that breaks after some words breaks after the characters that add these words. -/
theorem Breaks.after (breaks : Breaks (before ++ words) text)
    (adds : Draft.Adds front text words) : Breaks before (front ++ text) := by
  obtain ⟨front', rest, words', rfl, adds', leading⟩ := breaks
  refine ⟨front ++ front', rest, words ++ words', ?_, adds.append adds', ?_⟩
  · rw [List.append_assoc]
  · rw [← List.append_assoc]
    exact leading

/-- A sign where a value is led to breaks the text at once. -/
theorem breaks_of_sign (leading : Leading before) (rest : List Char) :
    Breaks before ('-' :: rest) := by
  refine ⟨[], rest, [], rfl, Draft.adds_nil ('-' :: rest), ?_⟩
  rw [List.append_nil]
  exact leading

end Breaking

namespace Value

/-- A key and its colon lead to a value. -/
theorem leading_key (before : List Word) (key : String) :
    Leading (before ++ [keyWord key, Symbol.colon.word]) := by
  rw [List.append_cons]
  exact leading_append (by decide) (before ++ [keyWord key])

/-- A sign stands in a value or, if not, in what follows it. -/
theorem breaks_either {value : Value} {before : List Word} {rest : List Char}
    (separates : Front.Separates rest) (plain : ∀ part ∈ value.parts, part.IsPlain)
    (here : (¬∀ part ∈ value.parts, ¬part.IsSigned) → Breaks before (value.chars ++ rest))
    (later : (∀ part ∈ value.parts, ¬part.IsSigned) → Breaks (before ++ value.words) rest) :
    Breaks before (value.chars ++ rest) := by
  by_cases unsigned : ∀ part ∈ value.parts, ¬part.IsSigned
  · exact (later unsigned).after (adds_chars value separates plain unsigned)
  · exact here unsigned

/-- After a comma, items break as they do at the beginning of a list. -/
theorem breaks_laterItems {items : List Value} {before : List Word} {tail : List Char}
    (signed : ¬∀ part ∈ itemParts items, ¬part.IsSigned)
    (breaks : Breaks (before ++ [Symbol.comma.word]) (itemChars items ++ tail)) :
    Breaks before (laterItems items ++ tail) := by
  cases items with
  | nil => exact (signed (List.forall_mem_nil _)).elim
  | cons item later =>
    rw [laterItems_cons]
    exact breaks.after (adds_comma _)

/-- Entries break after a comma as they do at the beginning of a dictionary. -/
theorem breaks_laterEntries {entries : List (String × Value)} {before : List Word}
    {tail : List Char} (signed : ¬∀ part ∈ entryParts entries, ¬part.IsSigned)
    (breaks : Breaks (before ++ [Symbol.comma.word]) (entryChars entries ++ tail)) :
    Breaks before (laterEntries entries ++ tail) := by
  cases entries with
  | nil => exact (signed (List.forall_mem_nil _)).elim
  | cons entry later =>
    rw [laterEntries_cons]
    exact breaks.after (adds_comma _)

mutual

/-- A sign somewhere in a value breaks its text, wherever a value is led to. By induction on the
value: of items and entries, the first with a sign breaks it, after the words of those before. -/
theorem breaks_chars (value : Value) {before : List Word} (leading : Leading before)
    (tail : List Char) (plain : ∀ part ∈ value.parts, part.IsPlain)
    (signed : ¬∀ part ∈ value.parts, ¬part.IsSigned) : Breaks before (value.chars ++ tail) := by
  cases value with
  | integer number =>
    have negative : IsSigned (.integer number) := by simpa [parts] using signed
    obtain ⟨rest, begins⟩ := chars_of_signed negative
    rw [begins]
    exact breaks_of_sign leading (rest ++ tail)
  | float number =>
    have negative : IsSigned (.float number) := by simpa [parts] using signed
    obtain ⟨rest, begins⟩ := chars_of_signed negative
    rw [begins]
    exact breaks_of_sign leading (rest ++ tail)
  | string content => exact (signed (by simp [parts, IsSigned])).elim
  | boolean truth => exact (signed (by simp [parts, IsSigned])).elim
  | list items =>
    obtain ⟨-, plain⟩ := forall_parts_list.mp plain
    have signed' : ¬∀ part ∈ itemParts items, ¬part.IsSigned :=
      fun others => signed (forall_parts_list.mpr ⟨id, others⟩)
    have opened : Draft.Adds ['['] (itemChars items ++ ']' :: tail) [Symbol.leftBracket.word] :=
      Draft.adds_symbol (by decide) _
    have led : Leading (before ++ [Symbol.leftBracket.word]) := leading_append (by decide) before
    have inside := breaks_itemChars items led tail plain signed'
    have whole := inside.after opened
    rw [chars_list]
    simpa using whole
  | dictionary entries =>
    obtain ⟨keys, plain⟩ := forall_parts_dictionary.mp plain
    have signed' : ¬∀ part ∈ entryParts entries, ¬part.IsSigned :=
      fun others => signed (forall_parts_dictionary.mpr ⟨id, others⟩)
    have opened : Draft.Adds ['\x7b'] (entryChars entries ++ '\x7d' :: tail)
        [Symbol.leftBrace.word] :=
      Draft.adds_symbol (by decide) _
    have inside := breaks_entryChars entries (before ++ [Symbol.leftBrace.word]) tail keys plain
      signed'
    have whole := inside.after opened
    rw [chars_dictionary]
    simpa using whole

/-- A sign in one of some items breaks their text. -/
theorem breaks_itemChars (items : List Value) {before : List Word} (leading : Leading before)
    (tail : List Char) (plain : ∀ part ∈ itemParts items, part.IsPlain)
    (signed : ¬∀ part ∈ itemParts items, ¬part.IsSigned) :
    Breaks before (itemChars items ++ ']' :: tail) := by
  cases items with
  | nil => exact (signed (List.forall_mem_nil _)).elim
  | cons item later =>
    rw [forall_itemParts_cons] at signed
    obtain ⟨plain, plain'⟩ := forall_itemParts_cons.mp plain
    rw [itemChars, List.append_assoc]
    refine breaks_either (separates_laterItems later tail) plain ?_ ?_
    · exact breaks_chars item leading _ plain
    · intro unsigned
      have signed' : ¬∀ part ∈ itemParts later, ¬part.IsSigned :=
        fun others => signed ⟨unsigned, others⟩
      apply breaks_laterItems signed'
      exact breaks_itemChars later (leading_append (by decide) _) tail plain' signed'

/-- A key stands before each value of a dictionary, so words may lead to a value or not. -/
theorem breaks_entryChars (entries : List (String × Value)) (before : List Word)
    (tail : List Char) (keys : ∀ key ∈ Entries.keys entries, Quotable key)
    (plain : ∀ part ∈ entryParts entries, part.IsPlain)
    (signed : ¬∀ part ∈ entryParts entries, ¬part.IsSigned) :
    Breaks before (entryChars entries ++ '\x7d' :: tail) := by
  cases entries with
  | nil => exact (signed (List.forall_mem_nil _)).elim
  | cons entry later =>
    obtain ⟨key, value⟩ := entry
    rw [forall_entryParts_cons] at signed
    obtain ⟨quotable, keys⟩ := List.forall_mem_cons.mp keys
    obtain ⟨plain, plain'⟩ := forall_entryParts_cons.mp plain
    have whole : entryChars ((key, value) :: later) ++ '\x7d' :: tail =
        ('"' :: key.toList ++ ['"', ':', ' ']) ++
          (value.chars ++ (laterEntries later ++ '\x7d' :: tail)) := by
      simp [entryChars]
    rw [whole]
    apply Breaks.after ?_ (adds_key quotable _)
    refine breaks_either (separates_laterEntries later tail) plain ?_ ?_
    · exact breaks_chars value (leading_key before key) _ plain
    · intro unsigned
      have signed' : ¬∀ part ∈ entryParts later, ¬part.IsSigned :=
        fun others => signed ⟨unsigned, others⟩
      apply breaks_laterEntries signed'
      exact breaks_entryChars later _ tail keys plain' signed'

end

end Value

end Formula
