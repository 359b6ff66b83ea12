import Formula.Proofs.Token.Fronts

/-!
# What tokens are spelled like

Each kind of token has its spelling, and the spelling alone says which value the token has. Numbers
are spelled with digits, strings between quotes, truth values as two words; names and symbols denote
nothing. Whatever the reading of a line takes for a token is spelled as its kind demands.
-/

namespace Formula

open CharClass

/-- The kinds of tokens, how each is spelled, and the value that the spelling denotes. -/
inductive Denotes : Token.Kind → List Char → Option Value → Prop
  | integer (digits : List Char) (number : Int64) (nonempty : digits ≠ [])
      (all : ∀ c ∈ digits, isDigit c = true)
      (exact : number.toInt = Nat.ofDigitChars 10 digits 0) :
      Denotes .integer digits (some (.integer number))
  | float (whole fraction : List Char) (nonempty : whole ≠ [] ∧ fraction ≠ [])
      (all : (∀ c ∈ whole, isDigit c = true) ∧ ∀ c ∈ fraction, isDigit c = true)
      (finite : ((Decimal.ofDigits whole fraction).toFloat false).isFinite = true) :
      Denotes .float (whole ++ '.' :: fraction)
        (some (.float ((Decimal.ofDigits whole fraction).toFloat false)))
  | string (body : List Char) (noQuote : '"' ∉ body) :
      Denotes .string ('"' :: body ++ ['"']) (some (.string (String.ofList body)))
  | boolean (truth : Bool) : Denotes .boolean (toString truth).toList (some (.boolean truth))
  | name (c : Char) (later : List Char) (start : isNameStart c = true)
      (parts : ∀ d ∈ later, isNamePart d = true) : Denotes .name (c :: later) none
  | symbol (mark : Symbol) : Denotes (.symbol mark) [mark.char] none

namespace Front

variable {c : Char} {later lexeme rest : List Char} {content : Token.Content}

/-- A number has the value that its digits denote, within the range of whole numbers or as a finite
number. -/
theorem denotes_of_number (digit : isDigit c = true)
    (found : number (c :: later) = .ok ⟨.token content, lexeme, rest⟩) :
    Denotes content.kind lexeme content.value? := by
  have nonempty : (c :: later).takeWhile isDigit ≠ [] := by simp [digit]
  have all : ∀ d ∈ (c :: later).takeWhile isDigit, isDigit d = true :=
    List.all_eq_true.mp List.all_takeWhile
  obtain ⟨fraction, parted, literal, rfl⟩ | ⟨-, -, literal, rfl⟩ := number_eq_ok found
  · obtain ⟨rfl, finite⟩ := floatLiteral_eq_ok literal
    obtain ⟨places, digits⟩ := digits_of_fraction? parted
    exact .float _ fraction ⟨nonempty, places⟩ ⟨all, digits⟩ finite
  · obtain ⟨number, rfl, fits⟩ := integerLiteral_eq_ok literal
    exact .integer _ number nonempty all (Checked.ofInt?_eq_some_iff.mp fits)

/-- A truth value is spelled like one, and a name is made of the characters of names. -/
theorem denotes_of_word (start : isNameStart c = true)
    (found : word (c :: later) = ⟨.token content, lexeme, rest⟩) :
    Denotes content.kind lexeme content.value? := by
  obtain ⟨truth, -, isTruth⟩ | ⟨-, isName⟩ := word_cases (c :: later)
  · obtain ⟨⟨⟩, rfl, -⟩ := Front.mk.inj (isTruth.symm.trans found)
    exact .boolean truth
  · obtain ⟨⟨⟩, isLexeme, -⟩ := Front.mk.inj (isName.symm.trans found)
    rw [← isLexeme, List.takeWhile_cons, if_pos (isNamePart_of_isNameStart c start)]
    exact .name c _ start (List.all_eq_true.mp List.all_takeWhile)

/-- A token has the value that its lexeme denotes. By cases on the rule that reads it, each of which
makes its literal from the characters that it takes. -/
theorem denotes_of_token (found : ofChars c later = .ok ⟨.token content, lexeme, rest⟩) :
    Denotes content.kind lexeme content.value? := by
  cases tokenRule_of_ofChars found with
  | number digit number => exact denotes_of_number digit number
  | word start word => exact denotes_of_word start word
  | string quote string =>
    obtain ⟨body, rfl, noQuote, rfl, -⟩ := string_eq_ok string
    exact .string body noQuote
  | symbol alone symbol =>
    obtain ⟨mark, rfl, rfl, rfl, -⟩ := symbol_eq_ok symbol
    exact .symbol mark

end Front

/-- Characters of a class and the first one after them that does not belong to it can be told from
the whole, by taking characters of the class for as long as there are any. -/
theorem append_cons_inj {inClass : Char → Bool} {first second : List Char} {d e : Char}
    {more others : List Char} (all : ∀ f ∈ first, inClass f = true)
    (all' : ∀ f ∈ second, inClass f = true) (ends : inClass d = false) (ends' : inClass e = false)
    (same : first ++ d :: more = second ++ e :: others) :
    first = second ∧ d :: more = e :: others := by
  have taken := congrArg (List.takeWhile inClass) same
  rw [List.takeWhile_append_of_pos all, List.takeWhile_append_of_pos all',
    List.takeWhile_cons_of_neg (ne_true_of_eq_false ends),
    List.takeWhile_cons_of_neg (ne_true_of_eq_false ends'), List.append_nil, List.append_nil]
    at taken
  subst taken
  exact ⟨rfl, List.append_cancel_left same⟩

/-- A symbol is written with no character that begins another token. -/
theorem Symbol.classes_char (mark : Symbol) :
    isDigit mark.char = false ∧ isNameStart mark.char = false ∧ mark.char ≠ '"' := by
  cases mark <;> decide +kernel

namespace Denotes

variable {kind : Token.Kind} {lexeme : List Char} {value value' : Option Value} {c : Char}

/-- Of one kind, a lexeme denotes one value. By cases on the kind; a decimal has one point, so its
two parts are known from it. -/
theorem unique (first : Denotes kind lexeme value) (second : Denotes kind lexeme value') :
    value = value' := by
  cases first with
  | integer digits number nonempty all exact =>
    cases second with
    | integer _ number' nonempty' all' exact' =>
      rw [Int64.toInt_inj.mp (exact.trans exact'.symm)]
  | float whole fraction nonempty all finite =>
    generalize same : whole ++ '.' :: fraction = lexeme at second
    cases second with
    | float whole' fraction' nonempty' all' finite' =>
      obtain ⟨rfl, parted⟩ := append_cons_inj all.1 all'.1 (by decide) (by decide) same
      obtain ⟨-, rfl⟩ := List.cons.inj parted
      rfl
  | string body noQuote =>
    generalize same : '"' :: body ++ ['"'] = lexeme at second
    cases second with
    | string body' noQuote' =>
      rw [List.append_cancel_right (List.cons.inj same).2]
  | boolean truth =>
    generalize same : (toString truth).toList = lexeme at second
    cases second with
    | boolean truth' => cases truth <;> cases truth' <;> first | rfl | cases same
  | name => cases second; rfl
  | symbol => cases second; rfl

section First

variable (denotes : Denotes kind lexeme value) (isHead : c ∈ lexeme.head?)

include denotes isHead

/-- The first character of a lexeme tells what the others are. By cases on what the lexeme denotes;
the four alternatives begin with different characters. -/
theorem first_cases :
    isDigit c = true ∧ ((∀ d ∈ lexeme, isDigit d = true) ∨
        ∃ whole fraction, lexeme = whole ++ '.' :: fraction ∧ fraction ≠ [] ∧
          (∀ d ∈ whole, isDigit d = true) ∧ ∀ d ∈ fraction, isDigit d = true) ∨
      isNameStart c = true ∧ (∀ d ∈ lexeme, isNamePart d = true) ∨
      c = '"' ∧ (∃ body, lexeme = '"' :: body ++ ['"'] ∧ '"' ∉ body) ∨
      (∃ mark : Symbol, c = mark.char) ∧ lexeme = [c] := by
  cases denotes with
  | integer digits number nonempty all exact =>
    exact .inl ⟨all c (List.mem_of_mem_head? isHead), .inl all⟩
  | float whole fraction nonempty all finite =>
    have first : c ∈ whole := by
      have begun : whole.head?.isSome = true := by simpa using nonempty.1
      rw [List.head?_append, Option.or_of_isSome begun] at isHead
      exact List.mem_of_mem_head? isHead
    exact .inl ⟨all.1 c first, .inr ⟨whole, fraction, rfl, nonempty.2, all⟩⟩
  | string body noQuote =>
    obtain rfl := Option.some.inj isHead
    exact .inr (.inr (.inl ⟨rfl, body, rfl, noQuote⟩))
  | boolean truth =>
    have named : (toString truth).toList.all isNamePart = true := by
      cases truth <;> decide +kernel
    have start : isNameStart c = true := by
      cases truth <;> obtain rfl := Option.some.inj isHead <;> decide +kernel
    exact .inr (.inl ⟨start, List.all_eq_true.mp named⟩)
  | name d more start parts =>
    obtain rfl := Option.some.inj isHead
    have begins := isNamePart_of_isNameStart d start
    exact .inr (.inl ⟨start, List.forall_mem_cons.mpr ⟨begins, parts⟩⟩)
  | symbol mark =>
    obtain rfl := Option.some.inj isHead
    exact .inr (.inr (.inr ⟨⟨mark, rfl⟩, rfl⟩))

/-- What begins with a digit is made of digits, perhaps with a point among them. -/
theorem of_digit (digit : isDigit c = true) :
    (∀ d ∈ lexeme, isDigit d = true) ∨
      ∃ whole fraction, lexeme = whole ++ '.' :: fraction ∧ fraction ≠ [] ∧
        (∀ d ∈ whole, isDigit d = true) ∧ ∀ d ∈ fraction, isDigit d = true := by
  obtain ⟨-, digits⟩ | ⟨start, -⟩ | ⟨rfl, -⟩ | ⟨⟨mark, rfl⟩, -⟩ := denotes.first_cases isHead
  · exact digits
  · cases (classes_of_isDigit digit).2.1.symm.trans start
  · cases digit
  · cases mark.classes_char.1.symm.trans digit

/-- What begins like a name is made of the characters of names. -/
theorem of_nameStart (start : isNameStart c = true) : ∀ d ∈ lexeme, isNamePart d = true := by
  obtain ⟨digit, -⟩ | ⟨-, parts⟩ | ⟨rfl, -⟩ | ⟨⟨mark, rfl⟩, -⟩ := denotes.first_cases isHead
  · cases (classes_of_isDigit digit).2.1.symm.trans start
  · exact parts
  · exact absurd start (by decide +kernel)
  · cases mark.classes_char.2.1.symm.trans start

/-- What begins with a quote ends with the next one. -/
theorem of_quote (quote : c = '"') : ∃ body, lexeme = '"' :: body ++ ['"'] ∧ '"' ∉ body := by
  subst quote
  obtain ⟨digit, -⟩ | ⟨start, -⟩ | ⟨-, string⟩ | ⟨⟨mark, isMark⟩, -⟩ :=
    denotes.first_cases isHead
  · cases digit
  · exact absurd start (by decide +kernel)
  · exact string
  · exact absurd isMark.symm mark.classes_char.2.2

/-- What begins with a symbol is that symbol, because no other lexeme begins with its character. -/
theorem of_symbol {mark : Symbol} (isMark : c = mark.char) : lexeme = [c] := by
  subst isMark
  obtain ⟨digit, -⟩ | ⟨start, -⟩ | ⟨isQuote, -⟩ | ⟨-, alone⟩ := denotes.first_cases isHead
  · cases mark.classes_char.1.symm.trans digit
  · cases mark.classes_char.2.1.symm.trans start
  · exact absurd isQuote mark.classes_char.2.2
  · exact alone

end First

end Denotes

end Formula
