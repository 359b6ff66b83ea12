import Formula.Proofs.Token.Faults

/-!
# No token could have been longer

What stands at the front of a line is tried in a fixed order, and the first rule that fits takes it,
even where a longer token could be made of more characters. A truth value before a superscript is
such a place: it is a word of its own, though a name could have gone on with the superscript. But
whatever a name could go on with and a word could not, begins no piece of a line. So where no fault
is found, each token is as long as it could be.
-/

namespace Formula

open CharClass

/-- What stands after a token on its line does not belong to it: no name goes on there and no digits
do, a whole number is not the beginning of a decimal, and a slash is not the beginning of a remark
or a comment. What is spelled like a truth value is one. Altogether, no more of the line is spelled
like a token of any kind. -/
structure Token.IsLongest (token : Token) (after : List Char) : Prop where
  word : token.kind = .name ∨ token.kind = .boolean → ∀ c ∈ after.head?, isNamePart c = false
  digits : token.kind = .integer ∨ token.kind = .float → ∀ c ∈ after.head?, isDigit c = false
  point : token.kind = .integer → ∀ c later, after = '.' :: c :: later → isDigit c = false
  slash : token.kind = .symbol .slash → ∀ c ∈ after.head?, c ≠ '/' ∧ c ≠ '*'
  truth : token.kind = .boolean → token.lexeme = "true" ∨ token.lexeme = "false"
  name : token.kind = .name → token.lexeme ≠ "true" ∧ token.lexeme ≠ "false"
  maximal : ∀ kind candidate value, Denotes kind candidate value →
    candidate <+: token.lexeme.toList ++ after → candidate.length ≤ token.lexeme.toList.length

namespace Front

variable {c : Char} {later lexeme rest : List Char} {content : Token.Content}

/-- Numbers are read as numbers, words as words, and symbols as symbols. -/
theorem number_of_kind (found : ofChars c later = .ok ⟨.token content, lexeme, rest⟩)
    (isNumber : content.kind = .integer ∨ content.kind = .float) :
    number (c :: later) = .ok ⟨.token content, lexeme, rest⟩ := by
  obtain ⟨-, number⟩ | ⟨isWord, -⟩ | ⟨isString, -⟩ | ⟨⟨mark, isMark⟩, -⟩ := token_cases found
  · exact number
  · rcases isNumber with isKind | isKind <;> simp [isKind] at isWord
  · rcases isNumber with isKind | isKind <;> cases isKind.symm.trans isString
  · rcases isNumber with isKind | isKind <;> cases isKind.symm.trans isMark

/-- Names and truth values are read by the rule for words. -/
theorem word_of_kind (found : ofChars c later = .ok ⟨.token content, lexeme, rest⟩)
    (isWord : content.kind = .name ∨ content.kind = .boolean) :
    word (c :: later) = ⟨.token content, lexeme, rest⟩ := by
  obtain ⟨isNumber, -⟩ | ⟨-, word⟩ | ⟨isString, -⟩ | ⟨⟨mark, isMark⟩, -⟩ := token_cases found
  · rcases isWord with isKind | isKind <;> simp [isKind] at isNumber
  · exact word
  · rcases isWord with isKind | isKind <;> cases isKind.symm.trans isString
  · rcases isWord with isKind | isKind <;> cases isKind.symm.trans isMark

/-- Symbols are read by the rule for symbols, and the rest is what follows. -/
theorem symbol_of_kind {mark : Symbol}
    (found : ofChars c later = .ok ⟨.token content, lexeme, rest⟩)
    (isMark : content.kind = .symbol mark) : c = mark.char ∧ rest = later := by
  obtain ⟨isNumber, -⟩ | ⟨isWord, -⟩ | ⟨isString, -⟩ | ⟨-, isSymbol⟩ := token_cases found
  · simp [isMark] at isNumber
  · simp [isMark] at isWord
  · cases isMark.symm.trans isString
  · obtain ⟨other, rfl, isChar, -, isRest⟩ := symbol_eq_ok isSymbol
    obtain rfl : other = mark := Token.Kind.symbol.inj isMark
    exact ⟨isChar, isRest⟩

/-- A slash that is a token begins neither a remark nor a comment. -/
theorem alone_of_slash (found : ofChars '/' later = .ok ⟨.token content, lexeme, rest⟩) :
    ∀ d ∈ later.head?, d ≠ '/' ∧ d ≠ '*' := by
  cases tokenRule_of_ofChars found with
  | number digit => cases digit
  | word start => exact absurd start (by decide +kernel)
  | string quote => cases quote
  | symbol alone => exact alone rfl

/-- Digits end where there are no more, and a point after them has no digit after it unless they are
the first part of a decimal. -/
theorem ends_of_number (found : number (c :: later) = .ok ⟨.token content, lexeme, rest⟩) :
    (∀ d ∈ rest.head?, isDigit d = false) ∧
      (content.kind = .integer → ∀ d more, rest = '.' :: d :: more → isDigit d = false) := by
  obtain ⟨fraction, parted, literal, -⟩ | ⟨whole, isRest, literal, -⟩ := number_eq_ok found
  · refine ⟨ends_of_fraction? parted, fun isInteger => ?_⟩
    rw [(floatLiteral_eq_ok literal).1] at isInteger
    cases isInteger
  · refine ⟨isRest ▸ ends_dropWhile (c :: later), fun _ d more split => ?_⟩
    rw [← isRest, split, fraction?] at whole
    apply eq_false_of_ne_true
    intro digit
    rw [if_pos digit] at whole
    cases whole

/-- Characters start with a word if it ends before those that follow it. -/
theorem startsWith_append_self (word rest : List Char) :
    startsWith word (word ++ rest) = endsWord rest := by
  have begins : word.isPrefixOf (word ++ rest) = true :=
    List.isPrefixOf_iff_prefix.mpr (List.prefix_append word rest)
  rw [startsWith, begins, List.drop_left, Bool.true_and]

/-- A word ends where no name goes on, if another piece begins there. A truth value ends where no
word goes on, which is the same there. -/
theorem ends_of_word (found : word (c :: later) = ⟨.token content, lexeme, rest⟩)
    (alike : ∀ d ∈ rest.head?, isWordPart d = isNamePart d) :
    ∀ d ∈ rest.head?, isNamePart d = false := by
  intro d isHead
  obtain ⟨truth, starts, isTruth⟩ | ⟨-, isName⟩ := word_cases (c :: later)
  · obtain ⟨-, -, isRest⟩ := Front.mk.inj (isTruth.symm.trans found)
    have ends : endsWord ((c :: later).drop (toString truth).toList.length) = true :=
      (Bool.and_eq_true_iff.mp starts).2
    obtain ⟨more, split⟩ := List.head?_eq_some_iff.mp isHead
    rw [String.length_toList, isRest, split] at ends
    rw [← alike d isHead]
    simpa [endsWord] using ends
  · obtain ⟨-, -, isRest⟩ := Front.mk.inj (isName.symm.trans found)
    have stops := List.head?_dropWhile_not isNamePart (c :: later)
    rw [isRest, isHead] at stops
    exact stops

/-- A word is a truth value exactly if it is spelled like one, if another piece begins after it. A
name that is spelled like one would end as a word, so the truth value would have been read. -/
theorem spelling_of_word (found : word (c :: later) = ⟨.token content, lexeme, rest⟩)
    (alike : ∀ d ∈ rest.head?, isWordPart d = isNamePart d) :
    content.kind = .boolean ↔ ∃ truth : Bool, lexeme = (toString truth).toList := by
  obtain ⟨truth, starts, isTruth⟩ | ⟨noTruth, isName⟩ := word_cases (c :: later)
  · obtain ⟨isBoolean, isLexeme, -⟩ := Front.mk.inj (isTruth.symm.trans found)
    obtain rfl := Piece.token.inj isBoolean
    exact ⟨fun _ => ⟨truth, isLexeme.symm⟩, fun _ => rfl⟩
  · obtain ⟨isNameToken, isLexeme, isRest⟩ := Front.mk.inj (isName.symm.trans found)
    obtain rfl := Piece.token.inj isNameToken
    constructor
    · intro impossible
      cases impossible
    · rintro ⟨truth, spelled⟩
      have split : c :: later = (toString truth).toList ++ rest := by
        rw [← spelled, ← isLexeme, ← isRest]
        exact List.takeWhile_append_dropWhile.symm
      have ends : endsWord rest = true := by
        cases rest with
        | nil => rfl
        | cons d more =>
          have notNamed := ends_of_word found alike d rfl
          rw [endsWord, alike d rfl, notNamed]
          rfl
      have starts := noTruth truth
      rw [split, startsWith_append_self, ends] at starts
      cases starts

section Longer

variable {kind : Token.Kind} {value : Option Value}

/-- What is spelled with the characters of a number and more goes on with its digits, or with a
point and digits if there was no point. Nothing else begins with a digit and is spelled like a
token. -/
theorem goesOn_of_number {d : Char} {more : List Char} (digit : isDigit c = true)
    (found : number (c :: later) = .ok ⟨.token content, lexeme, rest⟩)
    (longer : Denotes kind (lexeme ++ d :: more) value)
    (isHead : c ∈ (lexeme ++ d :: more).head?) :
    isDigit d = true ∨ content.kind = .integer ∧ d = '.' ∧
      ∃ e others, more = e :: others ∧ isDigit e = true := by
  by_cases goesOn : isDigit d = true
  · exact .inl goesOn
  · have ends : isDigit d = false := eq_false_of_ne_true goesOn
    have point : isDigit '.' = false := by decide
    have whole : ∀ e ∈ (c :: later).takeWhile isDigit, isDigit e = true :=
      List.all_eq_true.mp List.all_takeWhile
    obtain ⟨fraction, -, -, rfl⟩ | ⟨-, -, literal, rfl⟩ := number_eq_ok found
    · obtain all | ⟨whole', fraction', same, -, all, all'⟩ := longer.of_digit isHead digit
      · cases point.symm.trans (all '.' (by simp))
      · rw [List.append_assoc, List.cons_append] at same
        obtain ⟨-, same⟩ := append_cons_inj whole all point point same
        have member : d ∈ fraction' := by
          rw [← (List.cons.inj same).2]
          simp
        exact absurd (all' d member) goesOn
    · obtain all | ⟨whole', fraction', same, places, all, all'⟩ := longer.of_digit isHead digit
      · exact absurd (all d (by simp)) goesOn
      · obtain ⟨-, same⟩ := append_cons_inj whole all ends point same
        obtain ⟨isPoint, rfl⟩ := List.cons.inj same
        obtain ⟨number, rfl, -⟩ := integerLiteral_eq_ok literal
        cases more with
        | nil => exact absurd rfl places
        | cons e others => exact .inr ⟨rfl, isPoint, e, others, rfl, all' e List.mem_cons_self⟩

/-- No more characters than those of a token are spelled like a token, if another piece begins right
after it. A longer candidate begins with the same character, so it is of the same shape, and then
the token itself would have gone on. -/
theorem length_le_of_denotes {candidate : List Char}
    (found : ofChars c later = .ok ⟨.token content, lexeme, rest⟩)
    (alike : ∀ d ∈ rest.head?, isWordPart d = isNamePart d)
    (denotes : Denotes kind candidate value) (isPrefix : candidate <+: lexeme ++ rest) :
    candidate.length ≤ lexeme.length := by
  obtain ⟨tail, split⟩ := isPrefix
  obtain ⟨fewer, rfl, -⟩ | ⟨longer, rfl, rfl⟩ := List.append_eq_append_iff.mp split
  · simp
  · cases longer with
    | nil => simp
    | cons d more =>
      -- The rule that read the token is told by its first character, and the candidate has the same
      -- one; so it would have to go on as the token does, with the character after it.
      exfalso
      have isHead : c ∈ (lexeme ++ d :: more).head? := by
        obtain ⟨nonempty, whole⟩ := ofChars_splits found
        cases lexeme with
        | nil => exact absurd rfl nonempty
        | cons b others =>
          obtain ⟨isFirst, -⟩ := List.cons.inj whole
          exact congrArg some isFirst
      cases tokenRule_of_ofChars found with
      | number digit number =>
        obtain ⟨noDigit, noPoint⟩ := ends_of_number number
        obtain digit' | ⟨isInteger, rfl, e, others, rfl, digit'⟩ :=
          goesOn_of_number digit number denotes isHead
        · cases (noDigit d rfl).symm.trans digit'
        · cases (noPoint isInteger e (others ++ tail) rfl).symm.trans digit'
      | word start word =>
        have part := denotes.of_nameStart isHead start d (by simp)
        cases (ends_of_word word alike d rfl).symm.trans part
      | string quote string =>
        obtain ⟨body, -, noQuote, rfl, -⟩ := string_eq_ok string
        obtain ⟨body', same, noQuote'⟩ := denotes.of_quote isHead quote
        have quoted : body ++ '"' :: d :: more = body' ++ ['"'] := by simpa using same
        obtain ⟨-, ends⟩ := append_cons_inj (differs_of_not_mem noQuote)
          (differs_of_not_mem noQuote') (by decide) (by decide) quoted
        cases ends
      | symbol alone symbol =>
        obtain ⟨mark, -, isMark, rfl, -⟩ := symbol_eq_ok symbol
        cases denotes.of_symbol isHead isMark

end Longer

end Front

/-- A token is longest where it was found. Each part is told from the rule for its kind and from the
piece that begins after it. -/
theorem Token.Found.isLongest {token : Token} {lines : List String} {before after : List Char}
    (found : token.Found lines before after) : token.IsLongest after := by
  obtain ⟨c, later, front⟩ := found.front
  have alike := Front.alike_of_goesOn found.goesOn
  constructor
  case word =>
    intro isWord
    exact Front.ends_of_word (Front.word_of_kind front isWord) alike
  case digits =>
    intro isNumber
    exact (Front.ends_of_number (Front.number_of_kind front isNumber)).1
  case point =>
    intro isInteger
    exact (Front.ends_of_number (Front.number_of_kind front (.inl isInteger))).2 isInteger
  case slash =>
    intro isSlash
    obtain ⟨rfl, rfl⟩ := Front.symbol_of_kind front isSlash
    exact Front.alone_of_slash front
  case truth =>
    intro isTruth
    have word := Front.word_of_kind front (.inr isTruth)
    obtain ⟨truth, spelled⟩ := (Front.spelling_of_word word alike).mp isTruth
    rw [String.toList_inj] at spelled
    rw [spelled]
    cases truth
    · exact .inr rfl
    · exact .inl rfl
  case name =>
    intro isName
    have word := Front.word_of_kind front (.inl isName)
    have notTruth (truth : Bool) : token.lexeme ≠ toString truth := by
      intro spelled
      have isTruth := (Front.spelling_of_word word alike).mpr ⟨truth, by rw [spelled]⟩
      cases isName.symm.trans isTruth
    exact ⟨notTruth true, notTruth false⟩
  case maximal =>
    intro kind candidate value denotes isPrefix
    exact Front.length_le_of_denotes front alike denotes isPrefix

/-- No token of a text could have been longer: where it stands, what follows it on its line does not
belong to it. Each token was found on its line, with another piece or nothing right after it. -/
theorem Token.longest_of_ofText {text : String} {tokens : List Token}
    (read : ofText text = .ok tokens) : ∀ token ∈ tokens, ∃ before after,
      token.StandsOn (Lines.ofText text) before after ∧ token.IsLongest after := by
  intro token member
  obtain ⟨before, after, found⟩ := found_of_ofText read token member
  exact ⟨before, after, found.standsOn, found.isLongest⟩

/-- A name that begins like a truth value and ends in a fraction, a truth value right before a slash
that is right before a decimal, and a whole number right before a remark. -/
theorem Token.longest_of_ofText_truths :
    ∃ tokens, ofText "truth½ = false/2.5 - 10// 0.5\n* 7" = .ok tokens ∧ tokens.length = 9 ∧
      ∀ token ∈ tokens, ∃ before after,
        token.StandsOn (Lines.ofText "truth½ = false/2.5 - 10// 0.5\n* 7") before after ∧
          token.IsLongest after := by
  have reads : (match ofText "truth½ = false/2.5 - 10// 0.5\n* 7" with
      | .ok tokens => decide (tokens.length = 9)
      | .error _ => false) = true := by decide +kernel
  split at reads
  · next tokens read => exact ⟨tokens, read, of_decide_eq_true reads, longest_of_ofText read⟩
  · cases reads

end Formula
