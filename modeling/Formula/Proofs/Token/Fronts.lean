import Formula.Token.Front

/-!
# What the front of a line is read as

The first character of a line, and sometimes the second, decides which rule reads its front. What a
rule reads or complains about is said here rule by rule: of which kind its tokens are, where they
end, and what there is on the line if there is a fault.
-/

namespace Formula.Front

open CharClass

variable {c : Char} {later lexeme rest chars : List Char} {content : Token.Content}
  {fault : LexFault}

/-- The rule for the front of a line that begins with `c`, and what it gives. -/
inductive Begins (c : Char) (later : List Char) : Except LexFault Front → Prop
  | blanks (blank : isBlank c = true) : Begins c later (.ok (run .blanks isBlank (c :: later)))
  | remark (body : List Char) (isSlash : c = '/') (again : later = '/' :: body) :
      Begins c later (.ok ⟨.remark, '/' :: '/' :: body, []⟩)
  | comment (body : List Char) (isSlash : c = '/') (isStar : later = '*' :: body) :
      Begins c later (.ok ⟨.commentStart, ['/', '*'], body⟩)
  | number (digit : isDigit c = true) : Begins c later (number (c :: later))
  | word (start : isNameStart c = true) : Begins c later (.ok (word (c :: later)))
  | string (quote : c = '"') : Begins c later (string later)
  | symbol (notBlank : isBlank c = false) (noDigit : isDigit c = false)
      (noStart : isNameStart c = false) (noQuote : c ≠ '"')
      (alone : c = '/' → ∀ d ∈ later.head?, d ≠ '/' ∧ d ≠ '*') :
      Begins c later (symbol c later)

/-- What is read at the front of characters, by the rule that their first two choose. The nested
conditions are gone through once here, so that all later proofs can go by the rules. -/
theorem begins_ofChars (c : Char) (later : List Char) : Begins c later (ofChars c later) := by
  have second {d : Char} (pair : c = '/' ∧ later.head? = some d) :
      ∃ body, later = d :: body := List.head?_eq_some_iff.mp pair.2
  unfold ofChars
  dsimp only
  split
  · next blank => exact .blanks blank
  · next notBlank =>
    split
    · next pair =>
      obtain ⟨body, again⟩ := second pair
      obtain ⟨rfl, -⟩ := pair
      rw [again]
      exact .remark body rfl rfl
    · next noRemark =>
      split
      · next pair =>
        obtain ⟨body, isStar⟩ := second pair
        obtain ⟨rfl, -⟩ := pair
        rw [isStar]
        exact .comment body rfl rfl
      · next noComment =>
        split
        · next digit => exact .number digit
        · next noDigit =>
          split
          · next start => exact .word start
          · next noStart =>
            split
            · next quote => exact .string quote
            · next noQuote =>
              apply Begins.symbol (by simpa using notBlank) (by simpa using noDigit)
                (by simpa using noStart) noQuote
              rintro isSlash d isHead
              constructor
              · rintro rfl
                exact noRemark ⟨isSlash, isHead⟩
              · rintro rfl
                exact noComment ⟨isSlash, isHead⟩

/-- The rule by which a token is read. -/
inductive TokenRule (c : Char) (later : List Char) (front : Front) : Prop
  | number (digit : isDigit c = true) (found : number (c :: later) = .ok front)
  | word (start : isNameStart c = true) (found : word (c :: later) = front)
  | string (quote : c = '"') (found : string later = .ok front)
  | symbol (alone : c = '/' → ∀ d ∈ later.head?, d ≠ '/' ∧ d ≠ '*')
      (found : symbol c later = .ok front)

/-- Every token is read by one of these rules, as the rules for blanks, remarks and comments give no
token. -/
theorem tokenRule_of_ofChars (found : ofChars c later = .ok ⟨.token content, lexeme, rest⟩) :
    TokenRule c later ⟨.token content, lexeme, rest⟩ := by
  have begins := begins_ofChars c later
  rw [found] at begins
  generalize result : Except.ok (Front.mk (.token content) lexeme rest) = read at begins
  cases begins with
  | blanks | remark | comment => cases result
  | number digit => exact .number digit result.symm
  | word start => exact .word start (Except.ok.inj result).symm
  | string quote => exact .string quote result.symm
  | symbol _ _ _ _ alone => exact .symbol alone result.symm

section Contents

/-- What is made of a result is made if there is one. -/
theorem map_eq_ok_iff {α β : Type} {result : Except LexFault α} {make : α → β} {made : β} :
    result.map make = .ok made ↔ ∃ found, result = .ok found ∧ make found = made := by
  cases result <;> simp [Except.map]

/-- The fault stays the same. -/
theorem map_eq_error_iff {α β : Type} {result : Except LexFault α} {make : α → β} :
    result.map make = .error fault ↔ result = .error fault := by
  cases result <;> simp [Except.map]

/-- The digits after a point are digits, and there are some: the first is looked at before a
fraction is read at all. -/
theorem digits_of_fraction? {fraction : List Char}
    (found : fraction? chars = some (fraction, rest)) :
    fraction ≠ [] ∧ ∀ d ∈ fraction, isDigit d = true := by
  unfold fraction? at found
  split at found
  · split at found
    · next digit =>
      obtain ⟨rfl, rfl⟩ := Prod.mk.inj (Option.some.inj found)
      exact ⟨by simp [digit], List.all_eq_true.mp List.all_takeWhile⟩
    · cases found
  · cases found

/-- What a rule for numbers reads, with and without a decimal point. Whether there is a point with a
digit after it decides which literal is made of the digits. -/
theorem number_eq_ok (found : number chars = .ok ⟨.token content, lexeme, rest⟩) :
    (∃ fraction, fraction? (chars.dropWhile isDigit) = some (fraction, rest) ∧
      floatLiteral (chars.takeWhile isDigit) fraction = .ok content ∧
      lexeme = chars.takeWhile isDigit ++ '.' :: fraction) ∨
    (fraction? (chars.dropWhile isDigit) = none ∧ rest = chars.dropWhile isDigit ∧
      integerLiteral (chars.takeWhile isDigit) = .ok content ∧
      lexeme = chars.takeWhile isDigit) := by
  unfold number at found
  dsimp only at found
  split at found
  · next fraction after parted =>
    obtain ⟨denoted, literal, same⟩ := map_eq_ok_iff.mp found
    obtain ⟨⟨⟩, rfl, rfl⟩ := Front.mk.inj same
    exact .inl ⟨fraction, parted, literal, rfl⟩
  · next whole =>
    obtain ⟨denoted, literal, same⟩ := map_eq_ok_iff.mp found
    obtain ⟨⟨⟩, isLexeme, isRest⟩ := Front.mk.inj same
    exact .inr ⟨whole, isRest.symm, literal, isLexeme.symm⟩

/-- What it complains about. -/
theorem number_eq_error (failed : number chars = .error fault) :
    (∃ fraction rest, fraction? (chars.dropWhile isDigit) = some (fraction, rest) ∧
      floatLiteral (chars.takeWhile isDigit) fraction = .error fault) ∨
    (fraction? (chars.dropWhile isDigit) = none ∧
      integerLiteral (chars.takeWhile isDigit) = .error fault) := by
  unfold number at failed
  dsimp only at failed
  split at failed
  · next fraction after parted => exact .inl ⟨fraction, after, parted, map_eq_error_iff.mp failed⟩
  · next whole => exact .inr ⟨whole, map_eq_error_iff.mp failed⟩

/-- Digits are a whole number within range, as otherwise there is no literal. -/
theorem integerLiteral_eq_ok {digits : List Char} (found : integerLiteral digits = .ok content) :
    ∃ number, content = .integer number ∧
      Checked.ofInt? (Nat.ofDigitChars 10 digits 0) = some number := by
  unfold integerLiteral at found
  cases fits : Checked.ofInt? (Nat.ofDigitChars 10 digits 0) with
  | none =>
    rw [fits] at found
    cases found
  | some number =>
    rw [fits, Option.elim_some] at found
    exact ⟨number, (Except.ok.inj found).symm, rfl⟩

/-- A decimal is a finite number. -/
theorem floatLiteral_eq_ok {whole fraction : List Char}
    (found : floatLiteral whole fraction = .ok content) :
    content = .float ((Decimal.ofDigits whole fraction).toFloat false) ∧
      ((Decimal.ofDigits whole fraction).toFloat false).isFinite = true := by
  unfold floatLiteral at found
  dsimp only at found
  split at found <;> cases found
  next finite => exact ⟨rfl, finite⟩

/-- A decimal that is not finite is the overflow. -/
theorem floatLiteral_eq_error {whole fraction : List Char}
    (failed : floatLiteral whole fraction = .error fault) :
    fault = .floatOverflow (String.ofList (whole ++ '.' :: fraction)) ∧
      ((Decimal.ofDigits whole fraction).toFloat false).isFinite = false := by
  unfold floatLiteral at failed
  dsimp only at failed
  split at failed
  · cases failed
  · next infinite => exact ⟨(Except.error.inj failed).symm, by simpa using infinite⟩

/-- A string reaches from its quote to the next one. The body is taken as long as there is no quote,
so it has none in it, and what it stops at is one. -/
theorem string_eq_ok (found : string later = .ok ⟨.token content, lexeme, rest⟩) :
    ∃ body, content = .string (String.ofList body) ∧ '"' ∉ body ∧ lexeme = '"' :: body ++ ['"'] ∧
      later = body ++ '"' :: rest := by
  have split : later.takeWhile (· != '"') ++ later.dropWhile (· != '"') = later :=
    List.takeWhile_append_dropWhile
  have free : '"' ∉ later.takeWhile (· != '"') := by
    intro member
    have differs := List.all_eq_true.mp List.all_takeWhile '"' member
    simp at differs
  unfold string at found
  dsimp only at found
  split at found
  · cases found
  · next quote after dropped =>
    cases found
    have isQuote := List.head?_dropWhile_not (· != '"') later
    rw [dropped] at isQuote split
    obtain rfl : quote = '"' := by simpa using isQuote
    exact ⟨_, rfl, free, rfl, split.symm⟩

/-- What starts with a word has it for its first characters. -/
theorem take_of_startsWith {word chars : List Char} (starts : startsWith word chars = true) :
    chars.take word.length = word := by
  obtain ⟨after, rfl⟩ := List.isPrefixOf_iff_prefix.mp (Bool.and_eq_true_iff.mp starts).1
  exact List.take_left

/-- A word is a truth value that ends as a word, or the longest name there is. The truth values are
tried first, one after the other. -/
theorem word_cases (chars : List Char) :
    (∃ truth : Bool, startsWith (toString truth).toList chars = true ∧
      word chars = ⟨.token (.boolean truth), (toString truth).toList,
        chars.drop (toString truth).length⟩) ∨
    (∀ truth : Bool, startsWith (toString truth).toList chars = false) ∧
      word chars = run (.token .name) isNamePart chars := by
  by_cases isTrue : startsWith ['t', 'r', 'u', 'e'] chars = true
  · apply Or.inl
    refine ⟨true, isTrue, ?_⟩
    rw [word, if_pos isTrue, show chars.take 4 = _ from take_of_startsWith isTrue]
    rfl
  · by_cases isFalse : startsWith ['f', 'a', 'l', 's', 'e'] chars = true
    · apply Or.inl
      refine ⟨false, isFalse, ?_⟩
      rw [word, if_neg isTrue, if_pos isFalse, show chars.take 5 = _ from take_of_startsWith isFalse]
      rfl
    · apply Or.inr
      constructor
      · intro truth
        cases truth with
        | true => exact eq_false_of_ne_true isTrue
        | false => exact eq_false_of_ne_true isFalse
      · rw [word, if_neg isTrue, if_neg isFalse]

/-- A symbol is the character that writes it. -/
theorem symbol_eq_ok (found : symbol c later = .ok ⟨.token content, lexeme, rest⟩) :
    ∃ mark : Symbol, content = .symbol mark ∧ c = mark.char ∧ lexeme = [c] ∧ rest = later := by
  unfold symbol at found
  split at found
  · next mark isMark =>
    cases found
    exact ⟨mark, rfl, (Symbol.ofChar?_eq_some_iff.mp isMark).symm, rfl, rfl⟩
  · cases found

/-- Which rule reads a token can be told from its kind, since each rule gives tokens of its own
kinds. So a token of a known kind leaves one rule to look at. -/
theorem token_cases (found : ofChars c later = .ok ⟨.token content, lexeme, rest⟩) :
    (content.kind = .integer ∨ content.kind = .float) ∧
        number (c :: later) = .ok ⟨.token content, lexeme, rest⟩ ∨
      (content.kind = .boolean ∨ content.kind = .name) ∧
        word (c :: later) = ⟨.token content, lexeme, rest⟩ ∨
      content.kind = .string ∧ string later = .ok ⟨.token content, lexeme, rest⟩ ∨
      (∃ mark, content.kind = .symbol mark) ∧
        symbol c later = .ok ⟨.token content, lexeme, rest⟩ := by
  cases tokenRule_of_ofChars found with
  | number digit number =>
    refine .inl ⟨?_, number⟩
    obtain ⟨_, -, literal, -⟩ | ⟨-, -, literal, -⟩ := number_eq_ok number
    · exact .inr (congrArg Token.Content.kind (floatLiteral_eq_ok literal).1)
    · obtain ⟨_, isInteger, -⟩ := integerLiteral_eq_ok literal
      exact .inl (congrArg Token.Content.kind isInteger)
  | word start isWord =>
    refine .inr (.inl ⟨?_, isWord⟩)
    obtain ⟨_, -, isTruth⟩ | ⟨-, isName⟩ := word_cases (c :: later)
    · cases isTruth.symm.trans isWord
      exact .inl rfl
    · obtain ⟨⟨⟩, -⟩ := Front.mk.inj (isName.symm.trans isWord)
      exact .inr rfl
  | string quote string =>
    obtain ⟨_, isString, -⟩ := string_eq_ok string
    exact .inr (.inr (.inl ⟨congrArg Token.Content.kind isString, string⟩))
  | symbol alone symbol =>
    obtain ⟨mark, isMark, -⟩ := symbol_eq_ok symbol
    exact .inr (.inr (.inr ⟨⟨mark, congrArg Token.Content.kind isMark⟩, symbol⟩))

/-- Numbers, words, strings and symbols are tokens, and nothing else is. By cases on the rule that
is chosen; the rules for tokens give no other piece. -/
theorem piece_cases {front : Front} (found : ofChars c later = .ok front) :
    isBlank c = true ∨
      (∃ body, c = '/' ∧ later = '/' :: body ∧ front = ⟨.remark, '/' :: '/' :: body, []⟩) ∨
      (∃ body, c = '/' ∧ later = '*' :: body ∧ front = ⟨.commentStart, ['/', '*'], body⟩) ∨
      ∃ content lexeme rest, front = ⟨.token content, lexeme, rest⟩ := by
  have begins := begins_ofChars c later
  rw [found] at begins
  generalize result : Except.ok front = read at begins
  cases begins with
  | blanks blank => exact .inl blank
  | remark body isSlash again =>
    exact .inr (.inl ⟨body, isSlash, again, Except.ok.inj result⟩)
  | comment body isSlash isStar =>
    exact .inr (.inr (.inl ⟨body, isSlash, isStar, Except.ok.inj result⟩))
  | number digit =>
    unfold number at result
    dsimp only at result
    split at result
    · obtain ⟨denoted, -, rfl⟩ := map_eq_ok_iff.mp result.symm
      exact .inr (.inr (.inr ⟨denoted, _, _, rfl⟩))
    · obtain ⟨denoted, -, rfl⟩ := map_eq_ok_iff.mp result.symm
      exact .inr (.inr (.inr ⟨denoted, _, _, rfl⟩))
  | word start =>
    obtain rfl := Except.ok.inj result
    obtain ⟨truth, -, isTruth⟩ | ⟨-, isName⟩ := word_cases (c :: later)
    · exact .inr (.inr (.inr ⟨_, _, _, isTruth⟩))
    · exact .inr (.inr (.inr ⟨_, _, _, isName⟩))
  | string quote =>
    unfold string at result
    dsimp only at result
    split at result
    · cases result
    · exact .inr (.inr (.inr ⟨_, _, _, Except.ok.inj result⟩))
  | symbol =>
    unfold symbol at result
    split at result
    · exact .inr (.inr (.inr ⟨_, _, _, Except.ok.inj result⟩))
    · cases result

end Contents

end Formula.Front
