import Formula.Proofs.Token.Scanned

/-!
# What the lexical errors of a text say

An error of a scan names a place in the text and says what is wrong there. Whether it is so can be
seen from the characters around the place: from the one that begins nothing, from the digits of a
number out of range, from a quote or the beginning of a comment without its end. That a comment
begins there takes more than its two characters, because they could be part of a string, of a remark
or of another comment; so places outside of these are told apart first.
-/

namespace Formula

open CharClass

/-- A place outside strings, remarks and comments: the characters before it and after it. -/
inductive Outside (text : List Char) : List Char → List Char → Prop
  | start : Outside text [] text
  | plain (before : List Char) (c : Char) (after : List Char) (noQuote : c ≠ '"')
      (alone : c = '/' → ∀ d ∈ after.head?, d ≠ '/' ∧ d ≠ '*')
      (outside : Outside text before (c :: after)) : Outside text (before ++ [c]) after
  | string (before body after : List Char) (noQuote : '"' ∉ body) (oneLine : '\n' ∉ body)
      (outside : Outside text before ('"' :: body ++ '"' :: after)) :
      Outside text (before ++ '"' :: body ++ ['"']) after
  | remark (before body after : List Char) (isLine : IsLine body after)
      (outside : Outside text before ('/' :: '/' :: body ++ after)) :
      Outside text (before ++ '/' :: '/' :: body) after
  | comment (before body after : List Char) (notEnded : ¬['*', '/'] <:+: body)
      (outside : Outside text before ('/' :: '*' :: body ++ '*' :: '/' :: after)) :
      Outside text (before ++ '/' :: '*' :: body ++ ['*', '/']) after

namespace Front

variable {c : Char} {later lexeme rest : List Char} {content : Token.Content}

/-- What the characters of a token are: digits, name characters and points, and then nothing that
could go on with digits; a string; or a symbol, of which a slash begins no remark and no comment. -/
inductive Shape (c : Char) (later : List Char) : List Char → List Char → Prop
  | word (lexeme rest : List Char) (plain : ∀ d ∈ lexeme, isNamePart d = true ∨ d = '.')
      (ends : ∀ d ∈ rest.head?, isDigit d = false) : Shape c later lexeme rest
  | string (body rest : List Char) (noQuote : '"' ∉ body) :
      Shape c later ('"' :: body ++ ['"']) rest
  | symbol (mark : Symbol) (isMark : c = mark.char)
      (alone : c = '/' → ∀ d ∈ later.head?, d ≠ '/' ∧ d ≠ '*') : Shape c later [c] later

/-- Where digits end, there is none. -/
theorem ends_dropWhile (chars : List Char) :
    ∀ d ∈ (chars.dropWhile isDigit).head?, isDigit d = false := by
  intro d isHead
  have stops := List.head?_dropWhile_not isDigit chars
  rw [isHead] at stops
  exact stops

/-- Where the digits after a point end, there is none. -/
theorem ends_of_fraction? {chars fraction : List Char}
    (found : fraction? chars = some (fraction, rest)) : ∀ d ∈ rest.head?, isDigit d = false := by
  unfold fraction? at found
  split at found
  · split at found
    · obtain ⟨-, rfl⟩ := Prod.mk.inj (Option.some.inj found)
      exact ends_dropWhile _
    · cases found
  · cases found

/-- Digits belong to names and to words. -/
theorem isPart_of_isDigit (digit : isDigit c = true) :
    isNamePart c = true ∧ isWordPart c = true := by
  have inName := (classes_of_isDigit digit).2.2
  have bounds := toNat_of_isDigit digit
  have same := isNamePart_ascii ⟨c.toNat, by omega⟩
  rw [Char.ofNat_toNat] at same
  exact ⟨inName, same ▸ inName⟩

/-- A number has the shape of a number: digits, perhaps with a point among them, up to where no
digit follows. -/
theorem shape_of_number (found : number (c :: later) = .ok ⟨.token content, lexeme, rest⟩) :
    Shape c later lexeme rest := by
  have digits {chars : List Char} (all : ∀ d ∈ chars, isDigit d = true) :
      ∀ d ∈ chars, isNamePart d = true ∨ d = '.' :=
    fun d member => .inl (classes_of_isDigit (all d member)).2.2
  have whole : ∀ d ∈ (c :: later).takeWhile isDigit, isDigit d = true :=
    List.all_eq_true.mp List.all_takeWhile
  obtain ⟨fraction, parted, -, rfl⟩ | ⟨-, rfl, -, rfl⟩ := number_eq_ok found
  · apply Shape.word
    · refine List.forall_mem_append.mpr ⟨digits whole, List.forall_mem_cons.mpr ⟨.inr rfl, ?_⟩⟩
      exact digits (digits_of_fraction? parted).2
    · exact ends_of_fraction? parted
  · exact .word _ _ (digits whole) (ends_dropWhile _)

/-- A truth value and a name have the shape of a word, made of the characters of names, with no
digit after it. After a truth value that is so because it ends as a word, and digits belong to
words. -/
theorem shape_of_word (found : word (c :: later) = ⟨.token content, lexeme, rest⟩) :
    Shape c later lexeme rest := by
  obtain ⟨truth, starts, isTruth⟩ | ⟨-, isName⟩ := word_cases (c :: later)
  · obtain ⟨-, rfl, rfl⟩ := Front.mk.inj (isTruth.symm.trans found)
    apply Shape.word
    · have named : (toString truth).toList.all isNamePart = true := by
        cases truth <;> decide +kernel
      exact fun d member => .inl (List.all_eq_true.mp named d member)
    · intro d isHead
      have ends : endsWord ((c :: later).drop (toString truth).length) = true :=
        (Bool.and_eq_true_iff.mp starts).2
      obtain ⟨more, same⟩ := List.head?_eq_some_iff.mp isHead
      rw [same] at ends
      apply eq_false_of_ne_true
      intro digit
      rw [endsWord, (isPart_of_isDigit digit).2] at ends
      cases ends
  · obtain ⟨-, isLexeme, isRest⟩ := Front.mk.inj (isName.symm.trans found)
    rw [← isLexeme, ← isRest]
    apply Shape.word
    · exact fun d member => .inl (List.all_eq_true.mp List.all_takeWhile d member)
    · intro d isHead
      have stops := List.head?_dropWhile_not isNamePart (c :: later)
      rw [isHead] at stops
      have notNamed : isNamePart d = false := stops
      apply eq_false_of_ne_true
      intro digit
      rw [(isPart_of_isDigit digit).1] at notNamed
      cases notNamed

/-- Every token has one of these shapes, by the rule that reads it. What passes a string, a remark
or a comment can be told from them. -/
theorem shape_of_token (found : ofChars c later = .ok ⟨.token content, lexeme, rest⟩) :
    Shape c later lexeme rest := by
  cases tokenRule_of_ofChars found with
  | number digit number => exact shape_of_number number
  | word start word => exact shape_of_word word
  | string quote string =>
    obtain ⟨body, -, noQuote, rfl, -⟩ := string_eq_ok string
    exact .string body rest noQuote
  | symbol alone symbol =>
    obtain ⟨mark, -, isMark, rfl, rfl⟩ := symbol_eq_ok symbol
    exact .symbol mark isMark alone

end Front

section Places

variable {text before after chars : List Char} {tokens : List Token}

/-- Characters that begin neither a string nor a remark nor a comment. -/
theorem Outside.append (plain : ∀ c ∈ chars, c ≠ '"' ∧ c ≠ '/')
    (outside : Outside text before (chars ++ after)) : Outside text (before ++ chars) after := by
  induction chars generalizing before with
  | nil => rwa [List.append_nil]
  | cons c later ih =>
    obtain ⟨⟨noQuote, noSlash⟩, plain⟩ := List.forall_mem_cons.mp plain
    have moved := Outside.plain before c (later ++ after) noQuote
      (fun isSlash => absurd isSlash noSlash) outside
    rw [List.append_cons]
    exact ih plain moved

/-- A character of a name, a point and a blank are neither a quote nor a slash. -/
theorem plain_of_class {c : Char} (known : CharClass.isNamePart c = true ∨ c = '.' ∨
    isBlank c = true) : c ≠ '"' ∧ c ≠ '/' := by
  refine ⟨?_, ?_⟩ <;> rintro rfl <;> revert known <;> decide +kernel

/-- A scan passes strings, remarks and comments as wholes. By induction on the scan; the shape of
each token tells that no quote and no slash in it begins anything. -/
theorem Scanned.outside (scanned : Scanned text before tokens after) :
    Outside text before after := by
  induction scanned with
  | start => exact .start
  | blank before tokens c after isBlank _ ih =>
    obtain ⟨noQuote, noSlash⟩ := plain_of_class (.inr (.inr isBlank))
    exact .plain before c after noQuote (fun isSlash => absurd isSlash noSlash) ih
  | remark before tokens body after isLine _ ih => exact .remark before body after isLine ih
  | comment before tokens body after notEnded _ ih => exact .comment before body after notEnded ih
  | token before tokens c later tail content lexeme rest isLine front _ ih =>
    have isSplit := (Front.ofChars_splits front).2
    have shape := Front.shape_of_token front
    rw [← isSplit, List.append_assoc] at ih
    cases shape with
    | word _ _ plain _ =>
      exact ih.append fun d member => plain_of_class ((plain d member).imp_right .inl)
    | string body _ noQuote =>
      have oneLine : '\n' ∉ body := by
        rw [← isSplit] at isLine
        exact fun member => isLine.noFeed (by simp [member])
      have passed := Outside.string before body (rest ++ tail) noQuote oneLine (by simpa using ih)
      simpa using passed
    | symbol mark isMark alone =>
      refine .plain before c (later ++ tail) ?_ ?_ ih
      · rw [isMark]
        cases mark <;> decide
      · intro isSlash d isHead
        cases later with
        | nil =>
          rw [isLine.ends d isHead]
          decide
        | cons e later => exact alone isSlash d isHead

/-- No token stops in the middle of digits, so nothing before a number that is scanned next is one
of its digits. -/
theorem Scanned.noDigit (scanned : Scanned text before tokens after) {c : Char}
    (isHead : c ∈ after.head?) (digit : isDigit c = true) :
    ∀ d ∈ before.getLast?, isDigit d = false := by
  have noFeed : c ≠ '\n' := by
    rintro rfl
    cases digit
  intro d isLast
  cases scanned with
  | start => cases isLast
  | blank before tokens b after isBlank _ =>
    rw [List.getLast?_concat] at isLast
    obtain rfl := Option.some.inj isLast
    apply eq_false_of_ne_true
    intro digit
    rw [(classes_of_isDigit digit).1] at isBlank
    cases isBlank
  | remark before tokens body after isLine _ => exact absurd (isLine.ends c isHead) noFeed
  | comment before tokens body after notEnded _ =>
    have ending : before ++ '/' :: '*' :: body ++ ['*', '/'] =
        before ++ '/' :: '*' :: body ++ ['*'] ++ ['/'] := by
      simp
    rw [ending, List.getLast?_concat] at isLast
    obtain rfl := Option.some.inj isLast
    rfl
  | token before tokens b later tail content lexeme rest isLine front _ =>
    have goesOn : c ∈ rest.head? := by
      cases rest with
      | nil => exact absurd (isLine.ends c isHead) noFeed
      | cons e rest => exact isHead
    cases Front.shape_of_token front with
    | word _ _ _ ends =>
      rw [ends c goesOn] at digit
      cases digit
    | string body _ _ =>
      rw [← List.append_assoc, List.getLast?_concat] at isLast
      obtain rfl := Option.some.inj isLast
      rfl
    | symbol mark isMark _ =>
      rw [List.getLast?_concat] at isLast
      obtain rfl := Option.some.inj isLast
      rw [isMark]
      cases mark <;> decide

end Places

/-- A character with which nothing begins: no blank, no number, no name or truth value, no string,
and no symbol. Remarks and comments begin with a symbol. -/
structure BeginsNothing (c : Char) : Prop where
  notBlank : isBlank c = false
  noDigit : isDigit c = false
  noStart : isNameStart c = false
  noQuote : c ≠ '"'
  noSymbol : ∀ mark : Symbol, c ≠ mark.char

/-- What a lexical error says is so at the place in the text that it names. -/
inductive LexError.BorneOut (text : List Char) : LexError → Prop
  | invalidCharacter (before after : List Char) (c : Char) (here : text = before ++ c :: after)
      (nothing : BeginsNothing c) :
      BorneOut text ⟨.invalidCharacter c, Position.first.past before⟩
  | unterminatedString (before line tail : List Char) (here : text = before ++ '"' :: line ++ tail)
      (isLine : IsLine line tail) (noOther : '"' ∉ line) :
      BorneOut text ⟨.unterminatedString, Position.first.past before⟩
  | unterminatedComment (before after : List Char) (here : text = before ++ '/' :: '*' :: after)
      (outside : Outside text before ('/' :: '*' :: after)) (notEnded : ¬['*', '/'] <:+: after) :
      BorneOut text ⟨.unterminatedComment, Position.first.past before⟩
  | integerOverflow (before digits after : List Char) (here : text = before ++ digits ++ after)
      (nonempty : digits ≠ []) (all : ∀ c ∈ digits, isDigit c = true)
      (maximal : (∀ c ∈ before.getLast?, isDigit c = false) ∧ ∀ c ∈ after.head?, isDigit c = false)
      (tooLarge : 2 ^ 63 - 1 < Nat.ofDigitChars 10 digits 0) :
      BorneOut text ⟨.integerOverflow (String.ofList digits), Position.first.past before⟩
  | floatOverflow (before whole fraction after : List Char)
      (here : text = before ++ (whole ++ '.' :: fraction) ++ after)
      (nonempty : whole ≠ [] ∧ fraction ≠ [])
      (all : (∀ c ∈ whole, isDigit c = true) ∧ ∀ c ∈ fraction, isDigit c = true)
      (tooLarge : ((Decimal.ofDigits whole fraction).toFloat false).isFinite = false) :
      BorneOut text
        ⟨.floatOverflow (String.ofList (whole ++ '.' :: fraction)), Position.first.past before⟩

section Faults

variable {text before : List Char} {tokens : List Token} {c : Char} {later tail : List Char}
  {fault : LexFault}

/-- Digits that are out of range: the fault names them, and their number is more than the
greatest. -/
theorem Front.integerLiteral_eq_error {digits : List Char}
    (failed : integerLiteral digits = .error fault) :
    fault = .integerOverflow (String.ofList digits) ∧ 2 ^ 63 - 1 < Nat.ofDigitChars 10 digits 0 := by
  unfold integerLiteral at failed
  cases fits : Checked.ofInt? (Nat.ofDigitChars 10 digits 0) with
  | some number =>
    rw [fits] at failed
    cases failed
  | none =>
    rw [fits] at failed
    have outside := Checked.ofInt?_eq_none_iff.mp fits
    exact ⟨(Except.error.inj failed).symm, by omega⟩

/-- A number that is scanned but out of range is borne out: the fault names its digits, with the
point if there is one, and these are all the digits that stand there. -/
theorem Scanned.borneOut_number (scanned : Scanned text before tokens (c :: later ++ tail))
    (isLine : IsLine (c :: later) tail) (digit : isDigit c = true)
    (failed : Front.number (c :: later) = .error fault) :
    LexError.BorneOut text ⟨fault, Position.first.past before⟩ := by
  have nonempty : (c :: later).takeWhile isDigit ≠ [] := by simp [digit]
  have all : ∀ d ∈ (c :: later).takeWhile isDigit, isDigit d = true :=
    List.all_eq_true.mp List.all_takeWhile
  have parts : (c :: later).takeWhile isDigit ++ (c :: later).dropWhile isDigit = c :: later :=
    List.takeWhile_append_dropWhile
  obtain ⟨fraction, rest, parted, failed⟩ | ⟨-, failed⟩ := Front.number_eq_error failed
  · obtain ⟨rfl, infinite⟩ := Front.floatLiteral_eq_error failed
    obtain ⟨places, digits⟩ := Front.digits_of_fraction? parted
    refine .floatOverflow before _ fraction (rest ++ tail) ?_ ⟨nonempty, places⟩ ⟨all, digits⟩
      infinite
    calc text
      _ = before ++ (c :: later ++ tail) := scanned.split.symm
      _ = before ++ ((c :: later).takeWhile isDigit ++ ('.' :: fraction ++ rest) ++ tail) := by
          rw [Front.fraction?_splits parted, parts]
      _ = before ++ ((c :: later).takeWhile isDigit ++ '.' :: fraction) ++ (rest ++ tail) := by
          simp only [List.append_assoc, List.cons_append]
  · obtain ⟨rfl, tooLarge⟩ := Front.integerLiteral_eq_error failed
    refine .integerOverflow before _ ((c :: later).dropWhile isDigit ++ tail) ?_ nonempty all
      ⟨scanned.noDigit rfl digit, ?_⟩ tooLarge
    · rw [← scanned.split, List.append_assoc, ← List.append_assoc (List.takeWhile _ _), parts]
    · intro d isHead
      cases rest : (c :: later).dropWhile isDigit with
      | nil =>
        rw [rest] at isHead
        rw [isLine.ends d isHead]
        decide
      | cons e others =>
        rw [rest] at isHead
        exact Front.ends_dropWhile (c :: later) d (rest ▸ isHead)

/-- A fault at the front of a line that the scan has come to is borne out. By cases on the rule that
is chosen there: numbers are out of range, strings have no end, and a character that begins nothing
belongs to no token. -/
theorem Scanned.borneOut (scanned : Scanned text before tokens (c :: later ++ tail))
    (isLine : IsLine (c :: later) tail) (failed : Front.ofChars c later = .error fault) :
    LexError.BorneOut text ⟨fault, Position.first.past before⟩ := by
  have begins := Front.begins_ofChars c later
  rw [failed] at begins
  generalize result : Except.error fault = read at begins
  cases begins with
  | blanks | remark | comment | word => cases result
  | number digit => exact scanned.borneOut_number isLine digit result.symm
  | string quote =>
    subst quote
    by_cases quoted : '"' ∈ later
    · obtain ⟨body, after, rfl, free⟩ := List.eq_append_cons_of_mem quoted
      rw [Front.string_of_quote free] at result
      cases result
    · rw [Front.string_of_no_quote quoted] at result
      obtain rfl := Except.error.inj result
      have rest : IsLine later tail :=
        ⟨fun member => isLine.noFeed (List.mem_cons_of_mem _ member), isLine.ends⟩
      exact .unterminatedString before later tail (by simpa using scanned.split.symm) rest quoted
  | symbol notBlank noDigit noStart noQuote _ =>
    unfold Front.symbol at result
    split at result
    · cases result
    · next noSymbol =>
      obtain rfl := Except.error.inj result
      refine .invalidCharacter before (later ++ tail) c scanned.split.symm
        ⟨notBlank, noDigit, noStart, noQuote, fun mark isMark => ?_⟩
      rw [Symbol.ofChar?_eq_some_iff.mpr isMark.symm] at noSymbol
      cases noSymbol

/-- Every lexical error of a text is borne out by the text. The scan of the text ends at a fault, or
inside of a comment that has no end. -/
theorem Token.borneOut_of_ofText {text : String} {error : LexError}
    (failed : ofText text = .error error) : error.BorneOut text.toList := by
  have scan := scan_ofText text
  rw [failed] at scan
  cases scan with
  | faulty before tokens c later tail fault isLine front scanned =>
    exact scanned.borneOut isLine front
  | unclosed before tokens body notEnded scanned =>
    exact .unterminatedComment before body scanned.split.symm scanned.outside notEnded

end Faults

end Formula
