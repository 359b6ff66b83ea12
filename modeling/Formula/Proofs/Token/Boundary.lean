import Formula.Token.Front

/-!
# What follows a token

A token is read from the front of a line as far as its characters go. So it does not matter what
follows it, as long as that does not begin with a character with which some token might go on: a
digit, a part of a name or word, a decimal point, or one of the characters that begin a remark or
a comment after a slash. A string ends at its quote and only needs to have one.
-/

namespace Formula

namespace Front

open CharClass

/-- Characters with which no token before them goes on. -/
def Separates (tail : List Char) : Prop :=
  ∀ c ∈ tail.head?, isDigit c = false ∧ isNamePart c = false ∧ isWordPart c = false ∧
    c ≠ '.' ∧ c ≠ '/' ∧ c ≠ '*'

/-- Characters with which no name and no truth value before them goes on. -/
def StopsWord (tail : List Char) : Prop :=
  ∀ c ∈ tail.head?, isNamePart c = false ∧ isWordPart c = false

/-- What separates tokens stops words. -/
theorem Separates.stopsWord {tail : List Char} (separates : Separates tail) : StopsWord tail :=
  fun c isHead => ⟨(separates c isHead).2.1, (separates c isHead).2.2.1⟩

/-- The same front with more characters at the end of the line. -/
def before (front : Front) (tail : List Char) : Front := { front with rest := front.rest ++ tail }

/-- The end of a line separates. -/
theorem separates_nil : Separates [] := by
  rintro _ ⟨⟩

/-- A carriage return at the end of a line separates what is before it from nothing. -/
theorem separates_return : Separates ['\r'] := by
  rintro _ ⟨⟩
  refine ⟨by decide, ?_, ?_, by decide, by decide, by decide⟩ <;> decide +kernel

section Runs

variable {inClass : Char → Bool} {tail : List Char}

/-- A run ends before characters that do not go on with it. By induction on what is before them. -/
theorem takeWhile_append_of_stops (stops : ∀ c ∈ tail.head?, inClass c = false)
    (chars : List Char) : (chars ++ tail).takeWhile inClass = chars.takeWhile inClass := by
  induction chars with
  | nil =>
    cases tail with
    | nil => rfl
    | cons c rest => simp [stops c rfl]
  | cons c later ih =>
    rw [List.cons_append, List.takeWhile_cons, List.takeWhile_cons, ih]

/-- So what is left of the run is what is left of the characters before, and then the others. -/
theorem dropWhile_append_of_stops (stops : ∀ c ∈ tail.head?, inClass c = false)
    (chars : List Char) : (chars ++ tail).dropWhile inClass = chars.dropWhile inClass ++ tail := by
  induction chars with
  | nil =>
    cases tail with
    | nil => rfl
    | cons c rest => simp [stops c rfl]
  | cons c later ih =>
    rw [List.cons_append, List.dropWhile_cons, List.dropWhile_cons, ih]
    split <;> rfl

/-- A piece that is a run is the same before characters that stop it. -/
theorem run_append (piece : Piece) (stops : ∀ c ∈ tail.head?, inClass c = false)
    (chars : List Char) : run piece inClass (chars ++ tail) = (run piece inClass chars).before tail := by
  simp only [run, before, takeWhile_append_of_stops stops, dropWhile_append_of_stops stops]

/-- A run of characters that all go on with it takes them all. -/
theorem run_of_all (piece : Piece) {chars : List Char} (all : ∀ c ∈ chars, inClass c = true) :
    run piece inClass chars = ⟨piece, chars, []⟩ := by
  have taken : (chars ++ []).takeWhile inClass = chars ++ [] := List.takeWhile_append_of_pos all
  have dropped : (chars ++ []).dropWhile inClass = [] := List.dropWhile_append_of_pos all
  rw [List.append_nil] at taken dropped
  rw [run, taken, dropped]

/-- A run that ends inside some characters ends there whatever follows them. By induction on the
characters, up to the one that stops it. -/
theorem run_append_of_mem (piece : Piece) {chars : List Char} {c : Char} (member : c ∈ chars)
    (stops : inClass c = false) (tail : List Char) :
    run piece inClass (chars ++ tail) = (run piece inClass chars).before tail := by
  induction chars with
  | nil => cases member
  | cons first later ih =>
    by_cases goesOn : inClass first = true
    · have further : c ∈ later := by
        refine (List.mem_cons.mp member).resolve_left ?_
        rintro rfl
        rw [goesOn] at stops
        cases stops
      have ended := ih further
      simp only [run, before, Front.mk.injEq] at ended ⊢
      simp [goesOn, ended]
    · simp [run, before, goesOn]

end Runs

section Tokens

variable {tail : List Char} (separates : Separates tail)

include separates

/-- The digits after a point are the same before what separates tokens; if there is no point, none
begins there. -/
theorem fraction?_append (after : List Char) :
    fraction? (after ++ tail) = (fraction? after).map fun found => (found.1, found.2 ++ tail) := by
  have noDigit : ∀ c ∈ tail.head?, isDigit c = false := fun c isHead => (separates c isHead).1
  rcases after with _ | ⟨point, _ | ⟨digit, later⟩⟩
  · cases tail with
    | nil => rfl
    | cons c rest =>
      have notPoint : c ≠ '.' := (separates c rfl).2.2.2.1
      rcases rest with _ | ⟨d, rest⟩ <;> simp [fraction?, notPoint]
  · by_cases isPoint : point = '.'
    · cases tail with
      | nil => simp [fraction?, isPoint]
      | cons c rest => simp [fraction?, isPoint, noDigit c rfl]
    · rcases tail with _ | ⟨c, rest⟩ <;> simp [fraction?, isPoint]
  · by_cases isPoint : point = '.'
    · subst isPoint
      have taken := takeWhile_append_of_stops noDigit (digit :: later)
      have dropped := dropWhile_append_of_stops noDigit (digit :: later)
      simp only [List.cons_append] at taken dropped ⊢
      simp only [fraction?]
      split
      · simp only [taken, dropped, Option.map_some]
      · rfl
    · simp [fraction?, isPoint]

/-- A number is the same before what separates tokens, with its fraction or without one, as neither
of its runs of digits goes on there. -/
theorem number_append (chars : List Char) :
    number (chars ++ tail) = (number chars).map (·.before tail) := by
  have noDigit : ∀ c ∈ tail.head?, isDigit c = false := fun c isHead => (separates c isHead).1
  unfold number
  simp only [takeWhile_append_of_stops noDigit, dropWhile_append_of_stops noDigit,
    fraction?_append separates]
  rcases fraction? (chars.dropWhile isDigit) with _ | ⟨fraction, rest⟩
  · cases integerLiteral (chars.takeWhile isDigit) <;> rfl
  · simp only [Option.map_some]
    cases floatLiteral (chars.takeWhile isDigit) fraction <;> rfl

end Tokens

section Words

variable {tail : List Char} (stops : StopsWord tail)

include stops

/-- A word of name characters does not go on into what stops it. By induction on the word along the
characters. -/
theorem isPrefixOf_append (word chars : List Char) (named : ∀ c ∈ word, isNamePart c = true) :
    word.isPrefixOf (chars ++ tail) = word.isPrefixOf chars := by
  induction word generalizing chars with
  | nil => simp
  | cons first word ih =>
    cases chars with
    | nil =>
      cases tail with
      | nil => rfl
      | cons c rest =>
        have differs : first ≠ c := by
          rintro rfl
          have notNamed := (stops first rfl).1
          rw [named first (by simp)] at notNamed
          cases notNamed
        have other : (first == c) = false := by simpa using differs
        rw [List.nil_append, List.isPrefixOf_cons_cons, other]
        rfl
    | cons c chars =>
      rw [List.cons_append, List.isPrefixOf_cons_cons, List.isPrefixOf_cons_cons,
        ih chars fun c member => named c (List.mem_cons_of_mem first member)]

/-- Where a word ends, it ends before what stops it as well. -/
theorem endsWord_append (chars : List Char) : endsWord (chars ++ tail) = endsWord chars := by
  cases chars with
  | nil =>
    cases tail with
    | nil => rfl
    | cons c rest => simp [endsWord, (stops c rfl).2]
  | cons c chars => rfl

/-- So characters start with a word exactly if they do before what stops it. -/
theorem startsWith_append (word chars : List Char) (named : word.all isNamePart = true) :
    startsWith word (chars ++ tail) = startsWith word chars := by
  unfold startsWith
  rw [isPrefixOf_append stops word chars (List.all_eq_true.mp named)]
  by_cases begins : word.isPrefixOf chars = true
  · obtain ⟨later, rfl⟩ := List.isPrefixOf_iff_prefix.mp begins
    rw [List.append_assoc, List.drop_left, List.drop_left, endsWord_append stops]
  · simp [begins]

/-- A truth value or a name is the same before what stops words. If it is a truth value, it is all
inside the characters before. -/
theorem word_append (chars : List Char) : word (chars ++ tail) = (word chars).before tail := by
  have noName : ∀ c ∈ tail.head?, isNamePart c = false := fun c isHead => (stops c isHead).1
  have whole {word : List Char} (begins : startsWith word chars = true) :
      word.length ≤ chars.length := by
    have isPrefix := List.isPrefixOf_iff_prefix.mp (Bool.and_eq_true_iff.mp begins).1
    exact isPrefix.length_le
  unfold word
  rw [startsWith_append stops _ _ (by decide +kernel),
    startsWith_append stops _ _ (by decide +kernel)]
  split
  · next isTrue =>
    have long : 4 ≤ chars.length := whole isTrue
    rw [List.take_append_of_le_length long, List.drop_append_of_le_length long]
    rfl
  · split
    · next isFalse =>
      have long : 5 ≤ chars.length := whole isFalse
      rw [List.take_append_of_le_length long, List.drop_append_of_le_length long]
      rfl
    · exact run_append _ noName chars

end Words

/-- Without a quote among them, all characters differ from one. -/
theorem differs_of_not_mem {body : List Char} (free : '"' ∉ body) :
    ∀ c ∈ body, (c != '"') = true := by
  intro c member
  have differs : c ≠ '"' := by
    rintro rfl
    exact free member
  simpa using differs

/-- A string is what stands before the next quote. -/
theorem string_of_quote {body : List Char} (free : '"' ∉ body) (rest : List Char) :
    string (body ++ '"' :: rest) =
      .ok ⟨.token (.string (String.ofList body)), '"' :: body ++ ['"'], rest⟩ := by
  unfold string
  rw [List.takeWhile_append_of_pos (differs_of_not_mem free),
    List.dropWhile_append_of_pos (differs_of_not_mem free)]
  simp

/-- Without a quote, a string has no end. -/
theorem string_of_no_quote {chars : List Char} (free : '"' ∉ chars) :
    string chars = .error .unterminatedString := by
  have dropped : (chars ++ []).dropWhile (· != '"') = [] :=
    List.dropWhile_append_of_pos (differs_of_not_mem free)
  rw [List.append_nil] at dropped
  unfold string
  rw [dropped]

/-- A string ends at its quote, whatever follows; without one, it has no end unless what follows
gives it one. -/
theorem string_append {chars tail : List Char} (closed : '"' ∈ chars ∨ '"' ∉ tail) :
    string (chars ++ tail) = (string chars).map (·.before tail) := by
  by_cases quoted : '"' ∈ chars
  · obtain ⟨body, rest, rfl, free⟩ := List.eq_append_cons_of_mem quoted
    rw [List.append_assoc, List.cons_append, string_of_quote free, string_of_quote free]
    rfl
  · have free : '"' ∉ chars ++ tail := by
      simp [quoted, closed.resolve_left quoted]
    rw [string_of_no_quote free, string_of_no_quote quoted]
    rfl

/-- A symbol is the same before any characters, being one character. -/
theorem symbol_append (c : Char) (later tail : List Char) :
    symbol c (later ++ tail) = (symbol c later).map (·.before tail) := by
  unfold symbol
  split <;> rfl

/-- A piece that is neither blank nor a remark is the same before other characters that separate it.
Each rule that could be chosen is, as the first two characters decide it, and then each reads the
same. -/
theorem ofChars_append {c : Char} {later tail : List Char} (separates : Separates tail)
    (closed : c = '"' → '"' ∈ later ∨ '"' ∉ tail) (notBlank : isBlank c = false)
    (noRemark : ¬(c = '/' ∧ later.head? = some '/')) :
    ofChars c (later ++ tail) = (ofChars c later).map (·.before tail) := by
  have sameHead {d : Char} (differs : ∀ head ∈ tail.head?, head ≠ d) :
      (later ++ tail).head? = some d ↔ later.head? = some d := by
    cases later with
    | nil =>
      constructor
      · intro isHead
        exact absurd rfl (differs d isHead)
      · rintro ⟨⟩
    | cons first later => rfl
  have slash := sameHead fun head isHead => (separates head isHead).2.2.2.2.1
  have star := sameHead fun head isHead => (separates head isHead).2.2.2.2.2
  unfold ofChars
  simp only [notBlank, slash, star, if_neg noRemark, Bool.false_eq_true, if_false]
  split
  · next isComment =>
    cases later with
    | nil => cases isComment.2
    | cons first later => rfl
  · split
    · exact number_append separates (c :: later)
    · split
      · exact congrArg Except.ok (word_append separates.stopsWord (c :: later))
      · split
        · next isQuote => exact string_append (closed isQuote)
        · exact symbol_append c later tail

end Front

end Formula
