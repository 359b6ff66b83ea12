import Formula.Proofs.Session.Joined
import Formula.Proofs.Token.Lexemes

/-!
# Layout

Words with gaps between them are read as these words, whatever the gaps are made of: blanks, ends of
lines, remarks up to the end of their line, and comments, which may go on over lines. Only the first
character of a gap has to be a blank. Without it a name or a number could go on into the gap, or a
slash could begin a remark with the slash of a comment.

The layout is a matter of the whole text, and a text is read line by line. So reading is followed
here from character to character over the ends of the lines.
-/

namespace Formula

namespace Layout

open CharClass

/-- Blanks, ends of lines among them, remarks that end with their line, and closed comments. -/
inductive Mix : List Char → Prop
  | nothing : Mix []
  | blank (c : Char) (rest : List Char) (isBlank : isBlank c = true) (mix : Mix rest) :
      Mix (c :: rest)
  | remark (body rest : List Char) (oneLine : '\n' ∉ body) (mix : Mix rest) :
      Mix ('/' :: '/' :: body ++ '\n' :: rest)
  | comment (body rest : List Char) (notEnded : ¬['*', '/'] <:+: body) (mix : Mix rest) :
      Mix ('/' :: '*' :: body ++ '*' :: '/' :: rest)

/-- A mix that begins with a blank. -/
inductive Gap : List Char → Prop
  | begun (c : Char) (rest : List Char) (isBlank : isBlank c = true) (mix : Mix rest) :
      Gap (c :: rest)

/-- Lexemes with a gap before each of them, and with a gap or nothing at the end. -/
inductive Spaced : List String → List Char → Prop
  | nothing : Spaced [] []
  | last (gap : List Char) (isGap : Gap gap) : Spaced [] gap
  | next (gap : List Char) (lexeme : String) (others : List String) (rest : List Char)
      (isGap : Gap gap) (spaced : Spaced others rest) :
      Spaced (lexeme :: others) (gap ++ (lexeme.toList ++ rest))

/-- Lexemes with a gap between each and the next, a mix before the first, and a gap or nothing after
the last. Without lexemes there is only a mix. -/
inductive LaidOut : List String → List Char → Prop
  | blank (mix : List Char) (isMix : Mix mix) : LaidOut [] mix
  | begun (mix : List Char) (lexeme : String) (others : List String) (rest : List Char)
      (isMix : Mix mix) (spaced : Spaced others rest) :
      LaidOut (lexeme :: others) (mix ++ (lexeme.toList ++ rest))

end Layout

namespace Draft

open CharClass Front

/-- Read the rest of a text, of which the first line has been read up to a position. -/
def readText (draft : Draft) (position : Position) (chars : List Char) : Draft × Option LexError :=
  match chars.splitOn '\n' with
  | [] => (draft, none)
  | first :: later =>
    match draft.readFrom position first with
    | (read, none) => read.readLines (later.map String.ofList)
    | failed => failed

section Lines

variable {draft : Draft} {position : Position}

/-- No line of a text has a feed in it. By induction on the text. -/
theorem feed_not_mem_splitOn (chars : List Char) : ∀ line ∈ chars.splitOn '\n', '\n' ∉ line := by
  induction chars with
  | nil => simp
  | cons c chars ih =>
    rw [List.splitOn_cons_eq_if_modifyHead]
    by_cases feed : c = '\n'
    · simpa [feed] using ih
    · have differs : '\n' ≠ c := fun same => feed same.symm
      cases split : chars.splitOn '\n' with
      | nil => exact absurd split (List.splitOn_ne_nil '\n' chars)
      | cons first later =>
        rw [split] at ih
        simpa [feed, differs] using ih

/-- The first line is what stands before the first feed: the lines joined by feeds are the text
again. -/
theorem exists_firstLine (chars : List Char) :
    ∃ first later, chars.splitOn '\n' = first :: later ∧ first <+: chars ∧ '\n' ∉ first := by
  cases split : chars.splitOn '\n' with
  | nil => exact absurd split (List.splitOn_ne_nil '\n' chars)
  | cons first later =>
    refine ⟨first, later, rfl, ?_, ?_⟩
    · have joined : ['\n'].intercalate (chars.splitOn '\n') = chars := List.intercalate_splitOn '\n'
      rw [split] at joined
      rw [← joined]
      cases later with
      | nil => simp
      | cons next later => simp [List.intercalate_cons_cons]
    · exact feed_not_mem_splitOn chars first (by simp [split])

/-- Characters without a feed belong to the first line. By induction on them. -/
theorem splitOn_append {chars tail first : List Char} {later : List (List Char)}
    (noFeed : '\n' ∉ chars) (split : tail.splitOn '\n' = first :: later) :
    (chars ++ tail).splitOn '\n' = (chars ++ first) :: later := by
  induction chars with
  | nil => exact split
  | cons c chars ih =>
    have differs : c ≠ '\n' := fun same => noFeed (by simp [same])
    have free : '\n' ∉ chars := fun member => noFeed (List.mem_cons_of_mem c member)
    rw [List.cons_append, List.splitOn_cons_eq_if_modifyHead, ih free]
    simp [differs]

/-- The end of a line adds nothing, neither outside comments nor inside of one. -/
theorem readFrom_empty (draft : Draft) (position : Position) :
    draft.readFrom position [] = (draft, none) := by
  cases inside : draft.comment with
  | none => exact readFrom_nil inside
  | some start => exact readFrom_of_open inside rfl

/-- A text is read like its lines. -/
theorem readLines_splitOn (draft : Draft) (chars : List Char) :
    draft.readLines ((chars.splitOn '\n').map String.ofList) =
      readText { draft with lines := draft.lines + 1 } ⟨draft.lines + 1, 1⟩ chars := by
  obtain ⟨first, later, split, -, -⟩ := exists_firstLine chars
  rw [readText, split]
  simp only [List.map_cons, readLines, readLine, String.toList_ofList]
  rcases readFrom _ _ first with ⟨read, _ | error⟩ <;> rfl

/-- After a feed the next line is read from its first column on. -/
theorem readText_feed (draft : Draft) (position : Position) (tail : List Char) :
    draft.readText position ('\n' :: tail) =
      readText { draft with lines := draft.lines + 1 } ⟨draft.lines + 1, 1⟩ tail := by
  rw [← readLines_splitOn, readText, List.splitOn_cons_eq_if_modifyHead]
  simp only [beq_self_eq_true, if_true, readFrom_empty]

/-- What is read from the first line of some text is read from the text. -/
theorem readText_append {after : Draft} {position' : Position} {chars tail first : List Char}
    {later : List (List Char)} (noFeed : '\n' ∉ chars)
    (split : tail.splitOn '\n' = first :: later)
    (read : draft.readFrom position (chars ++ first) = after.readFrom position' first) :
    draft.readText position (chars ++ tail) = after.readText position' tail := by
  rw [readText, readText, splitOn_append noFeed split, split]
  simp only [read]

/-- At the end of a text nothing is added. -/
theorem readText_nil (draft : Draft) (position : Position) :
    draft.readText position [] = (draft, none) := by
  simp only [readText, List.splitOn_nil, readFrom_empty, List.map_nil, readLines]

/-- The tokens of a draft to which no line will be added, or the fault that was met. -/
def conclude : Draft × Option LexError → Except LexError (List Token)
  | (draft, none) => draft.finish
  | (_, some error) => .error error

/-- Reading a text line by line and reading it as a whole comes to the same. The lines of a text and
its parts between feeds differ only in carriage returns and in an empty last line, which read as
nothing. -/
theorem ofText_eq_conclude (text : String) : Token.ofText text =
    conclude (readText { empty with lines := 1 } .first text.toList) := by
  have joined : text = "\n".intercalate ((text.toList.splitOn '\n').map String.ofList) := by
    rw [← String.toList_inj, String.toList_intercalate]
    simp [List.map_map]
  have nonempty : (text.toList.splitOn '\n').map String.ofList ≠ [] := by simp
  have noFeed : ∀ line ∈ (text.toList.splitOn '\n').map String.ofList, '\n' ∉ line.toList := by
    intro line member
    obtain ⟨part, isPart, rfl⟩ := List.mem_map.mp member
    rw [String.toList_ofList]
    exact feed_not_mem_splitOn text.toList part isPart
  obtain ⟨sameError, sameFinish⟩ := readLines_joined .empty nonempty noFeed
  rw [← joined, readLines_splitOn] at sameError sameFinish
  have concluded : Token.ofText text = conclude (Draft.ofText text) := by
    rw [Token.ofText]
    rcases Draft.ofText text with ⟨draft, _ | error⟩ <;> rfl
  rw [concluded, Draft.ofText]
  change _ = conclude (readText { empty with lines := empty.lines + 1 } ⟨empty.lines + 1, 1⟩ _)
  generalize empty.readLines (Lines.ofText text) = read at sameError sameFinish
  generalize readText { empty with lines := empty.lines + 1 } ⟨empty.lines + 1, 1⟩ text.toList =
    read' at sameError sameFinish
  obtain ⟨draft, error⟩ := read
  obtain ⟨draft', error'⟩ := read'
  obtain rfl : error = error' := sameError
  cases error with
  | none => exact sameFinish
  | some error => rfl

end Lines

/-- Outside comments, these characters before the rest of a text add words and leave the rest to
read. -/
def Passes (chars tail : List Char) (words : List Word) : Prop :=
  ∀ (draft : Draft) (position : Position), draft.comment = none →
    ∃ (after : Draft) (position' : Position), after.comment = none ∧
      after.words = draft.words ++ words ∧
      draft.readText position (chars ++ tail) = after.readText position' tail

section Passing

variable {chars tail : List Char} {found : List Word}

/-- No characters are passed without words. -/
theorem passes_nil (tail : List Char) : Passes [] tail [] := by
  intro draft position outside
  exact ⟨draft, position, outside, (List.append_nil _).symm, rfl⟩

/-- What is passed one after the other is passed in a row, and the words of the one come before
those of the other. -/
theorem Passes.append {more : List Char} {others : List Word}
    (first : Passes chars (more ++ tail) found) (second : Passes more tail others) :
    Passes (chars ++ more) tail (found ++ others) := by
  intro draft position outside
  obtain ⟨middle, position', outside', added, read⟩ := first draft position outside
  obtain ⟨after, position'', outside'', added', read'⟩ := second middle position' outside'
  refine ⟨after, position'', outside'', ?_, ?_⟩
  · rw [added', added, List.append_assoc]
  · rw [List.append_assoc, read, read']

/-- What adds words on a line adds them in a text. -/
theorem passes_of_adds (noFeed : '\n' ∉ chars)
    (adds : ∀ first, first <+: tail → '\n' ∉ first → Adds chars first found) :
    Passes chars tail found := by
  intro draft position outside
  obtain ⟨first, later, split, isPrefix, free⟩ := exists_firstLine tail
  obtain ⟨after, position', outside', added, read⟩ :=
    adds first isPrefix free draft position outside
  exact ⟨after, position', outside', added, readText_append noFeed split read⟩

/-- A feed is passed without words; the next line begins after it. -/
theorem passes_feed (tail : List Char) : Passes ['\n'] tail [] := by
  intro draft position outside
  exact ⟨{ draft with lines := draft.lines + 1 }, ⟨draft.lines + 1, 1⟩, outside,
    (List.append_nil _).symm, readText_feed draft position tail⟩

/-- A blank, which may be the end of a line. -/
theorem passes_blank {c : Char} (blank : isBlank c = true) (tail : List Char) :
    Passes [c] tail [] := by
  by_cases feed : c = '\n'
  · rw [feed]
    exact passes_feed tail
  · exact passes_of_adds (by simpa using fun same => feed same.symm)
      fun first _ _ => adds_blank blank first

/-- A remark takes the rest of its line, up to the feed, which begins the next one. -/
theorem passes_remark {body : List Char} (oneLine : '\n' ∉ body) (tail : List Char) :
    Passes ('/' :: '/' :: body ++ ['\n']) tail [] := by
  have remark : Passes ('/' :: '/' :: body) ('\n' :: tail) [] := by
    refine passes_of_adds (by simpa using oneLine) ?_
    intro first isPrefix free
    -- Nothing of the line is left before the feed.
    obtain rfl : first = [] := by
      cases first with
      | nil => rfl
      | cons c first =>
        obtain ⟨rfl, -⟩ := List.cons_prefix_cons.mp isPrefix
        simp at free
    intro draft position outside
    refine ⟨draft, position.advance (byteLength ('/' :: '/' :: body)), outside,
      (List.append_nil _).symm, ?_⟩
    rw [List.append_nil]
    exact readFrom_of_ok outside (rfl : ofChars '/' ('/' :: body) = .ok ⟨.remark, _, []⟩)
  exact remark.append (passes_feed tail)

end Passing

section Comments

variable {draft : Draft} {position start : Position}

/-- A comment is skipped character by character, until its end is reached. Skipping to the end at
once goes as far, whether or not the end is on this line. -/
theorem readFrom_inside {c : Char} {later : List Char} (inside : draft.comment = some start)
    (notEnd : ∀ rest, c = '*' → later = '/' :: rest → False) :
    draft.readFrom position (c :: later) =
      draft.readFrom (position.advance (byteLength [c])) later := by
  have further : closeComment? (c :: later) =
      (closeComment? later).map fun found => (c :: found.1, found.2) :=
    closeComment?.eq_3 c later notEnd
  cases closed : closeComment? later with
  | none =>
    rw [closed] at further
    rw [readFrom_of_open inside further, readFrom_of_open inside closed]
  | some found =>
    obtain ⟨skipped, rest⟩ := found
    rw [closed] at further
    rw [readFrom_of_closed inside further, readFrom_of_closed inside closed,
      ← List.singleton_append, byteLength_append, Position.advance_advance]

/-- The end of a comment is found, on whatever line it is. By induction on what is inside the
comment, character by character. -/
theorem readText_inside {body : List Char} (notEnded : ¬['*', '/'] <:+: body) (tail : List Char)
    (draft : Draft) (position : Position) (inside : draft.comment = some start) :
    ∃ (after : Draft) (position' : Position), after.comment = none ∧
      after.words = draft.words ∧
      draft.readText position (body ++ '*' :: '/' :: tail) = after.readText position' tail := by
  induction body generalizing draft position with
  | nil =>
    obtain ⟨first, later, split, -, -⟩ := exists_firstLine tail
    refine ⟨{ draft with comment := none }, position.advance (byteLength ['*', '/']), rfl, rfl, ?_⟩
    have noFeed : '\n' ∉ ['*', '/'] := by decide
    exact readText_append noFeed split (readFrom_of_closed inside rfl)
  | cons c body ih =>
    have notEnded' : ¬['*', '/'] <:+: body := fun ended =>
      notEnded (ended.trans (List.suffix_cons c body).isInfix)
    by_cases feed : c = '\n'
    · subst feed
      rw [List.cons_append, readText_feed]
      exact ih notEnded' { draft with lines := draft.lines + 1 } ⟨draft.lines + 1, 1⟩ inside
    · obtain ⟨first, later, split, isPrefix, -⟩ := exists_firstLine (body ++ '*' :: '/' :: tail)
      have notEnd : ∀ rest, c = '*' → first = '/' :: rest → False := by
        rintro rest rfl rfl
        cases body with
        | nil => cases (List.cons_prefix_cons.mp isPrefix).1
        | cons d body =>
          obtain ⟨rfl, -⟩ := List.cons_prefix_cons.mp isPrefix
          exact notEnded ⟨[], body, rfl⟩
      obtain ⟨after, position', outside, same, read⟩ :=
        ih notEnded' draft (position.advance (byteLength [c])) inside
      refine ⟨after, position', outside, same, ?_⟩
      have noFeed : '\n' ∉ [c] := by simpa using fun same => feed same.symm
      rw [← read]
      exact readText_append noFeed split (readFrom_inside inside notEnd)

/-- A comment that is closed, on its first line or on a later one, is passed without words. It is
begun with its first two characters, and its end is found from there. -/
theorem passes_comment {body : List Char} (notEnded : ¬['*', '/'] <:+: body) (tail : List Char) :
    Passes ('/' :: '*' :: body ++ ['*', '/']) tail [] := by
  intro draft position outside
  let begun : Draft := { draft with comment := some position }
  obtain ⟨after, position', outside', same, read⟩ :=
    readText_inside notEnded tail begun (position.advance (byteLength ['/', '*'])) rfl
  obtain ⟨first, later, split, -, -⟩ := exists_firstLine (body ++ '*' :: '/' :: tail)
  refine ⟨after, position', outside', same.trans (List.append_nil _).symm, ?_⟩
  have chars : '/' :: '*' :: body ++ ['*', '/'] ++ tail =
      ['/', '*'] ++ (body ++ '*' :: '/' :: tail) := by
    simp
  have noFeed : '\n' ∉ ['/', '*'] := by decide
  rw [chars, ← read]
  refine readText_append noFeed split ?_
  exact readFrom_of_ok outside (rfl : ofChars '/' ('*' :: first) = .ok ⟨.commentStart, _, first⟩)

end Comments

end Draft

namespace Layout

open CharClass Draft

variable {chars tail : List Char} {lexemes : List String}

/-- A mix adds no words. By induction on the mix. -/
theorem Mix.passes (mix : Mix chars) (tail : List Char) : Passes chars tail [] := by
  induction mix with
  | nothing => exact passes_nil tail
  | blank c rest isBlank _ ih => exact (passes_blank isBlank (rest ++ tail)).append ih
  | remark body rest oneLine _ ih =>
    have whole := (passes_remark oneLine (rest ++ tail)).append ih
    rwa [List.append_assoc] at whole
  | comment body rest notEnded _ ih =>
    have whole := (passes_comment notEnded (rest ++ tail)).append ih
    rwa [List.append_assoc] at whole

/-- Nor does a gap, which is a blank and then a mix. -/
theorem Gap.passes (gap : Gap chars) (tail : List Char) : Passes chars tail [] := by
  obtain ⟨c, rest, isBlank, mix⟩ := gap
  exact (Mix.blank c rest isBlank mix).passes tail

/-- What comes after a lexeme begins with a blank, if there is anything, as it begins with a gap. -/
theorem Spaced.begins (spaced : Spaced lexemes chars) : ∀ c ∈ chars.head?, isBlank c = true := by
  have ofGap {gap : List Char} (isGap : Gap gap) (rest : List Char) :
      ∀ c ∈ (gap ++ rest).head?, isBlank c = true := by
    obtain ⟨c, more, isBlank, -⟩ := isGap
    rintro _ ⟨⟩
    exact isBlank
  cases spaced with
  | nothing =>
    intro c isHead
    cases isHead
  | last _ isGap =>
    have begins := ofGap isGap []
    rwa [List.append_nil] at begins
  | next gap lexeme others rest isGap _ => exact ofGap isGap (lexeme.toList ++ rest)

/-- No token goes on with a blank, which is no digit, belongs to no word and is none of the
characters that a token could go on with. -/
theorem separates_of_blank (blank : ∀ c ∈ chars.head?, isBlank c = true) :
    Front.Separates chars := by
  intro c isHead
  have isBlank := blank c isHead
  obtain ⟨notNamed, notInWord⟩ := not_inWord_of_isBlank isBlank
  have noDigit : isDigit c = false := by
    cases digit : isDigit c with
    | false => rfl
    | true =>
      rw [(classes_of_isDigit digit).1] at isBlank
      cases isBlank
  have differs {d : Char} (solid : CharClass.isBlank d = false) : c ≠ d := by
    rintro rfl
    rw [solid] at isBlank
    cases isBlank
  refine ⟨noDigit, notNamed, notInWord, differs ?_, differs ?_, differs ?_⟩ <;> decide +kernel

/-- A word that stands by itself, on one line, is passed before a blank or at the end, because what
follows it separates it. -/
theorem passes_word {word : Word} (stands : word.Stands) (oneLine : '\n' ∉ word.lexeme.toList)
    (blank : ∀ c ∈ tail.head?, isBlank c = true) : Passes word.lexeme.toList tail [word] := by
  refine passes_of_adds oneLine ?_
  intro first isPrefix _
  have separates : Front.Separates first := by
    refine separates_of_blank fun c isHead => blank c ?_
    obtain ⟨rest, rfl⟩ := isPrefix
    rw [List.head?_append, isHead]
    rfl
  have adds := adds_word stands separates
  rwa [String.ofList_toList] at adds

/-- Words that stand by themselves, each on one line. -/
def Plain (words : List Word) : Prop :=
  ∀ word ∈ words, word.Stands ∧ '\n' ∉ word.lexeme.toList

variable {words : List Word}

/-- Lexemes with gaps between them are passed with their words. By induction on them: each word
stands before a blank or at the end, so it is read as it is. -/
theorem Spaced.passes (spaced : Spaced (words.map Word.lexeme) chars) (plain : Plain words) :
    Passes chars [] words := by
  generalize same : words.map Word.lexeme = lexemes at spaced
  induction spaced generalizing words with
  | nothing =>
    obtain rfl := List.map_eq_nil_iff.mp same
    exact passes_nil []
  | last gap isGap =>
    obtain rfl := List.map_eq_nil_iff.mp same
    exact isGap.passes []
  | next gap lexeme others rest isGap spaced ih =>
    obtain ⟨word, later, rfl, rfl, sameLater⟩ := List.map_eq_cons_iff.mp same
    obtain ⟨⟨stands, oneLine⟩, plain⟩ := List.forall_mem_cons.mp plain
    have blank : ∀ c ∈ (rest ++ []).head?, isBlank c = true := by
      rw [List.append_nil]
      exact spaced.begins
    have both := (passes_word stands oneLine blank).append (ih plain sameLater)
    exact (isGap.passes _).append both

/-- Words that are laid out are passed from the beginning of a text to its end. A mix may come
first; then comes a word, and the others are spaced from it. -/
theorem LaidOut.passes (laidOut : LaidOut (words.map Word.lexeme) chars) (plain : Plain words) :
    Passes chars [] words := by
  generalize same : words.map Word.lexeme = lexemes at laidOut
  cases laidOut with
  | blank mix isMix =>
    obtain rfl := List.map_eq_nil_iff.mp same
    exact isMix.passes []
  | begun mix lexeme others rest isMix spaced =>
    obtain ⟨word, later, rfl, rfl, sameLater⟩ := List.map_eq_cons_iff.mp same
    obtain ⟨⟨stands, oneLine⟩, plain⟩ := List.forall_mem_cons.mp plain
    have blank : ∀ c ∈ (rest ++ []).head?, isBlank c = true := by
      rw [List.append_nil]
      exact spaced.begins
    rw [← sameLater] at spaced
    have both := (passes_word stands oneLine blank).append (spaced.passes plain)
    exact (isMix.passes _).append both

/-- The tokens of a text are those that are read when it is followed from its first character to its
end. -/
theorem ofText_of_passes (passes : Passes chars [] words) :
    ∃ tokens, Token.ofText (String.ofList chars) = .ok tokens ∧ tokens.map Token.word = words := by
  obtain ⟨after, position, outside, added, read⟩ :=
    passes { Draft.empty with lines := 1 } .first rfl
  rw [List.append_nil, readText_nil] at read
  refine ⟨after.tokens.toList, ?_, by simpa [Draft.words, Draft.empty] using added⟩
  rw [ofText_eq_conclude, String.toList_ofList, read]
  simp only [conclude, Draft.finish, outside]

end Layout

/-- A text that is laid out from the lexemes of another has the same tokens, but for where they
stand. The tokens of the other text stand by themselves, and so they are plain words that can be
laid out. -/
theorem Token.ofText_laidOut {source : String} {tokens : List Token}
    (read : ofText source = .ok tokens) {text : String}
    (laidOut : Layout.LaidOut (tokens.map Token.lexeme) text.toList) :
    ∃ tokens', ofText text = .ok tokens' ∧ tokens'.map Token.word = tokens.map Token.word := by
  have plain : Layout.Plain (tokens.map Token.word) := by
    intro word member
    obtain ⟨token, isToken, rfl⟩ := List.mem_map.mp member
    exact stands_of_ofText read token isToken
  have passes : Draft.Passes text.toList [] (tokens.map Token.word) := by
    refine Layout.LaidOut.passes ?_ plain
    rw [List.map_map]
    exact laidOut
  have whole := Layout.ofText_of_passes passes
  rwa [String.ofList_toList] at whole

end Formula
