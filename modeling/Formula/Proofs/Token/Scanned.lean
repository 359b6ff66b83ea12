import Formula.Proofs.Token.Fronts
import Formula.Proofs.Token.Layout

/-!
# Texts from character to character

A text is scanned from its first character to its last: blanks, remarks and closed comments are
passed over, and each token is found in its place. The scan ends with the text, or at the first
place from which it does not go on. The tokens of a text and its errors are those of the scan, so
whatever the reading of lines says about places can be looked up in the text as a whole.
-/

namespace Formula

namespace Position

/-- The position right after a character. -/
def next (position : Position) (c : Char) : Position :=
  if c = '\n' then ⟨position.line + 1, 1⟩ else position.advance c.utf8Size

/-- The position right after some characters. -/
def past (position : Position) (chars : List Char) : Position := chars.foldl next position

variable {position : Position}

/-- No characters lead to the same place. -/
@[simp] theorem past_nil : position.past [] = position := rfl

/-- Characters in a row lead from place to place. -/
theorem past_append (first last : List Char) :
    position.past (first ++ last) = (position.past first).past last :=
  List.foldl_append

/-- On one line, a character is as wide as its bytes. -/
theorem next_of_ne {c : Char} (noFeed : c ≠ '\n') : position.next c = position.advance c.utf8Size :=
  if_neg noFeed

/-- On one line, a position moves by the bytes of the characters. By induction on them. -/
theorem past_eq_advance {chars : List Char} (noFeed : '\n' ∉ chars) :
    position.past chars = position.advance (byteLength chars) := by
  induction chars generalizing position with
  | nil => rfl
  | cons c later ih =>
    have differs : c ≠ '\n' := fun same => noFeed (by simp [same])
    have free : '\n' ∉ later := fun member => noFeed (List.mem_cons_of_mem c member)
    have step : position.past (c :: later) = (position.next c).past later := rfl
    rw [step, next_of_ne differs, ih free, advance_advance, byteLength]

end Position

/-- The rest of a line, and what follows it in a text: nothing, or a line feed. -/
structure IsLine (line tail : List Char) : Prop where
  noFeed : '\n' ∉ line
  ends : ∀ c ∈ tail.head?, c = '\n'

/-- Every text begins with a line, which is all that stands before its first feed, or all of it. -/
theorem exists_isLine (chars : List Char) :
    ∃ line tail, chars = line ++ tail ∧ IsLine line tail := by
  refine ⟨chars.takeWhile (· != '\n'), chars.dropWhile (· != '\n'), ?_, ?_, ?_⟩
  · exact List.takeWhile_append_dropWhile.symm
  · intro member
    have differs := List.all_eq_true.mp List.all_takeWhile '\n' member
    simp at differs
  · intro c isHead
    have stops := List.head?_dropWhile_not (· != '\n') chars
    rw [isHead] at stops
    simpa using stops

/-- The rest of a line is a line. -/
theorem IsLine.of_append {front line tail : List Char} (isLine : IsLine (front ++ line) tail) :
    IsLine line tail :=
  ⟨fun member => isLine.noFeed (List.mem_append_right front member), isLine.ends⟩

/-- The text up to some place as scanned: the characters before the place, the tokens that were
found in them, and the characters after it. -/
inductive Scanned (text : List Char) : List Char → List Token → List Char → Prop
  | start : Scanned text [] [] text
  | blank (before : List Char) (tokens : List Token) (c : Char) (after : List Char)
      (isBlank : CharClass.isBlank c = true) (scanned : Scanned text before tokens (c :: after)) :
      Scanned text (before ++ [c]) tokens after
  | remark (before : List Char) (tokens : List Token) (body after : List Char)
      (isLine : IsLine body after)
      (scanned : Scanned text before tokens ('/' :: '/' :: body ++ after)) :
      Scanned text (before ++ '/' :: '/' :: body) tokens after
  | comment (before : List Char) (tokens : List Token) (body after : List Char)
      (notEnded : ¬['*', '/'] <:+: body)
      (scanned : Scanned text before tokens ('/' :: '*' :: body ++ '*' :: '/' :: after)) :
      Scanned text (before ++ '/' :: '*' :: body ++ ['*', '/']) tokens after
  | token (before : List Char) (tokens : List Token) (c : Char) (later tail : List Char)
      (content : Token.Content) (lexeme rest : List Char) (isLine : IsLine (c :: later) tail)
      (front : Front.ofChars c later = .ok ⟨.token content, lexeme, rest⟩)
      (scanned : Scanned text before tokens (c :: later ++ tail)) :
      Scanned text (before ++ lexeme)
        (tokens ++ [⟨content, String.ofList lexeme,
          Position.first.past before, Position.first.past (before ++ lexeme)⟩])
        (rest ++ tail)

/-- The tokens of a text, or the first place from which its scan does not go on: one where a line
has a fault, or the beginning of a comment without an end. -/
inductive Scan (text : List Char) : Except LexError (List Token) → Prop
  | complete (tokens : List Token) (scanned : Scanned text text tokens []) : Scan text (.ok tokens)
  | faulty (before : List Char) (tokens : List Token) (c : Char) (later tail : List Char)
      (fault : LexFault) (isLine : IsLine (c :: later) tail)
      (front : Front.ofChars c later = .error fault)
      (scanned : Scanned text before tokens (c :: later ++ tail)) :
      Scan text (.error ⟨fault, Position.first.past before⟩)
  | unclosed (before : List Char) (tokens : List Token) (body : List Char)
      (notEnded : ¬['*', '/'] <:+: body)
      (scanned : Scanned text before tokens ('/' :: '*' :: body)) :
      Scan text (.error ⟨.unterminatedComment, Position.first.past before⟩)

/-- What was scanned and what is left make up the text. By induction on the scan. -/
theorem Scanned.split {text before after : List Char} {tokens : List Token}
    (scanned : Scanned text before tokens after) : before ++ after = text := by
  induction scanned with
  | start => rfl
  | blank before tokens c after _ _ ih => simpa using ih
  | remark before tokens body after _ _ ih => simpa using ih
  | comment before tokens body after _ _ ih => simpa using ih
  | token before tokens c later tail content lexeme rest _ front _ ih =>
    rw [← (Front.ofChars_splits front).2] at ih
    simpa using ih

/-- A token stands in a text where its span says, and is written there. -/
def Token.StandsIn (text : List Char) (token : Token) : Prop :=
  ∃ before after, text = before ++ token.lexeme.toList ++ after ∧
    token.span =
      ⟨Position.first.past before, Position.first.past (before ++ token.lexeme.toList)⟩

/-- Every token that was found stands in the text. By induction on the scan; each token stands after
what had been scanned before it. -/
theorem Scanned.standsIn {text before after : List Char} {tokens : List Token}
    (scanned : Scanned text before tokens after) : ∀ token ∈ tokens, token.StandsIn text := by
  induction scanned with
  | start => exact List.forall_mem_nil _
  | blank _ _ _ _ _ _ ih => exact ih
  | remark _ _ _ _ _ _ ih => exact ih
  | comment _ _ _ _ _ _ ih => exact ih
  | token before tokens c later tail content lexeme rest isLine front scanned ih =>
    refine List.forall_mem_append.mpr ⟨ih, ?_⟩
    intro token isNew
    obtain rfl := List.mem_singleton.mp isNew
    refine ⟨before, rest ++ tail, ?_, ?_⟩
    · rw [← scanned.split, ← (Front.ofChars_splits front).2]
      simp
    · rw [String.toList_ofList]

namespace Draft

open CharClass Front

section Lines

variable {draft : Draft} {position : Position} {line tail : List Char}

/-- A line at the front of a text is the first one when the text is split, because a feed comes
after it or nothing does. -/
theorem splitOn_of_isLine (isLine : IsLine line tail) :
    ∃ later, (line ++ tail).splitOn '\n' = line :: later := by
  cases tail with
  | nil =>
    refine ⟨[], ?_⟩
    have alone := splitOn_append isLine.noFeed (List.splitOn_nil '\n')
    rwa [List.append_nil line] at alone ⊢
  | cons c tail =>
    obtain rfl : c = '\n' := isLine.ends c rfl
    have fresh : ('\n' :: tail).splitOn '\n' = [] :: tail.splitOn '\n' := by
      rw [List.splitOn_cons_eq_if_modifyHead]
      simp
    refine ⟨tail.splitOn '\n', ?_⟩
    rw [splitOn_append isLine.noFeed fresh, List.append_nil]

/-- A fault on the first line is the fault of the text. -/
theorem readText_of_error {c : Char} {later : List Char} {fault : LexFault}
    (outside : draft.comment = none) (isLine : IsLine (c :: later) tail)
    (failed : ofChars c later = .error fault) :
    draft.readText position (c :: later ++ tail) = (draft, some ⟨fault, position⟩) := by
  obtain ⟨others, split⟩ := splitOn_of_isLine isLine
  rw [readText, split]
  simp only [readFrom_of_error outside failed]

/-- A piece of the first line is read, and then the rest of the text. A piece has no feed in it, so
the position moves on along the line by its bytes. -/
theorem readText_of_ok {c : Char} {later : List Char} {front : Front}
    (outside : draft.comment = none) (isLine : IsLine (c :: later) tail)
    (found : ofChars c later = .ok front) :
    draft.readText position (c :: later ++ tail) =
      (draft.add position front).readText (position.past front.lexeme) (front.rest ++ tail) := by
  have isSplit := (ofChars_splits found).2
  rw [← isSplit] at isLine
  obtain ⟨others, split⟩ := splitOn_of_isLine isLine.of_append
  have noFeed : '\n' ∉ front.lexeme :=
    fun member => isLine.noFeed (List.mem_append_left front.rest member)
  rw [Position.past_eq_advance noFeed, ← isSplit, List.append_assoc]
  apply readText_append noFeed split
  rw [isSplit]
  exact readFrom_of_ok outside found

/-- One character that leaves the draft as it is, and that may be the end of a line. If it is, the
next line is counted; if not, the position moves on along the line. -/
theorem readText_cons {c : Char} {later : List Char} (here : draft.lines = position.line)
    (skips : ∀ line tail, later = line ++ tail → draft.readFrom position (c :: line) =
      draft.readFrom (position.advance (byteLength [c])) line) :
    draft.readText position (c :: later) =
      readText { draft with lines := (position.next c).line } (position.next c) later := by
  by_cases feed : c = '\n'
  · subst feed
    rw [readText_feed, Position.next, if_pos rfl, here]
  · obtain ⟨line, tail, rfl, isLine⟩ := exists_isLine later
    obtain ⟨others, split⟩ := splitOn_of_isLine isLine
    have sameDraft : { draft with lines := (position.next c).line } = draft := by
      rw [Position.next_of_ne feed]
      change { draft with lines := position.line } = draft
      rw [← here]
    have noFeed : '\n' ∉ [c] := by simpa using fun same => feed same.symm
    rw [sameDraft, Position.next_of_ne feed]
    exact readText_append noFeed split (skips line tail rfl)

/-- One blank outside comments leaves the draft as it is, on this line or at its end. -/
theorem readText_blank {c : Char} {later : List Char} (outside : draft.comment = none)
    (here : draft.lines = position.line) (blank : isBlank c = true) :
    draft.readText position (c :: later) =
      readText { draft with lines := (position.next c).line } (position.next c) later :=
  readText_cons here fun line _ _ => readFrom_blank outside blank line

end Lines

section Comments

variable {draft : Draft} {position start : Position}

/-- One character inside a comment. -/
theorem readText_inside_cons {c : Char} {later : List Char} (inside : draft.comment = some start)
    (here : draft.lines = position.line) (notEnd : ¬['*', '/'] <+: c :: later) :
    draft.readText position (c :: later) =
      readText { draft with lines := (position.next c).line } (position.next c) later := by
  apply readText_cons here
  intro line tail isLater
  apply readFrom_inside inside
  rintro rest rfl rfl
  exact notEnd ⟨rest ++ tail, by rw [isLater]; rfl⟩

/-- A comment is skipped up to its end. By induction on what is inside of it: no character before
the end begins the end. -/
theorem readText_of_closed {body tail : List Char} (notEnded : ¬['*', '/'] <:+: body)
    (inside : draft.comment = some start) (here : draft.lines = position.line) :
    draft.readText position (body ++ '*' :: '/' :: tail) =
      readText { draft with comment := none, lines := (position.past (body ++ ['*', '/'])).line }
        (position.past (body ++ ['*', '/'])) tail := by
  induction body generalizing draft position with
  | nil =>
    obtain ⟨line, tail, rfl, isLine⟩ := exists_isLine tail
    obtain ⟨others, split⟩ := splitOn_of_isLine isLine
    have noFeed : '\n' ∉ ['*', '/'] := by decide
    have sameLine : (position.past ['*', '/']).line = draft.lines := by
      rw [Position.past_eq_advance noFeed, here]
      rfl
    rw [List.nil_append, List.nil_append, sameLine, Position.past_eq_advance noFeed]
    exact readText_append noFeed split (readFrom_of_closed inside rfl)
  | cons c body ih =>
    have notEnd : ¬['*', '/'] <+: c :: (body ++ '*' :: '/' :: tail) := by
      intro ended
      obtain ⟨rfl, begins⟩ := List.cons_prefix_cons.mp ended
      cases body with
      | nil => cases (List.cons_prefix_cons.mp begins).1
      | cons d body =>
        obtain ⟨rfl, -⟩ := List.cons_prefix_cons.mp begins
        exact notEnded ⟨[], body, rfl⟩
    have notEnded' : ¬['*', '/'] <:+: body := fun ended =>
      notEnded (ended.trans (List.suffix_cons c body).isInfix)
    rw [List.cons_append, readText_inside_cons inside here notEnd]
    exact ih notEnded' inside rfl

/-- A comment without an end is skipped up to the end of the text, and there it is the error. By
induction on the rest of the text. -/
theorem readText_of_unclosed {body : List Char} (notEnded : ¬['*', '/'] <:+: body)
    (inside : draft.comment = some start) (here : draft.lines = position.line) :
    conclude (draft.readText position body) = .error ⟨.unterminatedComment, start⟩ := by
  induction body generalizing draft position with
  | nil =>
    rw [readText_nil]
    simp only [conclude, finish, inside]
  | cons c body ih =>
    have notEnd : ¬['*', '/'] <+: c :: body := fun ended => notEnded ended.isInfix
    have notEnded' : ¬['*', '/'] <:+: body := fun ended =>
      notEnded (ended.trans (List.suffix_cons c body).isInfix)
    rw [readText_inside_cons inside here notEnd]
    exact ih notEnded' inside rfl

end Comments

section Scanning

variable {text before after : List Char} {draft : Draft}

/-- Where a comment ends, if it does. By induction on the characters, as far as the first place at
which its end begins. -/
theorem exists_commentEnd {chars : List Char} (ended : ['*', '/'] <:+: chars) :
    ∃ body rest, chars = body ++ '*' :: '/' :: rest ∧ ¬['*', '/'] <:+: body := by
  induction chars with
  | nil => exact absurd ended (by decide)
  | cons c later ih =>
    by_cases here : ['*', '/'] <+: c :: later
    · obtain ⟨rest, same⟩ := here
      exact ⟨[], rest, same.symm, by decide⟩
    · obtain ⟨body, rest, rfl, notEnded⟩ := ih ((List.infix_cons_iff.mp ended).resolve_left here)
      refine ⟨c :: body, rest, rfl, fun inside => ?_⟩
      obtain first | further := List.infix_cons_iff.mp inside
      · exact here (first.trans (List.prefix_append (c :: body) _))
      · exact notEnded further

/-- A place that is further on the same line. -/
theorem line_past {lexeme : List Char} (here : draft.lines = (Position.first.past before).line)
    (noFeed : '\n' ∉ lexeme) : draft.lines = (Position.first.past (before ++ lexeme)).line := by
  rw [Position.past_append, Position.past_eq_advance noFeed]
  exact here

/-- A comment at the front of the rest of a text is scanned if all that follows its end is, and has
no end otherwise. -/
theorem scan_comment {body : List Char}
    (here : draft.lines = (Position.first.past before).line)
    (scanned : Scanned text before draft.tokens.toList ('/' :: '*' :: body))
    (goesOn : ∀ {draft : Draft} {before rest : List Char}, rest.length < body.length →
      draft.comment = none → draft.lines = (Position.first.past before).line →
      Scanned text before draft.tokens.toList rest →
      Scan text (conclude (draft.readText (Position.first.past before) rest))) :
    Scan text (conclude (readText { draft with comment := some (Position.first.past before) }
      ((Position.first.past before).past ['/', '*']) body)) := by
  rw [← Position.past_append]
  have inside := line_past here (by decide : '\n' ∉ ['/', '*'])
  generalize begun : { draft with comment := some (Position.first.past before) } = opened
  have commented : opened.comment = some (Position.first.past before) := by rw [← begun]
  have counted : opened.lines = (Position.first.past (before ++ ['/', '*'])).line := by
    rw [← begun]
    exact inside
  by_cases ended : ['*', '/'] <:+: body
  · obtain ⟨body, rest, rfl, notEnded⟩ := exists_commentEnd ended
    have closed := Scanned.comment before draft.tokens.toList body rest notEnded scanned
    have place : before ++ ['/', '*'] ++ (body ++ ['*', '/']) =
        before ++ '/' :: '*' :: body ++ ['*', '/'] := by
      simp
    rw [readText_of_closed notEnded commented counted, ← Position.past_append, place, ← begun]
    exact goesOn (by simp; omega) rfl rfl closed
  · rw [readText_of_unclosed ended commented counted]
    exact .unclosed before draft.tokens.toList body ended scanned

/-- A token at the front of the rest of a text is scanned, with the span that it is read with. -/
theorem scanned_add {c : Char} {later tail lexeme rest : List Char} {content : Token.Content}
    (isLine : IsLine (c :: later) tail)
    (found : ofChars c later = .ok ⟨.token content, lexeme, rest⟩)
    (scanned : Scanned text before draft.tokens.toList (c :: later ++ tail)) :
    '\n' ∉ lexeme ∧ Scanned text (before ++ lexeme)
      (draft.add (Position.first.past before) ⟨.token content, lexeme, rest⟩).tokens.toList
      (rest ++ tail) := by
  have isSplit := (ofChars_splits found).2
  have noFeed : '\n' ∉ lexeme := by
    rw [← isSplit] at isLine
    exact fun member => isLine.noFeed (List.mem_append_left rest member)
  have span : (⟨Position.first.past before, Position.first.past (before ++ lexeme)⟩ : Span) =
      .within (Position.first.past before) (byteLength lexeme) := by
    rw [Position.past_append, Position.past_eq_advance noFeed]
    rfl
  have token := Scanned.token before _ c later tail content lexeme rest isLine found scanned
  rw [span, ← Array.toList_push] at token
  exact ⟨noFeed, token⟩

/-- What is read of the rest of a text goes on with its scan. By induction on how much is left: a
piece at the front is scanned, and what is left after it is less; a comment is skipped as a
whole. -/
theorem scan_readText (outside : draft.comment = none)
    (here : draft.lines = (Position.first.past before).line)
    (scanned : Scanned text before draft.tokens.toList after) :
    Scan text (conclude (draft.readText (Position.first.past before) after)) := by
  generalize size : after.length = count
  induction count using Nat.strong_induction_on generalizing draft before after with
  | h count ih =>
    have goesOn {draft : Draft} {before rest : List Char} (shorter : rest.length < after.length)
        (outside : draft.comment = none)
        (here : draft.lines = (Position.first.past before).line)
        (scanned : Scanned text before draft.tokens.toList rest) :
        Scan text (conclude (draft.readText (Position.first.past before) rest)) :=
      ih rest.length (size ▸ shorter) outside here scanned rfl
    cases after with
    | nil =>
      have whole := scanned.split
      rw [List.append_nil] at whole
      subst whole
      rw [readText_nil]
      simp only [conclude, finish, outside]
      exact .complete draft.tokens.toList scanned
    | cons c rest =>
      by_cases blank : isBlank c = true
      · have moved : (Position.first.past before).next c = Position.first.past (before ++ [c]) :=
          (Position.past_append before [c]).symm
        rw [readText_blank outside here blank, moved]
        exact goesOn (by simp) outside rfl (.blank before _ c rest blank scanned)
      · obtain ⟨line, tail, split, isLine⟩ := exists_isLine (c :: rest)
        obtain ⟨rfl, isTail⟩ | ⟨later, rfl, rfl⟩ := List.cons_eq_append_iff.mp split
        · -- The line has characters, because a feed is a blank.
          have feed : c = '\n' := isLine.ends c (by rw [isTail]; rfl)
          exact absurd (by rw [feed]; decide) blank
        · rw [← List.cons_append]
          cases found : ofChars c later with
          | error fault =>
            rw [readText_of_error outside isLine found]
            exact .faulty before _ c later tail fault isLine found scanned
          | ok front =>
            have shorter := rest_shorter found
            rw [readText_of_ok outside isLine found]
            obtain isBlank | ⟨body, rfl, rfl, rfl⟩ | ⟨body, rfl, rfl, rfl⟩ |
              ⟨content, lexeme, rest, rfl⟩ := piece_cases found
            · exact absurd isBlank blank
            · have whole : IsLine (['/', '/'] ++ body) tail := isLine
              have rest := whole.of_append
              have remark := Scanned.remark before _ body tail rest scanned
              rw [← Position.past_append]
              refine goesOn ?_ outside (line_past here isLine.noFeed) remark
              simp
              omega
            · refine scan_comment here scanned fun fewer => goesOn ?_
              simp at fewer ⊢
              omega
            · obtain ⟨noFeed, token⟩ := scanned_add isLine found scanned
              rw [← Position.past_append]
              refine goesOn ?_ outside (line_past here noFeed) token
              simp at shorter ⊢
              omega

end Scanning

end Draft

/-- The tokens of a text, or the error, are those of its scan. -/
theorem Token.scan_ofText (text : String) : Scan text.toList (Token.ofText text) := by
  have begun : Scanned text.toList [] Draft.empty.tokens.toList text.toList := .start
  rw [Draft.ofText_eq_conclude]
  change Scan _ (Draft.conclude (Draft.readText _ (Position.first.past []) _))
  exact Draft.scan_readText rfl rfl begun

/-- Each token of a text stands in it. -/
theorem Token.standsIn_of_ofText {text : String} {tokens : List Token}
    (read : ofText text = .ok tokens) : ∀ token ∈ tokens, token.StandsIn text.toList := by
  have scan := scan_ofText text
  rw [read] at scan
  cases scan with
  | complete _ scanned => exact scanned.standsIn

end Formula
