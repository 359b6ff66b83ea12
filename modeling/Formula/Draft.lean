import Formula.Text.Lines
import Formula.Token.Front

/-!
# Drafts

A draft is what has been read of a statement so far. It holds the tokens of its lines and what
outlives the end of a line: how many lines there were, how many more brackets were opened than
closed, and where a comment began that is still open. Comments do not nest: the first end closes
one. A line with a fault leaves the draft as it was when the fault was met.
-/

namespace Formula

/-- The lines of a statement read so far. -/
structure Draft where
  tokens : Array Token
  lines : Nat
  balance : Int
  comment : Option Position

namespace Draft

/-- Nothing read yet. -/
def empty : Draft := ⟨#[], 0, 0, none⟩

/-- Whether more lines are needed: a comment or a bracket is open. -/
def isOpen (draft : Draft) : Bool := draft.comment.isSome || 0 < draft.balance

/-- The characters of a comment up to its end, and those that follow it. -/
def closeComment? : List Char → Option (List Char × List Char)
  | [] => none
  | '*' :: '/' :: rest => some (['*', '/'], rest)
  | c :: later => (closeComment? later).map fun found => (c :: found.1, found.2)

/-- What was skipped and what follows it make up the whole, and something was skipped. By following
the search for the end of the comment. -/
theorem closeComment?_splits {chars skipped rest : List Char}
    (found : closeComment? chars = some (skipped, rest)) :
    skipped ≠ [] ∧ skipped ++ rest = chars := by
  fun_induction closeComment? chars generalizing skipped with
  | case1 => cases found
  | case2 =>
    cases found
    simp
  | case3 c later notEnd ih =>
    obtain ⟨⟨before, after⟩, inner, same⟩ := Option.map_eq_some_iff.mp found
    cases same
    simpa using (ih inner).2

/-- What follows the end of a comment is shorter, so reading comes to an end. -/
theorem closeComment?_shorter {chars skipped rest : List Char}
    (found : closeComment? chars = some (skipped, rest)) : rest.length < chars.length := by
  obtain ⟨nonempty, split⟩ := closeComment?_splits found
  have sizes := congrArg List.length split
  have positive := List.length_pos_iff.mpr nonempty
  rw [List.length_append] at sizes
  omega

/-- How many brackets a token opens. -/
def opens : Token.Content → Int
  | .symbol mark => mark.opens
  | _ => 0

/-- Add the piece read at a position. -/
def add (draft : Draft) (position : Position) (front : Front) : Draft :=
  match front.piece with
  | .blanks | .remark => draft
  | .commentStart => { draft with comment := some position }
  | .token content =>
    let token := ⟨content, String.ofList front.lexeme, .within position (byteLength front.lexeme)⟩
    { draft with tokens := draft.tokens.push token, balance := draft.balance + opens content }

/-- Read the rest of a line from a position on it, up to its end or a fault. -/
def readFrom (draft : Draft) (position : Position) (chars : List Char) : Draft × Option LexError :=
  match draft.comment with
  | some _ =>
    match _found : closeComment? chars with
    | none => (draft, none)
    | some (skipped, rest) =>
      readFrom { draft with comment := none } (position.advance (byteLength skipped)) rest
  | none =>
    match chars with
    | [] => (draft, none)
    | c :: later =>
      match _found : Front.ofChars c later with
      | .error fault => (draft, some ⟨fault, position⟩)
      | .ok front =>
        readFrom (draft.add position front) (position.advance (byteLength front.lexeme)) front.rest
termination_by chars.length
decreasing_by
  · exact closeComment?_shorter _found
  · exact Front.rest_shorter _found

section Steps

variable {draft : Draft} {position start : Position} {chars : List Char}

/-- In a comment that goes on after the line, the rest of the line is skipped. -/
theorem readFrom_of_open (inside : draft.comment = some start)
    (unclosed : closeComment? chars = none) : draft.readFrom position chars = (draft, none) := by
  rw [readFrom.eq_def, inside]
  simp only
  split
  · rfl
  · next found => cases unclosed.symm.trans found

/-- In a comment that ends on the line, what is skipped reaches up to its end. -/
theorem readFrom_of_closed {skipped rest : List Char} (inside : draft.comment = some start)
    (closed : closeComment? chars = some (skipped, rest)) : draft.readFrom position chars =
      readFrom { draft with comment := none } (position.advance (byteLength skipped)) rest := by
  rw [readFrom.eq_def, inside]
  simp only
  split
  · next found => cases closed.symm.trans found
  · next found =>
    cases closed.symm.trans found
    rfl

/-- At the end of a line nothing more is read. -/
theorem readFrom_nil (outside : draft.comment = none) :
    draft.readFrom position [] = (draft, none) := by
  rw [readFrom, outside]

/-- A fault at the front ends the reading at its place. -/
theorem readFrom_of_error {c : Char} {fault : LexFault} (outside : draft.comment = none)
    (found : Front.ofChars c chars = .error fault) :
    draft.readFrom position (c :: chars) = (draft, some ⟨fault, position⟩) := by
  rw [readFrom, outside]
  simp only
  split
  · next found' =>
    cases found.symm.trans found'
    rfl
  · next found' => cases found.symm.trans found'

/-- A piece at the front is added, and reading goes on after it. -/
theorem readFrom_of_ok {c : Char} {front : Front} (outside : draft.comment = none)
    (found : Front.ofChars c chars = .ok front) : draft.readFrom position (c :: chars) =
      (draft.add position front).readFrom (position.advance (byteLength front.lexeme)) front.rest := by
  rw [readFrom, outside]
  simp only
  split
  · next found' => cases found.symm.trans found'
  · next found' =>
    cases found.symm.trans found'
    rfl

end Steps

/-- Read one more line. -/
def readLine (draft : Draft) (line : String) : Draft × Option LexError :=
  let counted := { draft with lines := draft.lines + 1 }
  counted.readFrom ⟨counted.lines, 1⟩ line.toList

/-- Read lines up to the first one with a fault. -/
def readLines (draft : Draft) : List String → Draft × Option LexError
  | [] => (draft, none)
  | line :: later =>
    match draft.readLine line with
    | (read, none) => read.readLines later
    | (read, some error) => (read, some error)

/-- The tokens of a finished statement. A comment must not be open; open brackets are left to
    the grammar. -/
def finish (draft : Draft) : Except LexError (List Token) :=
  match draft.comment with
  | some start => .error ⟨.unterminatedComment, start⟩
  | none => .ok draft.tokens.toList

/-- The draft of a whole text. -/
def ofText (text : String) : Draft × Option LexError := empty.readLines (Lines.ofText text)

end Draft

/-- The tokens of a whole text. -/
def Token.ofText (text : String) : Except LexError (List Token) :=
  match Draft.ofText text with
  | (_, some error) => .error error
  | (draft, none) => draft.finish

end Formula
