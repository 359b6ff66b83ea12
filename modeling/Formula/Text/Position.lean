/-!
# Positions and spans

Every token, tree and error says where in the text it stands. Lines count from one, and so do
columns, which count the bytes of the line's UTF-8 text. A span runs from the position of its
first byte to the position right after its last one, so two spans that touch share a position.
-/

namespace Formula

/-- How many bytes characters take up in UTF-8. -/
def byteLength : List Char → Nat
  | [] => 0
  | c :: rest => c.utf8Size + byteLength rest

/-- Characters in a row have as many bytes as both parts together. By induction on the first
part. -/
@[simp] theorem byteLength_append (first last : List Char) :
    byteLength (first ++ last) = byteLength first + byteLength last := by
  induction first with
  | nil => simp [byteLength]
  | cons c rest ih => simp [byteLength, ih, Nat.add_assoc]

/-- A place in a text: line and column, both counted from one, the column in bytes. -/
structure Position where
  line : Nat
  column : Nat
  deriving DecidableEq

namespace Position

/-- Where a text begins. -/
def first : Position := ⟨1, 1⟩

/-- The position of what came from no text. -/
def nowhere : Position := ⟨0, 0⟩

/-- How messages name a position. -/
def text (position : Position) : String :=
  "line " ++ toString position.line ++ ", column " ++ toString position.column

/-- The position `bytes` further on the same line. -/
def advance (position : Position) (bytes : Nat) : Position :=
  ⟨position.line, position.column + bytes⟩

/-- No bytes lead to the same position. -/
@[simp] theorem advance_zero (position : Position) : position.advance 0 = position := rfl

/-- Bytes in a row are passed together. -/
theorem advance_advance (position : Position) (near far : Nat) :
    (position.advance near).advance far = position.advance (near + far) := by
  simp [advance, Nat.add_assoc]

end Position

/-- A stretch of text, from its first byte to right after its last. -/
structure Span where
  start : Position
  stop : Position
  deriving DecidableEq

namespace Span

/-- The span of what came from no text. -/
def nowhere : Span := ⟨.nowhere, .nowhere⟩

/-- The span of `bytes` bytes on one line. -/
def within (start : Position) (bytes : Nat) : Span := ⟨start, start.advance bytes⟩

/-- The span from the start of one to the end of another. -/
def through (first last : Span) : Span := ⟨first.start, last.stop⟩

/-- The two ends, line and column each: `1:1..1:4`. -/
def text (span : Span) : String :=
  toString span.start.line ++ ":" ++ toString span.start.column ++ ".." ++
    toString span.stop.line ++ ":" ++ toString span.stop.column

end Span

end Formula
