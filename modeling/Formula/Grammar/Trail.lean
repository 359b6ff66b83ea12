import Formula.Token

/-!
# How far a statement could be read

Reading a statement tries alternatives in order, and an alternative that fails is no error yet.
What is kept of all failures is the furthest place at which a token was not the expected one,
with everything that was expected at that place in the order it was asked for. That is the error
of a statement that cannot be read. One failure is final: a bracket that would be open inside too
many others. It replaces what was kept before and nothing is kept after it.
-/

namespace Formula

/-- What can be expected of the text at some place. -/
inductive Expectation where
  | token (kind : Token.Kind)
  | endOfInput
  | shallowerNesting
  deriving DecidableEq

/-- How messages name an expectation. -/
def Expectation.description : Expectation → String
  | .token kind => kind.description
  | .endOfInput => "end of input"
  | .shallowerNesting => "less deeply nested expression"

/-- A statement that cannot be read: the token in the way, or none where the tokens ran out, what
    was expected instead, and where. -/
structure SyntaxError where
  found : Option String
  expected : List Expectation
  position : Position

namespace SyntaxError

/-- What was expected, as a message says it. -/
def expectation (error : SyntaxError) : String :=
  match error.expected with
  | [] => "an expression"
  | [only] => only.description
  | several => "one of " ++ ", ".intercalate (several.map Expectation.description)

/-- The line that is shown for a syntax error. -/
def message (error : SyntaxError) : String :=
  let found := match error.found with
    | some lexeme => "unexpected token '" ++ lexeme ++ "'"
    | none => "unexpected end of input"
  found ++ " at " ++ error.position.text ++ ", expected " ++ error.expectation

end SyntaxError

/-- The tokens still to be read. Their number is kept beside them, because failures compare it. -/
structure Cursor where
  tokens : List Token
  left : Nat
  left_eq : left = tokens.length

/-- Before all of some tokens. -/
def Cursor.ofList (tokens : List Token) : Cursor := ⟨tokens, tokens.length, rfl⟩

/-- The tokens after a cursor are those it was made of. -/
@[simp] theorem Cursor.tokens_ofList (tokens : List Token) : (ofList tokens).tokens = tokens := rfl

/-- As many tokens are left as it was made of. -/
@[simp] theorem Cursor.left_ofList (tokens : List Token) : (ofList tokens).left = tokens.length :=
  rfl

/-- A cursor is nothing but the tokens after it. -/
theorem Cursor.ofList_tokens (cursor : Cursor) : ofList cursor.tokens = cursor := by
  obtain ⟨tokens, left, rfl⟩ := cursor
  rfl

/-- Either a token of a kind that is wanted comes first, or none does, be it that another comes or
that there are no more. -/
theorem Token.head_cases (wanted : Token.Kind → Prop) (tokens : List Token) :
    (∃ token later, wanted token.kind ∧ tokens = token :: later) ∨
      ∀ token ∈ tokens.head?, ¬wanted token.kind := by
  cases tokens with
  | nil =>
    right
    rintro _ ⟨⟩
  | cons token later =>
    by_cases held : wanted token.kind
    · exact .inl ⟨token, later, held, rfl⟩
    · right
      rintro _ ⟨⟩
      exact held

/-- Either a token of a kind that is wanted comes first, or none does. -/
theorem Cursor.head_cases (wanted : Token.Kind → Prop) (cursor : Cursor) :
    (∃ token later, wanted token.kind ∧ cursor = .ofList (token :: later)) ∨
      ∃ tokens, (∀ token ∈ tokens.head?, ¬wanted token.kind) ∧ cursor = .ofList tokens := by
  rw [← cursor.ofList_tokens]
  rcases Token.head_cases wanted cursor.tokens with ⟨token, later, held, split⟩ | none
  · exact .inl ⟨token, later, held, congrArg ofList split⟩
  · exact .inr ⟨cursor.tokens, none, rfl⟩

/-- The furthest failure: how many tokens were left, the first of them, and what was expected. -/
structure Failure where
  left : Nat
  found : Option Token
  expected : List Expectation
  final : Bool

namespace Failure

/-- The failure at a place with one expectation. -/
def single (cursor : Cursor) (expectation : Expectation) (final : Bool) : Failure :=
  ⟨cursor.left, cursor.tokens.head?, [expectation], final⟩

/-- Keep a failure, if it is not behind the furthest one. -/
def note (failure : Failure) (cursor : Cursor) (expectation : Expectation) : Failure :=
  if failure.final then failure
  else if cursor.left < failure.left then single cursor expectation false
  else if cursor.left = failure.left ∧ expectation ∉ failure.expected then
    { failure with expected := failure.expected ++ [expectation] }
  else failure

/-- Keep a final failure, unless there is one already. -/
def refuse (failure : Failure) (cursor : Cursor) (expectation : Expectation) : Failure :=
  if failure.final then failure else single cursor expectation true

/-- The error of a statement whose tokens end at `stop`. -/
def toError (failure : Failure) (stop : Position) : SyntaxError :=
  match failure.found with
  | some token => ⟨some token.lexeme, failure.expected, token.span.start⟩
  | none => ⟨none, failure.expected, stop⟩

/-- Expectations do not repeat. One is added only if it is new at its place, and a place further on
starts with one. -/
theorem nodup_note {failure : Failure} (distinct : failure.expected.Nodup) (cursor : Cursor)
    (expectation : Expectation) : (failure.note cursor expectation).expected.Nodup := by
  unfold note
  split
  · exact distinct
  · split
    · simp [single]
    · split
      · next fresh =>
        refine List.nodup_append.mpr ⟨distinct, by simp, ?_⟩
        intro old member new isNew equal
        obtain rfl := List.mem_singleton.mp isNew
        exact fresh.2 (equal ▸ member)
      · exact distinct

/-- The place of the furthest failure never moves back. -/
theorem left_note_le (failure : Failure) (cursor : Cursor) (expectation : Expectation) :
    (failure.note cursor expectation).left ≤ failure.left := by
  unfold note
  split
  · exact Nat.le_refl _
  · split
    · next ahead => exact Nat.le_of_lt ahead
    · split <;> exact Nat.le_refl _

end Failure

/-- What reading a statement keeps track of: the brackets open around the place it has come to,
    and the furthest failure. -/
structure Trail where
  depth : Nat
  failure : Failure

namespace Trail

/-- Nothing read: no bracket is open, and any failure goes further than none. -/
def start (tokens : List Token) : Trail := ⟨0, ⟨tokens.length + 1, none, [], false⟩⟩

def note (trail : Trail) (cursor : Cursor) (expectation : Expectation) : Trail :=
  { trail with failure := trail.failure.note cursor expectation }

def refuse (trail : Trail) (cursor : Cursor) (expectation : Expectation) : Trail :=
  { trail with failure := trail.failure.refuse cursor expectation }

/-- Go inside one more bracket. -/
def enter (trail : Trail) : Trail := { trail with depth := trail.depth + 1 }

/-- Come out of the innermost bracket. -/
def leave (trail : Trail) : Trail := { trail with depth := trail.depth - 1 }

end Trail

end Formula
