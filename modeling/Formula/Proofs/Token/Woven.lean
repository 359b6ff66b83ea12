import Formula.Proofs.Token.Scanned
import Mathlib.Data.Prod.Lex

/-!
# What texts are woven of

Between and around its tokens a text holds blanks, remarks and comments, and nothing else. A text and
its tokens are followed here side by side from a position on: each token takes up the very characters
of its lexeme, and its span reaches over them. So no character is lost or told twice, and the tokens
come in the order in which they stand.
-/

namespace Formula

namespace Position

/-- The line of a position and then its column. -/
def key (position : Position) : ℕ ×ₗ ℕ := toLex (position.line, position.column)

/-- Positions with the same line and the same column are the same. -/
theorem key_injective : Function.Injective key := by
  rintro ⟨line, column⟩ ⟨line', column'⟩ same
  simpa [key] using same

/-- A position is before another if it is on an earlier line, or further left on the same one. -/
instance : PartialOrder Position := PartialOrder.lift key key_injective

variable {position other : Position}

/-- One position is before another if its line is, or its column on the same line. -/
theorem lt_iff : position < other ↔
    position.line < other.line ∨ position.line = other.line ∧ position.column < other.column :=
  Prod.Lex.lt_iff

/-- Every character takes its reader further. -/
theorem lt_next (position : Position) (c : Char) : position < position.next c := by
  rw [lt_iff]
  by_cases feed : c = '\n'
  · apply Or.inl
    rw [next, if_pos feed]
    exact Nat.lt_succ_self position.line
  · apply Or.inr
    rw [next_of_ne feed]
    exact ⟨rfl, Nat.lt_add_of_pos_right c.utf8Size_pos⟩

/-- No characters lead back. By induction on them. -/
theorem le_past (position : Position) (chars : List Char) : position ≤ position.past chars := by
  induction chars generalizing position with
  | nil => exact le_refl position
  | cons c later ih => exact (lt_next position c).le.trans (ih (position.next c))

/-- Some characters lead further. -/
theorem lt_past {chars : List Char} (nonempty : chars ≠ []) : position < position.past chars := by
  cases chars with
  | nil => exact absurd rfl nonempty
  | cons c later => exact (lt_next position c).trans_le (le_past (position.next c) later)

end Position

/-- Some text that begins at a position is nothing but tokens, one after the other, with blanks,
remarks and comments around them. A remark ends with its line, a comment at its first end. -/
inductive Woven : Position → List Char → List Token → Prop
  | nothing (position : Position) : Woven position [] []
  | blank (position : Position) (c : Char) (rest : List Char) (tokens : List Token)
      (isBlank : CharClass.isBlank c = true) (woven : Woven (position.next c) rest tokens) :
      Woven position (c :: rest) tokens
  | remark (position : Position) (body rest : List Char) (tokens : List Token)
      (isLine : IsLine body rest)
      (woven : Woven (position.past ('/' :: '/' :: body)) rest tokens) :
      Woven position ('/' :: '/' :: body ++ rest) tokens
  | comment (position : Position) (body rest : List Char) (tokens : List Token)
      (notEnded : ¬['*', '/'] <:+: body)
      (woven : Woven (position.past ('/' :: '*' :: body ++ ['*', '/'])) rest tokens) :
      Woven position ('/' :: '*' :: body ++ '*' :: '/' :: rest) tokens
  | token (position : Position) (token : Token) (rest : List Char) (tokens : List Token)
      (nonempty : token.lexeme.toList ≠ [])
      (span : token.span = ⟨position, position.past token.lexeme.toList⟩)
      (woven : Woven (position.past token.lexeme.toList) rest tokens) :
      Woven position (token.lexeme.toList ++ rest) (token :: tokens)

section Order

variable {position : Position} {text : List Char} {tokens : List Token}

/-- A token begins before it stops, because it has characters. By induction on how the text is
woven. -/
theorem Woven.start_lt_stop (woven : Woven position text tokens) :
    ∀ token ∈ tokens, token.span.start < token.span.stop := by
  induction woven with
  | nothing => exact List.forall_mem_nil _
  | blank _ _ _ _ _ _ ih => exact ih
  | remark _ _ _ _ _ _ ih => exact ih
  | comment _ _ _ _ _ _ ih => exact ih
  | token position token rest tokens nonempty span _ ih =>
    refine List.forall_mem_cons.mpr ⟨?_, ih⟩
    rw [span]
    exact Position.lt_past nonempty

/-- Tokens stand where the text does. By induction on how the text is woven, as no characters lead
back to an earlier place. -/
theorem Woven.le_start (woven : Woven position text tokens) :
    ∀ token ∈ tokens, position ≤ token.span.start := by
  induction woven with
  | nothing => exact List.forall_mem_nil _
  | blank position c _ _ _ _ ih =>
    intro token member
    exact (Position.lt_next position c).le.trans (ih token member)
  | remark position _ _ _ _ _ ih | comment position _ _ _ _ _ ih =>
    intro token member
    exact (Position.le_past position _).trans (ih token member)
  | token position token rest tokens nonempty span _ ih =>
    refine List.forall_mem_cons.mpr ⟨?_, fun later member => ?_⟩
    · rw [span]
    · exact (Position.le_past position _).trans (ih later member)

/-- A token stops before the next one starts, or where it does. By induction on how the text is
woven: the tokens after one stand in the text after it. -/
theorem Woven.stop_le_start (woven : Woven position text tokens) :
    tokens.Pairwise fun earlier later => earlier.span.stop ≤ later.span.start := by
  induction woven with
  | nothing => exact List.Pairwise.nil
  | blank _ _ _ _ _ _ ih => exact ih
  | remark _ _ _ _ _ _ ih => exact ih
  | comment _ _ _ _ _ _ ih => exact ih
  | token position token rest tokens nonempty span woven ih =>
    refine List.pairwise_cons.mpr ⟨fun later member => ?_, ih⟩
    rw [span]
    exact woven.le_start later member

end Order

/-- What was scanned up to some place and what is woven after it make up the text. By induction on
the scan, with what is woven after it growing to the front. -/
theorem Scanned.woven {text before after : List Char} {tokens others : List Token}
    (scanned : Scanned text before tokens after)
    (rest : Woven (Position.first.past before) after others) :
    Woven .first text (tokens ++ others) := by
  -- The scan is undone from its end: the piece scanned last is put before what is woven after it.
  induction scanned generalizing others with
  | start => exact rest
  | blank before tokens c after isBlank _ ih =>
    rw [Position.past_append] at rest
    exact ih (.blank _ c after others isBlank rest)
  | remark before tokens body after isLine _ ih =>
    rw [Position.past_append] at rest
    exact ih (.remark _ body after others isLine rest)
  | comment before tokens body after notEnded _ ih =>
    rw [List.append_assoc, Position.past_append] at rest
    exact ih (.comment _ body after others notEnded rest)
  | token before tokens c later tail content lexeme more isLine front _ ih =>
    obtain ⟨nonempty, isSplit⟩ := Front.ofChars_splits front
    have spelled : (String.ofList lexeme).toList = lexeme := String.toList_ofList
    generalize written : String.ofList lexeme = text at spelled
    obtain rfl := spelled
    rw [List.append_assoc, List.singleton_append]
    apply ih
    rw [← isSplit, List.append_assoc, Position.past_append]
    rw [Position.past_append] at rest
    exact .token _ ⟨content, text, _, _⟩ (more ++ tail) others nonempty rfl rest

/-- Every text that has tokens is woven of them. -/
theorem Token.woven_of_ofText {text : String} {tokens : List Token}
    (read : ofText text = .ok tokens) : Woven .first text.toList tokens := by
  have scan := scan_ofText text
  rw [read] at scan
  cases scan with
  | complete _ scanned =>
    have woven := scanned.woven (.nothing _)
    rwa [List.append_nil] at woven

end Formula
