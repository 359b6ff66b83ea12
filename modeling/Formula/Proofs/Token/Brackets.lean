import Formula.Draft
import Mathlib.Algebra.Ring.Int.Defs

/-!
# How many brackets are open

Of tokens that stand one after another, as many brackets are open as there are more opening than
closing ones. A draft does not go through its tokens to find out: it keeps a balance, which every
new token changes, and asks for more lines while the balance is positive. The balance is
nevertheless the count, because it is the count of no tokens at first and every token changes both
alike.
-/

namespace Formula

namespace Token

/-- The kinds of the tokens that open a bracket. -/
def openingKinds : List Kind :=
  [.symbol .leftParen, .symbol .leftBracket, .symbol .leftBrace]

/-- The kinds of the tokens that close a bracket. -/
def closingKinds : List Kind :=
  [.symbol .rightParen, .symbol .rightBracket, .symbol .rightBrace]

/-- Whether a token opens a bracket. -/
def IsOpening (token : Token) : Prop := token.kind ∈ openingKinds

/-- Whether a token closes a bracket. -/
def IsClosing (token : Token) : Prop := token.kind ∈ closingKinds

/-- One look at the list decides it. -/
instance : DecidablePred IsOpening := fun token =>
  inferInstanceAs (Decidable (token.kind ∈ openingKinds))

/-- One look at the list decides it. -/
instance : DecidablePred IsClosing := fun token =>
  inferInstanceAs (Decidable (token.kind ∈ closingKinds))

end Token

/-- How many more brackets tokens open than they close. -/
def openBrackets (tokens : List Token) : Int :=
  tokens.countP (fun token => token.IsOpening) - tokens.countP (fun token => token.IsClosing)

/-- What a draft adds to its balance for a token is what the token adds to the count. By cases on
the symbol; no other token counts for either. -/
theorem opens_eq (token : Token) : Draft.opens token.content =
    (if token.IsOpening then 1 else 0) - (if token.IsClosing then 1 else 0) := by
  obtain ⟨content, lexeme, span⟩ := token
  cases content with
  | symbol mark => cases mark <;> rfl
  | integer | float | string | boolean | name => rfl

/-- A token opens a bracket exactly if a draft adds to its balance for it. -/
theorem opens_pos_iff (token : Token) : 0 < Draft.opens token.content ↔ token.IsOpening := by
  obtain ⟨content, lexeme, span⟩ := token
  rw [Token.IsOpening, Token.kind]
  cases content with
  | symbol mark =>
    cases mark <;> simp [Draft.opens, Symbol.opens, Token.Content.kind, Token.openingKinds]
  | integer | float | string | boolean | name =>
    simp [Draft.opens, Token.Content.kind, Token.openingKinds]

/-- Without tokens nothing is open. -/
@[simp] theorem openBrackets_nil : openBrackets [] = 0 := rfl

/-- The count of tokens is that of the first one and of the others. -/
@[simp] theorem openBrackets_cons (token : Token) (rest : List Token) :
    openBrackets (token :: rest) = Draft.opens token.content + openBrackets rest := by
  rw [openBrackets, openBrackets, List.countP_cons, List.countP_cons, opens_eq]
  simp only [decide_eq_true_eq]
  split <;> split <;> omega

/-- Counts of tokens one after the other are added up. -/
@[simp] theorem openBrackets_append (front rest : List Token) :
    openBrackets (front ++ rest) = openBrackets front + openBrackets rest := by
  rw [openBrackets, List.countP_append, List.countP_append, openBrackets, openBrackets]
  omega

/-- No more brackets are open than there are tokens, since no token opens more than one. -/
theorem openBrackets_le_length (tokens : List Token) : openBrackets tokens ≤ tokens.length := by
  have opening := List.countP_le_length (p := fun token : Token => token.IsOpening) (l := tokens)
  rw [openBrackets]
  omega

namespace Draft

/-- The count of a draft is that of its tokens. -/
def Balanced (draft : Draft) : Prop := draft.balance = openBrackets draft.tokens.toList

/-- A draft without tokens is balanced. -/
theorem balanced_empty : empty.Balanced := rfl

/-- A piece keeps the balance: only tokens change either side, and by the same. -/
theorem Balanced.add {draft : Draft} (balanced : draft.Balanced) (position : Position)
    (front : Front) : (draft.add position front).Balanced := by
  unfold Draft.add
  split
  · exact balanced
  · exact balanced
  · exact balanced
  · simp only [Balanced, Array.toList_push, openBrackets_append, openBrackets_cons,
      openBrackets_nil, Int.add_zero]
    rw [balanced]

/-- Reading the rest of a line keeps the balance. By induction over the pieces that are read. -/
theorem Balanced.readFrom {draft : Draft} (balanced : draft.Balanced) (position : Position)
    (chars : List Char) : (draft.readFrom position chars).1.Balanced := by
  fun_induction Draft.readFrom draft position chars with
  | case1 => exact balanced
  | case2 draft position chars start inside skipped rest closed ih => exact ih balanced
  | case3 => exact balanced
  | case4 => exact balanced
  | case5 draft position outside c later front found ih => exact ih (balanced.add position front)

/-- Reading a line keeps the balance. -/
theorem Balanced.readLine {draft : Draft} (balanced : draft.Balanced) (line : String) :
    (draft.readLine line).1.Balanced := by
  have counted : Balanced { draft with lines := draft.lines + 1 } := balanced
  exact counted.readFrom _ _

/-- Whatever lines are read, the count stays that of the tokens. By induction on the lines. -/
theorem Balanced.readLines {draft : Draft} (balanced : draft.Balanced) (lines : List String) :
    (draft.readLines lines).1.Balanced := by
  induction lines generalizing draft with
  | nil => exact balanced
  | cons line later ih =>
    have one := balanced.readLine line
    unfold Draft.readLines
    rcases found : draft.readLine line with ⟨read, _ | error⟩
    · rw [found] at one
      exact ih one
    · rw [found] at one
      exact one

/-- More lines are needed exactly inside of a comment or a bracket. -/
theorem isOpen_iff {draft : Draft} (balanced : draft.Balanced) :
    draft.isOpen = true ↔ draft.comment.isSome = true ∨ 0 < openBrackets draft.tokens.toList := by
  simp [isOpen, ← balanced.symm]

end Draft

end Formula
