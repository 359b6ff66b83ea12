import Formula.Draft

/-!
# Where tokens are found

A token is found at the front of what is left of a line when the reading has come to it. The lines
before it make up the line number of its span, what stands before it on its own line makes up the
column, and as long as no fault is met, another piece begins right after it, unless the line ends
there. Whatever can be said of a token by looking at its line follows from how it was found.
-/

namespace Formula

/-- A token stands on one of some lines between two parts of it, as its span tells: lines are
counted from one, and so are columns, in bytes. -/
def Token.StandsOn (lines : List String) (token : Token) (before after : List Char) : Prop :=
  ∃ number line, lines[number]? = some line ∧
    line.toList = before ++ token.lexeme.toList ++ after ∧
    token.span = .within ⟨number + 1, byteLength before + 1⟩ (byteLength token.lexeme.toList)

/-- A token was read as the front of a line from where it stands on, and what follows it on the line
begins with a piece again, if there is anything. -/
structure Token.Found (lines : List String) (token : Token) (before after : List Char) : Prop where
  standsOn : token.StandsOn lines before after
  front : ∃ c later,
    Front.ofChars c later = .ok ⟨.token token.content, token.lexeme.toList, after⟩
  goesOn : ∀ c later, after = c :: later → ∃ front, Front.ofChars c later = .ok front

namespace Draft

variable {draft : Draft} {position : Position} {chars : List Char} {lines : List String}

/-- Each token of a draft was found on one of these lines. -/
def AllFound (lines : List String) (draft : Draft) : Prop :=
  ∀ token ∈ draft.tokens.toList, ∃ before after, token.Found lines before after

/-- What is read without a fault begins with a piece, unless nothing is left. -/
theorem exists_front (outside : draft.comment = none)
    (clean : (draft.readFrom position chars).2 = none) :
    ∀ c later, chars = c :: later → ∃ front, Front.ofChars c later = .ok front := by
  rintro c later rfl
  cases found : Front.ofChars c later with
  | ok front => exact ⟨front, rfl⟩
  | error fault =>
    rw [readFrom_of_error outside found] at clean
    cases clean

/-- Lines are only counted when they begin. By induction over the pieces that are read, none of
which changes the count. -/
theorem lines_readFrom (draft : Draft) (position : Position) (chars : List Char) :
    (draft.readFrom position chars).1.lines = draft.lines := by
  fun_induction readFrom draft position chars with
  | case1 => rfl
  | case2 draft position chars start inside skipped rest closed ih => exact ih
  | case3 => rfl
  | case4 => rfl
  | case5 draft position outside c later front found ih =>
    rw [ih]
    unfold Draft.add
    split <;> rfl

section Steps

variable {number : Nat} {line : String}

/-- The position after more characters of a line. -/
theorem advance_column (before more : List Char) :
    (⟨number + 1, byteLength before + 1⟩ : Position).advance (byteLength more) =
      ⟨number + 1, byteLength (before ++ more) + 1⟩ := by
  simp only [Position.advance, byteLength_append, Position.mk.injEq, true_and]
  omega

/-- Whatever is added from the rest of a line without a fault is found on the line. By induction
over the pieces that are read, with what is before them on the line growing by each. -/
theorem allFound_readFrom (known : lines[number]? = some line) {before : List Char}
    (here : position = ⟨number + 1, byteLength before + 1⟩) (split : line.toList = before ++ chars)
    (clean : (draft.readFrom position chars).2 = none) (allFound : draft.AllFound lines) :
    (draft.readFrom position chars).1.AllFound lines := by
  fun_induction readFrom draft position chars generalizing before with
  | case1 => exact allFound
  | case2 draft position chars start inside skipped rest closed ih =>
    have parts := (closeComment?_splits closed).2
    have moved : position.advance (byteLength skipped) =
        ⟨number + 1, byteLength (before ++ skipped) + 1⟩ := by
      rw [here, advance_column]
    refine ih moved ?_ clean allFound
    rw [split, ← parts, List.append_assoc]
  | case3 => exact allFound
  | case4 => cases clean
  | case5 draft position outside c later front found ih =>
    have parts := (Front.ofChars_splits found).2
    have moved : position.advance (byteLength front.lexeme) =
        ⟨number + 1, byteLength (before ++ front.lexeme) + 1⟩ := by
      rw [here, advance_column]
    refine ih moved ?_ clean ?_
    · rw [split, ← parts, List.append_assoc]
    · obtain ⟨piece, lexeme, rest⟩ := front
      cases piece with
      | blanks | remark | commentStart => exact allFound
      | token content =>
        intro token member
        rw [Draft.add, Array.toList_push] at member
        obtain earlier | isNew := List.mem_append.mp member
        · exact allFound token earlier
        · obtain rfl := List.mem_singleton.mp isNew
          have read : (String.ofList lexeme).toList = lexeme := String.toList_ofList
          refine ⟨before, rest, ⟨number, line, known, ?_, ?_⟩, ⟨c, later, ?_⟩, ?_⟩
          · rw [read, split, ← parts, List.append_assoc]
          · rw [read, here]
          · rw [read, found]
          · have outside' : (draft.add position ⟨.token content, lexeme, rest⟩).comment = none :=
              outside
            exact exists_front outside' clean

/-- The tokens of all lines that are read without a fault are found on these lines. By induction on
the lines still to be read. -/
theorem allFound_readLines {earlier later : List String} (counted : draft.lines = earlier.length)
    (clean : (draft.readLines later).2 = none) (allFound : draft.AllFound (earlier ++ later)) :
    (draft.readLines later).1.AllFound (earlier ++ later) := by
  induction later generalizing draft earlier with
  | nil => exact allFound
  | cons line later ih =>
    have known : (earlier ++ line :: later)[earlier.length]? = some line := by simp
    have place : (⟨draft.lines + 1, 1⟩ : Position) = ⟨earlier.length + 1, byteLength [] + 1⟩ := by
      rw [counted]
      rfl
    have moved : (draft.readLine line).1.lines = draft.lines + 1 := lines_readFrom _ _ _
    have first (clean : (draft.readLine line).2 = none) :
        (draft.readLine line).1.AllFound (earlier ++ line :: later) :=
      allFound_readFrom known place rfl clean allFound
    unfold readLines at clean ⊢
    rcases found : draft.readLine line with ⟨read, _ | error⟩ <;> rw [found] at clean first moved
    · have count : read.lines = (earlier ++ [line]).length := by
        rw [List.length_append, ← counted]
        exact moved
      rw [List.append_cons] at first ⊢
      exact ih count clean (first rfl)
    · cases clean

end Steps

/-- A draft without tokens has none that was not found. -/
theorem allFound_empty (lines : List String) : empty.AllFound lines := by
  intro token member
  cases member

/-- The tokens of finished lines are found on them, since all that the lines have added was
found. -/
theorem found_of_finish {tokens : List Token} (clean : (empty.readLines lines).2 = none)
    (finished : (empty.readLines lines).1.finish = .ok tokens) :
    ∀ token ∈ tokens, ∃ before after, token.Found lines before after := by
  have allFound : (empty.readLines lines).1.AllFound ([] ++ lines) :=
    allFound_readLines rfl clean (allFound_empty lines)
  unfold finish at finished
  split at finished
  · cases finished
  · obtain rfl := Except.ok.inj finished
    exact allFound

end Draft

/-- The tokens of a text are found on the lines of the text, which are read into an empty draft and
finished. -/
theorem Token.found_of_ofText {text : String} {tokens : List Token} (read : ofText text = .ok tokens) :
    ∀ token ∈ tokens, ∃ before after, token.Found (Lines.ofText text) before after := by
  unfold ofText at read
  rcases result : Draft.ofText text with ⟨draft, _ | error⟩ <;> rw [result] at read
  · rw [Draft.ofText] at result
    apply Draft.found_of_finish
    · rw [result]
    · rw [result]
      exact read
  · cases read

end Formula
