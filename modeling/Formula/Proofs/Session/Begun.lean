import Formula.Session

/-!
# The lines of a statement that has been begun

The draft of a session is what the lines fed so far come to when they are read from the start. As
long as there are such lines, a comment or a bracket is open after them, so one more line is read
as if all of them had been read at once.

A fed line is one line, whatever is in it. Only if it has no line feed in it is it also one line of
a text, so running lines and running the text that they make up are two things.
-/

namespace Formula

namespace Draft

/-- A line after other lines is read where these left off, if none of them had a fault. By induction
on the lines. -/
theorem readLines_append {draft : Draft} {lines : List String}
    (clean : (draft.readLines lines).2 = none) (line : String) :
    draft.readLines (lines ++ [line]) = (draft.readLines lines).1.readLine line := by
  induction lines generalizing draft with
  | nil =>
    simp only [List.nil_append, readLines]
    rcases draft.readLine line with ⟨read, _ | error⟩ <;> rfl
  | cons first later ih =>
    rcases found : draft.readLine first with ⟨read, _ | error⟩ <;>
      simp only [List.cons_append, readLines, found] at clean ⊢
    · exact ih clean
    · cases clean

end Draft

/-- A draft to which no line will be added has come to its end. -/
theorem Reading.ofDraft_ne_unfinished (draft other : Draft) :
    ofDraft draft ≠ .unfinished other := by
  unfold ofDraft
  split <;> intro same <;> cases same

namespace Session

/-- Read these lines from the start, each as one line, and run them as one statement. -/
def runLines (session : Session) (lines : List String) :
    Except StatementError (Option Outcome) × Session :=
  match (Draft.empty.readLines lines).2, (Draft.empty.readLines lines).1.finish with
  | some error, _ => (.error (.lexical error), session)
  | none, .error error => (.error (.lexical error), session)
  | none, .ok tokens => session.execute tokens

/-- A session has begun a statement with these lines: it holds their draft, and needs more lines. If
there are none, it has not begun a statement. -/
structure Begun (session : Session) (lines : List String) : Prop where
  clean : (Draft.empty.readLines lines).2 = none
  waiting : lines ≠ [] → (Draft.empty.readLines lines).1.isOpen = true
  draft : session.draft = if lines = [] then none else some (Draft.empty.readLines lines).1

variable {session : Session} {lines : List String}

/-- Where no draft is held, no lines have been begun. -/
theorem begun_nil (nothing : session.draft = none) : session.Begun [] :=
  ⟨rfl, fun nonempty => absurd rfl nonempty, nothing⟩

/-- The draft that a line is added to is the one that the lines have made; where there are none, it
is the empty draft. -/
theorem Begun.draft_eq (begun : session.Begun lines) :
    session.draft.getD .empty = (Draft.empty.readLines lines).1 := by
  rw [begun.draft]
  by_cases nothing : lines = []
  · rw [if_pos nothing, nothing]
    rfl
  · rw [if_neg nothing]
    rfl

/-- How far the lines have come with one more, told from all of them at once. -/
theorem Begun.readLine_eq (begun : session.Begun lines) (line : String) :
    session.readLine line =
      match Draft.empty.readLines (lines ++ [line]) with
      | (_, some error) => .faulty error
      | (draft, none) => if draft.isOpen then .unfinished draft else .ofDraft draft := by
  have read : (session.draft.getD .empty).readLine line =
      Draft.empty.readLines (lines ++ [line]) := by
    rw [begun.draft_eq, Draft.readLines_append begun.clean line]
  rcases found : Draft.empty.readLines (lines ++ [line]) with ⟨draft, _ | error⟩ <;>
    rw [found] at read <;> simp only [readLine, read]

/-- If the statement goes on after one more line, it goes on with the draft of all lines, in which
something is open. -/
theorem Begun.readLine_unfinished (begun : session.Begun lines) {line : String} {draft : Draft}
    (unfinished : session.readLine line = .unfinished draft) :
    Draft.empty.readLines (lines ++ [line]) = (draft, none) ∧ draft.isOpen = true := by
  rw [begun.readLine_eq] at unfinished
  rcases found : Draft.empty.readLines (lines ++ [line]) with ⟨read, _ | error⟩ <;>
    simp only [found] at unfinished
  · split at unfinished
    · next isOpen =>
      obtain rfl := Reading.unfinished.inj unfinished
      exact ⟨rfl, isOpen⟩
    · exact (Reading.ofDraft_ne_unfinished read draft unfinished).elim
  · cases unfinished

/-- A statement is pending exactly if there are lines of it, since a draft is held only for them. -/
theorem Begun.isPending_iff (begun : session.Begun lines) :
    session.isPending = true ↔ lines ≠ [] := by
  rw [isPending, begun.draft]
  split <;> simp [*]

end Session

end Formula
