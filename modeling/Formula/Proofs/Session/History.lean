import Formula.Proofs.Entries
import Formula.Proofs.Session.Memory

/-!
# What the answers of a session say about its bindings

A session tells of everything that it binds: an answer that reports an assignment has bound this
name to this value, and any other answer, an error among them, has bound nothing. So the bindings
can be told from the answers alone. Their names stand in the order in which they were first
assigned, and each name has the value that it was last assigned.
-/

namespace Formula

/-- The assignment that an outcome reports. -/
def Outcome.assignment? : Outcome → Option (String × Value)
  | .assigned name bound => some (name, bound)
  | .value _ => none

/-- The assignment that a reply reports. Errors report none, nor do replies without an outcome. -/
def Reply.assignment? : Reply → Option (String × Value)
  | .ran (.ok (some outcome)) => outcome.assignment?
  | .fed (.ok (.done outcome)) => outcome.assignment?
  | _ => none

/-- A response reports the same assignment as the run that it responds with. -/
theorem Reply.assignment?_respond (result : Except StatementError (Option Outcome)) :
    (fed (Memory.respond result)).assignment? = (ran result).assignment? := by
  rcases result with error | _ | outcome <;> rfl

namespace Bindings

/-- The bindings after an assignment, if there is one. -/
def assign (bindings : Bindings) : Option (String × Value) → Bindings
  | some (name, value) => bindings.set name value
  | none => bindings

/-- The names, in the order in which they were bound. -/
def names (bindings : Bindings) : List String := Entries.keys bindings.entries

/-- These bindings are what assignments have come to, one after another: each name stands where it
was assigned first, with the value that it was assigned last. -/
structure Recalls (bindings : Bindings) (assignments : List (String × Value)) : Prop where
  names : bindings.names = (assignments.map Prod.fst).eraseDups
  latest : ∀ name, bindings.get? name = assignments.reverse.lookup name

/-- Without assignments nothing is bound. -/
theorem recalls_empty : empty.Recalls [] := ⟨rfl, fun _ => rfl⟩

variable {bindings : Bindings} {assignments : List (String × Value)}

/-- What is contained in bindings is what they name. -/
theorem contains_iff (bindings : Bindings) (name : String) :
    bindings.contains name = true ↔ name ∈ bindings.names :=
  Entries.get?_isSome name bindings.entries

/-- A new name goes to the end, and a name that is bound already stays where it is. -/
theorem names_set (bindings : Bindings) (name : String) (value : Value) :
    (bindings.set name value).names =
      if name ∈ bindings.names then bindings.names else bindings.names ++ [name] :=
  Entries.keys_set name value bindings.entries

/-- Bindings recall assignments as entries recall settings. -/
theorem Recalls.entries (recalls : bindings.Recalls assignments) :
    Entries.Recalls bindings.entries assignments :=
  ⟨recalls.names, recalls.latest⟩

/-- One more assignment is recalled after the others, as one more setting of entries is. -/
theorem Recalls.set (recalls : bindings.Recalls assignments) (name : String) (value : Value) :
    (bindings.set name value).Recalls (assignments ++ [(name, value)]) :=
  ⟨(recalls.entries.set name value).keys, (recalls.entries.set name value).latest⟩

/-- There is one way to recall assignments, since entries that recall the same settings are the
same. -/
theorem Recalls.unique {other : Bindings} (recalls : bindings.Recalls assignments)
    (recalls' : other.Recalls assignments) : bindings = other := by
  have entries : bindings.entries = other.entries :=
    (Entries.recalls_iff.mp recalls.entries).trans (Entries.recalls_iff.mp recalls'.entries).symm
  obtain ⟨entries', _⟩ := bindings
  obtain ⟨_, _⟩ := other
  subst entries
  rfl

/-- An assignment that may be missing is recalled after the others. -/
theorem Recalls.assign (recalls : bindings.Recalls assignments)
    (assignment : Option (String × Value)) :
    (bindings.assign assignment).Recalls (assignments ++ assignment.toList) := by
  cases assignment with
  | none =>
    rw [Option.toList_none, List.append_nil]
    exact recalls
  | some assignment => exact recalls.set assignment.1 assignment.2

/-- An assignment takes no name away, and moves none. A name that is bound already stays where it
is, and another comes after all names. -/
theorem names_assign (bindings : Bindings) (assignment : Option (String × Value)) :
    bindings.names <+: (bindings.assign assignment).names := by
  cases assignment with
  | none => exact List.prefix_refl bindings.names
  | some assignment =>
    rw [assign, names_set]
    split
    · exact List.prefix_refl bindings.names
    · exact List.prefix_append bindings.names [assignment.1]

end Bindings

namespace Session

variable {session : Session}

/-- What tokens come to when they are run, by the statement that they are read as. Only an
assignment that is evaluated without an error binds something, and it is what is reported. -/
theorem execute_bindings (session : Session) (tokens : List Token) :
    (session.execute tokens).2.bindings =
      session.bindings.assign (Reply.ran (session.execute tokens).1).assignment? := by
  unfold execute
  split
  · rfl
  · split
    · rfl
    · next statement _ =>
      cases statement with
      | assignment name expr =>
        simp only [Statement.eval]
        cases expr.eval session.bindings <;> rfl
      | expression expr =>
        simp only [Statement.eval]
        cases expr.eval session.bindings <;> rfl

/-- The bindings after a text are those before it with the assignment that is reported. A text that
is no tokens assigns nothing. -/
theorem run_bindings (session : Session) (text : String) :
    (session.run text).2.bindings =
      session.bindings.assign (Reply.ran (session.run text).1).assignment? := by
  unfold run
  split
  · rfl
  · exact session.execute_bindings _

/-- So are the bindings after going on with what was read; only tokens that are complete assign
something. -/
theorem proceed_bindings (session : Session) (reading : Reading) :
    (session.proceed reading).2.bindings =
      session.bindings.assign (Reply.fed (session.proceed reading).1).assignment? := by
  cases reading with
  | unfinished draft => rfl
  | faulty error => rfl
  | complete tokens =>
    rw [proceed_complete, Reply.assignment?_respond]
    exact session.reset.execute_bindings tokens

/-- An answer binds what it reports, and nothing else. By cases on the request. -/
theorem answer_bindings (session : Session) (request : Request) :
    (session.answer request).2.bindings =
      session.bindings.assign (session.answer request).1.assignment? := by
  cases request with
  | run text => exact session.run_bindings text
  | feed line => exact session.proceed_bindings _
  | finish => exact session.proceed_bindings _
  | reset => rfl

/-- Bindings that were told from earlier answers can be told from all answers. By induction on the
requests, each of which adds the assignment that its answer reports. -/
theorem recalls_answers {assignments : List (String × Value)}
    (recalls : session.bindings.Recalls assignments) (requests : List Request) :
    (session.answers requests).2.bindings.Recalls
      (assignments ++ (session.answers requests).1.filterMap Reply.assignment?) := by
  induction requests generalizing session assignments with
  | nil =>
    rw [answers, List.filterMap_nil, List.append_nil]
    exact recalls
  | cons request later ih =>
    have after := recalls.assign (session.answer request).1.assignment?
    rw [← answer_bindings] at after
    have last := ih after
    rw [List.append_assoc] at last
    rw [answers]
    cases reported : (session.answer request).1.assignment? with
    | none => simpa [reported] using last
    | some assignment => simpa [reported] using last

/-- A statement that has failed is no longer pending. -/
theorem isPending_proceed {reading : Reading} {error : StatementError}
    (failed : (session.proceed reading).1 = .error error) :
    (session.proceed reading).2.isPending = false := by
  have ended : ∀ draft, reading ≠ .unfinished draft := by
    rintro draft rfl
    cases failed
  rw [isPending, (session.proceed_of_ended ended).2]
  rfl

/-- After an error of a line or of the end of the lines, nothing is pending. -/
theorem isPending_of_error {request : Request} {error : StatementError}
    (failed : (session.answer request).1 = .fed (.error error)) :
    (session.answer request).2.isPending = false := by
  cases request with
  | run text => cases failed
  | feed line => exact isPending_proceed (Reply.fed.inj failed)
  | finish => exact isPending_proceed (Reply.fed.inj failed)
  | reset => rfl

/-- Whatever a session has been asked for, its bindings are those that its answers have reported:
the names in the order of their first assignment, each with the value of its latest one. So an
answer without an assignment leaves the bindings as they were, and an assignment changes what is
bound to its own name and nothing else. No name is ever lost or moved, and no statement that has
failed is left pending.

All this is told from one answer at a time, which binds what it reports. -/
theorem answers_bindings (requests : List Request) (request : Request) :
    let before := (Session.empty.answers requests).2
    let reply := (before.answer request).1
    let after := (before.answer request).2
    let assignments := (Session.empty.answers requests).1.filterMap Reply.assignment?
    (∀ bindings : Bindings, bindings.Recalls assignments ↔ bindings = before.bindings) ∧
    (reply.assignment? = none → after.bindings = before.bindings) ∧
    (∀ name value, reply.assignment? = some (name, value) →
      after.bindings.get? name = some value ∧
      (∀ other, other ≠ name → after.bindings.get? other = before.bindings.get? other) ∧
      after.bindings.names =
        if name ∈ before.bindings.names then before.bindings.names
        else before.bindings.names ++ [name]) ∧
    (∀ name, before.bindings.contains name = true → after.bindings.contains name = true) ∧
    (∀ error, reply = .fed (.error error) → after.isPending = false) := by
  intro before reply after assignments
  have recalled : before.bindings.Recalls assignments := by
    have nothing : Session.empty.bindings.Recalls [] := Bindings.recalls_empty
    have told := recalls_answers nothing requests
    rwa [List.nil_append] at told
  have bound : after.bindings = before.bindings.assign reply.assignment? :=
    before.answer_bindings request
  refine ⟨?_, ?_, ?_, ?_, ?_⟩
  · intro bindings
    constructor
    · intro alike
      exact alike.unique recalled
    · rintro rfl
      exact recalled
  · intro nothing
    rw [bound, nothing]
    rfl
  · intro name value reported
    have set : after.bindings = before.bindings.set name value := by
      rw [bound, reported]
      rfl
    rw [set]
    refine ⟨?_, ?_, Bindings.names_set before.bindings name value⟩
    · rw [Bindings.get?_set, if_pos rfl]
    · intro other differs
      rw [Bindings.get?_set, if_neg differs]
  · intro name known
    rw [Bindings.contains_iff] at known ⊢
    rw [bound]
    exact (Bindings.names_assign before.bindings reply.assignment?).subset known
  · intro error failed
    exact isPending_of_error failed

/-- A list over two lines. Where its second line names what is not bound, nothing is bound; with a
number there, the list is. -/
theorem answers_bindings_two_lines :
    let session := (Session.empty.answers [.run "x = 1", .feed "y = [x,"]).2
    (session.answer (.feed "z]")).2.bindings = session.bindings ∧
    ∃ value, (session.answer (.feed "2]")).1.assignment? = some ("y", value) ∧
      (session.answer (.feed "2]")).2.bindings.get? "y" = some value := by
  intro session
  have fails : (session.answer (.feed "z]")).1.assignment? = none := by
    rw [← Option.isNone_iff_eq_none]
    decide +kernel
  have binds : ((session.answer (.feed "2]")).1.assignment?).map Prod.fst = some "y" := by
    decide +kernel
  obtain ⟨⟨name, value⟩, reported, rfl⟩ := Option.map_eq_some_iff.mp binds
  obtain ⟨-, unchanged, -⟩ := answers_bindings [.run "x = 1", .feed "y = [x,"] (.feed "z]")
  obtain ⟨-, -, changed, -⟩ := answers_bindings [.run "x = 1", .feed "y = [x,"] (.feed "2]")
  exact ⟨unchanged fails, value, reported, (changed _ value reported).1⟩

end Session

end Formula
