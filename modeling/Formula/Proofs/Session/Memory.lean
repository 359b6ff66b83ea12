import Formula.Proofs.Session.Begun
import Formula.Proofs.Session.Joined
import Formula.Proofs.Token.Brackets

/-!
# All that a session remembers

Between two requests a session holds tokens, counts and an open comment. It might as well hold the
lines of the statement that has been begun, and nothing else but the bindings. This module states
what such a session does, with every text and every list of lines read from the start and at once,
and shows that no sequence of requests tells the two apart.

A feed inside a fed line is not allowed for. Such a line would be two lines to the second session
and one to the first.
-/

namespace Formula

/-- What a session can be asked for. -/
inductive Request where
  | run (text : String)
  | feed (line : String)
  | finish
  | reset

/-- What a session answers. -/
inductive Reply where
  | ran (result : Except StatementError (Option Outcome))
  | fed (result : Except StatementError Response)
  | silent

namespace Session

/-- The answer to one request, and the session after it. -/
def answer (session : Session) : Request → Reply × Session
  | .run text => (.ran (session.run text).1, (session.run text).2)
  | .feed line => (.fed (session.feed line).1, (session.feed line).2)
  | .finish => (.fed session.finish.1, session.finish.2)
  | .reset => (.silent, session.reset)

/-- The answers to several requests, one after another. -/
def answers (session : Session) : List Request → List Reply × Session
  | [] => ([], session)
  | request :: later =>
    let (reply, after) := session.answer request
    let (replies, last) := after.answers later
    (reply :: replies, last)

end Session

/-- Bindings, and the lines of a statement that has been begun. -/
structure Memory where
  bindings : Bindings
  lines : List String

namespace Memory

/-- Nothing bound and nothing begun. -/
def empty : Memory := ⟨.empty, []⟩

/-- Read afresh, the lines are without fault and end inside a comment, or inside brackets. -/
def Incomplete (lines : List String) : Prop :=
  (Draft.empty.readLines lines).2 = none ∧
    ((Draft.empty.readLines lines).1.comment.isSome = true ∨
      0 < openBrackets (Draft.empty.readLines lines).1.tokens.toList)

/-- Reading the lines and counting their brackets decides it. -/
instance (lines : List String) : Decidable (Incomplete lines) :=
  inferInstanceAs (Decidable (_ ∧ _))

/-- Such lines need more lines after them. -/
theorem incomplete_iff (lines : List String) : Incomplete lines ↔
    (Draft.empty.readLines lines).2 = none ∧ (Draft.empty.readLines lines).1.isOpen = true :=
  and_congr_right fun _ => (Draft.isOpen_iff (Draft.balanced_empty.readLines lines)).symm

/-- The result of a text, as the response to its last line. -/
def respond : Except StatementError (Option Outcome) → Except StatementError Response
  | .error error => .error error
  | .ok none => .ok .empty
  | .ok (some outcome) => .ok (.done outcome)

/-- What has been run is not answered by asking for more. -/
theorem respond_ne_incomplete (result : Except StatementError (Option Outcome)) :
    respond result ≠ .ok .incomplete := by
  rcases result with error | _ | outcome <;> intro waits <;> cases waits

/-- Run a text on the bindings alone. -/
def run (memory : Memory) (text : String) : Except StatementError (Option Outcome) × Bindings :=
  let (result, after) := (Session.mk memory.bindings none).run text
  (result, after.bindings)

/-- Run lines as one text. No lines are left. -/
def complete (memory : Memory) (lines : List String) : Reply × Memory :=
  let (result, bindings) := memory.run ("\n".intercalate lines)
  (.fed (respond result), ⟨bindings, []⟩)

/-- The answer to one request, and what is remembered after it. -/
def answer (memory : Memory) : Request → Reply × Memory
  | .run text =>
    let (result, bindings) := memory.run text
    (.ran result, { memory with bindings })
  | .feed line =>
    let lines := memory.lines ++ [line]
    if Incomplete lines then (.fed (.ok .incomplete), { memory with lines })
    else memory.complete lines
  | .finish =>
    if memory.lines = [] then (.fed (.ok .empty), memory) else memory.complete memory.lines
  | .reset => (.silent, { memory with lines := [] })

/-- The answers to several requests, one after another. -/
def answers (memory : Memory) : List Request → List Reply × Memory
  | [] => ([], memory)
  | request :: later =>
    let (reply, after) := memory.answer request
    let (replies, last) := after.answers later
    (reply :: replies, last)

end Memory

/-- A session that holds what is remembered: its draft is that of the lines. -/
structure Session.Holds (session : Session) (memory : Memory) : Prop
    extends session.Begun memory.lines where
  bindings : session.bindings = memory.bindings
  noFeed : ∀ line ∈ memory.lines, '\n' ∉ line.toList

namespace Session

variable {session : Session} {memory : Memory}

/-- The draft is neither read nor changed when tokens are run, so a session without one does the
same. -/
theorem execute_eq (bindings : Bindings) (draft : Option Draft) (tokens : List Token) :
    (Session.mk bindings draft).execute tokens =
      (((Session.mk bindings none).execute tokens).1,
        ⟨((Session.mk bindings none).execute tokens).2.bindings, draft⟩) := by
  unfold execute
  split
  · rfl
  · split
    · rfl
    · simp only
      split <;> rfl

/-- Nor is the draft read or changed when a text is run. -/
theorem run_eq (bindings : Bindings) (draft : Option Draft) (text : String) :
    (Session.mk bindings draft).run text =
      (((Session.mk bindings none).run text).1,
        ⟨((Session.mk bindings none).run text).2.bindings, draft⟩) := by
  unfold run
  split
  · rfl
  · exact execute_eq bindings draft _

/-- So the draft is the same after running tokens. -/
theorem execute_draft (session : Session) (tokens : List Token) :
    (session.execute tokens).2.draft = session.draft := by
  rw [show session.execute tokens = _ from execute_eq session.bindings session.draft tokens]

/-- So the draft is the same after running a text. -/
theorem run_draft (session : Session) (text : String) :
    (session.run text).2.draft = session.draft := by
  rw [show session.run text = _ from run_eq session.bindings session.draft text]

/-- A text that some lines make up is run like these lines, since it is read like them. -/
theorem run_joined (session : Session) {lines : List String} (nonempty : lines ≠ [])
    (noFeed : ∀ line ∈ lines, '\n' ∉ line.toList) :
    session.run ("\n".intercalate lines) = session.runLines lines := by
  obtain ⟨sameError, sameFinish⟩ := Draft.readLines_joined .empty nonempty noFeed
  rw [runLines, ← sameError, ← sameFinish, run, Token.ofText, Draft.ofText]
  rcases Draft.empty.readLines (Lines.ofText ("\n".intercalate lines)) with ⟨draft, _ | error⟩
  · simp only
    cases draft.finish <;> rfl
  · rfl

/-- Tokens that are complete are run, and what they come to is the response. -/
theorem proceed_complete (session : Session) (tokens : List Token) :
    session.proceed (.complete tokens) =
      (Memory.respond (session.reset.execute tokens).1, (session.reset.execute tokens).2) := by
  rw [proceed]
  rcases session.reset.execute tokens with ⟨error | _ | outcome, after⟩ <;> rfl

/-- Whatever has been read to its end is no longer held, and no more lines are asked for. A fault is
reported at once, and complete tokens are run. -/
theorem proceed_of_ended (session : Session) {reading : Reading}
    (ended : ∀ draft, reading ≠ .unfinished draft) :
    (session.proceed reading).1 ≠ .ok .incomplete ∧ (session.proceed reading).2.draft = none := by
  cases reading with
  | unfinished draft => exact (ended draft rfl).elim
  | faulty error =>
    refine ⟨?_, rfl⟩
    intro waits
    cases waits
  | complete tokens =>
    rw [proceed_complete]
    exact ⟨Memory.respond_ne_incomplete _, session.reset.execute_draft tokens⟩

/-- What a session goes on to is what the lines it has read come to, when they are run as lines. The
fault in them, if there is one, is the same either way. -/
theorem proceed_eq (session : Session) {lines : List String} {reading : Reading}
    (read : reading = match (Draft.empty.readLines lines).2 with
      | some error => .faulty error
      | none => .ofDraft (Draft.empty.readLines lines).1) :
    session.proceed reading =
      (Memory.respond (session.reset.runLines lines).1, (session.reset.runLines lines).2) := by
  rw [runLines, read]
  rcases Draft.empty.readLines lines with ⟨draft, _ | error⟩
  · simp only [Reading.ofDraft]
    cases draft.finish with
    | error error => rfl
    | ok tokens => exact session.proceed_complete tokens
  · rfl

/-- A new session holds nothing. -/
theorem holds_empty : Session.empty.Holds .empty := ⟨begun_nil rfl, rfl, by simp [Memory.empty]⟩

/-- Once the lines have run, both hold nothing but the bindings. -/
theorem holds_complete (bindings : Bindings) (text : String) :
    ((Session.mk bindings none).run text).2.Holds
      ⟨((Session.mk bindings none).run text).2.bindings, []⟩ := by
  refine ⟨begun_nil ?_, rfl, by simp⟩
  rw [run_eq]

/-- Nor does either hold more once the lines have run. -/
theorem Holds.complete (holds : session.Holds memory) {lines : List String} (nonempty : lines ≠ [])
    (noFeed : ∀ line ∈ lines, '\n' ∉ line.toList) {reading : Reading}
    (read : reading = match (Draft.empty.readLines lines).2 with
      | some error => .faulty error
      | none => .ofDraft (Draft.empty.readLines lines).1) :
    .fed (session.proceed reading).1 = (memory.complete lines).1 ∧
      (session.proceed reading).2.Holds (memory.complete lines).2 := by
  rw [proceed_eq session read, ← run_joined session.reset nonempty noFeed, reset, holds.bindings]
  exact ⟨rfl, holds_complete memory.bindings _⟩

/-- How far the lines have come with one more, in the words of what is remembered. Whether they go
on is whether a comment or a bracket is open after all of them. -/
theorem Holds.readLine_eq (holds : session.Holds memory) (line : String) :
    session.readLine line =
      if Memory.Incomplete (memory.lines ++ [line]) then
        .unfinished (Draft.empty.readLines (memory.lines ++ [line])).1
      else match (Draft.empty.readLines (memory.lines ++ [line])).2 with
        | some error => .faulty error
        | none => .ofDraft (Draft.empty.readLines (memory.lines ++ [line])).1 := by
  rw [holds.toBegun.readLine_eq]
  simp only [Memory.incomplete_iff]
  rcases Draft.empty.readLines (memory.lines ++ [line]) with ⟨draft, _ | error⟩
  · by_cases isOpen : draft.isOpen = true <;> simp [isOpen]
  · simp

/-- A session and its memory answer one more line alike, and remain alike. If the lines are still
incomplete, both hold one line more; otherwise both run all the lines at once. -/
theorem Holds.feed (holds : session.Holds memory) {line : String} (noFeed : '\n' ∉ line.toList) :
    (session.answer (.feed line)).1 = (memory.answer (.feed line)).1 ∧
      (session.answer (.feed line)).2.Holds (memory.answer (.feed line)).2 := by
  have nonempty : memory.lines ++ [line] ≠ [] := by simp
  have free : ∀ other ∈ memory.lines ++ [line], '\n' ∉ other.toList := by
    intro other member
    cases List.mem_append.mp member with
    | inl earlier => exact holds.noFeed other earlier
    | inr last =>
      rw [List.mem_singleton.mp last]
      exact noFeed
  simp only [answer, Session.feed, holds.readLine_eq, Memory.answer]
  by_cases incomplete : Memory.Incomplete (memory.lines ++ [line])
  · rw [if_pos incomplete, if_pos incomplete]
    have waiting := (Memory.incomplete_iff _).mp incomplete
    exact ⟨rfl, ⟨waiting.1, fun _ => waiting.2, by rw [if_neg nonempty]; rfl⟩, holds.bindings, free⟩
  · rw [if_neg incomplete, if_neg incomplete]
    exact holds.complete nonempty free rfl

/-- They do so at the end of the lines, where nothing is left to wait for. Without any lines there
is nothing to run. -/
theorem Holds.finish (holds : session.Holds memory) :
    (session.answer .finish).1 = (memory.answer .finish).1 ∧
      (session.answer .finish).2.Holds (memory.answer .finish).2 := by
  simp only [answer, Session.finish, readEnd, Memory.answer, holds.draft]
  by_cases nothing : memory.lines = []
  · rw [if_pos nothing, if_pos nothing]
    have begun : session.reset.Begun memory.lines := nothing ▸ begun_nil rfl
    exact ⟨rfl, begun, holds.bindings, holds.noFeed⟩
  · rw [if_neg nothing, if_neg nothing]
    exact holds.complete nothing holds.noFeed (by rw [holds.clean])

/-- They do so when a text is run in between, which has nothing to do with the lines. -/
theorem Holds.run (holds : session.Holds memory) (text : String) :
    (session.answer (.run text)).1 = (memory.answer (.run text)).1 ∧
      (session.answer (.run text)).2.Holds (memory.answer (.run text)).2 := by
  have same : session.run text = _ := run_eq session.bindings session.draft text
  constructor
  · simp only [answer, Memory.answer, Memory.run, ← holds.bindings, same]
  · simp only [answer, Memory.answer, Memory.run, ← holds.bindings, same]
    exact ⟨⟨holds.clean, holds.waiting, holds.draft⟩, rfl, holds.noFeed⟩

/-- They do so when the lines are given up. -/
theorem Holds.reset (holds : session.Holds memory) :
    (session.answer .reset).1 = (memory.answer .reset).1 ∧
      (session.answer .reset).2.Holds (memory.answer .reset).2 := by
  refine ⟨rfl, begun_nil rfl, holds.bindings, ?_⟩
  simp [Memory.answer]

/-- No request tells what a session holds from what is remembered. -/
theorem Holds.answer (holds : session.Holds memory) (request : Request)
    (noFeed : ∀ line, request = .feed line → '\n' ∉ line.toList) :
    (session.answer request).1 = (memory.answer request).1 ∧
      (session.answer request).2.Holds (memory.answer request).2 := by
  cases request with
  | run text => exact holds.run text
  | feed line => exact holds.feed (noFeed line rfl)
  | finish => exact holds.finish
  | reset => exact holds.reset

/-- Nor does any sequence of requests. By induction on the requests, with what is held as the
invariant. -/
theorem Holds.answers (holds : session.Holds memory) (requests : List Request)
    (noFeed : ∀ line, .feed line ∈ requests → '\n' ∉ line.toList) :
    (session.answers requests).1 = (memory.answers requests).1 ∧
      (session.answers requests).2.Holds (memory.answers requests).2 := by
  induction requests generalizing session memory with
  | nil => exact ⟨rfl, holds⟩
  | cons request later ih =>
    obtain ⟨same, after⟩ := holds.answer request fun line isFeed =>
      noFeed line (isFeed ▸ List.mem_cons_self ..)
    obtain ⟨same', last⟩ := ih after fun line member => noFeed line (List.mem_cons_of_mem _ member)
    refine ⟨?_, last⟩
    simp only [Session.answers, Memory.answers, same, same']

/-- A session is as good as one that holds nothing but its bindings and the lines fed since the last
statement ended: whatever it is asked for, one thing after another, it gives the same answers, binds
the same names to the same values, and says that it waits for lines exactly if there are some.

By induction on the requests; at each of them, reading one line after the draft of the earlier lines
is reading all of these lines anew. -/
theorem answers_eq (requests : List Request)
    (noFeed : ∀ line, .feed line ∈ requests → '\n' ∉ line.toList) :
    (Session.empty.answers requests).1 = (Memory.empty.answers requests).1 ∧
      (Session.empty.answers requests).2.bindings = (Memory.empty.answers requests).2.bindings ∧
      ((Session.empty.answers requests).2.isPending = true ↔
        (Memory.empty.answers requests).2.lines ≠ []) := by
  obtain ⟨same, last⟩ := holds_empty.answers requests noFeed
  exact ⟨same, last.bindings, last.isPending_iff⟩

/-- A list over two lines, with another text run before it is complete. Its bracket is open after the
first line and closed after the second, so the first feed is answered by asking for more. -/
theorem answers_eq_two_lines :
    let requests := [Request.feed "[1,", .run "2", .feed "3]\r", .finish]
    (Session.empty.answers requests).1 = (Memory.empty.answers requests).1 ∧
      (Session.empty.answers requests).1.head? = some (.fed (.ok .incomplete)) ∧
      Memory.Incomplete ["[1,"] ∧ ¬Memory.Incomplete ["[1,", "3]\r"] := by
  intro requests
  have same : (Session.empty.answers requests).1 = (Memory.empty.answers requests).1 := by
    refine (answers_eq requests ?_).1
    intro line isFeed
    have known : line = "[1," ∨ line = "3]\r" := by simpa [requests] using isFeed
    rcases known with rfl | rfl <;> decide
  have opened : Memory.Incomplete ["[1,"] := by decide +kernel
  have first : (Memory.empty.answer (.feed "[1,")).1 = .fed (.ok .incomplete) :=
    congrArg Prod.fst (if_pos opened)
  refine ⟨same, ?_, opened, by decide +kernel⟩
  rw [same]
  exact congrArg some first

end Session

end Formula
