import Formula.Proofs.Grammar.Prefixes
import Formula.Proofs.Session.Memory

/-!
# Nothing complete is withheld

A session asks for more lines while a comment or a bracket is open. It never does so in vain: tokens
that open more brackets than they close are no statement, and inside a comment there are no tokens
at all. So the lines of a pending statement are an error if no other line follows, and lines that
make up a statement are evaluated with the last of them.

The lines are told from the requests and the answers to them. A fed line is one line, whatever is in
it; only if it has no line feed in it is it also one line of a text.
-/

namespace Formula

/-- An error that says why an open draft is no statement: it blames the comment that is open, or
else it is found by the grammar. -/
def StatementError.BlamesOpen (error : StatementError) (draft : Draft) : Prop :=
  match draft.comment with
  | some start => error = .lexical ⟨.unterminatedComment, start⟩
  | none => ∃ fault, error = .syntactic fault

/-- Tokens that open more brackets than they close are no statement, because a statement closes
every bracket that it opens. -/
theorem Grammar.ofTokens_of_open {tokens : List Token} (opened : 0 < openBrackets tokens) :
    ∃ error, Statement.ofTokens tokens = .error error := by
  cases read : Statement.ofTokens tokens with
  | error error => exact ⟨error, rfl⟩
  | ok statement =>
    have closed := openBrackets_of_derives (ofTokens_eq_ok_iff.mp read)
    rw [closed] at opened
    cases opened

namespace Session

variable {session : Session} {lines : List String}

section Lines

/-- The lines of the statement that has been begun, after one more request and its answer. -/
def linesAfter (lines : List String) : Request × Reply → List String
  | (.run _, _) => lines
  | (.feed line, .fed (.ok .incomplete)) => lines ++ [line]
  | _ => []

/-- The lines of the statement that has been begun: those fed since the last answer to a line, or to
the end of the lines, that did not ask for more. -/
def linesOf (requests : List Request) (replies : List Reply) : List String :=
  (requests.zip replies).foldl linesAfter []

/-- A line that leaves a statement pending is answered with the wish for more, because any other
answer comes with nothing pending. -/
theorem feed_of_isPending {line : String} (pending : (session.feed line).2.isPending = true) :
    (session.feed line).1 = .ok .incomplete := by
  rw [feed] at pending ⊢
  cases reading : session.readLine line with
  | unfinished draft => rfl
  | faulty error =>
    rw [reading] at pending
    cases pending
  | complete tokens =>
    have notOpen : ∀ draft, Reading.complete tokens ≠ .unfinished draft := by
      intro draft same
      cases same
    rw [reading, isPending, (session.proceed_of_ended notOpen).2] at pending
    cases pending

/-- The lines after a reading that has come to its end: there are none of a statement that would
have been begun. -/
theorem begun_of_ended (session : Session) {reading : Reading}
    (ended : ∀ draft, reading ≠ .unfinished draft) (request : Request)
    (notRun : ∀ text, request ≠ .run text) :
    (session.proceed reading).2.Begun
      (linesAfter lines (request, .fed (session.proceed reading).1)) := by
  obtain ⟨notWaiting, nothing⟩ := session.proceed_of_ended ended
  have none : linesAfter lines (request, .fed (session.proceed reading).1) = [] := by
    unfold linesAfter
    split
    · next text _ same => exact (notRun text (congrArg Prod.fst same)).elim
    · next line same => exact (notWaiting (Reply.fed.inj (congrArg Prod.snd same))).elim
    · rfl
  rw [none]
  exact begun_nil nothing

/-- One more request and its answer tell which lines have been begun. By cases on the request: a
line that is answered by asking for more is added to them, whatever has come to its end leaves none,
and a text that is run has nothing to do with them. -/
theorem Begun.answer (begun : session.Begun lines) (request : Request) :
    (session.answer request).2.Begun (linesAfter lines (request, (session.answer request).1)) := by
  cases request with
  | run text => exact ⟨begun.clean, begun.waiting, (session.run_draft text).trans begun.draft⟩
  | feed line =>
    simp only [Session.answer, feed]
    by_cases waits : ∃ draft, session.readLine line = .unfinished draft
    · obtain ⟨draft, unfinished⟩ := waits
      obtain ⟨read, isOpen⟩ := begun.readLine_unfinished unfinished
      have nonempty : lines ++ [line] ≠ [] := by simp
      have waiting : Begun { session with draft := some draft } (lines ++ [line]) := by
        refine ⟨?_, ?_, ?_⟩ <;> rw [read]
        · exact fun _ => isOpen
        · rw [if_neg nonempty]
      rw [unfinished]
      exact waiting
    · refine session.begun_of_ended (fun draft same => waits ⟨draft, same⟩) (.feed line) ?_
      intro text same
      cases same
  | finish =>
    refine session.begun_of_ended ?_ .finish ?_
    · intro draft
      unfold readEnd
      split
      · intro same
        cases same
      · exact Reading.ofDraft_ne_unfinished _ draft
    · intro text same
      cases same
  | reset => exact begun_nil rfl

/-- So do all requests and their answers, by induction on the requests. -/
theorem Begun.answers (begun : session.Begun lines) (requests : List Request) :
    (session.answers requests).2.Begun
      ((requests.zip (session.answers requests).1).foldl linesAfter lines) := by
  induction requests generalizing session lines with
  | nil => exact begun
  | cons request later ih => exact ih (begun.answer request)

/-- After any requests to a new session, the lines that have been begun are told from the requests
and their answers. -/
theorem begun_answers (requests : List Request) :
    (Session.empty.answers requests).2.Begun
      (linesOf requests (Session.empty.answers requests).1) :=
  (begun_nil rfl : Session.empty.Begun []).answers requests

end Lines

section Waiting

/-- Lines after which a comment or a bracket is open are an error by themselves, in any session. An
open comment is a lexical error at the end, and tokens with an open bracket are no statement. -/
theorem runLines_of_waiting (session : Session) (clean : (Draft.empty.readLines lines).2 = none)
    (isOpen : (Draft.empty.readLines lines).1.isOpen = true) :
    ∃ error : StatementError, error.BlamesOpen (Draft.empty.readLines lines).1 ∧
      session.runLines lines = (.error error, session) := by
  have balanced := Draft.balanced_empty.readLines lines
  rw [runLines, clean]
  generalize (Draft.empty.readLines lines).1 = draft at isOpen balanced
  cases inside : draft.comment with
  | some start =>
    refine ⟨.lexical ⟨.unterminatedComment, start⟩, ?_, ?_⟩
    · simp only [StatementError.BlamesOpen, inside]
    · simp only [Draft.finish, inside]
  | none =>
    have opened : 0 < openBrackets draft.tokens.toList := by
      simpa [inside] using (Draft.isOpen_iff balanced).mp isOpen
    have notEmpty : draft.tokens.toList.isEmpty = false := by
      cases begins : draft.tokens.toList with
      | nil => simp [begins] at opened
      | cons token rest => rfl
    obtain ⟨fault, rejected⟩ := Grammar.ofTokens_of_open opened
    refine ⟨.syntactic fault, ?_, ?_⟩
    · simp only [StatementError.BlamesOpen, inside]
      exact ⟨fault, rfl⟩
    · simp [Draft.finish, inside, execute, notEmpty, rejected]

/-- The lines of a pending statement are an error, and the end of the lines finds it. Something is
open in them, which is an error by itself. -/
theorem Begun.finish_of_pending (begun : session.Begun lines) (pending : session.isPending = true) :
    ∃ (draft : Draft) (error : StatementError), session.draft = some draft ∧
      error.BlamesOpen draft ∧ session.finish = (.error error, session.reset) := by
  have nonempty := begun.isPending_iff.mp pending
  have held := begun.draft
  rw [if_neg nonempty] at held
  obtain ⟨error, blames, failed⟩ :=
    session.reset.runLines_of_waiting begun.clean (begun.waiting nonempty)
  refine ⟨_, error, held, blames, ?_⟩
  rw [Session.finish, proceed_eq session, failed]
  · rfl
  · rw [readEnd, held, begun.clean]

/-- Nor do the lines make up a statement if one more line does not complete it. Something is open
after that line as well. -/
theorem Begun.runLines_of_incomplete (begun : session.Begun lines) {line : String}
    (incomplete : (session.feed line).1 = .ok .incomplete) (other : Session) :
    ∃ error, other.runLines (lines ++ [line]) = (.error error, other) := by
  by_cases waits : ∃ draft, session.readLine line = .unfinished draft
  · obtain ⟨draft, unfinished⟩ := waits
    obtain ⟨read, isOpen⟩ := begun.readLine_unfinished unfinished
    have waiting : (Draft.empty.readLines (lines ++ [line])).1.isOpen = true := by
      rw [read]
      exact isOpen
    obtain ⟨error, -, failed⟩ := other.runLines_of_waiting (congrArg Prod.snd read) waiting
    exact ⟨error, failed⟩
  · have ended := session.proceed_of_ended fun draft same => waits ⟨draft, same⟩
    exact (ended.1 incomplete).elim

/-- Lines that make up a statement are complete with the last of them. They close every bracket, and
with the end of a comment missing there would have been no tokens; so nothing is open after the last
line. -/
theorem Begun.readLine_of_statement (begun : session.Begun lines) {line : String}
    {tokens : List Token} {statement : Statement}
    (clean : (Draft.empty.readLines (lines ++ [line])).2 = none)
    (finished : (Draft.empty.readLines (lines ++ [line])).1.finish = .ok tokens)
    (accepted : Statement.ofTokens tokens = .ok statement) :
    session.readLine line = .complete tokens := by
  have balanced := Draft.balanced_empty.readLines (lines ++ [line])
  have closed := Grammar.openBrackets_of_derives (Grammar.ofTokens_eq_ok_iff.mp accepted)
  rw [begun.readLine_eq]
  rcases found : Draft.empty.readLines (lines ++ [line]) with ⟨draft, _ | error⟩ <;>
    rw [found] at clean finished balanced
  · cases inside : draft.comment with
    | some start => simp [Draft.finish, inside] at finished
    | none =>
      obtain rfl : draft.tokens.toList = tokens := by simpa [Draft.finish, inside] using finished
      have notOpen : ¬draft.isOpen = true := by
        rw [Draft.isOpen_iff balanced, inside, closed]
        simp
      simp only [if_neg notOpen, Reading.ofDraft, finished]
  · cases clean

/-- So the last of them evaluates the statement, and what it comes to is the response. -/
theorem Begun.feed_of_statement (begun : session.Begun lines) {line : String}
    {tokens : List Token} {statement : Statement}
    (clean : (Draft.empty.readLines (lines ++ [line])).2 = none)
    (finished : (Draft.empty.readLines (lines ++ [line])).1.finish = .ok tokens)
    (accepted : Statement.ofTokens tokens = .ok statement) :
    session.feed line = match statement.eval session.bindings with
      | .ok (outcome, bindings) => (.ok (.done outcome), ⟨bindings, none⟩)
      | .error error => (.error (.evaluation error), session.reset) := by
  have notEmpty : tokens.isEmpty = false := by
    cases tokens with
    | nil => cases accepted
    | cons token rest => rfl
  rw [feed, begun.readLine_of_statement clean finished accepted]
  simp only [proceed, execute, notEmpty, accepted, reset]
  rcases statement.eval session.bindings with error | ⟨outcome, bindings⟩ <;> rfl

end Waiting

/-- Nothing complete is withheld. Whatever a session has been asked for, a statement that is pending
is an error if its lines end here, the one that the open comment or the grammar tells, and then
nothing has been bound and nothing is pending. Lines that a session answers with the wish for more
are an error wherever they are run, as lines and, if they are lines of a text, as that text. And
lines that make up a statement are evaluated with the last of them.

What the session holds is the draft of the lines that have been begun, and more is asked for exactly
while a comment or a bracket is open in it; a statement leaves neither open. -/
theorem feed_withholds_nothing (requests : List Request) (line : String) :
    let session := (Session.empty.answers requests).2
    let lines := linesOf requests (Session.empty.answers requests).1 ++ [line]
    (session.isPending = true →
      ∃ (draft : Draft) (error : StatementError), session.draft = some draft ∧
        error.BlamesOpen draft ∧ session.finish = (.error error, session.reset)) ∧
    ((session.feed line).1 = .ok .incomplete → ∀ other : Session,
      (∃ error, other.runLines lines = (.error error, other)) ∧
      ((∀ part ∈ lines, '\n' ∉ part.toList) →
        ∃ error, other.run ("\n".intercalate lines) = (.error error, other))) ∧
    (∀ tokens statement, (Draft.empty.readLines lines).2 = none →
      (Draft.empty.readLines lines).1.finish = .ok tokens →
      Statement.ofTokens tokens = .ok statement →
      session.feed line = match statement.eval session.bindings with
        | .ok (outcome, bindings) => (.ok (.done outcome), ⟨bindings, none⟩)
        | .error error => (.error (.evaluation error), session.reset)) := by
  intro session lines
  have begun := begun_answers requests
  refine ⟨begun.finish_of_pending, ?_, fun tokens statement => begun.feed_of_statement⟩
  intro incomplete other
  have failed := begun.runLines_of_incomplete incomplete other
  refine ⟨failed, fun noFeed => ?_⟩
  rw [run_joined other (by simp [lines]) noFeed]
  exact failed

/-- A list whose second line may be missing, leave a parenthesis open, or complete it. -/
theorem feed_withholds_nothing_list :
    let session := (Session.empty.answers [.feed "[1,"]).2
    (∃ error, session.finish = (.error error, session.reset)) ∧
    (∃ error, session.run "[1,\n(2" = (.error error, session)) ∧
    ∃ statement : Statement, session.feed "2]" = match statement.eval session.bindings with
      | .ok (outcome, bindings) => (.ok (.done outcome), ⟨bindings, none⟩)
      | .error error => (.error (.evaluation error), session.reset) := by
  intro session
  have pending : session.isPending = true := by decide +kernel
  have lines : linesOf [.feed "[1,"] (Session.empty.answers [.feed "[1,"]).1 = ["[1,"] := by
    have reply : (Session.empty.answers [.feed "[1,"]).1 = [.fed (.ok .incomplete)] := by
      have waits : (Session.empty.feed "[1,").2.isPending = true := by decide +kernel
      have incomplete := feed_of_isPending waits
      simp only [answers, Session.answer, incomplete]
    rw [reply]
    rfl
  refine ⟨?_, ?_, ?_⟩
  · obtain ⟨_, error, _, _, failed⟩ := (feed_withholds_nothing [.feed "[1,"] "2]").1 pending
    exact ⟨error, failed⟩
  · have waits : (session.feed "(2").2.isPending = true := by decide +kernel
    have incomplete := feed_of_isPending waits
    obtain ⟨-, failed⟩ := (feed_withholds_nothing [.feed "[1,"] "(2").2.1 incomplete session
    rw [lines] at failed
    exact failed (by decide)
  · have accepted : ∃ tokens statement, (Draft.empty.readLines ["[1,", "2]"]).2 = none ∧
        (Draft.empty.readLines ["[1,", "2]"]).1.finish = .ok tokens ∧
        Statement.ofTokens tokens = .ok statement := by
      have clean : (Draft.empty.readLines ["[1,", "2]"]).2.isNone = true := by decide +kernel
      have read : ((Draft.empty.readLines ["[1,", "2]"]).1.finish.toOption.bind fun tokens =>
          (Statement.ofTokens tokens).toOption).isSome = true := by
        decide +kernel
      cases finished : (Draft.empty.readLines ["[1,", "2]"]).1.finish with
      | error fault =>
        rw [finished] at read
        cases read
      | ok tokens =>
        rw [finished] at read
        cases accepted : Statement.ofTokens tokens with
        | error fault =>
          simp [accepted, Except.toOption] at read
        | ok statement =>
          exact ⟨tokens, statement, Option.isNone_iff_eq_none.mp clean, rfl, accepted⟩
    obtain ⟨tokens, statement, clean, finished, accepted⟩ := accepted
    have evaluated := (feed_withholds_nothing [.feed "[1,"] "2]").2.2 tokens statement
    rw [lines] at evaluated
    exact ⟨statement, evaluated clean finished accepted⟩

/-- A fed line that has a line feed in it is more than one line of a text: the remark in it ends
with the line that was fed, but before the second line of the text. So the text can be a statement
although the line is none. -/
theorem run_of_incomplete_with_feed :
    (Session.empty.feed "(1 // one\n)").1 = .ok .incomplete ∧
      ∃ outcome, (Session.empty.run "(1 // one\n)").1 = .ok (some outcome) := by
  refine ⟨feed_of_isPending (by decide +kernel), ?_⟩
  have evaluated : (Session.empty.run "(1 // one\n)").1.toOption.join.isSome = true := by
    decide +kernel
  rcases found : (Session.empty.run "(1 // one\n)").1 with error | _ | outcome
  · rw [found] at evaluated
    cases evaluated
  · rw [found] at evaluated
    cases evaluated
  · exact ⟨outcome, rfl⟩

end Session

end Formula
