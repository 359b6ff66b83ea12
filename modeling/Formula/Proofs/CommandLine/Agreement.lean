import Formula.CommandLine.Dialogue
import Formula.CommandLine.Script
import Formula.Proofs.Session.Pending
import Formula.Proofs.Session.Values

/-!
# Scripts and dialogues agree

The same lines can be run as a script and told in a dialogue. Up to the first line that the script
reports an error on, both have the same session before every line, so they show the same for it.

They part there and at the end: a dialogue answers an error and goes on, and only a script runs what
is still pending when the lines end. A pending statement is an error at the end, so this shows
nothing. A script that goes well shows what the dialogue answers then, and no answer is an error.
-/

namespace Formula

namespace Session

/-- The session after lines that were fed one by one, whatever was answered. -/
def after (session : Session) (lines : List String) : Session :=
  lines.foldl (fun session line => (session.feed line).2) session

/-- No lines leave a session as it is. -/
@[simp] theorem after_nil (session : Session) : session.after [] = session := rfl

/-- The first line is fed before the later ones. -/
@[simp] theorem after_cons (session : Session) (line : String) (later : List String) :
    session.after (line :: later) = (session.feed line).2.after later := rfl

end Session

namespace Lines

/-- A line that bytes encode has no line feed in it. Its bytes were cut at every line feed, and a
line feed in the text would be encoded as that byte. -/
theorem feed_not_mem_of_decoded {bytes chunk : ByteArray} {line : String}
    (isLine : chunk ∈ ofBytes bytes) (decoded : String.fromUTF8? chunk = some line) :
    '\n' ∉ line.toList := by
  obtain ⟨cutOff, member, rfl⟩ := List.mem_map.mp isLine
  have free : 10 ∉ cutOff := feed_not_mem_of_mem_cut 10 13 _ cutOff member
  have encoded : line.toList.utf8Encode = ByteArray.mk cutOff.toArray := by
    unfold String.fromUTF8? at decoded
    split at decoded
    · obtain rfl := Option.some.inj decoded
      exact String.utf8Encode_toList
    · cases decoded
  intro feed
  obtain ⟨before, later, split⟩ := List.append_of_mem feed
  have bytesOf : line.toList.flatMap String.utf8EncodeChar = cutOff := by
    have same := congrArg (fun bytes => bytes.data.toList) encoded
    simpa [List.utf8Encode] using same
  apply free
  rw [← bytesOf, split]
  simp [String.utf8EncodeChar]

/-- A text without feeds that is ended by one is one line, up to a carriage return, which is left
off. -/
theorem prefix_of_mem_ofText {chars : List Char} (noFeed : '\n' ∉ chars) :
    ∀ line ∈ ofText (String.ofList chars ++ "\n"), line.toList <+: chars := by
  obtain ⟨kept, cutOff, same⟩ :=
    ofText_append (by simpa using noFeed : '\n' ∉ (String.ofList chars).toList) ""
  rw [String.append_empty] at cutOff
  rw [String.toList_ofList] at same
  rw [cutOff]
  intro line member
  obtain rfl : line = String.ofList kept := List.mem_singleton.mp member
  rw [String.toList_ofList]
  obtain rfl | rfl := same
  · exact List.prefix_rfl
  · exact List.prefix_append kept _

end Lines

/-- A run has failed, and this is its last complaint. -/
structure Transcript.FailedWith (transcript : Transcript) (description : String) : Prop where
  code : transcript.code = 1
  err : ∃ earlier, transcript.err = earlier ++ ("Error: " ++ Escaped.quote description ++ "\n")

/-- A failure shows nothing among the output. -/
@[simp] theorem Transcript.fail_out (transcript : Transcript) (description : String) :
    (transcript.fail description).out = transcript.out := rfl

/-- A program that fails with a description has failed with it. -/
theorem Transcript.failedWith_fail (transcript : Transcript) (description : String) :
    (transcript.fail description).FailedWith description := by
  refine ⟨rfl, transcript.err, ?_⟩
  simp [fail, warn]

namespace Dialogue

variable {session : Session} {lines : List String} {chunks : List ByteArray}

/-- The prompt and the answer of each line. -/
def exchanges (session : Session) : List String → List (String × String)
  | [] => []
  | line :: later =>
    (prompt session, (answer session line).1) :: exchanges (answer session line).2 later

/-- The answer to each line. -/
def replies (session : Session) (lines : List String) : List String :=
  (exchanges session lines).map Prod.snd

/-- A line that goes well is answered with its echo. -/
theorem answer_of_ok {line : String} {response : Response} {next : Session}
    (accepted : session.feed line = (.ok response, next)) :
    answer session line = (response.echo, next) := by
  rw [answer, accepted]

/-- A line that fails is answered with the message of its error. -/
theorem answer_of_error {line : String} {error : StatementError} {next : Session}
    (rejected : session.feed line = (.error error, next)) :
    answer session line = ("Error: " ++ error.message ++ "\n", next) := by
  rw [answer, rejected]

/-- The session after an answer is the one after the line. -/
theorem answer_snd (session : Session) (line : String) :
    (answer session line).2 = (session.feed line).2 := by
  rcases given : session.feed line with ⟨error | response, next⟩
  · rw [answer_of_error given]
  · rw [answer_of_ok given]

/-- No line asks for the end where it is heard: before a line that does, a statement is pending. -/
def GoesOn (session : Session) (lines : List String) : Prop :=
  ∀ before line later, lines = before ++ line :: later →
    (session.after before).isPending = false → asksToExit line = false

/-- Without lines, none asks for the end. -/
theorem goesOn_nil (session : Session) : GoesOn session [] := by
  intro before line later split
  simp at split

/-- A dialogue goes on through some lines if the first one does not ask for the end where it is
heard, and then it goes on through the others. -/
theorem goesOn_cons_iff {line : String} {later : List String} :
    GoesOn session (line :: later) ↔ (session.isPending = false → asksToExit line = false) ∧
      GoesOn (session.feed line).2 later := by
  constructor
  · intro goesOn
    constructor
    · exact goesOn [] line later rfl
    · intro before other others split
      exact goesOn (line :: before) other others (congrArg (line :: ·) split)
  · rintro ⟨head, tail⟩ before other others split
    cases before with
    | nil =>
      obtain ⟨rfl, rfl⟩ := List.cons.inj split
      exact head
    | cons first before =>
      obtain ⟨rfl, split'⟩ := List.cons.inj split
      exact tail before other others split'

/-- A line is answered unless it asks for the end where it is heard, which is where nothing is
pending. Tracing shows nothing among the output. -/
theorem step_line (trace : Bool) (transcript : Transcript) {line : String}
    (goesOn : session.isPending = false → asksToExit line = false) :
    ∃ after, step trace transcript session (.line line) = (after, some (session.feed line).2) ∧
      after.out = transcript.out ++ (answer session line).1 := by
  have unheard : ¬(!session.isPending && asksToExit line) = true := by
    cases pending : session.isPending with
    | false => simp [goesOn pending]
    | true => simp
  rw [step, if_neg unheard, ← answer_snd]
  refine ⟨_, rfl, ?_⟩
  cases trace <;> rfl

/-- What a dialogue shows when no line asks for the end. By induction on the lines, with what has
been shown before as any transcript: a prompt and an answer for each line, and a prompt at the
end. -/
theorem runLines_out (trace : Bool) (transcript : Transcript)
    (decoded : chunks.map String.fromUTF8? = lines.map some)
    (goesOn : GoesOn session lines) :
    (runLines trace transcript session chunks).out = transcript.out ++
      String.join ((exchanges session lines).map fun exchange => exchange.1 ++ exchange.2) ++
      prompt (session.after lines) ++ "CTRL-D\n" := by
  induction lines generalizing session chunks transcript with
  | nil =>
    obtain rfl := List.map_eq_nil_iff.mp decoded
    simp [runLines, step, Transcript.print, exchanges]
  | cons line later ih =>
    obtain ⟨chunk, chunks, rfl, isLine, decoded⟩ := List.map_eq_cons_iff.mp decoded
    obtain ⟨goesOn, goesOn'⟩ := goesOn_cons_iff.mp goesOn
    obtain ⟨next, stepped, shown⟩ := step_line trace (transcript.print (prompt session)) goesOn
    simp only [runLines, Input.ofBytes, isLine, stepped]
    rw [ih next decoded goesOn', shown]
    simp [exchanges, answer_snd, Transcript.print, String.append_assoc]

end Dialogue

namespace Script

variable {session : Session} {fed lines : List String} {chunks : List ByteArray}

/-- What each line of a script shows, up to the first that an error is reported on. -/
def echoes (session : Session) : List String → List String
  | [] => []
  | line :: later =>
    match session.feed line with
    | (.ok response, next) => response.echo :: echoes next later
    | (.error _, _) => []

/-- How a script ends whose first line is the one after line `number`: it goes well, or an error is
reported, either on the line after those that have shown something or at the end of the lines. -/
inductive Ends (name : String) (session : Session) (number : Nat) (lines : List String)
    (transcript : Transcript) : Prop where
  | well (code : transcript.code = 0) (all : echoes session lines = Dialogue.replies session lines)
      (rests : (session.after lines).isPending = false)
  | atLine (error : StatementError)
      (reported : transcript.FailedWith (name ++ ", line " ++
        toString (number + (echoes session lines).length + 1) ++ ": " ++ error.message))
      (answered : (Dialogue.replies session lines)[(echoes session lines).length]? =
        some ("Error: " ++ error.message ++ "\n"))
  | atEnd (error : StatementError)
      (reported : transcript.FailedWith (name ++ ", end of file: " ++ error.message))
      (all : echoes session lines = Dialogue.replies session lines)
      (waits : (session.after lines).isPending = true)

/-- Where the session accepts what was read, the script shows the response and goes on. -/
theorem proceed_of_ok (trace : Bool) (transcript : Transcript) {reading : Reading}
    {response : Response} {next : Session}
    (accepted : session.proceed reading = (.ok response, next)) :
    ∃ after, proceed trace transcript session reading = (after, .ok next) ∧
      after.out = transcript.out ++ response.echo ∧ after.code = transcript.code := by
  rw [proceed, accepted]
  refine ⟨_, rfl, ?_⟩
  cases trace <;> exact ⟨rfl, rfl⟩

/-- Where the session rejects what was read, the script shows nothing and has the error. -/
theorem proceed_of_error (trace : Bool) (transcript : Transcript) {reading : Reading}
    {error : StatementError} {next : Session}
    (rejected : session.proceed reading = (.error error, next)) :
    ∃ after, proceed trace transcript session reading = (after, .error error) ∧
      after.out = transcript.out := by
  rw [proceed, rejected]
  refine ⟨_, rfl, ?_⟩
  cases trace <;> rfl

/-- The end of the lines shows nothing, and it is an error there if a statement is pending. The
error is the one that the session reports at the end of its lines. -/
theorem runLines_nil (trace : Bool) (name : String) (transcript : Transcript) (number : Nat)
    (begun : session.Begun fed) (clean : transcript.code = 0) :
    (runLines trace name transcript session number []).out = transcript.out ∧
      Ends name session number [] (runLines trace name transcript session number []) := by
  cases pending : session.isPending with
  | false =>
    have nothing : session.draft = none := by simpa [Session.isPending] using pending
    have finished : session.proceed session.readEnd = (.ok .empty, session.reset) := by
      rw [Session.readEnd, nothing]
      rfl
    obtain ⟨after, ended, shown, code⟩ := proceed_of_ok trace transcript finished
    rw [runLines, ended]
    refine ⟨by simpa [Response.echo] using shown, .well (code.trans clean) rfl pending⟩
  | true =>
    obtain ⟨_, error, _, _, finished⟩ := begun.finish_of_pending pending
    obtain ⟨after, ended, shown⟩ := proceed_of_error trace transcript finished
    rw [runLines, ended]
    exact ⟨shown, .atEnd error (after.failedWith_fail _) rfl pending⟩

/-- A line that is answered without an error is shown, and the script ends as its later lines do.
The line is one more before the place where it ends, in the script and among the replies. -/
theorem Ends.cons {name : String} {number : Nat} {line : String} {response : Response}
    {next : Session} {transcript : Transcript} (accepted : session.feed line = (.ok response, next))
    (ends : Ends name next (number + 1) lines transcript) :
    Ends name session number (line :: lines) transcript := by
  have answered := Dialogue.answer_of_ok accepted
  have replies : Dialogue.replies session (line :: lines) =
      response.echo :: Dialogue.replies next lines := by
    simp [Dialogue.replies, Dialogue.exchanges, answered]
  have shown : echoes session (line :: lines) = response.echo :: echoes next lines := by
    rw [echoes, accepted]
  have last : session.after (line :: lines) = next.after lines := by
    simp [accepted]
  cases ends with
  | well code all rests =>
    refine .well code ?_ ?_
    · rw [shown, replies, all]
    · rw [last, rests]
  | atLine error reported answered =>
    refine .atLine error ?_ ?_
    · rw [shown, List.length_cons, ← Nat.add_assoc, Nat.add_right_comm number]
      exact reported
    · rw [shown, replies]
      simpa using answered
  | atEnd error reported all waits =>
    refine .atEnd error reported ?_ ?_
    · rw [shown, replies, all]
    · rw [last, waits]

/-- What a script shows and how it ends. By induction on the lines, over any session that the lines
before have led to, so that the number of the line in a message is right. -/
theorem runLines_ends (trace : Bool) (name : String) (transcript : Transcript) (number : Nat)
    (decoded : chunks.map String.fromUTF8? = lines.map some) (begun : session.Begun fed)
    (clean : transcript.code = 0) :
    (runLines trace name transcript session number chunks).out =
        transcript.out ++ String.join (echoes session lines) ∧
      Ends name session number lines (runLines trace name transcript session number chunks) := by
  induction lines generalizing session fed chunks transcript number with
  | nil =>
    obtain rfl := List.map_eq_nil_iff.mp decoded
    simpa [echoes] using runLines_nil trace name transcript number begun clean
  | cons line later ih =>
    obtain ⟨chunk, chunks, rfl, isLine, decoded⟩ := List.map_eq_cons_iff.mp decoded
    have begunNext := begun.answer (.feed line)
    simp only [runLines, isLine]
    rcases given : session.feed line with ⟨error | response, next⟩
    · obtain ⟨after, ended, shown⟩ := proceed_of_error trace transcript given
      have nothing : echoes session (line :: later) = [] := by rw [echoes, given]
      have told : Dialogue.replies session (line :: later) =
          ("Error: " ++ error.message ++ "\n") :: Dialogue.replies next later := by
        simp [Dialogue.replies, Dialogue.exchanges, Dialogue.answer_of_error given]
      rw [ended, nothing]
      refine ⟨by simpa using shown, .atLine error ?_ ?_⟩
      · rw [nothing]
        exact after.failedWith_fail _
      · rw [nothing, told]
        rfl
    · obtain ⟨after, ended, shown, code⟩ := proceed_of_ok trace transcript given
      rw [Session.answer, given] at begunNext
      obtain ⟨out, ends⟩ := ih after (number + 1) decoded begunNext (code.trans clean)
      rw [ended, echoes, given]
      refine ⟨?_, ends.cons given⟩
      rw [out, shown, String.join_cons, String.append_assoc]

/-- Up to its first error a script shows what a dialogue answers. By induction on the lines, as both
go from session to session in the same way. -/
theorem echoes_prefix (session : Session) (lines : List String) :
    echoes session lines <+: Dialogue.replies session lines := by
  induction lines generalizing session with
  | nil => exact List.prefix_rfl
  | cons line later ih =>
    rcases given : session.feed line with ⟨error | response, next⟩
    · rw [echoes, given]
      exact List.nil_prefix
    · have answered := Dialogue.answer_of_ok given
      rw [echoes, given, Dialogue.replies, Dialogue.exchanges, answered]
      exact (List.prefix_cons_inj _).mpr (ih next)

/-- What a script shows are responses to its lines. By induction on the lines, each of which is a
request to the session before it. -/
theorem exists_of_mem_echoes {shown : String} (member : shown ∈ echoes session lines) :
    ∃ response, .fed (.ok response) ∈ (session.answers (lines.map .feed)).1 ∧
      shown = response.echo := by
  induction lines generalizing session with
  | nil => cases member
  | cons line later ih =>
    simp only [List.map_cons, Session.answers, Session.answer, List.mem_cons]
    rcases given : session.feed line with ⟨error | response, next⟩
    · rw [echoes, given] at member
      cases member
    · rw [echoes, given] at member
      obtain rfl | member := List.mem_cons.mp member
      · exact ⟨response, .inl rfl, rfl⟩
      · obtain ⟨response, replied, rfl⟩ := ih member
        exact ⟨response, .inr replied, rfl⟩

/-- No line that a script shows reads like the report of an error: one that shows a value does not
begin with a capital. -/
theorem echoes_not_error (noFeed : ∀ line ∈ lines, '\n' ∉ line.toList) :
    ∀ shown ∈ echoes .empty lines, ∀ line ∈ Lines.ofText shown,
      ¬"Error:".toList <+: line.toList := by
  intro shown member line isLine begins
  obtain ⟨response, replied, rfl⟩ := exists_of_mem_echoes member
  cases response with
  | incomplete | empty => cases isLine
  | done outcome =>
    cases outcome with
    | assigned name bound => cases isLine
    | value value =>
      have free : '\n' ∉ value.chars := by
        have noFeed' : ∀ line, .feed line ∈ lines.map Request.feed → '\n' ∉ line.toList := by
          simpa using noFeed
        have clean := Session.isClean_of_knows noFeed' (.inr ⟨_, replied, _, rfl, rfl⟩)
        exact value.feed_not_mem_chars fun part isPart => (clean part isPart).1
      have inside := Lines.prefix_of_mem_ofText free line isLine
      obtain ⟨rest, same⟩ := begins.trans inside
      apply value.head?_chars_ne
      rw [← same]
      rfl

end Script

/-- The same lines as a script and in a dialogue, in which no line asks for the end. What the script
shows for a line before its first error is what the dialogue answers. Where the dialogue answers a
line with an error first, the script reports it and ends; where it answers none but has a statement
pending at the end, the script reports an error there. If the script goes well then, the dialogue
answers no line with an error, shows what the script shows, and has nothing pending at the end.

Both feed the lines to the same session, so each part is told by following the lines one by one. -/
theorem Script.run_agrees (traceScript traceDialogue : Bool) (name : String) (bytes : ByteArray)
    (lines : List String) (decoded : (Lines.ofBytes bytes).map String.fromUTF8? = lines.map some)
    (goesOn : Dialogue.GoesOn .empty lines) :
    let script := Script.run traceScript name (.content bytes)
    let dialogue := Dialogue.run traceDialogue bytes
    let exchanges := Dialogue.exchanges .empty lines
    let replies := exchanges.map Prod.snd
    let last := Session.empty.after lines
    dialogue.out = Dialogue.greeting ++
      String.join (exchanges.map fun exchange => exchange.1 ++ exchange.2) ++
      Dialogue.prompt last ++ "CTRL-D\n" ++ Dialogue.farewell ∧
    script.out = String.join (Script.echoes .empty lines) ∧
    Script.echoes .empty lines <+: replies ∧
    Script.Ends name .empty 0 lines script ∧
    (script.code = 0 → script.out = String.join replies ∧ last.isPending = false ∧
      ∀ reply ∈ replies, ∀ line ∈ Lines.ofText reply, ¬"Error:".toList <+: line.toList) := by
  intro script dialogue exchanges replies last
  have nothing : Session.empty.Begun [] := Session.begun_nil rfl
  obtain ⟨out, ends⟩ := Script.runLines_ends traceScript name .empty 0 decoded nothing rfl
  have shown : script.out = String.join (Script.echoes .empty lines) :=
    out.trans String.empty_append
  refine ⟨?_, shown, Script.echoes_prefix .empty lines, ends, ?_⟩
  · have told := Dialogue.runLines_out traceDialogue (Transcript.empty.print Dialogue.greeting)
      decoded goesOn
    simp only [dialogue, Dialogue.run, Transcript.print, Transcript.empty, String.empty_append]
      at told ⊢
    rw [told]
  · intro well
    have noFeed : ∀ line ∈ lines, '\n' ∉ line.toList := by
      intro line member
      have isLine : some line ∈ (Lines.ofBytes bytes).map String.fromUTF8? := by
        rw [decoded]
        exact List.mem_map_of_mem member
      obtain ⟨chunk, isChunk, encodes⟩ := List.mem_map.mp isLine
      exact Lines.feed_not_mem_of_decoded isChunk encodes
    have notFailed : ∀ description, ¬script.FailedWith description := by
      intro description failed
      have code := failed.code
      rw [well] at code
      cases code
    cases ends with
    | well _ all rests =>
      refine ⟨by rw [shown, all]; rfl, rests, ?_⟩
      have free := Script.echoes_not_error noFeed
      rwa [all] at free
    | atLine error reported _ => exact (notFailed _ reported).elim
    | atEnd error reported _ _ => exact (notFailed _ reported).elim

/-- A list over three lines, the second of which would ask for the end if no list had been begun. -/
theorem Script.run_agrees_three_lines :
    let bytes := "exit = 2\n[1,\nexit\n]".toUTF8
    let script := Script.run false "list.kex" (.content bytes)
    script.code = 0 ∧ script.out = "[1, 2]\n" ∧
      (Dialogue.run false bytes).out = "Welcome to Kex! Type 'exit' to quit.\n" ++
        "kex> kex> ...  ...  [1, 2]\nkex> CTRL-D\nGoodbye!\n" := by
  intro bytes script
  have decoded : (Lines.ofBytes bytes).map String.fromUTF8? =
      ["exit = 2", "[1,", "exit", "]"].map some := by
    have encoded : Lines.ofBytes bytes = ["exit = 2", "[1,", "exit", "]"].map String.toUTF8 := by
      decide +kernel
    rw [encoded, List.map_map]
    exact List.map_congr_left fun line _ => dif_pos line.isValidUTF8
  have goesOn : Dialogue.GoesOn .empty ["exit = 2", "[1,", "exit", "]"] := by
    refine Dialogue.goesOn_cons_iff.mpr ⟨by decide +kernel, ?_⟩
    refine Dialogue.goesOn_cons_iff.mpr ⟨by decide +kernel, ?_⟩
    refine Dialogue.goesOn_cons_iff.mpr ⟨by decide +kernel, ?_⟩
    exact Dialogue.goesOn_cons_iff.mpr ⟨by decide +kernel, Dialogue.goesOn_nil _⟩
  obtain ⟨told, shown, -, ends, -⟩ := run_agrees false false "list.kex" bytes _ decoded goesOn
  have echoed : echoes .empty ["exit = 2", "[1,", "exit", "]"] = ["", "", "", "[1, 2]\n"] := by
    decide +kernel
  have exchanged : Dialogue.exchanges .empty ["exit = 2", "[1,", "exit", "]"] =
      [("kex> ", ""), ("kex> ", ""), ("...  ", ""), ("...  ", "[1, 2]\n")] := by
    decide +kernel
  have rests : (Session.empty.after ["exit = 2", "[1,", "exit", "]"]).isPending = false := by
    decide +kernel
  refine ⟨?_, ?_, ?_⟩
  · cases ends with
    | well code _ _ => exact code
    | atLine error _ answered =>
      rw [echoed, Dialogue.replies, exchanged] at answered
      cases answered
    | atEnd error _ _ waits =>
      rw [rests] at waits
      cases waits
  · rw [shown, echoed]
    rfl
  · rw [told, exchanged, Dialogue.prompt, rests]
    decide +kernel

end Formula
