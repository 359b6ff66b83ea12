import Formula.CommandLine.Transcript

/-!
# Scripts

A script is a file of statements, which are run line after line. The first error ends the run and
is reported with the line it was met on, or with the end of the file if it was met there. Lines
are decoded one by one as the run comes to them, so a line that cannot be decoded does not keep
the lines before it from running.
-/

namespace Formula

/-- What there is under the name of a script. -/
inductive ScriptFile where
  /-- Nothing that could be opened. -/
  | missing
  /-- Something that can be opened but not read, and the reason. -/
  | unreadable (reason : String)
  | content (bytes : ByteArray)

namespace Script

/-- The complaint about bytes that encode no text. -/
def undecodable : String := "stream did not contain valid UTF-8"

/-- Take a reading into a run: what it traces, what it shows, and the error it may end in. -/
def proceed (trace : Bool) (transcript : Transcript) (session : Session) (reading : Reading) :
    Transcript × Except StatementError Session :=
  let transcript := if trace then transcript.warn reading.trace else transcript
  match session.proceed reading with
  | (.ok response, session) => (transcript.print response.echo, .ok session)
  | (.error error, _) => (transcript, .error error)

/-- Run lines, the first of which is the one after line `number`, up to the end of the script. -/
def runLines (trace : Bool) (name : String) (transcript : Transcript) (session : Session)
    (number : Nat) : List ByteArray → Transcript
  | [] =>
    match proceed trace transcript session session.readEnd with
    | (transcript, .ok _) => transcript
    | (transcript, .error error) =>
      transcript.fail (name ++ ", end of file: " ++ error.message)
  | bytes :: later =>
    match String.fromUTF8? bytes with
    | none => transcript.fail undecodable
    | some line =>
      match proceed trace transcript session (session.readLine line) with
      | (transcript, .ok session) => runLines trace name transcript session (number + 1) later
      | (transcript, .error error) =>
        transcript.fail (name ++ ", line " ++ toString (number + 1) ++ ": " ++ error.message)

/-- Run a script. -/
def run (trace : Bool) (name : String) : ScriptFile → Transcript
  | .missing => Transcript.empty.fail (name ++ " not found. No such file or directory.")
  | .unreadable reason => Transcript.empty.fail reason
  | .content bytes => runLines trace name .empty .empty 0 (Lines.ofBytes bytes)

end Script

end Formula
