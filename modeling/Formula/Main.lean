import Formula.CommandLine.Program

/-!
# The command

The outer layer: it opens the script or asks for lines, and writes what the library answers.
-/

namespace Formula.Command

/-- Write a transcript to the two outputs. -/
def write (transcript : Transcript) : IO Unit := do
  let out ← IO.getStdout
  let err ← IO.getStderr
  out.putStr transcript.out
  out.flush
  err.putStr transcript.err
  err.flush

/-- What there is under a file name. -/
def open? (name : String) : IO ScriptFile := do
  let handle? ← try some <$> IO.FS.Handle.mk name .read catch _ => pure none
  match handle? with
  | none => return .missing
  | some handle =>
    try return .content (← handle.readBinToEnd)
    catch _ => return .unreadable "Is a directory (os error 21)"

/-- The bytes of the input up to the next line feed, or all there are. -/
partial def nextLine (input : IO.FS.Stream) (line : ByteArray) : IO ByteArray := do
  let byte ← input.read 1
  if byte.isEmpty then return line
  let line := line ++ byte
  if byte[0]? = some 10 then return line
  nextLine input line

/-- The next input of the dialogue. -/
def nextInput : IO Dialogue.Input := do
  let bytes ← nextLine (← IO.getStdin) .empty
  match Lines.ofBytes bytes with
  | line :: _ => return .ofBytes line
  | [] => return .ended

/-- Ask for lines and answer each at once. -/
partial def converse (trace : Bool) (session : Session) : IO Unit := do
  write (Transcript.empty.print (Dialogue.prompt session))
  let (transcript, next?) := Dialogue.step trace .empty session (← nextInput)
  write transcript
  match next? with
  | some next => converse trace next
  | none => return

end Formula.Command

open Formula in
/-- The program is run with its arguments, and its exit code is returned. -/
def main (arguments : List String) : IO UInt32 := do
  match Options.ofArguments arguments with
  | .error complaint =>
    let transcript := Transcript.empty.fail complaint
    Command.write transcript
    return transcript.code
  | .ok options =>
    match options.script with
    | some name =>
      let transcript := Script.run options.trace name (← Command.open? name)
      Command.write transcript
      return transcript.code
    | none =>
      Command.write (Transcript.empty.print Dialogue.greeting)
      Command.converse options.trace .empty
      Command.write (Transcript.empty.print Dialogue.farewell)
      return 0
