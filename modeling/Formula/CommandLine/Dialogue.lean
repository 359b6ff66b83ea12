import Formula.CommandLine.Transcript

/-!
# Dialogues

Without a script the program asks for lines and answers each. Its prompt shows whether a
statement has been begun. An error is answered like any result and the dialogue goes on; it ends
with the word for it, at the end of the input, or at a line that cannot be decoded. The word is
one only where a statement may begin.
-/

namespace Formula.Dialogue

/-- What the dialogue is told. -/
inductive Input where
  | line (text : String)
  | undecodable
  | ended

/-- What is shown before the first prompt. -/
def greeting : String := "Welcome to Kex! Type 'exit' to quit.\n"

/-- What is shown at the end. -/
def farewell : String := "Goodbye!\n"

/-- How a line is asked for. -/
def prompt (session : Session) : String := if session.isPending then "...  " else "kex> "

/-- A text without the blanks around it. -/
def trim (chars : List Char) : List Char :=
  ((chars.dropWhile CharClass.isBlank).reverse.dropWhile CharClass.isBlank).reverse

/-- Whether a line asks for the end, in capitals or not. -/
def asksToExit (line : String) : Bool := (trim line.toList).map Char.toLower == "exit".toList

/-- The answer to a line. -/
def answer (session : Session) (line : String) : String × Session :=
  match session.feed line with
  | (.ok response, session) => (response.echo, session)
  | (.error error, session) => ("Error: " ++ error.message ++ "\n", session)

/-- Go on with one more input: what is written, and the session unless the dialogue has ended. -/
def step (trace : Bool) (transcript : Transcript) (session : Session) :
    Input → Transcript × Option Session
  | .line text =>
    if !session.isPending && asksToExit text then (transcript, none)
    else
      let transcript :=
        if trace then transcript.warn (session.readLine text).trace else transcript
      let (reply, session) := answer session text
      (transcript.print reply, some session)
  | .undecodable =>
    (transcript.print
      ("Error: Io(Error \x7b kind: InvalidData, message: " ++
        "\"stream did not contain valid UTF-8\" \x7d)\n"), none)
  | .ended => (transcript.print "CTRL-D\n", none)

/-- What a line of bytes tells the dialogue. -/
def Input.ofBytes (bytes : ByteArray) : Input :=
  match String.fromUTF8? bytes with
  | some text => .line text
  | none => .undecodable

/-- Ask for lines and answer them until the dialogue ends. -/
def runLines (trace : Bool) (transcript : Transcript) (session : Session) :
    List ByteArray → Transcript
  | [] => (step trace (transcript.print (prompt session)) session .ended).1
  | bytes :: later =>
    match step trace (transcript.print (prompt session)) session (.ofBytes bytes) with
    | (transcript, some session) => runLines trace transcript session later
    | (transcript, none) => transcript

/-- The whole dialogue over an input. -/
def run (trace : Bool) (input : ByteArray) : Transcript :=
  (runLines trace (Transcript.empty.print greeting) .empty (Lines.ofBytes input)).print farewell

end Formula.Dialogue
