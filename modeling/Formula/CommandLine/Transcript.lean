import Formula.Session
import Formula.Text.Escaped

/-!
# Transcripts

What a run of the program writes to its two outputs and the code it exits with. The runs of this
library are functions to transcripts, so that what is printed can be reasoned about.
-/

namespace Formula

/-- What a run has written so far, and its exit code. -/
structure Transcript where
  out : String
  err : String
  code : UInt32

namespace Transcript

/-- A run that has written nothing and went well. -/
def empty : Transcript := ⟨"", "", 0⟩

/-- Write to the output. -/
def print (transcript : Transcript) (text : String) : Transcript :=
  { transcript with out := transcript.out ++ text }

/-- Write to the error output. -/
def warn (transcript : Transcript) (text : String) : Transcript :=
  { transcript with err := transcript.err ++ text }

/-- End with a failure: its description goes to the error output in quotes, and the code is one. -/
def fail (transcript : Transcript) (description : String) : Transcript :=
  { transcript.warn ("Error: " ++ Escaped.quote description ++ "\n") with code := 1 }

end Transcript

/-- The line that shows what a statement gave, if it shows anything. -/
def Response.echo : Response → String
  | .done outcome =>
    match outcome.echo? with
    | some value => value.text ++ "\n"
    | none => ""
  | _ => ""

/-- The listing that a traced run gives of a statement's tokens before it is evaluated, and of its
    tree if it has one. A statement without tokens is not listed. -/
def Reading.trace : Reading → String
  | .complete tokens =>
    if tokens.isEmpty then ""
    else
      let listing := tokens.map fun token => "  " ++ token.text ++ "\n"
      let tree := match Statement.ofTokens tokens with
        | .ok statement => "Parsed result:\n  " ++ statement.outline ++ "\n"
        | .error _ => ""
      "Tokens:\n" ++ "".intercalate listing ++ tree
  | _ => ""

end Formula
