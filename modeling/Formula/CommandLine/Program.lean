import Formula.CommandLine.Dialogue
import Formula.CommandLine.Options
import Formula.CommandLine.Script

/-!
# The program

A run of the program, from its arguments, the files it can open and its input to what it writes.
-/

namespace Formula.Program

/-- The whole run of the program. -/
def run (arguments : List String) (fileAt : String → ScriptFile) (input : ByteArray) :
    Transcript :=
  match Options.ofArguments arguments with
  | .error complaint => Transcript.empty.fail complaint
  | .ok options =>
    match options.script with
    | some name => Script.run options.trace name (fileAt name)
    | none => Dialogue.run options.trace input

end Formula.Program
