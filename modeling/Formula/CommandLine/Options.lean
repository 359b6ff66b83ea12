/-!
# Options

The arguments of the program: whether to trace, and the script to run if there is one. They are
looked at from left to right and the first that cannot be used is the one complained about.
-/

namespace Formula

/-- What the program is asked to do: run a script, or without one ask for lines. -/
structure Options where
  script : Option String
  trace : Bool

namespace Options

/-- Add an argument to the options. -/
def add (options : Options) (argument : String) : Except String Options :=
  if argument = "--trace" then .ok { options with trace := true }
  else if ['-', '-'].isPrefixOf argument.toList then .error ("Unknown option " ++ argument ++ ".")
  else
    match options.script with
    | none => .ok { options with script := some argument }
    | some _ => .error ("Unexpected argument " ++ argument ++ ".")

/-- The options that some arguments give. -/
def ofArguments (arguments : List String) : Except String Options :=
  arguments.foldlM add ⟨none, false⟩

end Options

end Formula
