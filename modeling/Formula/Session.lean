import Formula.Draft
import Formula.Expr.Eval
import Formula.Grammar.Statement

/-!
# Sessions

A session binds names statement after statement. A statement comes as a whole text or line by
line; in the second case the session keeps the draft of the lines so far as long as a comment or a
bracket is open, and only then. Each statement is cut into tokens, read and evaluated, and the
first error of the three stages ends it: the bindings stay as they were, and no draft remains.
-/

namespace Formula

/-- Why a statement failed, by the stage that found out. -/
inductive StatementError where
  | lexical (error : LexError)
  | syntactic (error : SyntaxError)
  | evaluation (error : EvalError)

namespace StatementError

/-- The message of the stage itself. -/
def detail : StatementError → String
  | .lexical error => error.message
  | .syntactic error => error.message
  | .evaluation error => error.message

/-- Where the error is, at whatever stage it was found. -/
def position : StatementError → Position
  | .lexical error => error.position
  | .syntactic error => error.position
  | .evaluation error => error.position

/-- The message with its stage before it. -/
def message (error : StatementError) : String :=
  let stage := match error with
    | .lexical _ => "lexical error: "
    | .syntactic _ => "syntax error: "
    | .evaluation _ => "evaluation error: "
  stage ++ error.detail

end StatementError

/-- The answer to one more line. -/
inductive Response where
  /-- The statement needs more lines. -/
  | incomplete
  /-- The statement had no tokens. -/
  | empty
  | done (outcome : Outcome)

/-- How far the lines of a statement have come. -/
inductive Reading where
  | unfinished (draft : Draft)
  | faulty (error : LexError)
  | complete (tokens : List Token)

/-- A draft to which no line will be added. -/
def Reading.ofDraft (draft : Draft) : Reading :=
  match draft.finish with
  | .ok tokens => .complete tokens
  | .error error => .faulty error

/-- Bound names, and the draft of a statement whose last line is still to come. -/
structure Session where
  bindings : Bindings
  draft : Option Draft

namespace Session

/-- Nothing bound and nothing begun. -/
def empty : Session := ⟨.empty, none⟩

/-- Whether a statement has been begun and needs more lines. -/
def isPending (session : Session) : Bool := session.draft.isSome

/-- Drop the draft and keep the bindings. -/
def reset (session : Session) : Session := { session with draft := none }

/-- Read and evaluate the tokens of a statement, if there are any. -/
def execute (session : Session) (tokens : List Token) :
    Except StatementError (Option Outcome) × Session :=
  if tokens.isEmpty then (.ok none, session)
  else
    match Statement.ofTokens tokens with
    | .error error => (.error (.syntactic error), session)
    | .ok statement =>
      match statement.eval session.bindings with
      | .error error => (.error (.evaluation error), session)
      | .ok (outcome, bindings) => (.ok (some outcome), { session with bindings })

/-- Run a text as one statement. A draft is neither read nor changed. -/
def run (session : Session) (text : String) : Except StatementError (Option Outcome) × Session :=
  match Token.ofText text with
  | .error error => (.error (.lexical error), session)
  | .ok tokens => session.execute tokens

/-- How far a statement has come with one more line. -/
def readLine (session : Session) (line : String) : Reading :=
  match (session.draft.getD .empty).readLine line with
  | (_, some error) => .faulty error
  | (draft, none) => if draft.isOpen then .unfinished draft else .ofDraft draft

/-- Go on from where the lines of a statement have come. -/
def proceed (session : Session) : Reading → Except StatementError Response × Session
  | .unfinished draft => (.ok .incomplete, { session with draft := some draft })
  | .faulty error => (.error (.lexical error), session.reset)
  | .complete tokens =>
    match session.reset.execute tokens with
    | (.ok none, after) => (.ok .empty, after)
    | (.ok (some outcome), after) => (.ok (.done outcome), after)
    | (.error error, after) => (.error error, after)

/-- Add a line to the statement, and run it once it is complete. -/
def feed (session : Session) (line : String) : Except StatementError Response × Session :=
  session.proceed (session.readLine line)

/-- How far the statement has come if no line follows. -/
def readEnd (session : Session) : Reading :=
  match session.draft with
  | none => .complete []
  | some draft => .ofDraft draft

/-- Run the draft, if there is one, as if no line followed. -/
def finish (session : Session) : Except StatementError Response × Session :=
  session.proceed session.readEnd

end Session

end Formula
