import Formula.Proofs.Expr.Unplaced
import Formula.Proofs.Grammar.Unplaced
import Formula.Proofs.Token.Layout

/-!
# Layout makes no difference

A text with the lexemes of another one, and gaps between them, is cut into the same words. The
grammar and the evaluation do not look at places, so the text is read as the same statement and does
the same; and if one of them is in error, so is the other, for the same reason.
-/

namespace Formula

open Placed

namespace Session

variable {tokens others : List Token}

/-- Syntax errors that differ in their places alone are the same fault of a statement. -/
theorem sameFault_syntactic {α : Type} {error error' : SyntaxError}
    (same : unplaced error = unplaced error') :
    SameFault (.error (.syntactic error) : Except StatementError α) (.error (.syntactic error')) :=
  congrArg (fun error => Except.error (StatementError.syntactic error)) same

/-- So are errors in evaluation. -/
theorem sameFault_evaluation {α : Type} {error error' : EvalError}
    (same : unplaced error = unplaced error') :
    SameFault (.error (.evaluation error) : Except StatementError α)
      (.error (.evaluation error')) :=
  congrArg (fun error => Except.error (StatementError.evaluation error)) same

/-- Statements that differ in their places alone have the same result. -/
theorem sameFault_eval_of_unplaced {statement statement' : Statement}
    (same : unplaced statement = unplaced statement') (bindings : Bindings) :
    SameFault (statement.eval bindings) (statement'.eval bindings) := by
  have first := statement.sameFault_eval bindings
  rw [same] at first
  exact first.trans (statement'.sameFault_eval bindings).symm

/-- Tokens with the same words do the same. They are read as the same statement but for the places
in it, and places have no part in evaluation besides the errors. -/
theorem execute_of_words (same : tokens.map Token.word = others.map Token.word)
    (session : Session) : SameFault (session.execute tokens).1 (session.execute others).1 ∧
      (session.execute tokens).2 = (session.execute others).2 := by
  have sameEmpty : tokens.isEmpty = others.isEmpty := by
    rw [← List.isEmpty_map, same, List.isEmpty_map]
  have sameRead := Statement.ofTokens_of_words same
  unfold execute
  rw [sameEmpty]
  cases others.isEmpty with
  | true => exact ⟨rfl, rfl⟩
  | false =>
    cases read : Statement.ofTokens tokens <;> cases read' : Statement.ofTokens others <;>
      rw [read, read'] at sameRead
    case error.error => exact ⟨sameFault_syntactic (Except.error.inj sameRead), rfl⟩
    case error.ok => cases sameRead
    case ok.error => cases sameRead
    case ok.ok statement statement' =>
      have sameResult := sameFault_eval_of_unplaced (Except.ok.inj sameRead) session.bindings
      dsimp only
      cases evaluated : statement.eval session.bindings <;>
        cases evaluated' : statement'.eval session.bindings <;>
        rw [evaluated, evaluated'] at sameResult
      case error.error => exact ⟨sameFault_evaluation (Except.error.inj sameResult), rfl⟩
      case error.ok => cases sameResult
      case ok.error => cases sameResult
      case ok.ok found found' =>
        obtain rfl := Except.ok.inj sameResult
        exact ⟨rfl, rfl⟩

/-- Layout makes no difference. A text with the lexemes of another one, and gaps between them, has
equal tokens. They are read as the same statement, but for the places it speaks of, or fail to be
one in the same way. And run in any session the text comes to the same, binds the same, and has the
same error, if it has one, but for its place.

The tokens have the same words, and nothing else of a token decides how it is read or what comes of
it. -/
theorem run_laidOut {source : String} (read : Token.ofText source = .ok tokens) {text : String}
    (laidOut : Layout.LaidOut (tokens.map Token.lexeme) text.toList) :
    ∃ others, Token.ofText text = .ok others ∧
      others.map Token.word = tokens.map Token.word ∧
      unplaced (Statement.ofTokens others) = unplaced (Statement.ofTokens tokens) ∧
      ∀ session : Session, SameFault (session.run text).1 (session.run source).1 ∧
        (session.run text).2 = (session.run source).2 := by
  obtain ⟨others, read', same⟩ := Token.ofText_laidOut read laidOut
  refine ⟨others, read', same, Statement.ofTokens_of_words same, fun session => ?_⟩
  simp only [run, read, read']
  exact execute_of_words same session

/-- A quotient in one word, and over four lines with a remark before it and a comment in it. -/
theorem run_laidOut_quotient :
    ∃ tokens others, Token.ofText "1/2" = .ok tokens ∧
      Token.ofText "// half\n1 /* of\n1 */ /\n2 " = .ok others ∧
      others.map Token.word = tokens.map Token.word ∧
      SameFault (Session.empty.run "// half\n1 /* of\n1 */ /\n2 ").1
        (Session.empty.run "1/2").1 := by
  have lexemes : ((Token.ofText "1/2").toOption.map (·.map Token.lexeme)) =
      some ["1", "/", "2"] := by
    decide +kernel
  cases read : Token.ofText "1/2" with
  | error error =>
    rw [read] at lexemes
    cases lexemes
  | ok tokens =>
    rw [read] at lexemes
    have remark : Layout.Mix "// half\n".toList :=
      .remark " half".toList [] (by decide) .nothing
    have comment : Layout.Gap " /* of\n1 */ ".toList :=
      .begun ' ' _ rfl (.comment " of\n1 ".toList [' '] (by decide) (.blank ' ' [] rfl .nothing))
    have laidOut : Layout.LaidOut (tokens.map Token.lexeme)
        "// half\n1 /* of\n1 */ /\n2 ".toList := by
      have spelled : tokens.map Token.lexeme = ["1", "/", "2"] := Option.some.inj lexemes
      have last : Layout.Spaced [] [' '] := .last [' '] (.begun ' ' [] rfl .nothing)
      have line : Layout.Gap ['\n'] := .begun '\n' [] rfl .nothing
      rw [spelled]
      exact .begun _ "1" _ _ remark (.next _ "/" _ _ comment (.next _ "2" _ _ line last))
    obtain ⟨others, read', same, -, alike⟩ := run_laidOut read laidOut
    exact ⟨tokens, others, rfl, read', same, (alike .empty).1⟩

end Session

end Formula
