import Formula.Proofs.Expr.Faults
import Formula.Proofs.Grammar.Blame
import Formula.Proofs.Session.Evaluations
import Formula.Proofs.Token.Faults

/-!
# What an error says is so

Three stages complain about a text, each in its own words, and each finds the place that it names in
its own way: from the characters read so far, from the token in the way or the last one, or from the
name or the operator that a part of the tree was read from. In the end it is always a place in the
text, and what stands there is what the error says.
-/

namespace Formula

/-- A token of a text, which stands in the text. -/
structure Token.IsOf (text : String) (token : Token) : Prop where
  read : ∃ tokens, ofText text = .ok tokens ∧ token ∈ tokens
  standsIn : token.StandsIn text.toList

/-- An operator that is written at a position of a text, as a token of it. -/
structure Operator.IsAt (text : String) (operator : Operator) (position : Position) : Prop where
  exists_sign : ∃ sign : Token, sign.IsOf text ∧ sign.kind = .symbol operator.symbol ∧
    sign.lexeme = operator.sign ∧ sign.span.start = position

/-- What the error of a statement says is so in the text and under the bindings. There is no way for
an error to say so of a key. -/
inductive StatementError.BorneOut (text : String) (bindings : Bindings) : StatementError → Prop
  | lexical (error : LexError) (isSo : error.BorneOut text.toList) :
      BorneOut text bindings (.lexical error)
  | unexpectedToken (token : Token) (expected : List Expectation) (isOf : token.IsOf text) :
      BorneOut text bindings (.syntactic ⟨some token.lexeme, expected, token.span.start⟩)
  | unexpectedEnd (tokens : List Token) (last : Token) (expected : List Expectation)
      (read : Token.ofText text = .ok tokens) (isLast : tokens.getLast? = some last)
      (standsIn : last.StandsIn text.toList) :
      BorneOut text bindings (.syntactic ⟨none, expected, last.span.stop⟩)
  | unbound (name : Token) (isOf : name.IsOf text) (isName : name.kind = .name)
      (absent : bindings.get? name.lexeme = none) :
      BorneOut text bindings (.evaluation ⟨.unbound name.lexeme, name.span.start⟩)
  | typeMismatch (operator : Operator) (left right : Value.Kind) (position : Position)
      (isAt : operator.IsAt text position) :
      BorneOut text bindings (.evaluation ⟨.typeMismatch operator left right, position⟩)
  | integerOverflow (operator : Operator) (position : Position)
      (isAt : operator.IsAt text position) :
      BorneOut text bindings (.evaluation ⟨.integerOverflow operator, position⟩)
  | divisionByZero (position : Position) (isAt : Operator.divide.IsAt text position) :
      BorneOut text bindings (.evaluation ⟨.divisionByZero, position⟩)

section Tokens

variable {text : String} {tokens : List Token}

/-- A token that is read from a text is one of its tokens and stands in it. -/
theorem Token.isOf (read : ofText text = .ok tokens) {token : Token} (member : token ∈ tokens) :
    token.IsOf text :=
  ⟨⟨tokens, read, member⟩, standsIn_of_ofText read token member⟩

/-- A symbol is written with its character. Of all the ways in which a token is found, only that for
symbols gives one. -/
theorem Front.Stands.eq_char {mark : Symbol} {chars : List Char}
    (stands : Stands (.symbol mark) chars) : chars = [mark.char] := by
  obtain ⟨c, later, rfl, found⟩ := stands
  obtain ⟨other, -⟩ | ⟨other, -⟩ | ⟨other, -⟩ | ⟨-, isSymbol⟩ := token_cases found
  · simp [Token.Content.kind] at other
  · simp [Token.Content.kind] at other
  · cases other
  · obtain ⟨_, ⟨⟩, rfl, isLexeme, -⟩ := symbol_eq_ok isSymbol
    exact isLexeme

/-- The sign of an operator in a tree is at its place in the text. -/
theorem Operator.isAt (read : Token.ofText text = .ok tokens) {sign : Token}
    (member : sign ∈ tokens) {operator : Operator} (written : sign.kind = .symbol operator.symbol) :
    operator.IsAt text sign.span.start := by
  refine ⟨sign, Token.isOf read member, written, ?_, rfl⟩
  obtain ⟨stands, -⟩ := Token.stands_of_ofText read sign member
  obtain ⟨content, lexeme, span⟩ := sign
  cases content <;> cases written
  rw [Operator.sign_eq, ← Front.Stands.eq_char stands]
  exact (String.ofList_toList).symm

/-- Tokens that are no statement are in the way at one of them or end too early. Either way the
error stands where the text says so. -/
theorem StatementError.borneOut_of_ofTokens {bindings : Bindings} {error : SyntaxError}
    (read : Token.ofText text = .ok tokens) (nonempty : tokens ≠ [])
    (rejected : Statement.ofTokens tokens = .error error) :
    BorneOut text bindings (.syntactic error) := by
  obtain ⟨found, expected, position⟩ := error
  obtain ⟨token, member, isFound, isPlace⟩ | ⟨isFound, isPlace⟩ :=
    Grammar.place_of_ofTokens rejected
  · obtain rfl : found = some token.lexeme := isFound
    obtain rfl : position = token.span.start := isPlace
    exact .unexpectedToken token expected (Token.isOf read member)
  · obtain rfl : found = none := isFound
    obtain rfl : position = Grammar.stopOf tokens := isPlace
    have isLast := List.getLast?_eq_some_getLast nonempty
    have standsIn := Token.standsIn_of_ofText read _ (List.getLast_mem nonempty)
    rw [Grammar.stopOf, isLast]
    exact .unexpectedEnd tokens _ expected read isLast standsIn

/-- A part at fault is one that a token of the text was read into. By cases on the fault: a name is
its token, and an operation has the token of its sign. -/
theorem StatementError.borneOut_of_atFault {bindings : Bindings} {part : Expr} {error : EvalError}
    (read : Token.ofText text = .ok tokens) (readFrom : part.ReadFrom tokens)
    (atFault : part.AtFault bindings error) : BorneOut text bindings (.evaluation error) := by
  cases atFault with
  | unbound written absent =>
    cases readFrom with
    | name token member isName => exact .unbound token (Token.isOf read member) isName absent
  | operation operator left right span first second fault _ _ failed =>
    cases readFrom with
    | operation _ _ _ sign member written =>
      have isAt := Operator.isAt read member written
      obtain rfl | ⟨rfl, rfl⟩ | rfl := Operator.apply_eq_error failed
      · exact .typeMismatch operator first.kind second.kind sign.span.start isAt
      · exact .divisionByZero sign.span.start isAt
      · exact .integerOverflow operator sign.span.start isAt
  | invalidKey pairs span key value named member ofKey noString =>
    cases readFrom with
    | dictionary _ _ keys =>
      -- The keys are string literals, so what they are evaluated to is a string.
      obtain ⟨text, place, isKey⟩ := keys (key, value) member
      obtain rfl : key = .literal (.string text) place := isKey
      rw [Expr.eval_literal] at ofKey
      obtain rfl := Except.ok.inj ofKey
      exact absurd rfl noString

end Tokens

namespace Session

/-- Whatever text a session runs, under whatever bindings, an error of it is borne out by the text
at the place that the error names; and it is never an error about a key.

Lexical and syntactic errors are borne out by the tokens. Of an error in evaluation the part at
fault is found in the tree, and its token in the text; a key that is no string would be an
expression other than a string token, which the grammar does not read. -/
theorem run_error (session : Session) (text : String) {error : StatementError}
    (failed : (session.run text).1 = .error error) :
    error.BorneOut text session.bindings ∧
      ∀ kind position, error ≠ .evaluation ⟨.invalidKey kind, position⟩ := by
  have borneOut : error.BorneOut text session.bindings := by
    unfold run at failed
    split at failed
    · next found read =>
      obtain rfl := Except.error.inj failed
      exact .lexical found (Token.borneOut_of_ofText read)
    · next tokens read =>
      unfold execute at failed
      split at failed
      · cases failed
      · next nonempty =>
        split at failed
        · next found rejected =>
          obtain rfl := Except.error.inj failed
          have nonempty : tokens ≠ [] := by simpa using nonempty
          exact StatementError.borneOut_of_ofTokens read nonempty rejected
        · next statement accepted =>
          split at failed
          · next found evaluated =>
            obtain rfl := Except.error.inj failed
            obtain ⟨part, isPart, atFault⟩ :=
              statement.expr.exists_atFault (Statement.eval_eq_error evaluated)
            exact StatementError.borneOut_of_atFault read
              (Statement.readFrom_of_ofTokens accepted part isPart) atFault
          · cases failed
  refine ⟨borneOut, ?_⟩
  rintro kind position rfl
  cases borneOut

/-- A string minus a number, with the sign on the second line, after the end of a comment. -/
theorem run_error_two_lines :
    ∃ error, (empty.run "a = \"日本\" /* ü\n */ - 1").1 = .error error ∧ error.position = ⟨2, 5⟩ ∧
      error.BorneOut "a = \"日本\" /* ü\n */ - 1" .empty := by
  have fails : (match (empty.run "a = \"日本\" /* ü\n */ - 1").1 with
      | .error error => decide (error.position = ⟨2, 5⟩)
      | .ok _ => false) = true := by decide +kernel
  split at fails
  · next error failed =>
    exact ⟨error, failed, of_decide_eq_true fails, (run_error empty _ failed).1⟩
  · cases fails

end Session

end Formula
