import Formula.Expr
import Formula.Grammar.Rule

/-!
# The grammar

The rules of the language, each tried in the order written here:

* statement: a name, `=` and an expression, or an expression;
* expression: terms with `+` or `-` between them;
* term: factors with `*` or `/` between them;
* factor: a literal, a name, a list, a dictionary, or an expression in parentheses;
* list: expressions with commas between them, or nothing, in brackets;
* dictionary: pairs with commas between them, or nothing, in braces;
* pair: a string, `:` and an expression.

Operators of one rule group to the left. The rules are stated over the rule for expressions inside
brackets, so each by itself is not recursive; the recursion is through brackets alone, and as many
levels of it as may be open at once are enough.
-/

namespace Formula

namespace Grammar

/-- The literal that a token is. -/
def literalOf (token : Token) : Rule Expr :=
  match token.value? with
  | some value => pure (.literal value token.span)
  | none => Rule.fail

/-- A literal is a token of one of four kinds. -/
def literal : Rule Expr := do
  let token ← Rule.token .integer <|> Rule.token .float <|> Rule.token .string <|>
    Rule.token .boolean
  literalOf token

/-- The key of a pair is a string token. -/
def string : Rule Expr := do
  let token ← Rule.token .string
  literalOf token

/-- A name is a token with its lexeme and its place. -/
def name : Rule Name := do
  let token ← Rule.token .name
  return ⟨token.lexeme, token.span⟩

/-- The symbol that writes an operator. -/
def operator (symbol : Symbol) (meaning : Operator) : Rule (Operator × Span) := do
  let token ← Rule.token (.symbol symbol)
  return (meaning, token.span)

/-- The signs between terms. -/
def additive : Rule (Operator × Span) := operator .plus .plus <|> operator .minus .minus

/-- The signs between factors. -/
def multiplicative : Rule (Operator × Span) := operator .star .times <|> operator .slash .divide

/-- Operands with operators between them, grouped to the left. -/
def groupLeft (head : Expr) (tail : List ((Operator × Span) × Expr)) : Expr :=
  tail.foldl (fun left step => .operation step.1.1 left step.2 step.1.2) head

/-- An operand, and as many times as it goes an operator and one more. -/
def chain (sign : Rule (Operator × Span)) (operand : Rule Expr) : Rule Expr := do
  let head ← operand
  let tail ← Rule.repeated do
    let step ← sign
    let right ← operand
    return (step, right)
  return groupLeft head tail

section Brackets

variable (limit : Nat) (inner : Rule Expr)

/-- An expression in parentheses is the expression itself, with its own place. -/
def group : Rule Expr := do
  let (_, expr) ← Rule.bracketed limit .leftParen do
    let expr ← inner
    let _ ← Rule.token (.symbol .rightParen)
    return expr
  return expr

/-- A list, with the place from one bracket to the other. -/
def list : Rule Expr := do
  let (opening, elements, closing) ← Rule.bracketed limit .leftBracket do
    let elements ← Rule.optional (Rule.separated inner .comma)
    let closing ← Rule.token (.symbol .rightBracket)
    return (elements.getD [], closing)
  return .list elements (opening.span.through closing.span)

/-- A key, a colon and a value. -/
def pair : Rule (Expr × Expr) := do
  let key ← string
  let _ ← Rule.token (.symbol .colon)
  let value ← inner
  return (key, value)

/-- A dictionary, with the place from one brace to the other. -/
def dictionary : Rule Expr := do
  let (opening, pairs, closing) ← Rule.bracketed limit .leftBrace do
    let pairs ← Rule.optional (Rule.separated (pair inner) .comma)
    let closing ← Rule.token (.symbol .rightBrace)
    return (pairs.getD [], closing)
  return .dictionary pairs (opening.span.through closing.span)

/-- A factor is chosen by its first token. -/
def factor : Rule Expr :=
  literal <|> Expr.name <$> name <|> list limit inner <|> dictionary limit inner <|>
    group limit inner

/-- A term is factors with multiplicative signs between them. -/
def term : Rule Expr := chain multiplicative (factor limit inner)

/-- An expression is terms with additive signs between them. -/
def expression : Rule Expr := chain additive (term limit inner)

end Brackets

/-- The rule for expressions, entered at most `levels` times inside itself; deeper inside,
    `innermost` stands in for it. -/
def expressionOver (limit : Nat) (innermost : Rule Expr) : (levels : Nat) → Rule Expr
  | 0 => innermost
  | levels + 1 => expression limit (expressionOver limit innermost levels)

/-- An assignment is a name, the sign of an assignment and a value. -/
def assignment (value : Rule Expr) : Rule Statement := do
  let target ← name
  let _ ← Rule.token (.symbol .equal)
  let value ← value
  return .assignment target value

/-- A name alone is an expression, so an assignment is tried first. -/
def statement (value : Rule Expr) : Rule Statement :=
  assignment value <|> Statement.expression <$> value

/-- The rule for statements in which at most `limit` brackets are open at once. Brackets are
    refused before the levels run out. -/
def statementWithin (limit : Nat) : Rule Statement :=
  statement (expressionOver limit Rule.fail (limit + 1))

/-- The same rule, for statements after which no token is left. -/
def wholeStatement (limit : Nat) : Rule Statement := do
  let found ← statementWithin limit
  Rule.endOfInput
  return found

/-- Where the text of some tokens ends. -/
def stopOf (tokens : List Token) : Position :=
  match tokens.getLast? with
  | some token => token.span.stop
  | none => .first

end Grammar

namespace Statement

open Grammar

/-- The statement that is made of all these tokens. -/
def ofTokens (tokens : List Token) : Except SyntaxError Statement :=
  match wholeStatement maxNesting (.ofList tokens) (.start tokens) with
  | (some (found, _), _) => .ok found
  | (none, trail) => .error (trail.failure.toError (stopOf tokens))

/-- The statement at the front of these tokens, and the tokens after it. A bracket inside too many
    others fails the statement even if a shorter one could be read. -/
def ofFront (tokens : List Token) : Except SyntaxError (Statement × List Token) :=
  match statementWithin maxNesting (.ofList tokens) (.start tokens) with
  | (some (found, rest), trail) =>
    if trail.failure.final then .error (trail.failure.toError (stopOf tokens))
    else .ok (found, rest.tokens)
  | (none, trail) => .error (trail.failure.toError (stopOf tokens))

end Statement

end Formula
