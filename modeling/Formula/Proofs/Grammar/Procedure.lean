import Formula.Grammar.Statement

/-!
# Rules written down

A rule is a function, and a function always has a result. To see that the way to this result comes
to an end the way has to be told: what is tried, in which order, and how often. Here the rules of
the grammar are written down as procedures. A repetition has nothing in it that would stop it but
the failure of what is repeated, and the procedure for expressions enters itself, without a bound on
how often. What each of them does is the rule for it.
-/

namespace Formula

/-- What there is to do to read something. The rule for expressions is entered by name. -/
inductive Procedure : Type → Type 1
  | token (kind : Token.Kind) : Procedure Token
  | give {α : Type} (result : α) : Procedure α
  | fail {α : Type} : Procedure α
  | andThen {α β : Type} (first : Procedure α) (next : α → Procedure β) : Procedure β
  | orElse {α : Type} (first second : Procedure α) : Procedure α
  | optional {α : Type} (body : Procedure α) : Procedure (Option α)
  | repeated {α : Type} (body : Procedure α) : Procedure (List α)
  | bracketed {α : Type} (opening : Symbol) (body : Procedure α) : Procedure (Token × α)
  | expression : Procedure Expr

namespace Procedure

/-- One procedure after another, with the result of the first handed on. -/
instance : Monad Procedure where
  pure := .give
  bind := .andThen

/-- One procedure instead of another, where the first fails. -/
instance {α : Type} : OrElse (Procedure α) where
  orElse first second := .orElse first (second ())

/-- What a procedure does, where at most `limit` brackets may be open and `inner` is the rule for
expressions. -/
def rule (limit : Nat) (inner : Rule Expr) : {α : Type} → Procedure α → Rule α
  | _, .token kind => Rule.token kind
  | _, .give result => pure result
  | _, .fail => Rule.fail
  | _, .andThen first next =>
    rule limit inner first >>= fun result => rule limit inner (next result)
  | _, .orElse first second => rule limit inner first <|> rule limit inner second
  | _, .optional body => Rule.optional (rule limit inner body)
  | _, .repeated body => Rule.repeated (rule limit inner body)
  | _, .bracketed opening body => Rule.bracketed limit opening (rule limit inner body)
  | _, .expression => inner

/-- The procedure for the literal that a token is. -/
def literalOf (token : Token) : Procedure Expr :=
  match token.value? with
  | some value => pure (.literal value token.span)
  | none => .fail

/-- The procedure for a literal: a token of one of four kinds, and its value. -/
def literal : Procedure Expr := do
  let token ← .token .integer <|> .token .float <|> .token .string <|> .token .boolean
  literalOf token

/-- The procedure for a string literal. -/
def string : Procedure Expr := do
  let token ← .token .string
  literalOf token

/-- The procedure for a name. -/
def name : Procedure Name := do
  let token ← .token .name
  return ⟨token.lexeme, token.span⟩

/-- The procedure for one operator, with the symbol that writes it. -/
def operator (symbol : Symbol) (meaning : Operator) : Procedure (Operator × Span) := do
  let token ← .token (.symbol symbol)
  return (meaning, token.span)

/-- The procedure for the operators of sums. -/
def additive : Procedure (Operator × Span) := operator .plus .plus <|> operator .minus .minus

/-- The procedure for the operators of products. -/
def multiplicative : Procedure (Operator × Span) :=
  operator .star .times <|> operator .slash .divide

/-- The procedure for operands with signs between them. -/
def chain (sign : Procedure (Operator × Span)) (operand : Procedure Expr) : Procedure Expr := do
  let head ← operand
  let tail ← .repeated do
    let step ← sign
    let right ← operand
    return (step, right)
  return Grammar.groupLeft head tail

/-- The procedure for items with a separator between them, at least one. -/
def separated {α : Type} (body : Procedure α) (separator : Symbol) : Procedure (List α) := do
  let first ← body
  let later ← .repeated do
    let _ ← .token (.symbol separator)
    body
  return first :: later

/-- The procedure for an expression in parentheses, which leave no trace in the tree. -/
def group : Procedure Expr := do
  let (_, expr) ← .bracketed .leftParen do
    let expr ← .expression
    let _ ← .token (.symbol .rightParen)
    return expr
  return expr

/-- Items with commas between them, or none, in brackets. -/
def enclosed {α : Type} (opening closing : Symbol) (item : Procedure α)
    (make : List α → Span → Expr) : Procedure Expr := do
  let (left, items, right) ← .bracketed opening do
    let items ← .optional (separated item .comma)
    let right ← .token (.symbol closing)
    return (items.getD [], right)
  return make items (left.span.through right.span)

/-- The procedure for a list. -/
def list : Procedure Expr := enclosed .leftBracket .rightBracket .expression .list

/-- The procedure for a key, a colon and a value. -/
def pair : Procedure (Expr × Expr) := do
  let key ← string
  let _ ← .token (.symbol .colon)
  let value ← .expression
  return (key, value)

/-- The procedure for a dictionary. -/
def dictionary : Procedure Expr := enclosed .leftBrace .rightBrace pair .dictionary

/-- The procedure for a factor, with its alternatives in the order in which they are tried. -/
def factor : Procedure Expr :=
  literal <|> Expr.name <$> name <|> list <|> dictionary <|> group

/-- The procedure for products. -/
def term : Procedure Expr := chain multiplicative factor

/-- What the rule for expressions does each time it is entered. -/
def sum : Procedure Expr := chain additive term

/-- The procedure for a name, an equality sign and an expression. -/
def assignment : Procedure Statement := do
  let target ← name
  let _ ← .token (.symbol .equal)
  let value ← .expression
  return .assignment target value

/-- The procedure for a statement. An assignment is tried first. -/
def statement : Procedure Statement := assignment <|> Statement.expression <$> .expression

section Rules

variable (limit : Nat) (inner : Rule Expr)

/-- The procedure for the literal of a token is the rule for it, by cases on whether the token has a
value. -/
theorem rule_literalOf (token : Token) :
    (literalOf token).rule limit inner = Grammar.literalOf token := by
  unfold literalOf Grammar.literalOf
  cases token.value? <;> rfl

/-- The procedure for literals does what the rule does. Both choose a token in the same way, so only
what is made of it has to be compared. -/
theorem rule_literal : literal.rule limit inner = Grammar.literal :=
  congrArg (bind (m := Rule) _) (funext (rule_literalOf limit inner))

/-- The procedure for strings does what the rule does. -/
theorem rule_string : string.rule limit inner = Grammar.string :=
  congrArg (bind _) (funext (rule_literalOf limit inner))

/-- The procedure for chains does what the rule for chains does with the signs and the operands that
the parts read. -/
theorem rule_chain (sign : Procedure (Operator × Span)) (operand : Procedure Expr) :
    (chain sign operand).rule limit inner =
      Grammar.chain (sign.rule limit inner) (operand.rule limit inner) := rfl

/-- Items in brackets, written out as a rule. Lists and dictionaries are both of this form. -/
theorem rule_enclosed {α : Type} (opening closing : Symbol) (item : Procedure α)
    (make : List α → Span → Expr) :
    (enclosed opening closing item make).rule limit inner = (do
      let (left, items, right) ← Rule.bracketed limit opening do
        let items ← Rule.optional (Rule.separated (item.rule limit inner) .comma)
        let right ← Rule.token (.symbol closing)
        return (items.getD [], right)
      return make items (left.span.through right.span)) := rfl

/-- The procedure for pairs does what the rule does, with any rule for the value. -/
theorem rule_pair : pair.rule limit inner = Grammar.pair inner := by
  have key := rule_string limit inner
  change (string.rule limit inner >>= _) = _
  rw [key]
  rfl

/-- The procedure for dictionaries does what the rule does. -/
theorem rule_dictionary : dictionary.rule limit inner = Grammar.dictionary limit inner := by
  rw [dictionary, rule_enclosed, rule_pair]
  rfl

/-- The procedure for factors tries the same alternatives as the rule, in the same order. All but
literals and dictionaries are the same by definition. -/
theorem rule_factor : factor.rule limit inner = Grammar.factor limit inner := by
  change (literal.rule limit inner <|> (_ <|> (_ <|> (dictionary.rule limit inner <|> _)))) = _
  rw [rule_literal, rule_dictionary]
  rfl

/-- The procedure for products does what the rule does. -/
theorem rule_term : term.rule limit inner = Grammar.term limit inner := by
  rw [term, rule_chain, rule_factor]
  rfl

/-- What the procedure for sums does is the rule for expressions, over any rule for the expressions
inside of brackets. -/
theorem rule_sum : sum.rule limit inner = Grammar.expression limit inner := by
  rw [sum, rule_chain, rule_term]
  rfl

end Rules

end Procedure

end Formula
