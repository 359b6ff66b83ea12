import Formula.Grammar.Statement

/-!
# The grammar as a relation

Which tokens make a statement, and which tree they make, said without any order of trying and
without a way back:

* statement: a name, `=` and an expression, or an expression;
* expression: terms with `+` or `-` between them;
* term: factors with `*` or `/` between them;
* factor: a literal, a name, a list, a dictionary, or an expression in parentheses;
* list: expressions with commas between them, or nothing, in brackets;
* dictionary: pairs with commas between them, or nothing, in braces;
* pair: a string, `:` and an expression.

A production is stated over the language of the expressions inside brackets, so none is recursive
by itself. The recursion is in `Nested`, which counts the brackets around one place.
-/

namespace Formula.Grammar

/-- Which tokens are read into which result. -/
abbrev Language (α : Type) : Type := List Token → α → Prop

/-- The operators of sums, with the symbols that write them. -/
def additiveSigns : List (Symbol × Operator) := [(.plus, .plus), (.minus, .minus)]

/-- The operators of products, with the symbols that write them. -/
def multiplicativeSigns : List (Symbol × Operator) := [(.star, .times), (.slash, .divide)]

section Productions

variable {α : Type}

/-- Any number of items one after another. -/
inductive Star (item : Language α) : Language (List α)
  | none : Star item [] []
  | more (tokens : List Token) (result : α) (later : List Token) (results : List α)
      (derived : item tokens result) (others : Star item later results) :
      Star item (tokens ++ later) (result :: results)

/-- An item after a comma. -/
inductive AfterComma (item : Language α) : Language α
  | next (comma : Token) (tokens : List Token) (result : α) (parts : comma.kind = .symbol .comma)
      (derived : item tokens result) : AfterComma item (comma :: tokens) result

/-- One or more items with commas between them, in order. -/
inductive Separated (item : Language α) : Language (List α)
  | parted (tokens : List Token) (result : α) (later : List Token) (results : List α)
      (derived : item tokens result) (others : Star (AfterComma item) later results) :
      Separated item (tokens ++ later) (result :: results)

/-- Items with commas between them, or nothing. -/
inductive Items (item : Language α) : Language (List α)
  | none : Items item [] []
  | some (tokens : List Token) (results : List α) (derived : Separated item tokens results) :
      Items item tokens results

/-- Something and the symbol that closes it. -/
inductive Closed (closing : Symbol) (inner : Language α) : Language (α × Token)
  | closed (tokens : List Token) (result : α) (right : Token) (derived : inner tokens result)
      (closes : right.kind = .symbol closing) : Closed closing inner (tokens ++ [right]) (result, right)

/-- An opening symbol and what stands after it up to the closing one. The two tokens are part of
    the result, because a list and a dictionary reach from one to the other. -/
inductive Enclosed (opening closing : Symbol) (inner : Language α) : Language (Token × α × Token)
  | opened (left : Token) (tokens : List Token) (result : α × Token)
      (opens : left.kind = .symbol opening) (derived : Closed closing inner tokens result) :
      Enclosed opening closing inner (left :: tokens) (left, result)

/-- An operator and its right operand. -/
inductive Step (signs : List (Symbol × Operator)) (operand : Language Expr) :
    Language ((Operator × Span) × Expr)
  | signed (sign : Token) (symbol : Symbol) (operator : Operator) (tokens : List Token)
      (expr : Expr) (listed : (symbol, operator) ∈ signs) (written : sign.kind = .symbol symbol)
      (derived : operand tokens expr) :
      Step signs operand (sign :: tokens) ((operator, sign.span), expr)

/-- One or more operands with operators between them. All that stands in front of the last operator
is its left operand, so operators of one precedence nest to the left. -/
inductive Chain (signs : List (Symbol × Operator)) (operand : Language Expr) : Language Expr
  | single {tokens : List Token} {expr : Expr} (derived : operand tokens expr) :
      Chain signs operand tokens expr
  | more {front back : List Token} {left right : Expr} {operator : Operator} {span : Span}
      (derived : Chain signs operand front left)
      (last : Step signs operand back ((operator, span), right)) :
      Chain signs operand (front ++ back) (.operation operator left right span)

variable (inner : Language Expr)

/-- A string literal, a colon and an expression. -/
inductive Pair : Language (Expr × Expr)
  | bound (key : Token) (value : Value) (colon : Token) (tokens : List Token) (expr : Expr)
      (isString : key.kind = .string) (denotes : key.value? = some value)
      (parts : colon.kind = .symbol .colon) (derived : inner tokens expr) :
      Pair (key :: colon :: tokens) (.literal value key.span, expr)

variable (depth : Nat)

/-- An operand of the tightest operators. Parentheses give the tree of what they enclose. No
bracket is opened where the depth leaves no room for one. -/
inductive Factor : Language Expr
  | literal (token : Token) (value : Value) (denotes : token.value? = some value) :
      Factor [token] (.literal value token.span)
  | name (token : Token) (isName : token.kind = .name) :
      Factor [token] (.name ⟨token.lexeme, token.span⟩)
  | list (tokens : List Token) (left : Token) (elements : List Expr) (right : Token)
      (room : 0 < depth)
      (derived : Enclosed .leftBracket .rightBracket (Items inner) tokens (left, elements, right)) :
      Factor tokens (.list elements ⟨left.span.start, right.span.stop⟩)
  | dictionary (tokens : List Token) (left : Token) (pairs : List (Expr × Expr)) (right : Token)
      (room : 0 < depth)
      (derived : Enclosed .leftBrace .rightBrace (Items (Pair inner)) tokens
        (left, pairs, right)) :
      Factor tokens (.dictionary pairs ⟨left.span.start, right.span.stop⟩)
  | group (tokens : List Token) (left : Token) (expr : Expr) (right : Token) (room : 0 < depth)
      (derived : Enclosed .leftParen .rightParen inner tokens (left, expr, right)) :
      Factor tokens expr

/-- Factors with `*` or `/` between them. -/
abbrev Term : Language Expr := Chain multiplicativeSigns (Factor inner depth)

/-- Terms with `+` or `-` between them. -/
abbrev Expression : Language Expr := Chain additiveSigns (Term inner depth)

end Productions

/-- Expressions in which at most `depth` brackets are open around any place. -/
def Nested : (depth : Nat) → Language Expr
  | 0 => Expression (fun _ _ => False) 0
  | depth + 1 => Expression (Nested depth) (depth + 1)

/-- Statements in which at most `depth` brackets are open around any place. -/
inductive Derives (depth : Nat) : Language Statement
  | assignment (name equal : Token) (tokens : List Token) (expr : Expr)
      (isName : name.kind = .name) (assigns : equal.kind = .symbol .equal)
      (derived : Nested depth tokens expr) :
      Derives depth (name :: equal :: tokens) (.assignment ⟨name.lexeme, name.span⟩ expr)
  | expression (tokens : List Token) (expr : Expr) (derived : Nested depth tokens expr) :
      Derives depth tokens (.expression expr)

/-- Tokens that make a statement, however deep its brackets nest. -/
def IsStatement (tokens : List Token) : Prop := ∃ depth statement, Derives depth tokens statement

/-- Tokens that a statement can begin with. -/
def Viable (tokens : List Token) : Prop := ∃ later, IsStatement (tokens ++ later)

section Monotone

variable {α : Type} {signs : List (Symbol × Operator)}

/-- Items of a language are items of every wider language, any number of them. By induction over the
items. -/
theorem Star.mono {item wider : Language α}
    (wide : ∀ tokens result, item tokens result → wider tokens result) {tokens : List Token}
    {results : List α} (derived : Star item tokens results) : Star wider tokens results := by
  induction derived with
  | none => exact .none
  | more tokens result later results derived _ ih =>
    exact .more tokens result later results (wide _ _ derived) ih

/-- So are items with commas between them. -/
theorem Separated.mono {item wider : Language α}
    (wide : ∀ tokens result, item tokens result → wider tokens result) {tokens : List Token}
    {results : List α} (derived : Separated item tokens results) :
    Separated wider tokens results := by
  obtain ⟨tokens, result, later, results, derived, others⟩ := derived
  refine .parted tokens result later results (wide _ _ derived) (others.mono ?_)
  rintro _ _ ⟨comma, tokens, _, parts, derived⟩
  exact .next comma tokens _ parts (wide _ _ derived)

/-- So is a right operand with its operator. -/
theorem Step.mono {operand wider : Language Expr}
    (wide : ∀ tokens expr, operand tokens expr → wider tokens expr) {tokens : List Token}
    {step : (Operator × Span) × Expr} (derived : Step signs operand tokens step) :
    Step signs wider tokens step := by
  obtain ⟨sign, symbol, operator, tokens, expr, listed, written, derived⟩ := derived
  exact .signed sign symbol operator tokens expr listed written (wide _ _ derived)

/-- A chain of operands of a language is one of operands of a wider language, with the same tree. By
induction over the operators. -/
theorem Chain.mono {operand wider : Language Expr}
    (wide : ∀ tokens expr, operand tokens expr → wider tokens expr) {tokens : List Token}
    {expr : Expr} (derived : Chain signs operand tokens expr) : Chain signs wider tokens expr := by
  induction derived with
  | single derived => exact .single (wide _ _ derived)
  | more _ last ih => exact .more ih (last.mono wide)

/-- Items with commas between them may become wider, and none is none in any language. -/
theorem Items.mono {item wider : Language α}
    (wide : ∀ tokens result, item tokens result → wider tokens result) {tokens : List Token}
    {results : List α} (derived : Items item tokens results) : Items wider tokens results := by
  cases derived with
  | none => exact .none
  | some _ _ derived => exact .some tokens results (derived.mono wide)

/-- What stands in brackets may become wider. -/
theorem Enclosed.mono {opening closing : Symbol} {inner wider : Language α}
    (wide : ∀ tokens result, inner tokens result → wider tokens result) {tokens : List Token}
    {result : Token × α × Token} (derived : Enclosed opening closing inner tokens result) :
    Enclosed opening closing wider tokens result := by
  obtain ⟨left, _, _, opens, tokens, result, right, derived, closes⟩ := derived
  exact .opened left _ _ opens (.closed tokens result right (wide _ _ derived) closes)

/-- The value of a pair may become wider; its key is a token. -/
theorem Pair.mono {inner wider : Language Expr}
    (wide : ∀ tokens expr, inner tokens expr → wider tokens expr) {tokens : List Token}
    {pair : Expr × Expr} (derived : Pair inner tokens pair) : Pair wider tokens pair := by
  obtain ⟨key, value, colon, tokens, expr, isString, denotes, parts, derived⟩ := derived
  exact .bound key value colon tokens expr isString denotes parts (wide _ _ derived)

/-- A factor over a language is one over every wider language, with as much room for brackets or
more. By cases on the production. -/
theorem Factor.mono {inner wider : Language Expr} {depth limit : Nat} (within : depth ≤ limit)
    (wide : ∀ tokens expr, inner tokens expr → wider tokens expr) {tokens : List Token}
    {expr : Expr} (derived : Factor inner depth tokens expr) : Factor wider limit tokens expr := by
  cases derived with
  | literal token value denotes => exact .literal token value denotes
  | name token isName => exact .name token isName
  | list _ left elements right room derived =>
    have derived' := derived.mono fun _ _ items => items.mono wide
    exact .list tokens left elements right (Nat.lt_of_lt_of_le room within) derived'
  | dictionary _ left pairs right room derived =>
    have derived' := derived.mono fun _ _ items => items.mono fun _ _ pair => pair.mono wide
    exact .dictionary tokens left pairs right (Nat.lt_of_lt_of_le room within) derived'
  | group _ left _ right room derived =>
    exact .group tokens left expr right (Nat.lt_of_lt_of_le room within) (derived.mono wide)

/-- An expression over a language is one over every wider language: a chain of chains of factors,
each of which is wide. -/
theorem expression_mono {inner wider : Language Expr} {depth limit : Nat} (within : depth ≤ limit)
    (wide : ∀ tokens expr, inner tokens expr → wider tokens expr) {tokens : List Token}
    {expr : Expr} (derived : Expression inner depth tokens expr) :
    Expression wider limit tokens expr :=
  derived.mono fun _ _ term => term.mono fun _ _ factor => factor.mono within wide

/-- One more bracket may be open. By induction on how many may: what was derived inside a bracket
has one more inside it as well. -/
theorem nested_succ {depth : Nat} {tokens : List Token} {expr : Expr}
    (derived : Nested depth tokens expr) : Nested (depth + 1) tokens expr := by
  induction depth generalizing tokens expr with
  | zero => exact expression_mono (Nat.zero_le 1) (fun _ _ impossible => impossible.elim) derived
  | succ depth ih => exact expression_mono (Nat.le_succ _) (fun _ _ inside => ih inside) derived

/-- Any number of brackets more may be open, one after the other. -/
theorem nested_mono {depth limit : Nat} (within : depth ≤ limit) {tokens : List Token}
    {expr : Expr} (derived : Nested depth tokens expr) : Nested limit tokens expr := by
  induction within with
  | refl => exact derived
  | step _ ih => exact nested_succ ih

/-- A statement within a limit is one within every higher limit, because its expression is. -/
theorem Derives.mono {depth limit : Nat} (within : depth ≤ limit) {tokens : List Token}
    {statement : Statement} (derived : Derives depth tokens statement) :
    Derives limit tokens statement := by
  cases derived with
  | assignment name equal tokens expr isName assigns derived =>
    exact .assignment name equal tokens expr isName assigns (nested_mono within derived)
  | expression _ expr derived => exact .expression tokens expr (nested_mono within derived)

end Monotone

section Grouped

variable {α : Type} {item : Language α} {signs : List (Symbol × Operator)}
variable {operand : Language Expr} {tokens front back later : List Token} {head expr : Expr}
variable {steps : List ((Operator × Span) × Expr)}

/-- Items can be continued at the end as well, although they are built from the front. By induction
over those that come first. -/
theorem Star.snoc {results : List α} {result : α} (derived : Star item front results)
    (last : item back result) : Star item (front ++ back) (results ++ [result]) := by
  induction derived with
  | none => exact List.append_nil back ▸ .more back result [] [] last .none
  | more tokens first later results derived _ ih =>
    rw [List.append_assoc]
    exact .more tokens first _ _ derived ih

/-- One step more at the end puts one operation more around what was grouped before. This is the
equation of the chains of the grammar. -/
theorem groupLeft_snoc (head : Expr) (steps : List ((Operator × Span) × Expr))
    (step : (Operator × Span) × Expr) : groupLeft head (steps ++ [step]) =
      .operation step.1.1 (groupLeft head steps) step.2 step.1.2 := by
  rw [groupLeft, List.foldl_append]
  rfl

/-- A chain goes on with any number of steps, and the rule groups them as the grammar nests them.
By induction over the steps from the first on, each of which only makes the chain longer. -/
theorem Chain.grouped (derived : Chain signs operand tokens head)
    (others : Star (Step signs operand) later steps) :
    Chain signs operand (tokens ++ later) (groupLeft head steps) := by
  induction others generalizing tokens head with
  | none => exact (List.append_nil tokens).symm ▸ derived
  | more back step later steps last _ ih =>
    rw [← List.append_assoc]
    exact ih (derived.more last)

/-- The chains of the grammar are what the rule collects from the left: a first operand, the steps
after it, and the tree that it makes of them. -/
theorem chain_iff_grouped : Chain signs operand tokens expr ↔
    ∃ front head later steps, tokens = front ++ later ∧ operand front head ∧
      Star (Step signs operand) later steps ∧ expr = groupLeft head steps := by
  constructor
  · intro derived
    induction derived with
    | @single tokens expr derived =>
      exact ⟨tokens, expr, [], [], (List.append_nil tokens).symm, derived, .none, rfl⟩
    | @more _ back _ right operator span _ last ih =>
      obtain ⟨front, head, later, steps, rfl, derived, others, rfl⟩ := ih
      refine ⟨front, head, later ++ back, steps ++ [((operator, span), right)],
        List.append_assoc front later back, derived, others.snoc last, ?_⟩
      rw [groupLeft_snoc]
  · rintro ⟨front, head, later, steps, rfl, derived, others, rfl⟩
    exact Chain.grouped (.single derived) others

end Grouped

end Formula.Grammar
