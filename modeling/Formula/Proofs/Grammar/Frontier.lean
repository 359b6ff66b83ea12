import Formula.Proofs.Grammar.Derivation

/-!
# The frontier of a statement read so far

After some tokens, what may come next depends on little: the brackets that are open, innermost
first, and what the place inside the innermost one waits for. A frontier holds these two things,
and moves token by token without ever going back. It says nothing about trees.

What moves a frontier is listed in the order in which it is tried, with the end of the statement
last. The frontier can also be moved under a limit on its brackets; what it reaches then, it reaches
without the limit as well.
-/

namespace Formula.Grammar

/-- The three kinds of brackets. -/
inductive Bracket where
  | group
  | list
  | dictionary
  deriving DecidableEq

namespace Bracket

/-- The symbol that opens a bracket. -/
def opening : Bracket → Symbol
  | .group => .leftParen
  | .list => .leftBracket
  | .dictionary => .leftBrace

/-- The symbol that closes a bracket. -/
def closing : Bracket → Symbol
  | .group => .rightParen
  | .list => .rightBracket
  | .dictionary => .rightBrace

end Bracket

/-- What a place in a statement waits for. -/
inductive Awaited where
  /-- The beginning of a statement. -/
  | statement
  /-- What follows a name at the beginning of a statement. -/
  | afterName
  | operand
  /-- What follows an operand: an operator, or what goes on around the expression. -/
  | afterOperand
  /-- The first element of a list, or its end. -/
  | firstElement
  /-- The first key of a dictionary, or its end. -/
  | firstKey
  | key
  | colon
  deriving DecidableEq

/-- A place in a statement: what it waits for, and the brackets open around it. -/
structure Frontier where
  awaited : Awaited
  brackets : List Bracket
  deriving DecidableEq

namespace Frontier

/-- The place where nothing is read yet. -/
def start : Frontier := ⟨.statement, []⟩

/-- After the first token of an operand. -/
def openOperand (brackets : List Bracket) : Token.Kind → Option Frontier
  | .integer | .float | .string | .boolean | .name => some ⟨.afterOperand, brackets⟩
  | .symbol .leftParen => some ⟨.operand, .group :: brackets⟩
  | .symbol .leftBracket => some ⟨.firstElement, .list :: brackets⟩
  | .symbol .leftBrace => some ⟨.firstKey, .dictionary :: brackets⟩
  | _ => none

/-- After the token that closes the innermost bracket. -/
def close : List Bracket → Token.Kind → Option Frontier
  | bracket :: outer, kind =>
    if kind = .symbol bracket.closing then some ⟨.afterOperand, outer⟩ else none
  | [], _ => none

/-- After a comma, which parts the items of lists and dictionaries. -/
def separate : List Bracket → Option Frontier
  | .list :: outer => some ⟨.operand, .list :: outer⟩
  | .dictionary :: outer => some ⟨.key, .dictionary :: outer⟩
  | _ => none

/-- The signs of products and sums, in the order in which they are tried. -/
def signKinds : List Token.Kind :=
  [.symbol .star, .symbol .slash, .symbol .plus, .symbol .minus]

/-- After the token that follows an operand. -/
def goOn (brackets : List Bracket) (kind : Token.Kind) : Option Frontier :=
  if kind ∈ signKinds then some ⟨.operand, brackets⟩
  else if kind = .symbol .comma then separate brackets
  else close brackets kind

/-- The frontier after one more token, if the token may stand there. -/
def next (place : Frontier) (kind : Token.Kind) : Option Frontier :=
  match place.awaited with
  | .statement =>
    if kind = .name then some ⟨.afterName, place.brackets⟩ else openOperand place.brackets kind
  | .afterName =>
    if kind = .symbol .equal then some ⟨.operand, place.brackets⟩ else goOn place.brackets kind
  | .operand => openOperand place.brackets kind
  | .afterOperand => goOn place.brackets kind
  | .firstElement => (close place.brackets kind).or (openOperand place.brackets kind)
  | .firstKey =>
    if kind = .string then some ⟨.colon, place.brackets⟩ else close place.brackets kind
  | .key => if kind = .string then some ⟨.colon, place.brackets⟩ else none
  | .colon => if kind = .symbol .colon then some ⟨.operand, place.brackets⟩ else none

/-- The frontier after some more tokens, if each of them may stand where it does. -/
def after (place : Frontier) (tokens : List Token) : Option Frontier :=
  tokens.foldlM (fun place token => place.next token.kind) place

/-- The same, as long as no more than `limit` brackets are open at any of the places on the way. -/
def within (limit : Nat) (place : Frontier) (tokens : List Token) : Option Frontier :=
  tokens.foldlM (fun place token =>
    (place.next token.kind).filter fun inside => inside.brackets.length ≤ limit) place

/-- Whether a statement may end here: nothing is missing behind a name or an operand, and no bracket
is open. -/
def isComplete (place : Frontier) : Bool :=
  (place.awaited == .afterName || place.awaited == .afterOperand) && place.brackets == []

/-- The kinds an operand may begin with, in the order in which they are tried. -/
def operandKinds : List Token.Kind :=
  [.integer, .float, .string, .boolean, .name, .symbol .leftBracket, .symbol .leftBrace,
    .symbol .leftParen]

/-- What closes the innermost bracket. -/
def closingKinds : List Bracket → List Token.Kind
  | [] => []
  | bracket :: _ => [.symbol bracket.closing]

/-- How the innermost bracket goes on after an operand. -/
def enclosingKinds (brackets : List Bracket) : List Token.Kind :=
  (if (separate brackets).isSome then [.symbol .comma] else []) ++ closingKinds brackets

/-- The kinds that may come next, in the order in which they are tried. -/
def kinds (place : Frontier) : List Token.Kind :=
  match place.awaited with
  | .statement => .name :: operandKinds
  | .afterName => .symbol .equal :: (signKinds ++ enclosingKinds place.brackets)
  | .operand => operandKinds
  | .afterOperand => signKinds ++ enclosingKinds place.brackets
  | .firstElement => operandKinds ++ closingKinds place.brackets
  | .firstKey => .string :: closingKinds place.brackets
  | .key => [.string]
  | .colon => [.symbol .colon]

/-- Everything that may come next: tokens of some kinds, and the end of a complete statement. -/
def expected (place : Frontier) : List Expectation :=
  place.kinds.map .token ++ if place.isComplete then [.endOfInput] else []

variable {place last : Frontier}

section Kinds

variable (brackets : List Bracket) (kind : Token.Kind)

/-- The listed kinds are those an operand can begin with. All kinds are gone through. -/
theorem mem_operandKinds_iff : kind ∈ operandKinds ↔ (openOperand brackets kind).isSome = true := by
  rcases kind with _ | _ | _ | _ | _ | mark <;> try cases mark
  all_goals simp [operandKinds, openOperand]

/-- What is listed as closing is what closes the innermost bracket, and nothing where none is
open. -/
theorem mem_closingKinds_iff : kind ∈ closingKinds brackets ↔ (close brackets kind).isSome = true := by
  cases brackets <;> simp [closingKinds, close]

/-- After an operand there may stand an operator, or what goes on around it. The signs, the comma
and the closing symbols exclude one another, so one case is enough for each. -/
theorem mem_goOn_iff :
    kind ∈ signKinds ++ enclosingKinds brackets ↔ (goOn brackets kind).isSome = true := by
  unfold goOn
  by_cases isSign : kind ∈ signKinds
  · simp [isSign]
  by_cases isComma : kind = .symbol .comma
  · have notClosing : Token.Kind.symbol .comma ∉ closingKinds brackets := by
      rcases brackets with _ | ⟨_ | _ | _, outer⟩ <;> simp [closingKinds, Bracket.closing]
    subst isComma
    simp [isSign, enclosingKinds, notClosing]
  · simp [isSign, isComma, enclosingKinds, mem_closingKinds_iff]

end Kinds

/-- The listed kinds are exactly those that move the frontier. Every place is gone through by what
it waits for, and the lists of operands, signs and closing symbols are compared one by one. -/
theorem mem_kinds_iff (place : Frontier) (kind : Token.Kind) :
    kind ∈ place.kinds ↔ (place.next kind).isSome = true := by
  have operands := mem_operandKinds_iff place.brackets kind
  have closings := mem_closingKinds_iff place.brackets kind
  have others := mem_goOn_iff place.brackets kind
  unfold kinds next
  cases place.awaited with
  | statement => by_cases isName : kind = .name <;> simp [isName, operands]
  | afterName => by_cases isEqual : kind = .symbol .equal <;> simp [isEqual, ← others]
  | operand => exact operands
  | afterOperand => exact others
  | firstElement => simp [operands, closings, Option.isSome_or, or_comm]
  | firstKey => by_cases isString : kind = .string <;> simp [isString, closings]
  | key => by_cases isString : kind = .string <;> simp [isString]
  | colon => by_cases isColon : kind = .symbol .colon <;> simp [isColon]

/-- No token does not move the frontier. -/
@[simp] theorem after_nil (place : Frontier) : place.after [] = some place := rfl

/-- The first token moves the frontier to where the others start from. -/
@[simp] theorem after_cons (place : Frontier) (token : Token) (rest : List Token) :
    place.after (token :: rest) = (place.next token.kind).bind (·.after rest) := rfl

/-- The frontier moves over tokens in two parts as it does over the whole. -/
theorem after_append (place : Frontier) (front rest : List Token) :
    place.after (front ++ rest) = (place.after front).bind (·.after rest) :=
  List.foldlM_append

/-- What was passed first needs no second look: the rest goes on from where it led. -/
theorem after_append_of_eq {front : List Token} (reached : place.after front = some last)
    (rest : List Token) : place.after (front ++ rest) = last.after rest := by
  rw [after_append, reached]
  rfl

/-- No token opens no bracket. -/
@[simp] theorem within_nil (limit : Nat) (place : Frontier) :
    place.within limit [] = some place := rfl

/-- A token that moves the frontier to a place within the limit leaves the others to that place. -/
theorem within_cons {limit : Nat} {inside : Frontier} {token : Token}
    (moved : place.next token.kind = some inside) (fits : inside.brackets.length ≤ limit)
    (rest : List Token) : place.within limit (token :: rest) = inside.within limit rest := by
  simp [within, moved, Option.filter, fits]

/-- What was passed within the limit leads the rest on, under the same limit. -/
theorem within_append {limit : Nat} {front : List Token}
    (reached : place.within limit front = some last) (rest : List Token) :
    place.within limit (front ++ rest) = last.within limit rest := by
  have split : place.within limit (front ++ rest) =
      (place.within limit front).bind (·.within limit rest) := List.foldlM_append
  rw [split, reached]
  rfl

/-- Two places that take a token in the same way reach the same places after it, since nothing else
is kept of them. -/
theorem within_of_alike {limit : Nat} {other : Frontier} {token : Token}
    (alike : place.next token.kind = other.next token.kind) (rest : List Token) :
    place.within limit (token :: rest) = other.within limit (token :: rest) := by
  simp only [within, List.foldlM_cons, alike]

/-- Where several tokens can be passed within a limit, the first of them can be passed. -/
theorem next_of_within {limit : Nat} {token : Token} {rest : List Token}
    (reached : place.within limit (token :: rest) = some last) :
    ∃ inside, place.next token.kind = some inside := by
  cases moved : place.next token.kind with
  | none => simp [within, moved] at reached
  | some inside => exact ⟨inside, rfl⟩

/-- The place that the first of them leads to has no more brackets open than the limit allows.
Otherwise it would have been filtered out. -/
theorem fits_of_within {limit : Nat} {inside : Frontier} {token : Token} {rest : List Token}
    (moved : place.next token.kind = some inside)
    (reached : place.within limit (token :: rest) = some last) :
    inside.brackets.length ≤ limit := by
  by_cases fits : inside.brackets.length ≤ limit
  · exact fits
  · simp [within, moved, Option.filter, fits] at reached

/-- What can be reached within a limit can be reached. By induction over the tokens, none of which
is filtered out. -/
theorem after_of_within {limit : Nat} {tokens : List Token}
    (reached : place.within limit tokens = some last) : place.after tokens = some last := by
  induction tokens generalizing place with
  | nil => exact reached
  | cons token rest ih =>
    cases moved : place.next token.kind with
    | none => simp [within, moved] at reached
    | some inside =>
      by_cases fits : inside.brackets.length ≤ limit
      · rw [within_cons moved fits] at reached
        simpa [moved] using ih reached
      · simp [within, moved, Option.filter, fits] at reached

/-- No place is a dead end: something may come next everywhere. -/
theorem kinds_ne_nil (place : Frontier) : place.kinds ≠ [] := by
  obtain ⟨awaited, brackets⟩ := place
  cases awaited <;> simp [kinds, operandKinds, signKinds]

end Frontier

end Formula.Grammar
