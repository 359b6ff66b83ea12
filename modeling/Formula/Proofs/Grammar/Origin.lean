import Formula.Proofs.Expr.Parts
import Formula.Proofs.Grammar.Exact
import Formula.Proofs.Grammar.Induction

/-!
# Where the parts of a tree come from

Reading a statement makes up nothing: every literal, name and operator in its tree comes from a
token and stands where that token stands. A tree nests no deeper than the brackets around its
parts. Both are shown by one induction over derivations, in which the productions of the grammar
are the ways to put a tree together.
-/

namespace Formula

/-- The symbol that writes an operator. -/
def Operator.symbol : Operator → Symbol
  | .plus => .plus
  | .minus => .minus
  | .times => .star
  | .divide => .slash

/-- The sign of an operator is the character of its symbol. -/
theorem Operator.sign_eq (operator : Operator) :
    operator.sign = String.ofList [operator.symbol.char] := by
  cases operator <;> rfl

/-- The literal of a string token is a string. Tokens with other contents are not of that kind. -/
theorem Token.exists_text_of_kind {token : Token} {value : Value} (isString : token.kind = .string)
    (denotes : token.value? = some value) : ∃ text, value = .string text := by
  obtain ⟨content, lexeme, span⟩ := token
  cases content with
  | string text => exact ⟨text, (Option.some.inj denotes).symm⟩
  | integer | float | boolean | name | symbol => cases isString

namespace Grammar

section Members

variable {α : Type} {item : Language α} {tokens : List Token} {results : List α} {result : α}

/-- Each of several items is derived from tokens that stand together. By induction over the items,
where those of the later ones stand together in the whole as well. -/
theorem Star.exists_derived (derived : Star item tokens results) (member : result ∈ results) :
    ∃ part, part <:+: tokens ∧ item part result := by
  induction derived with
  | none => cases member
  | more front first later results derived _ ih =>
    obtain rfl | further := List.mem_cons.mp member
    · exact ⟨front, (List.prefix_append front later).isInfix, derived⟩
    · obtain ⟨part, within, derived⟩ := ih further
      exact ⟨part, within.trans (List.suffix_append front later).isInfix, derived⟩

/-- Each of the items between commas is derived from tokens that stand together. It is the first
one, or it comes after a comma, which is not one of its tokens. -/
theorem Separated.exists_derived (derived : Separated item tokens results)
    (member : result ∈ results) : ∃ part, part <:+: tokens ∧ item part result := by
  obtain ⟨front, first, later, others, derived, rest⟩ := derived
  obtain rfl | further := List.mem_cons.mp member
  · exact ⟨front, (List.prefix_append front later).isInfix, derived⟩
  · obtain ⟨part, within, comma, inside, _, _, derived⟩ := rest.exists_derived further
    have within := (List.suffix_cons comma inside).isInfix.trans within
    exact ⟨inside, within.trans (List.suffix_append front later).isInfix, derived⟩

/-- So is each of the items where there may be none. -/
theorem Items.exists_derived (derived : Items item tokens results) (member : result ∈ results) :
    ∃ part, part <:+: tokens ∧ item part result := by
  cases derived with
  | none => cases member
  | some _ _ derived => exact derived.exists_derived member

/-- What stands in brackets is derived from tokens between the brackets, which stand together
there. -/
theorem Enclosed.exists_derived {opening closing : Symbol} {left right : Token}
    (derived : Enclosed opening closing item tokens (left, result, right)) :
    ∃ part, part <:+: tokens ∧ item part result := by
  obtain ⟨_, _, _, _, inside, _, _, derived, _⟩ := derived
  have within := (List.prefix_append inside [right]).isInfix
  exact ⟨inside, within.trans (List.suffix_cons left _).isInfix, derived⟩

end Members

variable {all tokens : List Token}

/-- What holds of the trees that are derived from some of the tokens. -/
def Among (all : List Token) (holds : Expr → Prop) : Language Expr :=
  fun part expr => part ⊆ all → holds expr

/-- What holds of the operands of a chain, and goes over from operands to operations, holds of the
tree of the chain. By induction over the chain, the sign of each operation being one of the
tokens. -/
theorem Chain.among {signs : List (Symbol × Operator)} {holds : Expr → Prop} {expr : Expr}
    (derived : Chain signs (Among all holds) tokens expr)
    (listed : ∀ pair ∈ signs, pair.1 = pair.2.symbol)
    (operation : ∀ operator left right, ∀ sign ∈ all, sign.kind = .symbol operator.symbol →
      holds left → holds right → holds (.operation operator left right sign.span)) :
    Among all holds tokens expr := by
  induction derived with
  | single operand => exact operand
  | @more _ _ left right operator _ _ last ofLeft =>
    intro within
    obtain ⟨sign, symbol, _, _, _, isListed, written, ofRight⟩ := last
    rw [List.append_subset, List.cons_subset] at within
    have spelled : symbol = operator.symbol := listed (symbol, operator) isListed
    exact operation operator left right sign within.2.1 (spelled ▸ written) (ofLeft within.1)
      (ofRight within.2.2)

/-- What holds of literals and names, and goes over from the parts of a tree to the tree, holds of
all trees that are derived from some of the tokens. Every bracket goes one level down, also a
parenthesis, which leaves no trace in the tree.

The proof goes by induction over derivations. Factors have one case for each alternative; terms and
expressions only take what is known of their operands through a chain. -/
theorem nested_induction {motive : Nat → Expr → Prop}
    (literal : ∀ depth, ∀ token ∈ all, ∀ value, token.value? = some value →
      motive depth (.literal value token.span))
    (name : ∀ depth, ∀ token ∈ all, token.kind = .name →
      motive depth (.name ⟨token.lexeme, token.span⟩))
    (operation : ∀ depth operator left right, ∀ sign ∈ all, sign.kind = .symbol operator.symbol →
      motive depth left → motive depth right →
        motive depth (.operation operator left right sign.span))
    (list : ∀ depth elements span, (∀ element ∈ elements, motive depth element) →
      motive (depth + 1) (.list elements span))
    (dictionary : ∀ depth pairs span,
      (∀ pair ∈ pairs, (∃ key ∈ all, ∃ text, key.value? = some (.string text) ∧
        pair.1 = .literal (.string text) key.span) ∧ motive depth pair.2) →
      motive (depth + 1) (.dictionary pairs span))
    (group : ∀ depth expr, motive depth expr → motive (depth + 1) expr)
    {depth : Nat} {tokens : List Token} {expr : Expr} (derived : Nested depth tokens expr)
    (within : tokens ⊆ all) : motive depth expr := by
  refine Nested.induction (fun depth => Among all (motive depth))
    (fun depth => Among all (motive depth)) (fun depth => Among all (motive depth)) ?factor ?term
    ?whole derived within
  case term =>
    intro depth part expr terms
    exact terms.among (by simp [multiplicativeSigns, Operator.symbol]) (operation depth)
  case whole =>
    intro depth part expr whole
    exact whole.among (by simp [additiveSigns, Operator.symbol]) (operation depth)
  case factor =>
    intro depth part expr derived isPart
    cases derived with
    | literal token value denotes =>
      exact literal depth token (isPart List.mem_cons_self) value denotes
    | name token isName => exact name depth token (isPart List.mem_cons_self) isName
    | list _ left elements right room derived =>
      obtain ⟨lower, rfl⟩ := Nat.exists_eq_add_one.mpr room
      apply list lower
      intro element member
      obtain ⟨items, ofItems, derived⟩ := derived.exists_derived
      obtain ⟨tokens, ofElement, holds⟩ := derived.exists_derived member
      exact holds (List.Subset.trans (ofElement.trans ofItems).subset isPart)
    | dictionary _ left pairs right room derived =>
      obtain ⟨lower, rfl⟩ := Nat.exists_eq_add_one.mpr room
      apply dictionary lower
      intro pair member
      obtain ⟨items, ofItems, derived⟩ := derived.exists_derived
      obtain ⟨tokens, ofPair, key, value, colon, later, bound, isString, denotes, _, holds⟩ :=
        derived.exists_derived member
      have inAll := List.Subset.trans (ofPair.trans ofItems).subset isPart
      rw [List.cons_subset, List.cons_subset] at inAll
      obtain ⟨text, rfl⟩ := key.exists_text_of_kind isString denotes
      exact ⟨⟨key, inAll.1, text, denotes, rfl⟩, holds inAll.2.2⟩
    | group _ left _ right room derived =>
      obtain ⟨lower, rfl⟩ := Nat.exists_eq_add_one.mpr room
      obtain ⟨tokens, isInner, holds⟩ := derived.exists_derived
      exact group lower expr (holds (List.Subset.trans isInner.subset isPart))

end Grammar

/-- The expression of a statement. -/
def Statement.expr : Statement → Expr
  | .assignment _ value => value
  | .expression value => value

/-- Where a part of a tree comes from: a literal, a name and an operator from a token that stands in
its place, and the keys of a dictionary from string tokens. -/
inductive Expr.ReadFrom (tokens : List Token) : Expr → Prop
  | literal (token : Token) (value : Value) (member : token ∈ tokens)
      (denotes : token.value? = some value) : ReadFrom tokens (.literal value token.span)
  | name (token : Token) (member : token ∈ tokens) (isName : token.kind = .name) :
      ReadFrom tokens (.name ⟨token.lexeme, token.span⟩)
  | operation (operator : Operator) (left right : Expr) (sign : Token) (member : sign ∈ tokens)
      (written : sign.kind = .symbol operator.symbol) :
      ReadFrom tokens (.operation operator left right sign.span)
  | list (elements : List Expr) (span : Span) : ReadFrom tokens (.list elements span)
  | dictionary (pairs : List (Expr × Expr)) (span : Span)
      (keys : ∀ pair ∈ pairs, ∃ text span, pair.1 = .literal (.string text) span) :
      ReadFrom tokens (.dictionary pairs span)

namespace Statement

open Grammar

variable {tokens : List Token} {statement : Statement}

/-- The expression of a statement ends where the statement ends: it is all of the statement, or what
comes after the sign of the assignment. -/
theorem exists_nested_of_derives {depth : Nat} (derived : Derives depth tokens statement) :
    ∃ part, part <:+ tokens ∧ Nested depth part statement.expr := by
  cases derived with
  | assignment name equal later expr _ _ derived =>
    exact ⟨later, (List.suffix_cons equal later).trans (List.suffix_cons name _), derived⟩
  | expression _ expr derived => exact ⟨tokens, List.suffix_rfl, derived⟩

/-- The expression of a statement is derived from some of the tokens. -/
theorem exists_nested (read : ofTokens tokens = .ok statement) :
    ∃ part, part ⊆ tokens ∧ Nested maxNesting part statement.expr := by
  obtain ⟨part, within, derived⟩ := exists_nested_of_derives (ofTokens_eq_ok_iff.mp read)
  exact ⟨part, within.subset, derived⟩

/-- Everything in the tree of a statement comes from its tokens. By the induction over trees: a part
is the tree itself, which was made of a token or two, or a part of something further inside. -/
theorem readFrom_of_ofTokens (read : ofTokens tokens = .ok statement) :
    ∀ part ∈ statement.expr.parts, part.ReadFrom tokens := by
  obtain ⟨some, within, derived⟩ := exists_nested read
  refine nested_induction (motive := fun _ expr => ∀ part ∈ expr.parts, part.ReadFrom tokens)
    ?_ ?_ ?_ ?_ ?_ ?_ derived within
  · intro depth token member value denotes part isPart
    obtain rfl := List.mem_singleton.mp isPart
    exact .literal token value member denotes
  · intro depth token member isName part isPart
    obtain rfl := List.mem_singleton.mp isPart
    exact .name token member isName
  · intro depth operator left right sign member written ofLeft ofRight
    exact Expr.forall_parts_operation.mpr
      ⟨.operation operator left right sign member written, ofLeft, ofRight⟩
  · intro depth elements span ofElements part isPart
    obtain rfl | inside := List.mem_cons.mp isPart
    · exact .list elements span
    · obtain ⟨element, member, isPart⟩ := Expr.mem_elementParts_iff.mp inside
      exact ofElements element member part isPart
  · intro depth pairs span ofPairs part isPart
    obtain rfl | inside := List.mem_cons.mp isPart
    · apply Expr.ReadFrom.dictionary
      intro pair member
      obtain ⟨⟨key, -, text, -, isKey⟩, -⟩ := ofPairs pair member
      exact ⟨text, key.span, isKey⟩
    · obtain ⟨pair, member, isPart⟩ := Expr.mem_pairParts_iff.mp inside
      obtain ⟨⟨key, inTokens, text, denotes, isKey⟩, ofValue⟩ := ofPairs pair member
      obtain ofKey | inValue := isPart
      · rw [isKey] at ofKey
        obtain rfl := List.mem_singleton.mp ofKey
        exact .literal key (.string text) inTokens denotes
      · exact ofValue part inValue
  · intro depth expr inside
    exact inside

/-- The tree of a statement nests no deeper than brackets may be open. By the induction over trees:
lists and dictionaries are the only trees that nest, and each is inside of a bracket that was
counted. -/
theorem depth_le_of_ofTokens (read : ofTokens tokens = .ok statement) :
    statement.expr.depth ≤ maxNesting := by
  obtain ⟨some, within, derived⟩ := exists_nested read
  refine nested_induction (motive := fun depth expr => expr.depth ≤ depth) ?_ ?_ ?_ ?_ ?_ ?_ derived
    within
  · intro depth token member value denotes
    exact Nat.zero_le depth
  · intro depth token member isName
    exact Nat.zero_le depth
  · intro depth operator left right sign member written ofLeft ofRight
    exact Nat.max_le.mpr ⟨ofLeft, ofRight⟩
  · intro depth elements span ofElements
    exact Nat.succ_le_succ (Expr.elementDepth_le_iff.mpr ofElements)
  · intro depth pairs span ofPairs
    apply Nat.succ_le_succ
    apply Expr.pairDepth_le_iff.mpr
    intro pair member
    obtain ⟨⟨key, -, text, -, isKey⟩, ofValue⟩ := ofPairs pair member
    rw [isKey]
    exact ⟨Nat.zero_le depth, ofValue⟩
  · intro depth expr inside
    exact Nat.le_succ_of_le inside

end Statement

end Formula
