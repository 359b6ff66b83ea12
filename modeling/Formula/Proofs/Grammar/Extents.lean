import Formula.Proofs.Grammar.Origin

/-!
# What the span of an expression reaches over

An operation is stored with the span of its operator alone, and a group is not stored at all. The
span of an expression is found again from its leftmost and its rightmost operand, and with that
parentheses are lost: it reaches from the first token that does not open a parenthesis to the last
that does not close one. This is shown of all tokens from which an expression is derived, by going
over the derivation, and then of every part of a tree, which is derived from tokens that stand
together.
-/

namespace Formula

/-- The first of these tokens that does not open a parenthesis starts here. -/
def StartsAt (tokens : List Token) (start : Position) : Prop :=
  ∃ outside first rest, tokens = outside ++ first :: rest ∧
    (∀ token ∈ outside, token.kind = .symbol .leftParen) ∧ first.kind ≠ .symbol .leftParen ∧
    start = first.span.start

/-- The last of these tokens that does not close a parenthesis stops here. -/
def StopsAt (tokens : List Token) (stop : Position) : Prop :=
  ∃ rest last outside, tokens = rest ++ last :: outside ∧
    (∀ token ∈ outside, token.kind = .symbol .rightParen) ∧ last.kind ≠ .symbol .rightParen ∧
    stop = last.span.stop

/-- The span reaches over these tokens, without parentheses around them. -/
structure Extent (tokens : List Token) (span : Span) : Prop where
  starts : StartsAt tokens span.start
  stops : StopsAt tokens span.stop

section Ends

variable {tokens : List Token} {token : Token} {start stop : Position} {span : Span}

/-- Tokens with no parenthesis in front start where the first of them starts. -/
theorem startsAt_cons (other : token.kind ≠ .symbol .leftParen) (rest : List Token) :
    StartsAt (token :: rest) token.span.start :=
  ⟨[], token, rest, rfl, by simp, other, rfl⟩

/-- Tokens with no parenthesis at the end stop where the last of them stops. -/
theorem stopsAt_concat (other : token.kind ≠ .symbol .rightParen) (front : List Token) :
    StopsAt (front ++ [token]) token.span.stop :=
  ⟨front, token, [], rfl, by simp, other, rfl⟩

/-- Where tokens start does not depend on what comes after them. -/
theorem StartsAt.append (starts : StartsAt tokens start) (later : List Token) :
    StartsAt (tokens ++ later) start := by
  obtain ⟨outside, first, rest, rfl, opens, other, same⟩ := starts
  exact ⟨outside, first, rest ++ later, List.append_assoc .., opens, other, same⟩

/-- Where tokens stop does not depend on what comes before them. -/
theorem StopsAt.append (stops : StopsAt tokens stop) (front : List Token) :
    StopsAt (front ++ tokens) stop := by
  obtain ⟨rest, last, outside, rfl, closes, other, same⟩ := stops
  exact ⟨front ++ rest, last, outside, (List.append_assoc ..).symm, closes, other, same⟩

/-- One parenthesis more in front is one more that is passed over. -/
theorem StartsAt.opened (starts : StartsAt tokens start) (opens : token.kind = .symbol .leftParen) :
    StartsAt (token :: tokens) start := by
  obtain ⟨outside, first, rest, rfl, opens', other, same⟩ := starts
  exact ⟨token :: outside, first, rest, rfl, List.forall_mem_cons.mpr ⟨opens, opens'⟩, other, same⟩

/-- One parenthesis more at the end is one more that is passed over. -/
theorem StopsAt.closed (stops : StopsAt tokens stop) (closes : token.kind = .symbol .rightParen) :
    StopsAt (tokens ++ [token]) stop := by
  obtain ⟨rest, last, outside, rfl, closes', other, same⟩ := stops
  refine ⟨rest, last, outside ++ [token], by simp, ?_, other, same⟩
  exact List.forall_mem_append.mpr ⟨closes', List.forall_mem_singleton.mpr closes⟩

/-- A token that is no parenthesis reaches over itself. -/
theorem extent_single (notOpening : token.kind ≠ .symbol .leftParen)
    (notClosing : token.kind ≠ .symbol .rightParen) : Extent [token] token.span :=
  ⟨startsAt_cons notOpening [], stopsAt_concat notClosing []⟩

/-- Parentheses around the tokens make no difference. -/
theorem Extent.group {left right : Token} (extent : Extent tokens span)
    (opens : left.kind = .symbol .leftParen) (closes : right.kind = .symbol .rightParen) :
    Extent (left :: (tokens ++ [right])) span :=
  ⟨(extent.starts.append [right]).opened opens, (extent.stops.closed closes).append [left]⟩

/-- Other brackets are the ends themselves. -/
theorem extent_bracketed {left right : Token} (notOpening : left.kind ≠ .symbol .leftParen)
    (notClosing : right.kind ≠ .symbol .rightParen) (inside : List Token) :
    Extent (left :: (inside ++ [right])) (left.span.through right.span) :=
  ⟨startsAt_cons notOpening _, (stopsAt_concat notClosing inside).append [left]⟩

end Ends

namespace Expr

/-- The operand that an expression starts with. -/
def leftmost : Expr → Expr
  | .operation _ left _ _ => leftmost left
  | operand => operand

/-- The operand that an expression stops with. -/
def rightmost : Expr → Expr
  | .operation _ _ right _ => rightmost right
  | operand => operand

/-- An operation starts where its left operand starts, and so where its leftmost operand does. By
following the operands to the left. -/
theorem start_leftmost (expr : Expr) : expr.leftmost.start = expr.start := by
  fun_induction leftmost expr with
  | case1 operator left right span ih => exact ih
  | case2 => rfl

/-- In the same way an operation stops where its rightmost operand stops. -/
theorem stop_rightmost (expr : Expr) : expr.rightmost.stop = expr.stop := by
  fun_induction rightmost expr with
  | case1 operator left right span ih => exact ih
  | case2 => rfl

/-- The tokens that a part of a tree is made of: one for a literal or a name; those from bracket to
bracket for a list or a dictionary; those of both operands and the operator between them for an
operation. -/
inductive MadeOf : List Token → Expr → Prop
  | literal (token : Token) (value : Value) (denotes : token.value? = some value) :
      MadeOf [token] (.literal value token.span)
  | name (token : Token) (isName : token.kind = .name) :
      MadeOf [token] (.name ⟨token.lexeme, token.span⟩)
  | list (left right : Token) (inside : List Token) (elements : List Expr)
      (opens : left.kind = .symbol .leftBracket) (closes : right.kind = .symbol .rightBracket) :
      MadeOf (left :: (inside ++ [right])) (.list elements ⟨left.span.start, right.span.stop⟩)
  | dictionary (left right : Token) (inside : List Token) (pairs : List (Expr × Expr))
      (opens : left.kind = .symbol .leftBrace) (closes : right.kind = .symbol .rightBrace) :
      MadeOf (left :: (inside ++ [right])) (.dictionary pairs ⟨left.span.start, right.span.stop⟩)
  | operation (front back : List Token) (sign : Token) (operator : Operator) (left right : Expr)
      (written : sign.kind = .symbol operator.symbol) (ofLeft : Extent front left.span)
      (ofRight : Extent back right.span) :
      MadeOf (front ++ sign :: back) (.operation operator left right sign.span)

end Expr

namespace Grammar

variable {depth : Nat} {tokens : List Token} {expr : Expr} {signs : List (Symbol × Operator)}

/-- The token of a literal is no parenthesis, and reaches over itself. -/
theorem extent_of_literal {token : Token} {value : Value} (denotes : token.value? = some value) :
    Extent [token] token.span := by
  have isLiteral := token.value?_isSome.mp (Option.isSome_of_mem denotes)
  refine extent_single ?_ ?_ <;> rintro isParen <;> simp [isParen] at isLiteral

/-- The span of a chain reaches from its first operand to its last. By induction over the chain: the
front of it starts the whole, and the last operand stops it. -/
theorem Chain.extent
    (derived : Chain signs (fun tokens expr => Extent tokens expr.span) tokens expr) :
    Extent tokens expr.span := by
  induction derived with
  | single operand => exact operand
  | @more front _ _ _ _ _ _ last ofLeft =>
    obtain ⟨sign, _, _, back, right, _, _, ofRight⟩ := last
    exact ⟨ofLeft.starts.append _, (ofRight.stops.append [sign]).append front⟩

/-- Whatever tokens an expression is derived from, its span reaches over them. By induction over the
derivation; parentheses make no difference, other brackets give the ends themselves, and a chain has
the ends of its first and last operands. -/
theorem extent_of_nested (derived : Nested depth tokens expr) : Extent tokens expr.span := by
  refine Nested.induction (fun _ tokens expr => Extent tokens expr.span)
    (fun _ tokens expr => Extent tokens expr.span) (fun _ tokens expr => Extent tokens expr.span)
    ?factor ?term ?whole derived
  case term => exact fun _ _ _ chain => chain.extent
  case whole => exact fun _ _ _ chain => chain.extent
  case factor =>
    intro depth tokens expr derived
    cases derived with
    | literal token value denotes => exact extent_of_literal denotes
    | name token isName => exact extent_single (by simp [isName]) (by simp [isName])
    | list _ left elements right room derived =>
      obtain ⟨_, _, _, opens, inside, _, _, _, closes⟩ := derived
      exact extent_bracketed (by simp [opens]) (by simp [closes]) inside
    | dictionary _ left pairs right room derived =>
      obtain ⟨_, _, _, opens, inside, _, _, _, closes⟩ := derived
      exact extent_bracketed (by simp [opens]) (by simp [closes]) inside
    | group _ left _ right room derived =>
      obtain ⟨lower, rfl⟩ := Nat.exists_eq_add_one.mpr room
      obtain ⟨_, _, _, opens, inside, _, _, extent, closes⟩ := derived
      exact Extent.group extent opens closes

/-- Every part of the tree is derived from some of the tokens that stand together, and made of
them. -/
def Traced (tokens : List Token) (expr : Expr) : Prop :=
  ∀ part ∈ expr.parts, ∃ depth inside, inside <:+: tokens ∧ Nested depth inside part ∧
    part.MadeOf inside

/-- What is traced to some tokens is traced to more tokens around them. -/
theorem Traced.within {inside : List Token} (traced : Traced inside expr)
    (within : inside <:+: tokens) : Traced tokens expr := by
  intro part member
  obtain ⟨depth, own, stands, derived, made⟩ := traced part member
  exact ⟨depth, own, stands.trans within, derived, made⟩

/-- An expression without further parts is traced to its tokens if it is derived from them. -/
theorem traced_leaf (alone : expr.parts = [expr]) (derived : Nested depth tokens expr)
    (made : expr.MadeOf tokens) : Traced tokens expr := by
  intro part member
  rw [alone] at member
  obtain rfl := List.mem_singleton.mp member
  exact ⟨depth, tokens, List.infix_rfl, derived, made⟩

/-- An operation is traced to its tokens if its operands are traced to what is before and after the
sign. The parts of the operation are the operation itself and those of the operands. -/
theorem traced_operation {front back : List Token} {sign : Token} {operator : Operator}
    {left right : Expr} (ofLeft : Traced front left) (ofRight : Traced back right)
    (derived : Nested depth (front ++ sign :: back) (.operation operator left right sign.span))
    (made : Expr.MadeOf (front ++ sign :: back) (.operation operator left right sign.span)) :
    Traced (front ++ sign :: back) (.operation operator left right sign.span) := by
  have inFront := (List.prefix_append front (sign :: back)).isInfix
  have inBack := ((List.suffix_cons sign back).trans (List.suffix_append front _)).isInfix
  exact Expr.forall_parts_operation.mpr ⟨⟨depth, _, List.infix_rfl, derived, made⟩,
    ofLeft.within inFront, ofRight.within inBack⟩

/-- A chain is derived from its operands, with all that is in front of an operator as its left
operand. By induction over the chain: what is in front is a chain as well, so it is derived as an
expression in its own right. -/
theorem Chain.traced {operand : Language Expr}
    (derived : Chain signs (fun tokens expr => operand tokens expr ∧ Traced tokens expr) tokens expr)
    (listed : ∀ pair ∈ signs, pair.1 = pair.2.symbol)
    (whole : ∀ tokens expr, Chain signs operand tokens expr → Nested depth tokens expr) :
    Chain signs operand tokens expr ∧ Traced tokens expr := by
  induction derived with
  | single both => exact ⟨.single both.1, both.2⟩
  | @more front _ left right operator _ _ last ih =>
    obtain ⟨ofLeft, tracedLeft⟩ := ih
    obtain ⟨sign, symbol, _, back, _, isListed, written, ofRight, tracedRight⟩ := last
    have chain := ofLeft.more (.signed sign symbol operator back right isListed written ofRight)
    have spelled : symbol = operator.symbol := listed (symbol, operator) isListed
    have made : Expr.MadeOf (front ++ sign :: back) (.operation operator left right sign.span) :=
      .operation front back sign operator left right (spelled ▸ written)
        (extent_of_nested (whole front left ofLeft))
        (extent_of_nested (whole back right (.single ofRight)))
    exact ⟨chain, traced_operation tracedLeft tracedRight (whole _ _ chain) made⟩

/-- Every part of an expression is derived from tokens that stand together in those of the
expression. By induction over the derivation, which carries along that the expression itself is a
factor, a term or nested; without that, the operands of a chain could not be traced as
expressions. -/
theorem traced_of_nested (derived : Nested depth tokens expr) : Traced tokens expr := by
  refine (Nested.induction
    (fun depth tokens expr => Factor (Inside Nested depth) depth tokens expr ∧ Traced tokens expr)
    (fun depth tokens expr => Term (Inside Nested depth) depth tokens expr ∧ Traced tokens expr)
    (fun depth tokens expr => Nested depth tokens expr ∧ Traced tokens expr)
    ?factor ?term ?whole derived).2
  case term =>
    intro depth tokens expr derived
    exact derived.traced (by simp [multiplicativeSigns, Operator.symbol])
      fun _ _ => nested_of_term
  case whole =>
    intro depth tokens expr derived
    rw [nested_eq]
    exact derived.traced (by simp [additiveSigns, Operator.symbol]) fun _ _ => nested_of_expression
  case factor =>
    intro depth tokens expr derived
    have wide (tokens : List Token) (expr : Expr) : Inside (fun depth tokens expr =>
        Nested depth tokens expr ∧ Traced tokens expr) depth tokens expr →
        Inside Nested depth tokens expr := by
      cases depth with
      | zero => exact id
      | succ depth => exact And.left
    have own := derived.mono (Nat.le_refl depth) wide
    refine ⟨own, ?_⟩
    have nested : Nested depth tokens expr := nested_of_term (.single own)
    cases derived with
    | literal token value denotes => exact traced_leaf rfl nested (.literal token value denotes)
    | name token isName => exact traced_leaf rfl nested (.name token isName)
    | list _ left elements right room derived =>
      obtain ⟨lower, rfl⟩ := Nat.exists_eq_add_one.mpr room
      obtain ⟨_, _, _, opens, inside, _, _, items, closes⟩ := derived
      intro part member
      obtain rfl | further := List.mem_cons.mp member
      · exact ⟨_, _, List.infix_rfl, nested, .list left right inside elements opens closes⟩
      · obtain ⟨element, isElement, isPart⟩ := Expr.mem_elementParts_iff.mp further
        obtain ⟨own, within, _, traced⟩ := items.exists_derived isElement
        exact traced.within (within.trans ⟨[left], [right], rfl⟩) part isPart
    | dictionary _ left pairs right room derived =>
      obtain ⟨lower, rfl⟩ := Nat.exists_eq_add_one.mpr room
      obtain ⟨_, _, _, opens, inside, _, _, items, closes⟩ := derived
      intro part member
      obtain rfl | further := List.mem_cons.mp member
      · exact ⟨_, _, List.infix_rfl, nested, .dictionary left right inside pairs opens closes⟩
      · obtain ⟨pair, isPair, isPart⟩ := Expr.mem_pairParts_iff.mp further
        obtain ⟨own, within, key, value, colon, later, bound, _, denotes, _, _, traced⟩ :=
          items.exists_derived isPair
        have inAll := within.trans ⟨[left], [right], rfl⟩
        obtain ofKey | ofValue := isPart
        · have literal : Nested lower [key] (.literal value key.span) := nested_literal denotes
          have traced := traced_leaf rfl literal (.literal key value denotes)
          exact traced.within ((List.prefix_append [key] (colon :: later)).isInfix.trans inAll) part
            ofKey
        · exact traced.within ((List.suffix_append [key, colon] later).isInfix.trans inAll) part
            ofValue
    | group _ left _ right room derived =>
      obtain ⟨lower, rfl⟩ := Nat.exists_eq_add_one.mpr room
      obtain ⟨_, _, _, _, inside, _, _, ⟨_, traced⟩, _⟩ := derived
      exact traced.within ⟨[left], [right], rfl⟩

/-- An assignment starts with its name, which is no parenthesis, and stops where its expression
stops. Any other statement is an expression. -/
theorem extent_of_derives {statement : Statement} (derived : Derives depth tokens statement) :
    Extent tokens statement.span := by
  cases derived with
  | assignment name equal later expr isName assigns derived =>
    have value := extent_of_nested derived
    exact ⟨startsAt_cons (by simp [isName]) _, value.stops.append [name, equal]⟩
  | expression _ expr derived => exact extent_of_nested derived

end Grammar

namespace Statement

open Grammar

/-- What spans reach over, wherever the tokens stand. The span of a statement reaches from the first
of its tokens that does not open a parenthesis to the last that does not close one. So does the span
of every part of its tree, whatever tokens the part is derived from; it is derived from tokens that
stand together, and reaches from its leftmost to its rightmost operand. A list and a dictionary have
the span from bracket to bracket. -/
theorem extent_of_ofTokens {tokens : List Token} {statement : Statement}
    (read : ofTokens tokens = .ok statement) :
    Extent tokens statement.span ∧
    ∀ part ∈ statement.expr.parts,
      (∃ depth inside, inside <:+: tokens ∧ Nested depth inside part ∧ part.MadeOf inside) ∧
      (∀ depth inside, Nested depth inside part → Extent inside part.span) ∧
      part.span = ⟨part.leftmost.span.start, part.rightmost.span.stop⟩ := by
  have derives := ofTokens_eq_ok_iff.mp read
  obtain ⟨own, within, derived⟩ := exists_nested_of_derives derives
  refine ⟨extent_of_derives derives, fun part member => ⟨?_, ?_, ?_⟩⟩
  · exact (traced_of_nested derived).within within.isInfix part member
  · exact fun depth inside derived => extent_of_nested derived
  · rw [Expr.span, Expr.span, Expr.span, part.start_leftmost, part.stop_rightmost]

/-- The statement `(1)` has the span of its second token. -/
theorem extent_of_ofTokens_group :
    Extent [⟨.symbol .leftParen, "(", ⟨⟨1, 1⟩, ⟨1, 2⟩⟩⟩, ⟨.integer 1, "1", ⟨⟨1, 2⟩, ⟨1, 3⟩⟩⟩,
      ⟨.symbol .rightParen, ")", ⟨⟨1, 3⟩, ⟨1, 4⟩⟩⟩] ⟨⟨1, 2⟩, ⟨1, 3⟩⟩ := by
  have inside : Closed .rightParen (Nested 99) _ (_, _) := .closed
    [⟨.integer 1, "1", ⟨⟨1, 2⟩, ⟨1, 3⟩⟩⟩] _ ⟨.symbol .rightParen, ")", ⟨⟨1, 3⟩, ⟨1, 4⟩⟩⟩
    (nested_literal rfl) rfl
  have group : Nested maxNesting _ _ := expression_of_factor
    (.group _ ⟨.symbol .leftParen, "(", ⟨⟨1, 1⟩, ⟨1, 2⟩⟩⟩ _ _ (by decide) (.opened _ _ _ rfl inside))
  exact (extent_of_ofTokens (ofTokens_eq_ok_iff.mpr (.expression _ _ group))).1

end Statement

end Formula
