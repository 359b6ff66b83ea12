import Formula.Proofs.Grammar.Parts

/-!
# How far the rule for expressions reads

The alternatives of a factor are told apart by their first tokens. Each of them, and with them the
rules for terms and expressions, is taken over the rule for what stands in brackets. A bracket that
would be open inside too many others is refused before that rule is tried, so the rule matters only
where there is room for one bracket more, and the recursion is closed by induction on how many more
there is room for.
-/

namespace Formula.Grammar

variable {α : Type} {limit : Nat} {brackets : List Bracket}

/-- No factor is made of no tokens: it is a token, or begins with a bracket. -/
theorem factor_ne_nil {language : Language Expr} {depth : Nat} {tokens : List Token} {expr : Expr}
    (derived : Factor language depth tokens expr) : tokens ≠ [] := by
  cases derived with
  | literal | name => simp
  | list _ _ _ _ _ enclosed | dictionary _ _ _ _ _ enclosed | group _ _ _ _ _ enclosed =>
    obtain ⟨left, tokens, _, _, _⟩ := enclosed
    simp

/-- Nor is an expression, whose first factor would have none. Both kinds of chains are gone through
in one way. -/
theorem nested_ne_nil {depth : Nat} {tokens : List Token} {expr : Expr}
    (derived : Nested depth tokens expr) : tokens ≠ [] := by
  have chained {operand : Language Expr} {signs : List (Symbol × Operator)}
      (nonempty : ∀ tokens expr, operand tokens expr → tokens ≠ []) :
      ∀ tokens expr, Chain signs operand tokens expr → tokens ≠ [] := by
    intro tokens expr derived
    induction derived with
    | single derived => exact nonempty _ _ derived
    | more _ _ ih => simp [ih]
  cases depth with
  | zero => exact chained (chained fun _ _ => factor_ne_nil) tokens expr derived
  | succ depth => exact chained (chained fun _ _ => factor_ne_nil) tokens expr derived

/-- An opening bracket and what stands after it up to the closing one. What stands inside need not
be known where the bracket is refused, so what is said of it may depend on there being room. -/
theorem alternative_bracketed {body : Rule α} {inner : Language Expr} {depth : Nat}
    (language : Language α)
    (bracket : Bracket) (first : Awaited) (make : Token × α → Expr)
    (opens : Frontier.next ⟨.operand, brackets⟩ (.symbol bracket.opening) =
      some ⟨first, bracket :: brackets⟩)
    (keeps : body.Keeps)
    (reads : brackets.length < limit →
      Reads limit body language ⟨first, bracket :: brackets⟩ ⟨.afterOperand, brackets⟩ [])
    (wide : brackets.length < limit → ∀ left tokens result, left.kind = .symbol bracket.opening →
      language tokens result → Factor inner depth (left :: tokens) (make (left, result))) :
    Alternative limit (make <$> Rule.bracketed limit bracket.opening body) (Factor inner depth)
      ⟨.operand, brackets⟩ ⟨.afterOperand, brackets⟩ [] [.symbol bracket.opening] where
  keeps := (keeps.bracketed limit bracket.opening).map make
  asks := (Asks.bracketed limit bracket.opening body).map make
  among := by
    intro kind isOpening
    rw [List.mem_singleton.mp isOpening, Frontier.mem_kinds_iff, opens]
    rfl
  nonempty _ _ := factor_ne_nil
  takes token rest trail level taken := by
    have isOpening : token.kind = .symbol bracket.opening := List.mem_singleton.mp taken
    have moved := isOpening ▸ opens
    rw [Rule.map_apply]
    by_cases room : brackets.length < limit
    · rw [Rule.bracketed_of_room isOpening (by simpa [level] using room), Option.map_map]
      have outcome := (reads room).outcome rest trail.enter (by simp [Trail.enter, level])
      exact (outcome.map (fun result => make (token, result))
          fun tokens result derived => wide room token tokens result isOpening derived).prepend [token]
        rest rfl (Frontier.within_cons moved room []) (.refl _ _)
        fun _ _ derived => derived
    · rw [Rule.bracketed_of_full isOpening (by simpa [level] using room)]
      refine .halted rest.length none _ ?_ (dangles_none _ _ _)
      exact .refused [] token rest _ _ rfl rfl moved (by simp; omega)

section Atoms

variable {inner : Rule Expr} {language : Language Expr} {depth : Nat} {token : Token} {rest : List Token}

/-- A literal is read at once, and what was asked for before its kind is left behind. The four kinds
are gone through; each is noted after those that are tried before it. -/
theorem literal_of_value {value : Value} (denotes : token.value? = some value) (trail : Trail) :
    ∃ failure, trail.failure.AgreesAt rest.length failure ∧
      literal (.ofList (token :: rest)) trail =
        (some (.literal value token.span, .ofList rest), ⟨trail.depth, failure⟩) := by
  have behind (asked : List Expectation) : trail.failure.AgreesAt rest.length
      (trail.failure.noteAll (.ofList (token :: rest)) asked) :=
    Failure.agreesAt_noteAll (by simp) _ _
  obtain ⟨content, lexeme, span⟩ := token
  cases content <;> cases denotes
  case integer => exact ⟨_, behind [], rfl⟩
  case float => exact ⟨_, behind [.token .integer], rfl⟩
  case string => exact ⟨_, behind [.token .integer, .token .float], rfl⟩
  case boolean => exact ⟨_, behind [.token .integer, .token .float, .token .string], rfl⟩

/-- One token that is an operand by itself moves the frontier behind it, and nothing is asked for
afterwards. -/
theorem outcome_atom {expr : Expr} {trail : Trail} {failure : Failure}
    (room : brackets.length ≤ limit)
    (found : inner (.ofList (token :: rest)) trail =
      (some (expr, .ofList rest), ⟨trail.depth, failure⟩))
    (agrees : trail.failure.AgreesAt rest.length failure)
    (moved : Frontier.next ⟨.operand, brackets⟩ token.kind = some ⟨.afterOperand, brackets⟩)
    (derived : Factor language depth [token] expr) :
    Outcome limit (Factor language depth) ⟨.operand, brackets⟩ ⟨.afterOperand, brackets⟩ []
      (token :: rest) trail.failure (inner (.ofList (token :: rest)) trail).1
      (inner (.ofList (token :: rest)) trail).2.failure := by
  rw [found]
  exact .read [token] rest expr failure rfl derived (Frontier.within_cons moved room []) (by simp)
    agrees

/-- The first alternative for a factor takes the tokens of the four kinds that have values. The
kinds are tried in order, and what was noted for those before is at the place of the token. -/
theorem alternative_literal (room : brackets.length ≤ limit) :
    Alternative limit literal (Factor language depth) ⟨.operand, brackets⟩ ⟨.afterOperand, brackets⟩ []
      [.integer, .float, .string, .boolean] where
  keeps := keeps_literal
  asks := ((Asks.token _).orElse ((Asks.token _).orElse ((Asks.token _).orElse
    (Asks.token _)))).bind _
  among kind member := List.mem_append_left [_, _, _, _] member
  nonempty _ _ := factor_ne_nil
  takes token rest trail _ taken := by
    have isLiteral : token.value?.isSome = true := token.value?_isSome.mpr (by simpa using taken)
    obtain ⟨value, denotes⟩ := Option.isSome_iff_exists.mp isLiteral
    obtain ⟨failure, agrees, found⟩ := literal_of_value denotes trail
    refine outcome_atom room found agrees ?_ (.literal token value denotes)
    rcases token.value?_isSome.mp isLiteral with kind | kind | kind | kind <;> rw [kind] <;> rfl

/-- The second one takes names, which are one token each. -/
theorem alternative_name (room : brackets.length ≤ limit) :
    Alternative limit (Expr.name <$> name) (Factor language depth) ⟨.operand, brackets⟩
      ⟨.afterOperand, brackets⟩ [] [.name] where
  keeps := keeps_name.map _
  asks := ((Asks.token _).bind _).map _
  among := by
    intro kind isName
    simp [List.mem_singleton.mp isName, Frontier.kinds, Frontier.operandKinds]
  nonempty _ _ := factor_ne_nil
  takes token rest trail _ taken := by
    have isName : token.kind = .name := List.mem_singleton.mp taken
    have found : (Expr.name <$> name) (.ofList (token :: rest)) trail =
        (some (.name ⟨token.lexeme, token.span⟩, .ofList rest), trail) := by
      rw [Rule.map_apply, name, Rule.bind_of_some (Rule.token_of_kind isName rest trail)]
      rfl
    refine outcome_atom room found (.refl _ _) ?_ (.name token isName)
    rw [isName]
    rfl

end Atoms

section Brackets

variable {inner : Rule Expr} {language : Language Expr}

/-- A token of the kind of strings has a value, and the rule for strings reads it without a
trace. -/
theorem string_of_kind {token : Token} (isString : token.kind = .string) (rest : List Token)
    (trail : Trail) : ∃ value, token.value? = some value ∧
      string (.ofList (token :: rest)) trail =
        (some (.literal value token.span, .ofList rest), trail) := by
  obtain ⟨content, lexeme, span⟩ := token
  cases content <;> cases isString
  exact ⟨_, rfl, rfl⟩

/-- A key, a colon and an expression, with the rule for the expression. Each of the first two is a
token of a kind of its own, before any other token nothing but that kind is expected, and reading is
halted there. -/
theorem reads_pair (reads : Reads limit inner language ⟨.operand, brackets⟩
      ⟨.afterOperand, brackets⟩ Frontier.signKinds)
    (room : brackets.length ≤ limit) :
    Reads limit (pair inner) (Pair language) ⟨.key, brackets⟩ ⟨.afterOperand, brackets⟩
      Frontier.signKinds := by
  have decided : Alternative limit (pair inner) (Pair language) ⟨.key, brackets⟩
      ⟨.afterOperand, brackets⟩ Frontier.signKinds [.string] := by
    refine ⟨keeps_pair reads.keeps, ((Asks.token _).bind _).bind _, fun _ member => member, ?_, ?_⟩
    · rintro _ _ ⟨key, value, colon, tokens, expr, _, _, _, _⟩
      simp
    · intro key rest trail depth taken
      have isString : key.kind = .string := List.mem_singleton.mp taken
      obtain ⟨value, denotes, found⟩ := string_of_kind isString rest trail
      have moved : Frontier.next ⟨.key, brackets⟩ key.kind = some ⟨.colon, brackets⟩ := by
        rw [isString]
        rfl
      have reached : Frontier.within limit ⟨.key, brackets⟩ [key] = some ⟨.colon, brackets⟩ :=
        Frontier.within_cons moved room []
      rw [pair, Rule.bind_of_some found]
      rcases Token.head_cases (· = .symbol .colon) rest with ⟨token, later, isColon, rfl⟩ | other
      · have moved' : Frontier.next ⟨.colon, brackets⟩ token.kind =
            some ⟨.operand, brackets⟩ := by
          rw [isColon]
          rfl
        rw [Rule.bind_of_some (Rule.token_of_kind isColon later trail)]
        have bound : Reads limit (inner >>= fun expr => pure (Expr.literal value key.span, expr))
            (fun tokens made => ∃ expr, language tokens expr ∧
              made = (Expr.literal value key.span, expr))
            ⟨.operand, brackets⟩ ⟨.afterOperand, brackets⟩ Frontier.signKinds :=
          reads.map _ fun tokens expr derived => ⟨expr, derived, rfl⟩
        refine (bound.outcome later trail depth).prepend [key, token] later rfl ?_ (.refl _ _) ?_
        · rw [Frontier.within_cons moved room, Frontier.within_cons moved' room]
          rfl
        · rintro tokens _ ⟨expr, derived, rfl⟩
          exact .bound key value token tokens expr isString denotes isColon derived
      · rw [Rule.bind_of_none (Rule.token_of_not_kind other trail)]
        refine .halted rest.length none _ ?_ (dangles_none _ _ _)
        refine .stuck [key] rest ⟨.colon, brackets⟩ trail.failure rfl reached rfl ?_ (.refl _ _)
        intro token isHead
        exact if_neg (other token isHead)
  exact decided.reads rfl rfl

/-- Where an element of a list or its end may stand, an element is taken for what it is, since
nothing that begins an operand closes a list. -/
theorem begins_list : Begins ⟨.firstElement, .list :: brackets⟩ ⟨.operand, .list :: brackets⟩
    ⟨.afterOperand, brackets⟩ .rightBracket where
  kinds := rfl
  closes := rfl
  unfinished := rfl
  apart := by simp [Frontier.kinds, Frontier.operandKinds]
  level := rfl
  alike := by
    intro kind begins
    have other : kind ≠ .symbol .rightBracket := by
      rintro rfl
      exact absurd begins (by simp [Frontier.kinds, Frontier.operandKinds])
    simp [Frontier.next, Frontier.close, Bracket.closing, other]

/-- Where a key of a dictionary or its end may stand, a string is taken for a key, and the frontier
does not tell it from a key after a comma. -/
theorem begins_dictionary : Begins ⟨.firstKey, .dictionary :: brackets⟩
    ⟨.key, .dictionary :: brackets⟩ ⟨.afterOperand, brackets⟩ .rightBrace where
  kinds := rfl
  closes := rfl
  unfinished := rfl
  apart := by simp [Frontier.kinds]
  level := rfl
  alike := by
    intro kind begins
    rw [List.mem_singleton.mp begins]
    rfl

section Kinds

variable {depth : Nat} (deep : brackets.length < limit → 0 < depth)
variable (keeps : inner.Keeps) (reads : ∀ bracket : Bracket, brackets.length < limit →
  Reads limit inner language ⟨.operand, bracket :: brackets⟩ ⟨.afterOperand, bracket :: brackets⟩
    Frontier.signKinds)

include deep keeps reads

/-- The last alternative for a factor takes an opening parenthesis and reads an expression up to the
closing one. -/
theorem alternative_group : Alternative limit (group limit inner) (Factor language depth)
    ⟨.operand, brackets⟩ ⟨.afterOperand, brackets⟩ [] [.symbol .leftParen] := by
  refine alternative_bracketed
    (fun tokens expr => ∃ right, Closed .rightParen language tokens (expr, right)) .group .operand
    Prod.snd rfl
    (keeps.closed .rightParen) (fun room => ?_) ?_
  · exact (reads .group room).close ⟨rfl, rfl, rfl, by decide⟩ (Nat.le_of_lt room)
      (fun expr _ => expr) fun tokens expr right derived => ⟨right, derived⟩
  · rintro room left tokens expr opens ⟨right, derived⟩
    exact .group _ left expr right (deep room) (.opened left tokens (expr, right) opens derived)

/-- The third one takes an opening bracket and reads expressions with commas between them up to the
closing one. Inside, each expression begins and ends in one bracket more. -/
theorem alternative_list : Alternative limit (list limit inner) (Factor language depth)
    ⟨.operand, brackets⟩ ⟨.afterOperand, brackets⟩ [] [.symbol .leftBracket] := by
  refine alternative_bracketed (Closed .rightBracket (Items language)) .list .firstElement
    (fun found : Token × List Expr × Token =>
      .list found.2.1 (found.1.span.through found.2.2.span)) rfl
    (keeps.items .rightBracket) (fun room => ?_) ?_
  · have elements := reads_separated (reads .list room) rfl rfl room (by decide)
    exact elements.items begins_list ⟨rfl, rfl, rfl, by decide⟩ (Nat.le_of_lt room) (by simp)
  · rintro room left tokens ⟨elements, right⟩ opens derived
    exact .list _ left elements right (deep room)
      (.opened left tokens (elements, right) opens derived)

/-- The fourth one takes an opening brace and reads pairs with commas between them up to the closing
one. A pair awaits a key first, and then goes on as an expression. -/
theorem alternative_dictionary : Alternative limit (dictionary limit inner) (Factor language depth)
    ⟨.operand, brackets⟩ ⟨.afterOperand, brackets⟩ [] [.symbol .leftBrace] := by
  refine alternative_bracketed (Closed .rightBrace (Items (Pair language))) .dictionary .firstKey
    (fun found : Token × List (Expr × Expr) × Token =>
      .dictionary found.2.1 (found.1.span.through found.2.2.span)) rfl
    ((keeps_pair keeps).items .rightBrace) (fun room => ?_) ?_
  · have pairs := reads_separated (reads_pair (reads .dictionary room) room) rfl rfl room
      (by decide)
    exact pairs.items begins_dictionary ⟨rfl, rfl, rfl, by decide⟩ (Nat.le_of_lt room) (by simp)
  · rintro room left tokens ⟨pairs, right⟩ opens derived
    exact .dictionary _ left pairs right (deep room)
      (.opened left tokens (pairs, right) opens derived)

/-- The alternatives of a factor begin with all the kinds that an operand may begin with, each with
kinds of its own. So whatever stands at such a place is read as a factor or asked for in vain. -/
theorem reads_factor (room : brackets.length ≤ limit) : Reads limit (factor limit inner)
    (Factor language depth) ⟨.operand, brackets⟩ ⟨.afterOperand, brackets⟩ [] := by
  have lists := alternative_list deep keeps reads
  have dictionaries := alternative_dictionary deep keeps reads
  have groups := alternative_group deep keeps reads
  have enclosed := lists.orElse (dictionaries.orElse groups (by decide)) (by decide)
  have all := (alternative_literal room).orElse ((alternative_name room).orElse enclosed (by decide))
    (by decide)
  exact all.reads rfl rfl

/-- An expression ends before a token that is not the sign of an operator. It is a chain of chains,
and the signs of the inner ones are not those of the outer one. -/
theorem reads_expression (room : brackets.length ≤ limit) :
    Reads limit (expression limit inner) (Expression language depth) ⟨.operand, brackets⟩
      ⟨.afterOperand, brackets⟩ Frontier.signKinds := by
  have factors := reads_factor deep keeps reads room
  have terms := reads_chain readsSigns_multiplicative factors room (by simp) (by decide)
  exact reads_chain readsSigns_additive terms room (by decide) (by decide)

end Kinds

end Brackets

/-- With `room` brackets more to open, the rule for expressions entered once more than that reads
expressions in which as many brackets nest. By induction on the room: inside a bracket there is room
for one less, and where there is none left the inner rule is never entered. -/
theorem reads_nested (room : Nat) (brackets : List Bracket)
    (limited : brackets.length + room = limit) :
    Reads limit (expressionOver limit Rule.fail (room + 1)) (Nested room) ⟨.operand, brackets⟩
      ⟨.afterOperand, brackets⟩ Frontier.signKinds := by
  induction room generalizing brackets with
  | zero =>
    refine reads_expression (fun _ => ?_) (keeps_expressionOver limit 0) (fun _ _ => ?_) (by omega)
    all_goals omega
  | succ room ih =>
    refine reads_expression (fun _ => Nat.succ_pos room) (keeps_expressionOver limit (room + 1))
      (fun bracket _ => ?_) (by omega)
    exact ih (bracket :: brackets) (by rw [List.length_cons]; omega)

end Formula.Grammar
