import Formula.Proofs.Grammar.Greedy

/-!
# How far the rules reach

Each rule of the grammar is greedy for its production. What a rule is put together from decides it:
the tokens that stand alone, the parts one after another, the alternatives of a factor that the
first token chooses between. The recursion through brackets is closed by induction on how many of
them there is room for. A statement that begins with a name is tried as an assignment first, and
an assignment is longer than every expression that begins with the same tokens.
-/

namespace Formula.Grammar

variable {α β : Type} {level limit : Nat}

section Tokens

/-- The rule for one kind of token is chosen by that kind, and gives the token. -/
theorem choice_token (kind : Token.Kind) : Choice level (Rule.token kind)
    (Single fun token result => token.kind = kind ∧ result = token) [kind] := by
  refine .single (Rule.keeps_token kind) (Asks.token kind) ?_ ?_
  · rintro token _ ⟨isKind, _⟩
    exact List.mem_singleton.mpr isKind
  · intro token rest trail taken
    have isKind := List.mem_singleton.mp taken
    exact ⟨token, ⟨isKind, rfl⟩, by rw [Rule.token_of_kind isKind]⟩

/-- One token of a given kind gives itself and nothing else. -/
theorem definite_token (kind : Token.Kind) :
    Definite (Single fun token result => token.kind = kind ∧ result = token) [] := by
  refine definite_single ?_
  rintro token _ _ ⟨_, rfl⟩ ⟨_, rfl⟩
  rfl

/-- Literals are tokens of four kinds, and each such token has a value, which is that of its
literal. -/
theorem choice_literal :
    Choice level literal (Single IsLiteral) [.integer, .float, .string, .boolean] := by
  refine .single keeps_literal (((Asks.token _).orElse ((Asks.token _).orElse ((Asks.token _).orElse
    (Asks.token _)))).bind _) ?_ ?_
  · rintro token _ ⟨value, denotes, _⟩
    simpa using token.value?_isSome.mp (by simp [denotes])
  · intro token rest trail taken
    obtain ⟨value, denotes⟩ := Option.isSome_iff_exists.mp
      (token.value?_isSome.mpr (by simpa using taken))
    obtain ⟨failure, _, read⟩ := @literal_of_value token rest value denotes trail
    exact ⟨_, ⟨value, denotes, rfl⟩, by rw [read]⟩

/-- The name that an assignment or an expression begins with. -/
def Names (token : Token) (result : Name) : Prop :=
  token.kind = .name ∧ result = ⟨token.lexeme, token.span⟩

/-- Names are single tokens, chosen by their kind. -/
theorem choice_name : Choice level name (Single Names) [.name] := by
  refine .single keeps_name ((Asks.token _).bind _) ?_ ?_
  · rintro token _ ⟨isName, _⟩
    exact List.mem_singleton.mpr isName
  · intro token rest trail taken
    have isName := List.mem_singleton.mp taken
    refine ⟨_, ⟨isName, rfl⟩, ?_⟩
    rw [name, Rule.bind_of_some (Rule.token_of_kind isName rest trail)]
    rfl

/-- A string as the key of a pair. -/
def IsKey (token : Token) (expr : Expr) : Prop :=
  token.kind = .string ∧ IsLiteral token expr

/-- The keys of dictionaries are string tokens, and the literal of such a token is its text. -/
theorem choice_string : Choice level string (Single IsKey) [.string] := by
  refine .single ((Rule.keeps_token _).bind keeps_literalOf) ((Asks.token .string).bind _) ?_ ?_
  · rintro token _ ⟨isString, _⟩
    exact List.mem_singleton.mpr isString
  · intro token rest trail taken
    have isString := List.mem_singleton.mp taken
    obtain ⟨value, denotes, read⟩ := string_of_kind isString rest trail
    exact ⟨_, ⟨isString, value, denotes, rfl⟩, by rw [read]⟩

/-- One of some operators. -/
def IsSign (signs : List (Symbol × Operator)) (token : Token) (step : Operator × Span) : Prop :=
  ∃ symbol operator, (symbol, operator) ∈ signs ∧ token.kind = .symbol symbol ∧
    step = (operator, token.span)

/-- The signs of a chain are single tokens, chosen by the symbols that are listed for the chain. -/
theorem ReadsSigns.choice {sign : Rule (Operator × Span)} {signs : List (Symbol × Operator)}
    (readsSigns : ReadsSigns sign signs) :
    Choice level sign (Single (IsSign signs)) (kindsOf signs) := by
  refine .single readsSigns.keeps readsSigns.asks ?_ ?_
  · rintro token _ ⟨symbol, operator, listed, written, _⟩
    exact written ▸ List.mem_map_of_mem listed
  · intro token rest trail taken
    obtain ⟨symbol, operator, failure, listed, written, _, read⟩ :=
      readsSigns.takes token rest trail taken
    exact ⟨_, ⟨symbol, operator, listed, written, rfl⟩, by rw [read]⟩

end Tokens

section Sequences

variable {γ : Type} {rule : Rule α} {second : Rule β} {language : Language α} {other : Language β}
variable {follow : List Token.Kind}

/-- Two parts of which the second is read in the same way whatever the first was. What is made of
them may depend on both. -/
theorem Greedy.both (greedy : Greedy level rule language) (definite : Definite language follow)
    (greedy' : Greedy level second other)
    (begins : ∀ tokens result, other tokens result → tokens ≠ [] → Stops follow tokens)
    (make : α → β → γ) : Greedy level (rule >>= fun result => make result <$> second)
      (Then language fun result => Made other (make result)) := by
  refine greedy.bind definite (fun result => greedy'.map (make result)) ?_ ?_
  · rintro result tokens _ ⟨result', derived, rfl⟩
    exact begins tokens result' derived
  · rintro result given ⟨_, result', derived, rfl⟩
    exact ⟨make given result', result', derived, rfl⟩

/-- Something and the symbol that closes it. As what is closed cannot go on with its closing symbol,
it is read exactly before that symbol. -/
theorem Greedy.close (greedy : Greedy level rule language) (closing : Symbol)
    (definite : Definite language follow) (apart : .symbol closing ∉ follow)
    (make : α → Token → β) :
    Greedy level (rule >>= fun result => make result <$> Rule.token (.symbol closing))
      (Made (Closed closing language) fun parts => make parts.1 parts.2) := by
  refine (greedy.both definite (choice_token _).greedy ?_ make).congr ?_
  · rintro _ _ ⟨right, rfl, closes, _⟩ _ _ ⟨⟩
    exact closes ▸ apart
  · intro tokens made
    constructor
    · rintro ⟨front, result, _, rfl, derived, right, ⟨_, rfl, closes, rfl⟩, rfl⟩
      exact ⟨(result, right), .closed front result right derived closes, rfl⟩
    · rintro ⟨_, ⟨front, result, right, derived, closes⟩, rfl⟩
      exact ⟨front, result, [right], rfl, derived, right, ⟨right, rfl, closes, rfl⟩, rfl⟩

/-- A token, a symbol and what belongs to the token: an assignment, or a pair of a dictionary. Both
of the first two tokens are read exactly, so the rule reaches as far as the last part does. -/
theorem Greedy.labelled {accepts : Token → α → Prop} {mark : Symbol}
    (greedy : Greedy level rule (Single accepts)) (definite : Definite (Single accepts) [])
    (greedy' : Greedy level second other) (make : α → β → γ) :
    Greedy level (rule >>= fun label => Rule.token (.symbol mark) >>= fun _ =>
        make label <$> second)
      (fun tokens made => ∃ label result sign rest result', tokens = label :: sign :: rest ∧
        accepts label result ∧ sign.kind = .symbol mark ∧ other rest result' ∧
        made = make result result') := by
  have free (tokens : List Token) : Stops [] tokens := fun _ _ => List.not_mem_nil
  have onward (result : α) := (choice_token (.symbol mark)).greedy.both (definite_token _) greedy'
    (fun tokens _ _ _ => free tokens) fun _ => make result
  refine (greedy.bind definite onward (fun _ tokens _ _ _ => free tokens) ?_).congr ?_
  · rintro result given ⟨_, _, _, _, split, ⟨_, rfl, _⟩, _⟩
    cases split
  · intro tokens made
    constructor
    · rintro ⟨_, result, _, rfl, ⟨label, rfl, accepted⟩, _, _, rest, rfl, ⟨sign, rfl, written, _⟩,
        result', derived, rfl⟩
      exact ⟨label, result, sign, rest, result', rfl, accepted, written, derived, rfl⟩
    · rintro ⟨label, result, sign, rest, result', rfl, accepted, written, derived, rfl⟩
      exact ⟨[label], result, sign :: rest, rfl, ⟨label, rfl, accepted⟩, [sign], sign, rest, rfl,
        ⟨sign, rfl, written, rfl⟩, result', derived, rfl⟩

end Sequences

section Chains

variable {sign : Rule (Operator × Span)} {signs : List (Symbol × Operator)}
variable {operand : Rule Expr} {language : Language Expr} {follow : List Token.Kind}

/-- One sign gives one operator, as no symbol is listed for two of them. -/
theorem definite_sign
    (functional : ∀ first ∈ signs, ∀ second ∈ signs, first.1 = second.1 → first = second) :
    Definite (Single (IsSign signs)) [] := by
  refine definite_single ?_
  rintro token _ _ ⟨symbol, operator, listed, written, rfl⟩
    ⟨symbol', operator', listed', written', rfl⟩
  obtain rfl : symbol = symbol' := Token.Kind.symbol.inj (written.symm.trans written')
  obtain rfl : operator = operator' := (Prod.mk.inj (functional _ listed _ listed' rfl)).2
  rfl

variable (functional : ∀ first ∈ signs, ∀ second ∈ signs, first.1 = second.1 → first = second)

include functional

/-- A sign and the operand after it are read as a step of the chain. The sign is read exactly, and
the step reaches as far as its operand. -/
theorem Greedy.step (greedy : Greedy level operand language) (readsSigns : ReadsSigns sign signs) :
    Greedy level (sign >>= fun step => (step, ·) <$> operand) (Step signs language) := by
  refine (readsSigns.choice.greedy.both (definite_sign functional) greedy ?_ Prod.mk).congr ?_
  · intro _ _ _ _ _ _
    exact List.not_mem_nil
  · intro tokens made
    constructor
    · rintro ⟨_, _, rest, rfl, ⟨token, rfl, symbol, operator, listed, written, rfl⟩, right, derived,
        rfl⟩
      exact .signed token symbol operator rest right listed written derived
    · rintro ⟨token, symbol, operator, rest, right, listed, written, derived⟩
      exact ⟨[token], _, rest, rfl, ⟨token, rfl, symbol, operator, listed, written, rfl⟩, right,
        derived, rfl⟩

/-- As many operands as there are signs before them are read. The operands but the last are read
exactly, because a sign comes after each, and the tree is grouped from what was read. -/
theorem Greedy.chain (greedy : Greedy level operand language) (readsSigns : ReadsSigns sign signs)
    (definite : Definite language follow) (apart : ∀ kind ∈ kindsOf signs, kind ∉ follow) :
    Greedy level (Grammar.chain sign operand) (Chain signs language) := by
  have steps := (greedy.step functional readsSigns).repeated (definite.step functional) leads_step
    apart
  refine (greedy.both definite steps ?_ groupLeft).congr ?_
  · intro tokens made derived nonempty
    exact derived.stops leads_step apart nonempty
  · intro tokens made
    rw [chain_iff_grouped]
    constructor
    · rintro ⟨front, head, later, split, derived, steps, others, grouped⟩
      exact ⟨front, head, later, steps, split, derived, others, grouped⟩
    · rintro ⟨front, head, later, steps, split, derived, others, grouped⟩
      exact ⟨front, head, later, split, derived, steps, others, grouped⟩

end Chains

section Productions

variable {inner : Rule Expr} {language : Language Expr} {depth : Nat}
variable {rule : Rule α} {item : Language α} {follow kinds : List Token.Kind}

/-- Items are read as long as commas lead to more of them. Before a comma an item cannot go on, so
all items but the last are read exactly. -/
theorem Greedy.separated (greedy : Greedy level rule item) (definite : Definite item follow)
    (apart : .symbol .comma ∉ follow) :
    Greedy level (Rule.separated rule .comma) (Separated item) := by
  have parted : Greedy level (Rule.token (.symbol .comma) >>= fun _ => rule) (AfterComma item) := by
    refine ((choice_token (.symbol .comma)).greedy.bind (definite_token _) (fun _ => greedy) ?_
      ?_).congr ?_
    · intro _ _ _ _ _ _ _
      exact List.not_mem_nil
    · exact fun _ _ derived => derived
    · intro tokens made
      constructor
      · rintro ⟨_, _, rest, rfl, ⟨comma, rfl, parts, _⟩, derived⟩
        exact .next comma rest made parts derived
      · rintro ⟨comma, rest, _, parts, derived⟩
        exact ⟨[comma], comma, rest, rfl, ⟨comma, rfl, parts, rfl⟩, derived⟩
  have others : ∀ kind ∈ [Token.Kind.symbol .comma], kind ∉ follow := by
    simpa using apart
  have later := parted.repeated definite.afterComma leads_afterComma others
  refine (greedy.both definite later ?_ List.cons).congr ?_
  · intro tokens results derived nonempty
    exact derived.stops leads_afterComma others nonempty
  · intro tokens made
    constructor
    · rintro ⟨front, first, rest, rfl, derived, results, others, rfl⟩
      exact .parted front first rest results derived others
    · rintro ⟨front, first, rest, results, derived, others⟩
      exact ⟨front, first, rest, rfl, derived, results, others, rfl⟩

/-- Items up to the closing symbol, or only the closing symbol. Neither a comma nor the beginning of
an item is the closing symbol, so the items are read exactly before it. -/
theorem Greedy.items (greedy : Greedy level rule item) (closing : Symbol)
    (definite : Definite item follow) (leads : Leads item kinds) (parted : .symbol .comma ∉ follow)
    (apart : .symbol closing ∉ (follow ++ [.symbol .comma]) ++ kinds) :
    Greedy level (Rule.optional (Rule.separated rule .comma) >>= fun items =>
        (fun right => (items.getD [], right)) <$> Rule.token (.symbol closing))
      (Closed closing (Items item)) := by
  have maybe := (definite.separated parted).maybe leads.separated
  refine ((greedy.separated definite parted).optional.close closing maybe apart
    fun items right => (items.getD [], right)).congr ?_
  intro tokens made
  constructor
  · rintro ⟨_, ⟨front, found, right, derived, closes⟩, rfl⟩
    cases found with
    | none =>
      obtain rfl : front = [] := derived
      exact .closed [] [] right .none closes
    | some results => exact .closed front results right (.some front results derived) closes
  · rintro ⟨front, results, right, derived, closes⟩
    cases derived with
    | none => exact ⟨(none, right), .closed [] none right rfl closes, rfl⟩
    | some _ _ derived =>
      exact ⟨(some results, right), .closed front (some results) right derived closes, rfl⟩

/-- One string token gives one key. -/
theorem definite_key : Definite (Single IsKey) [] := by
  refine definite_single ?_
  rintro token _ _ ⟨_, value, denotes, rfl⟩ ⟨_, value', denotes', rfl⟩
  rw [Option.some.inj (denotes.symm.trans denotes')]

/-- A pair is a key with its value, under the sign that parts them. -/
theorem Greedy.pair (greedy : Greedy level inner language) :
    Greedy level (Grammar.pair inner) (Pair language) := by
  refine (choice_string.greedy.labelled definite_key greedy Prod.mk).congr ?_
  intro tokens made
  constructor
  · rintro ⟨key, _, colon, rest, expr, rfl, ⟨isString, value, denotes, rfl⟩, parts, derived, rfl⟩
    exact .bound key value colon rest expr isString denotes parts derived
  · rintro ⟨key, value, colon, rest, expr, isString, denotes, parts, derived⟩
    exact ⟨key, _, colon, rest, expr, rfl, ⟨isString, value, denotes, rfl⟩, parts, derived, rfl⟩

/-- What a bracket encloses, where there is room for the bracket. -/
def Roomy (level limit : Nat) (opening : Symbol) (item : Language α) (make : Token × α → Expr) :
    Language Expr :=
  Made (fun tokens result => level < limit ∧ Opened opening item tokens result) make

/-- The rule that opens a bracket and the grammar of what stands in brackets speak of the same
tokens. They only take them apart in another order. -/
theorem opened_iff_enclosed {opening closing : Symbol} {tokens : List Token}
    {parts : Token × α × Token} : Opened opening (Closed closing item) tokens parts ↔
      Enclosed opening closing item tokens parts := by
  constructor
  · rintro ⟨rest, rfl, opens, derived⟩
    exact .opened parts.1 rest parts.2 opens derived
  · rintro ⟨left, rest, result, opens, derived⟩
    exact ⟨rest, rfl, opens, derived⟩

section Alternatives

variable (keeps : inner.Keeps) (greedy : level < limit → Greedy (level + 1) inner language)
variable (definite : Definite language Frontier.signKinds)
variable (leads : Leads language Frontier.operandKinds)

include keeps greedy definite

/-- An expression in parentheses is chosen by the parenthesis, and is the expression inside. -/
theorem choice_group : Choice level (group limit inner)
    (Roomy level limit .leftParen (Made (Closed .rightParen language) Prod.fst) Prod.snd)
    [.symbol .leftParen] := by
  have closed (room : level < limit) :=
    (greedy room).close .rightParen definite (by decide) fun expr _ => expr
  exact (Choice.bracketed (keeps.closed .rightParen) closed).map Prod.snd

/-- A dictionary is chosen by its brace, and has the place from brace to brace. -/
theorem choice_dictionary : Choice level (dictionary limit inner)
    (Roomy level limit .leftBrace (Closed .rightBrace (Items (Pair language))) fun parts =>
      .dictionary parts.2.1 (parts.1.span.through parts.2.2.span)) [.symbol .leftBrace] := by
  have closed (room : level < limit) := (greedy room).pair.items .rightBrace definite.pair
    leads_pair (by decide) (by decide)
  exact (Choice.bracketed ((keeps_pair keeps).items .rightBrace) closed).map _

include leads

/-- A list is chosen by its bracket, and has the place from bracket to bracket. Its first element is
told from the closing bracket by its first token. -/
theorem choice_list : Choice level (list limit inner)
    (Roomy level limit .leftBracket (Closed .rightBracket (Items language)) fun parts =>
      .list parts.2.1 (parts.1.span.through parts.2.2.span)) [.symbol .leftBracket] := by
  have closed (room : level < limit) := (greedy room).items .rightBracket definite leads
    (by decide) (by decide)
  exact (Choice.bracketed (keeps.items .rightBracket) closed).map _

/-- The alternatives of a factor, one of which is chosen by the first token. The kinds that choose
them have nothing in common, so they are put together one after the other, and what they read
together is what the grammar calls a factor. -/
theorem greedy_factor (deep : 0 < depth ↔ level < limit) :
    Greedy level (factor limit inner) (Factor language depth) := by
  have groups := choice_group keeps greedy definite
  have dictionaries := choice_dictionary keeps greedy definite
  have lists := choice_list keeps greedy definite leads
  have enclosed := lists.orElse (dictionaries.orElse groups (by decide)) (by decide)
  have all := choice_literal.orElse ((choice_name.map Expr.name).orElse enclosed (by decide))
    (by decide)
  refine all.greedy.congr ?_
  intro tokens expr
  constructor
  · rintro (⟨token, rfl, value, denotes, rfl⟩ | ⟨_, ⟨token, rfl, isName, rfl⟩, rfl⟩ |
      ⟨⟨left, elements, right⟩, ⟨room, opened⟩, rfl⟩ | ⟨⟨left, pairs, right⟩, ⟨room, opened⟩, rfl⟩ |
      ⟨⟨left, _⟩, ⟨room, rest, rfl, opens, ⟨_, right⟩, derived, rfl⟩, rfl⟩)
    · exact .literal token value denotes
    · exact .name token isName
    · exact .list tokens left elements right (deep.mpr room) (opened_iff_enclosed.mp opened)
    · exact .dictionary tokens left pairs right (deep.mpr room) (opened_iff_enclosed.mp opened)
    · exact .group _ left _ right (deep.mpr room) (.opened left rest _ opens derived)
  · intro derived
    cases derived with
    | literal token value denotes => exact .inl ⟨token, rfl, value, denotes, rfl⟩
    | name token isName => exact .inr (.inl ⟨_, ⟨token, rfl, isName, rfl⟩, rfl⟩)
    | list _ left elements right room enclosed =>
      exact .inr (.inr (.inl ⟨(left, elements, right),
        ⟨deep.mp room, opened_iff_enclosed.mpr enclosed⟩, rfl⟩))
    | dictionary _ left pairs right room enclosed =>
      exact .inr (.inr (.inr (.inl ⟨(left, pairs, right),
        ⟨deep.mp room, opened_iff_enclosed.mpr enclosed⟩, rfl⟩)))
    | group _ left _ right room enclosed =>
      obtain ⟨rest, rfl, opens, derived⟩ := opened_iff_enclosed.mpr enclosed
      exact .inr (.inr (.inr (.inr ⟨(left, expr),
        ⟨deep.mp room, rest, rfl, opens, (expr, right), derived, rfl⟩, rfl⟩)))

/-- An expression is a chain of terms, and a term is a chain of factors, so both are read as far as
they reach. -/
theorem greedy_expression (deep : 0 < depth ↔ level < limit) :
    Greedy level (expression limit inner) (Expression language depth) := by
  have factors := greedy_factor keeps greedy definite leads deep
  have terms := factors.chain (by decide) readsSigns_multiplicative (definite.factor leads) (by simp)
  exact terms.chain (by decide) readsSigns_additive (definite.term leads) (by decide)

end Alternatives

end Productions

/-- Inside of so many brackets that there is room for some more, expressions are read as far as they
reach. By induction on the room: a bracket inside uses up one level of it. -/
theorem greedy_nested (room level : Nat) (limited : level + room = limit) :
    Greedy level (expressionOver limit Rule.fail (room + 1)) (Nested room) := by
  induction room generalizing level with
  | zero =>
    refine greedy_expression (keeps_expressionOver limit 0) (by omega) ?_ ?_ (by omega)
    · rintro _ _ _ _ _ _ ⟨⟩
    · rintro _ _ ⟨⟩
  | succ room ih =>
    refine greedy_expression (keeps_expressionOver limit (room + 1)) (fun _ => ?_)
      (definite_nested room) (leads_nested room) (by omega)
    exact ih (level + 1) (by omega)

section Statements

/-- A name, `=` and an expression. -/
def Assigned (language : Language Expr) : Language Statement := fun tokens made =>
  ∃ name target equal rest expr, tokens = name :: equal :: rest ∧ Names name target ∧
    equal.kind = .symbol .equal ∧ language rest expr ∧ made = .assignment target expr

/-- An assignment is a name with the expression that belongs to it, under the sign of an
assignment. -/
theorem Greedy.assignment {value : Rule Expr} {language : Language Expr}
    (greedy : Greedy level value language) :
    Greedy level (Grammar.assignment value) (Assigned language) := by
  refine choice_name.greedy.labelled (definite_single ?_) greedy Statement.assignment
  rintro token _ _ ⟨_, rfl⟩ ⟨_, rfl⟩
  rfl

/-- Where an assignment can be read, no more than its name would be read as an expression, as an
expression cannot go on with the sign of an assignment. So the assignment is what reaches
further. -/
theorem length_le_of_assigned {front back rest last : List Token} {expr : Expr}
    {statement : Statement} (derived : Nested limit front expr)
    (assigned : Assigned (Nested limit) back statement) (same : front ++ rest = back ++ last) :
    last.length ≤ rest.length := by
  obtain ⟨name, target, equal, tokens, value, rfl, ⟨isName, _⟩, assigns, _, _⟩ := assigned
  match front, derived with
  | [], derived => exact absurd rfl (nested_ne_nil derived)
  | [first], _ =>
    have sizes := congrArg List.length same
    simp only [List.length_append, List.length_cons, List.length_nil] at sizes
    omega
  | first :: second :: front, derived =>
    obtain ⟨rfl, after⟩ := List.cons.inj same
    obtain ⟨rfl, _⟩ := List.cons.inj after
    exact absurd derived (not_nested_of_equal isName assigns)

/-- The rule for statements reads as far as any statement reaches. Assignments are tried first, so
where one can be derived it is read. Where an expression is derived, it is read if no assignment is;
and an assignment that is read instead reaches at least as far. -/
theorem greedy_statementWithin (limit : Nat) :
    Greedy 0 (statementWithin limit) (Derives limit) := by
  have expressions : Greedy 0 (expressionOver limit Rule.fail (limit + 1)) (Nested limit) :=
    greedy_nested limit 0 (Nat.zero_add limit)
  have assignments := expressions.assignment
  have others := expressions.map Statement.expression
  unfold statementWithin statement
  generalize expressionOver limit Rule.fail (limit + 1) = value at expressions assignments others
  constructor
  case keeps => exact keeps_statement expressions.keeps
  case derived =>
    intro tokens trail result last depth read
    have kept := (assignments.keeps (.ofList tokens) trail).1.trans depth
    rcases found : assignment value (.ofList tokens) trail with ⟨_ | ⟨assigned, rest⟩, after⟩
    · rw [found] at kept
      rw [Rule.orElse_of_none found] at read
      obtain ⟨front, split, expr, derived, rfl⟩ := others.derived tokens after result last kept read
      exact ⟨front, split, .expression front expr derived⟩
    · rw [Rule.orElse_of_some found] at read
      cases read
      obtain ⟨_, split, name, _, equal, rest', expr, rfl, ⟨isName, rfl⟩, assigns, derived, rfl⟩ :=
        assignments.derived tokens trail result last depth (by rw [found])
      exact ⟨_, split, .assignment name equal rest' expr isName assigns derived⟩
  case reaches =>
    intro front result rest trail depth derived
    cases derived with
    | assignment name equal tokens expr isName assigns derived =>
      obtain ⟨given, last, found, further⟩ := assignments.reaches _ _ rest trail depth
        ⟨name, _, equal, tokens, expr, rfl, ⟨isName, rfl⟩, assigns, derived, rfl⟩
      exact ⟨given, last, by rw [Rule.orElse_of_some (Prod.ext found rfl)], further⟩
    | expression _ expr derived =>
      have kept := (assignments.keeps (.ofList (front ++ rest)) trail).1.trans depth
      rcases found : assignment value (.ofList (front ++ rest)) trail with
        ⟨_ | ⟨assigned, last⟩, after⟩
      · rw [found] at kept
        rw [Rule.orElse_of_none found]
        exact others.reaches front _ rest after kept ⟨expr, derived, rfl⟩
      · rw [Rule.orElse_of_some found]
        obtain ⟨back, split, made⟩ :=
          assignments.derived (front ++ rest) trail assigned last depth (by rw [found])
        exact ⟨assigned, last, rfl, last.left_eq ▸ length_le_of_assigned derived made split⟩

end Statements

end Formula.Grammar
