import Formula.Proofs.Grammar.Course

/-!
# No tokens have two trees

A part of a statement may be followed by anything that it cannot itself go on with. Then there is
no choice where it ends and which tree it makes. This is shown of the productions one by one,
without the rules that read them: an alternative is told by its first token, and a chain or a list
ends before the first token that is neither an operator nor a comma of its own.
-/

namespace Formula.Grammar

variable {α β : Type}

/-- The tokens begin with none of these kinds. -/
def Stops (follow : List Token.Kind) (tokens : List Token) : Prop :=
  ∀ token ∈ tokens.head?, token.kind ∉ follow

/-- The tokens begin with one of these kinds. -/
def Starts (kinds : List Token.Kind) (tokens : List Token) : Prop :=
  ∃ token ∈ tokens.head?, token.kind ∈ kinds

/-- Two readings of the same tokens agree in where they end and in what they make, if neither is
followed by a kind with which it could go on. -/
def Definite (language : Language α) (follow : List Token.Kind) : Prop :=
  ∀ front result rest front' result' rest', language front result → language front' result' →
    front ++ rest = front' ++ rest' → Stops follow rest → Stops follow rest' →
    front = front' ∧ result = result'

/-- Whatever the language derives begins with one of these kinds. -/
def Leads (language : Language α) (kinds : List Token.Kind) : Prop :=
  ∀ tokens result, language tokens result → Starts kinds tokens

/-- A definite language that is told by the token it begins with. -/
structure Told (language : Language α) (kinds follow : List Token.Kind) : Prop where
  definite : Definite language follow
  leads : Leads language kinds

/-- What one of two languages derives. -/
def Either (first second : Language α) : Language α :=
  fun tokens result => first tokens result ∨ second tokens result

/-- What can be made of what a language derives. -/
def Made (language : Language α) (make : α → β) : Language β :=
  fun tokens made => ∃ result, language tokens result ∧ made = make result

/-- What one token by itself is accepted as. -/
def Single (accepts : Token → α → Prop) : Language α :=
  fun tokens result => ∃ token, tokens = [token] ∧ accepts token result

/-- What tokens begin with does not depend on what comes after them. There is a first token already,
and it stays the first. -/
theorem Starts.append {kinds : List Token.Kind} {front : List Token} (starts : Starts kinds front)
    (rest : List Token) : Starts kinds (front ++ rest) := by
  obtain ⟨token, isHead, among⟩ := starts
  obtain ⟨later, rfl⟩ := List.head?_eq_some_iff.mp isHead
  exact ⟨token, rfl, among⟩

/-- A first token that is outside of many kinds is outside of fewer kinds as well. -/
theorem Stops.mono {follow wider : List Token.Kind} {tokens : List Token}
    (stops : Stops wider tokens) (within : ∀ kind ∈ follow, kind ∈ wider) : Stops follow tokens :=
  fun token isHead member => stops token isHead (within _ member)

/-- Tokens that begin with one of some kinds do not begin with any of others, where the two sets of
kinds have nothing in common. There is only one first token. -/
theorem Starts.stops {kinds follow : List Token.Kind} {tokens : List Token}
    (starts : Starts kinds tokens) (apart : ∀ kind ∈ kinds, kind ∉ follow) :
    Stops follow tokens := by
  obtain ⟨token, isHead, among⟩ := starts
  intro head isHead'
  obtain rfl : head = token := Option.some.inj (isHead'.symm.trans isHead)
  exact apart _ among

/-- The first token cannot be both of some kinds and of none of them. -/
theorem Starts.not_stops {kinds : List Token.Kind} {tokens : List Token}
    (starts : Starts kinds tokens) (stops : Stops kinds tokens) : False := by
  obtain ⟨token, isHead, among⟩ := starts
  exact stops token isHead among

section Combinations

variable {language item : Language α} {other : Language β} {follow kinds marks : List Token.Kind}

/-- A language is definite if a wider one is. -/
theorem Definite.of_imp {wider : Language α} (definite : Definite wider follow)
    (wide : ∀ tokens result, language tokens result → wider tokens result) :
    Definite language follow :=
  fun front result rest front' result' rest' derived derived' =>
    definite front result rest front' result' rest' (wide _ _ derived) (wide _ _ derived')

/-- One of two languages begins with a kind of the one or of the other. -/
theorem Leads.or {second : Language α} {others : List Token.Kind} (leads : Leads language kinds)
    (leads' : Leads second others) : Leads (Either language second) (kinds ++ others) := by
  rintro tokens result (derived | derived)
  · obtain ⟨token, isHead, among⟩ := leads tokens result derived
    exact ⟨token, isHead, List.mem_append_left others among⟩
  · obtain ⟨token, isHead, among⟩ := leads' tokens result derived
    exact ⟨token, isHead, List.mem_append_right kinds among⟩

/-- What is made of the results does not change the tokens, nor then the first of them. -/
theorem Leads.map (leads : Leads language kinds) (make : α → β) :
    Leads (Made language make) kinds := by
  rintro tokens _ ⟨result, derived, rfl⟩
  exact leads tokens result derived

/-- Two alternatives that begin with different kinds are definite together: the first token tells
which of them it is, and each is definite by itself. The cases in which the two derivations choose
differently are impossible for that reason. -/
theorem Told.or {second : Language α} {others : List Token.Kind} (told : Told language kinds follow)
    (told' : Told second others follow) (apart : ∀ kind ∈ kinds, kind ∉ others) :
    Told (Either language second) (kinds ++ others) follow where
  leads := told.leads.or told'.leads
  definite := by
    have differ {front rest front' rest' : List Token} {result result' : α}
        (derived : language front result) (derived' : second front' result')
        (same : front ++ rest = front' ++ rest') : False := by
      have starts := (told.leads front result derived).append rest
      have starts' := (told'.leads front' result' derived').append rest'
      rw [same] at starts
      exact starts'.not_stops (starts.stops apart)
    intro front result rest front' result' rest' derived derived' same stops stops'
    rcases derived with derived | derived <;> rcases derived' with derived' | derived'
    · exact told.definite front result rest front' result' rest' derived derived' same stops stops'
    · exact (differ derived derived' same).elim
    · exact (differ derived' derived same.symm).elim
    · exact told'.definite front result rest front' result' rest' derived derived' same stops stops'

/-- After any number of items there stands a mark or what follows the whole. -/
theorem stops_of_star {results : List α} {later rest : List Token} (leads : Leads item marks)
    (apart : ∀ kind ∈ marks, kind ∉ follow) (derived : Star item later results)
    (stops : Stops (follow ++ marks) rest) : Stops follow (later ++ rest) := by
  cases derived with
  | none => exact stops.mono fun kind member => List.mem_append_left marks member
  | more tokens result later results derived _ =>
    rw [List.append_assoc]
    exact ((leads tokens result derived).append _).stops apart

/-- Items that begin with a mark of their own are definite, as many as there are. By induction over
the first derivation: as long as it goes on, the second has to go on, since a mark stands there; and
where it ends, the second has to end. -/
theorem Definite.star (definite : Definite item follow) (leads : Leads item marks)
    (apart : ∀ kind ∈ marks, kind ∉ follow) : Definite (Star item) (follow ++ marks) := by
  have finished {tokens later rest rest' : List Token} {result : α}
      (derived : item tokens result) (same : rest = tokens ++ later ++ rest')
      (stops : Stops (follow ++ marks) rest) : False := by
    rw [same, List.append_assoc] at stops
    exact ((leads tokens result derived).append _).not_stops
      (stops.mono fun kind member => List.mem_append_right follow member)
  intro front results rest front' results' rest' derived derived' same stops stops'
  induction derived generalizing front' results' with
  | none =>
    cases derived' with
    | none => exact ⟨rfl, rfl⟩
    | more tokens result later results derived _ => exact (finished derived same stops).elim
  | more tokens result later results derived others ih =>
    cases derived' with
    | none => exact (finished derived same.symm stops').elim
    | more tokens' result' later' results' derived' others' =>
      rw [List.append_assoc, List.append_assoc] at same
      obtain ⟨rfl, rfl⟩ := definite tokens result _ tokens' result' _ derived derived' same
        (stops_of_star leads apart others stops) (stops_of_star leads apart others' stops')
      obtain ⟨rfl, rfl⟩ := ih later' results' others' (List.append_cancel_left same)
      exact ⟨rfl, rfl⟩

/-- Something, and then any number of items that begin with a mark of their own. The first part is
definite because after it there stands a mark or what follows the whole. -/
theorem Definite.followed {language : Language β} (definite : Definite language follow)
    (definite' : Definite item follow) (leads : Leads item marks)
    (apart : ∀ kind ∈ marks, kind ∉ follow) :
    Definite (fun tokens (result : β × List α) => ∃ front later, tokens = front ++ later ∧
      language front result.1 ∧ Star item later result.2) (follow ++ marks) := by
  rintro _ ⟨first, results⟩ rest _ ⟨first', results'⟩ rest' ⟨front, later, rfl, derived, others⟩
    ⟨front', later', rfl, derived', others'⟩ same stops stops'
  rw [List.append_assoc, List.append_assoc] at same
  obtain ⟨rfl, rfl⟩ := definite front first _ front' first' _ derived derived' same
    (stops_of_star leads apart others stops) (stops_of_star leads apart others' stops')
  obtain ⟨rfl, rfl⟩ := definite'.star leads apart later results rest later' results' rest' others
    others' (List.append_cancel_left same) stops stops'
  exact ⟨rfl, rfl⟩

/-- Something that one kind of token closes needs nothing after it to be definite: the closing token
is what ends the inside, in both derivations. -/
theorem Definite.closed {closing : Symbol} (definite : Definite item follow)
    (apart : .symbol closing ∉ follow) : Definite (Closed closing item) [] := by
  rintro _ _ rest _ _ rest' ⟨tokens, result, right, derived, closes⟩
    ⟨tokens', result', right', derived', closes'⟩ same _ _
  have ended {token : Token} {later : List Token} (closes : token.kind = .symbol closing) :
      Stops follow (token :: later) := by
    rintro _ ⟨⟩
    rw [closes]
    exact apart
  rw [List.append_assoc, List.append_assoc] at same
  obtain ⟨rfl, rfl⟩ := definite tokens result _ tokens' result' _ derived derived' same
    (ended closes) (ended closes')
  obtain rfl : right = right' := (List.cons.inj (List.append_cancel_left same)).1
  exact ⟨rfl, rfl⟩

/-- What is made of the results of a definite language is definite, with the results that were there
before. -/
theorem Definite.map (definite : Definite language follow) (make : α → β) :
    Definite (Made language make) follow := by
  rintro front _ rest front' _ rest' ⟨result, derived, rfl⟩ ⟨result', derived', rfl⟩ same stops
    stops'
  obtain ⟨rfl, rfl⟩ := definite front result rest front' result' rest' derived derived' same stops
    stops'
  exact ⟨rfl, rfl⟩

/-- Both parts of being told by the first token carry over to what is made of the results. -/
theorem Told.map (told : Told language kinds follow) (make : α → β) :
    Told (Made language make) kinds follow :=
  ⟨told.definite.map make, told.leads.map make⟩

/-- A language of single tokens is definite if each token gives one result at most. It needs no
condition on what follows. -/
theorem definite_single {accepts : Token → α → Prop}
    (functional : ∀ token result result', accepts token result → accepts token result' →
      result = result') : Definite (Single accepts) follow := by
  rintro _ result rest _ result' rest' ⟨token, rfl, accepted⟩ ⟨token', rfl, accepted'⟩ same _ _
  obtain rfl : token = token' := (List.cons.inj same).1
  exact ⟨rfl, functional token result result' accepted accepted'⟩

/-- A language of single tokens begins with the kinds of the tokens that it accepts. -/
theorem leads_single {accepts : Token → α → Prop}
    (among : ∀ token result, accepts token result → token.kind ∈ kinds) :
    Leads (Single accepts) kinds := by
  rintro _ result ⟨token, rfl, accepted⟩
  exact ⟨token, rfl, among token result accepted⟩

/-- So a language of single tokens is told by the first token, which is all there is of it. -/
theorem told_single {accepts : Token → α → Prop}
    (functional : ∀ token result result', accepts token result → accepts token result' →
      result = result')
    (among : ∀ token result, accepts token result → token.kind ∈ kinds) :
    Told (Single accepts) kinds follow :=
  ⟨definite_single functional, leads_single among⟩

end Combinations

section Productions

variable {item : Language α} {inner : Language Expr} {follow kinds : List Token.Kind}
variable {opening closing : Symbol} {depth : Nat}

/-- What is closed by a token begins as it does without that token. -/
theorem Leads.closed (leads : Leads item kinds) : Leads (Closed closing item) kinds := by
  rintro _ _ ⟨tokens, result, right, derived, _⟩
  exact (leads tokens result derived).append _

/-- Items with commas between them begin as the first of the items does. -/
theorem Leads.separated (leads : Leads item kinds) : Leads (Separated item) kinds := by
  rintro _ _ ⟨tokens, result, later, results, derived, _⟩
  exact (leads tokens result derived).append later

/-- A pair begins with its key, which is a string. -/
theorem leads_pair : Leads (Pair inner) [.string] := by
  rintro _ _ ⟨key, value, colon, tokens, expr, isString, _, _, _⟩
  exact ⟨key, rfl, List.mem_singleton.mpr isString⟩

/-- What is definite up to its closing bracket is told by the bracket that opens it. -/
theorem Definite.enclosed (definite : Definite (Closed closing item) []) :
    Told (Enclosed opening closing item) [.symbol opening] [] where
  definite := by
    rintro _ _ rest _ _ rest' ⟨left, tokens, result, opens, derived⟩
      ⟨left', tokens', result', opens', derived'⟩ same stops stops'
    obtain ⟨rfl, after⟩ := List.cons.inj same
    obtain ⟨rfl, rfl⟩ := definite tokens result rest tokens' result' rest' derived derived' after
      stops stops'
    exact ⟨rfl, rfl⟩
  leads := by
    rintro _ _ ⟨left, tokens, result, opens, _⟩
    exact ⟨left, rfl, List.mem_singleton.mpr opens⟩

/-- Every item after the first one begins with the comma in front of it. -/
theorem leads_afterComma : Leads (AfterComma item) [.symbol .comma] := by
  rintro _ _ ⟨comma, tokens, _, parts, _⟩
  exact ⟨comma, rfl, List.mem_singleton.mpr parts⟩

/-- A comma in front changes nothing: it is the same token in both derivations, and what comes after
it is definite. -/
theorem Definite.afterComma (definite : Definite item follow) :
    Definite (AfterComma item) follow := by
  rintro _ result rest _ result' rest' ⟨comma, tokens, _, parts, derived⟩
    ⟨comma', tokens', _, parts', derived'⟩ same stops stops'
  obtain ⟨rfl, after⟩ := List.cons.inj same
  obtain ⟨rfl, rfl⟩ := definite tokens result rest tokens' result' rest' derived derived' after
    stops stops'
  exact ⟨rfl, rfl⟩

/-- Items end before the first token that is not a comma of theirs. They are the first item,
followed by as many more as commas lead to. -/
theorem Definite.separated (definite : Definite item follow) (apart : .symbol .comma ∉ follow) :
    Definite (Separated item) (follow ++ [.symbol .comma]) := by
  have others : ∀ kind ∈ [Token.Kind.symbol .comma], kind ∉ follow := by
    simpa using apart
  have whole := definite.followed definite.afterComma leads_afterComma others
  refine (whole.map fun parts => parts.1 :: parts.2).of_imp ?_
  rintro _ _ ⟨tokens, result, later, results, derived, followed⟩
  exact ⟨(result, results), ⟨tokens, later, rfl, derived, followed⟩, rfl⟩

/-- Items may be missing only where the bracket is closed at once. So the closing bracket tells the
one case and the first token of an item the other, and the two are alternatives that differ in their
first token. -/
theorem Definite.items (definite : Definite (Separated item) follow)
    (leads : Leads item kinds) (ended : .symbol closing ∉ follow)
    (apart : .symbol closing ∉ kinds) : Definite (Closed closing (Items item)) [] := by
  have nothing : Told (Single fun right (result : List α × Token) =>
      right.kind = .symbol closing ∧ result = ([], right)) [.symbol closing] [] := by
    refine told_single ?_ fun right result accepted => List.mem_singleton.mpr accepted.1
    rintro right _ _ ⟨_, rfl⟩ ⟨_, rfl⟩
    rfl
  have something : Told (Closed closing (Separated item)) kinds [] :=
    ⟨definite.closed ended, leads.separated.closed⟩
  have others : ∀ kind ∈ [Token.Kind.symbol closing], kind ∉ kinds := by
    simpa using apart
  refine (nothing.or something others).definite.of_imp ?_
  rintro _ _ ⟨tokens, results, right, derived, closes⟩
  cases derived with
  | none => exact .inl ⟨right, rfl, closes, rfl⟩
  | some _ _ derived => exact .inr (.closed tokens results right derived closes)

/-- A pair is definite if its value is: the key and the colon are single tokens, and a string token
stands for one string. -/
theorem Definite.pair (definite : Definite inner follow) : Definite (Pair inner) follow := by
  rintro _ _ rest _ _ rest' ⟨key, value, colon, tokens, expr, _, denotes, _, derived⟩
    ⟨key', value', colon', tokens', expr', _, denotes', _, derived'⟩ same stops stops'
  obtain ⟨rfl, afterKey⟩ := List.cons.inj same
  obtain ⟨rfl, after⟩ := List.cons.inj afterKey
  obtain rfl := Option.some.inj (denotes.symm.trans denotes')
  obtain ⟨rfl, rfl⟩ := definite tokens expr rest tokens' expr' rest' derived derived' after stops
    stops'
  exact ⟨rfl, rfl⟩

section Chains

variable {signs : List (Symbol × Operator)}

/-- A step of a chain begins with the sign of its operator. -/
theorem leads_step : Leads (Step signs inner) (kindsOf signs) := by
  rintro _ _ ⟨sign, symbol, operator, tokens, expr, listed, written, _⟩
  exact ⟨sign, rfl, written ▸ List.mem_map_of_mem listed⟩

/-- A step is definite if its operand is. One sign stands for one operator, so the derivations agree
on the operator before they come to the operand. -/
theorem Definite.step (definite : Definite inner follow)
    (functional : ∀ first ∈ signs, ∀ second ∈ signs, first.1 = second.1 → first = second) :
    Definite (Step signs inner) follow := by
  rintro _ _ rest _ _ rest' ⟨sign, symbol, operator, tokens, expr, listed, written, derived⟩
    ⟨sign', symbol', operator', tokens', expr', listed', written', derived'⟩ same stops stops'
  obtain ⟨rfl, after⟩ := List.cons.inj same
  obtain rfl : symbol = symbol' := Token.Kind.symbol.inj (written.symm.trans written')
  obtain rfl : operator = operator' := (Prod.mk.inj (functional _ listed _ listed' rfl)).2
  obtain ⟨rfl, rfl⟩ := definite tokens expr rest tokens' expr' rest' derived derived' after stops
    stops'
  exact ⟨rfl, rfl⟩

/-- A chain ends before the first token that is not an operator of its own. It is the tree that is
grouped from an operand and as many steps as there are, and these parts are definite. -/
theorem Definite.chain (definite : Definite inner follow)
    (apart : ∀ kind ∈ kindsOf signs, kind ∉ follow)
    (functional : ∀ first ∈ signs, ∀ second ∈ signs, first.1 = second.1 → first = second) :
    Definite (Chain signs inner) (follow ++ kindsOf signs) := by
  have whole := definite.followed (definite.step functional) leads_step apart
  refine (whole.map fun parts => groupLeft parts.1 parts.2).of_imp ?_
  intro tokens expr derived
  obtain ⟨front, head, later, steps, rfl, first, others, rfl⟩ := chain_iff_grouped.mp derived
  exact ⟨(head, steps), ⟨front, later, rfl, first, others⟩, rfl⟩

end Chains

/-- A literal, as one token by itself. -/
def IsLiteral (token : Token) (expr : Expr) : Prop :=
  ∃ value, token.value? = some value ∧ expr = .literal value token.span

/-- A name, as one token by itself. -/
def IsName (token : Token) (expr : Expr) : Prop :=
  token.kind = .name ∧ expr = .name ⟨token.lexeme, token.span⟩

/-- The alternatives of a factor are told by their first tokens: a literal, a name and the three
opening brackets are all different. Each alternative by itself ends at a token of its own, so
nothing is asked of what follows. -/
theorem Definite.factor (definite : Definite inner Frontier.signKinds)
    (leads : Leads inner Frontier.operandKinds) : Definite (Factor inner depth) [] := by
  have literals : Told (Single IsLiteral) [.integer, .float, .string, .boolean] [] := by
    refine told_single ?_ ?_
    · rintro token _ _ ⟨value, denotes, rfl⟩ ⟨value', denotes', rfl⟩
      rw [Option.some.inj (denotes.symm.trans denotes')]
    · rintro token _ ⟨value, denotes, _⟩
      simpa using token.value?_isSome.mp (by simp [denotes])
  have names : Told (Single IsName) [.name] [] := by
    refine told_single ?_ fun token expr accepted => List.mem_singleton.mpr accepted.1
    rintro token _ _ ⟨_, rfl⟩ ⟨_, rfl⟩
    rfl
  have lists : Told (Enclosed .leftBracket .rightBracket (Items inner)) [.symbol .leftBracket] [] :=
    ((definite.separated (by decide)).items leads (by decide) (by decide)).enclosed
  have dictionaries : Told (Enclosed .leftBrace .rightBrace (Items (Pair inner)))
      [.symbol .leftBrace] [] :=
    ((definite.pair.separated (by decide)).items leads_pair (by decide) (by decide)).enclosed
  have groups : Told (Enclosed .leftParen .rightParen inner) [.symbol .leftParen] [] :=
    (definite.closed (by decide)).enclosed
  have braced := (dictionaries.map fun parts =>
      Expr.dictionary parts.2.1 (parts.1.span.through parts.2.2.span)).or
    (groups.map fun parts => parts.2.1) (by decide)
  have bracketed := (lists.map fun parts =>
      Expr.list parts.2.1 (parts.1.span.through parts.2.2.span)).or braced (by decide)
  refine (literals.or (names.or bracketed (by decide)) (by decide)).definite.of_imp ?_
  intro tokens expr derived
  cases derived with
  | literal token value denotes => exact .inl ⟨token, rfl, value, denotes, rfl⟩
  | name token isName => exact .inr (.inl ⟨token, rfl, isName, rfl⟩)
  | list _ left elements right _ derived => exact .inr (.inr (.inl ⟨_, derived, rfl⟩))
  | dictionary _ left pairs right _ derived => exact .inr (.inr (.inr (.inl ⟨_, derived, rfl⟩)))
  | group _ left _ right _ derived => exact .inr (.inr (.inr (.inr ⟨_, derived, rfl⟩)))

/-- A term is a chain of factors, and ends before what is not a multiplicative sign. -/
theorem Definite.term (definite : Definite inner Frontier.signKinds)
    (leads : Leads inner Frontier.operandKinds) :
    Definite (Term inner depth) (kindsOf multiplicativeSigns) :=
  (definite.factor leads).chain (by simp) (by decide)

/-- An expression is a chain of terms, and ends before what is no sign at all. -/
theorem Definite.expression (definite : Definite inner Frontier.signKinds)
    (leads : Leads inner Frontier.operandKinds) :
    Definite (Expression inner depth) Frontier.signKinds :=
  (definite.term leads).chain (by decide) (by decide)

end Productions

/-- An expression begins with the first token of an operand. The frontier passes the whole
expression from where an operand is awaited, so it passes the first token, and there it passes these
kinds only. -/
theorem leads_nested (depth : Nat) : Leads (Nested depth) Frontier.operandKinds := by
  intro tokens expr derived
  have reached := passes_nested depth [] (Nat.le_refl _) tokens expr derived
  rcases tokens with _ | ⟨token, rest⟩
  · cases reached
  obtain ⟨inside, moved⟩ := Frontier.next_of_within reached
  refine ⟨token, rfl, ?_⟩
  have among : token.kind ∈ Frontier.kinds ⟨.operand, []⟩ := by
    rw [Frontier.mem_kinds_iff, moved]
    rfl
  exact among

/-- An expression ends before the first token that is not the sign of an operator, and makes one
tree. By induction on how deep it may nest, with the expressions inside brackets one level further
in. -/
theorem definite_nested (depth : Nat) : Definite (Nested depth) Frontier.signKinds := by
  induction depth with
  | zero =>
    refine Definite.expression ?_ ?_
    · rintro _ _ _ _ _ _ ⟨⟩
    · rintro _ _ ⟨⟩
  | succ depth ih => exact ih.expression (leads_nested depth)

/-- An expression that begins with a name does not go on with the sign of an assignment. After a
name there is an operand complete, and from there the frontier does not pass that sign. -/
theorem not_nested_of_equal {depth : Nat} {name equal : Token} {tokens : List Token} {expr : Expr}
    (isName : name.kind = .name) (assigns : equal.kind = .symbol .equal) :
    ¬Nested depth (name :: equal :: tokens) expr := by
  intro derived
  have reached := passes_nested depth [] (Nat.le_refl _) _ expr derived
  rw [Frontier.within_cons (next_operand isName) (Nat.zero_le _)] at reached
  obtain ⟨inside, moved⟩ := Frontier.next_of_within reached
  rw [assigns] at moved
  cases moved

/-- No tokens make two statements. Two assignments have their first two tokens in common, two
expressions all of them, and one of each is impossible, since an expression does not have the sign
of an assignment after a name. -/
theorem Derives.unique {depth : Nat} {tokens : List Token} {first second : Statement}
    (derived : Derives depth tokens first) (derived' : Derives depth tokens second) :
    first = second := by
  have definite {tokens : List Token} {expr expr' : Expr} (derived : Nested depth tokens expr)
      (derived' : Nested depth tokens expr') : expr = expr' :=
    (definite_nested depth tokens expr [] tokens expr' [] derived derived' rfl (by rintro _ ⟨⟩)
      (by rintro _ ⟨⟩)).2
  cases derived with
  | assignment name equal tokens expr isName assigns derived =>
    cases derived' with
    | assignment _ _ _ expr' _ _ derived' => rw [definite derived derived']
    | expression _ _ derived' => exact absurd derived' (not_nested_of_equal isName assigns)
  | expression _ expr derived =>
    cases derived' with
    | assignment name equal tokens _ isName assigns _ =>
      exact absurd derived (not_nested_of_equal isName assigns)
    | expression _ expr' derived' => rw [definite derived derived']

end Formula.Grammar
