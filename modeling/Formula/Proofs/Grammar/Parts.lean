import Formula.Proofs.Grammar.Alternative

/-!
# How far the rules of expressions read

Each rule of the grammar ends in one of the three ways that a rule can end in, with the language
of its production. The rules are taken from the inside out over the rule for what stands in
brackets; the recursion is through brackets alone and is closed at the end, by induction on how
many more of them may be opened.
-/

namespace Formula.Grammar

variable {α β : Type} {limit : Nat}

section Chains

variable {brackets : List Bracket} {asked : List Token.Kind}

/-- The kinds of the tokens that write some operators. -/
def kindsOf (signs : List (Symbol × Operator)) : List Token.Kind :=
  signs.map fun sign => .symbol sign.1

/-- A rule for some operators: it reads the sign of one, and asks for all of them before any other
token. -/
structure ReadsSigns (rule : Rule (Operator × Span)) (signs : List (Symbol × Operator)) : Prop where
  keeps : rule.Keeps
  asks : Asks rule (kindsOf signs)
  takes : ∀ token rest trail, token.kind ∈ kindsOf signs → ∃ symbol operator failure,
    (symbol, operator) ∈ signs ∧ token.kind = .symbol symbol ∧
      trail.failure.AgreesAt rest.length failure ∧
      rule (.ofList (token :: rest)) trail =
        (some ((operator, token.span), .ofList rest), ⟨trail.depth, failure⟩)

/-- Two rules for one operator each make a rule for both. A token that is the second sign is noted
by the first rule and then taken. -/
theorem readsSigns_pair (first second : Symbol) (meaning meaning' : Operator) :
    ReadsSigns (operator first meaning <|> operator second meaning')
      [(first, meaning), (second, meaning')] where
  keeps := (keeps_operator first meaning).orElse (keeps_operator second meaning')
  asks := ((Asks.token _).bind _).orElse ((Asks.token _).bind _)
  takes token rest trail marked := by
    by_cases isFirst : token.kind = .symbol first
    · exact ⟨first, meaning, trail.failure, by simp, isFirst, .refl _ _,
        Rule.orElse_of_some (Rule.bind_of_some (Rule.token_of_kind isFirst rest trail))⟩
    · have isSecond : token.kind = .symbol second := by
        simpa [kindsOf, isFirst] using marked
      have failed : operator first meaning (.ofList (token :: rest)) trail =
          (none, trail.note (.ofList (token :: rest)) (.token (.symbol first))) :=
        Rule.bind_of_none (Rule.token_of_not_kind (by rintro _ ⟨⟩; exact isFirst) trail)
      refine ⟨second, meaning',
        trail.failure.note (.ofList (token :: rest)) (.token (.symbol first)), by simp, isSecond,
        Failure.agreesAt_note (by simp) _ _, ?_⟩
      rw [Rule.orElse_of_none failed]
      exact Rule.bind_of_some (Rule.token_of_kind isSecond rest _)

/-- The rule for `+` and `-` reads the operators of sums. -/
theorem readsSigns_additive : ReadsSigns additive additiveSigns := readsSigns_pair _ _ _ _

/-- The rule for `*` and `/` reads the operators of products. -/
theorem readsSigns_multiplicative : ReadsSigns multiplicative multiplicativeSigns :=
  readsSigns_pair _ _ _ _

variable {sign : Rule (Operator × Span)} {signs : List (Symbol × Operator)}
variable {operand : Rule Expr} {language : Language Expr}

/-- An operator and its right operand lead from a place after an operand to the next such place. The
operator moves the frontier to where an operand begins, and the operand moves it back. -/
theorem alternative_step (readsSigns : ReadsSigns sign signs)
    (reads : Reads limit operand language ⟨.operand, brackets⟩ ⟨.afterOperand, brackets⟩ asked)
    (room : brackets.length ≤ limit)
    (operators : ∀ kind ∈ kindsOf signs, kind ∈ Frontier.signKinds) :
    Alternative limit (sign >>= fun step => operand >>= fun right => pure (step, right))
      (Step signs language) ⟨.afterOperand, brackets⟩ ⟨.afterOperand, brackets⟩ asked
      (kindsOf signs) where
  keeps := readsSigns.keeps.bind fun _ => reads.keeps.bind fun _ => Rule.keeps_pure _
  asks := readsSigns.asks.bind _
  among kind marked := List.mem_append_left _ (operators kind marked)
  nonempty := by
    rintro _ _ ⟨sign, symbol, operator, tokens, expr, _, _, _⟩
    simp
  takes token rest trail depth marked := by
    obtain ⟨symbol, operator, failure, listed, written, agrees, found⟩ :=
      readsSigns.takes token rest trail marked
    rw [Rule.bind_of_some found]
    change Outcome limit _ _ _ asked _ _
      (((fun right => ((operator, token.span), right)) <$> operand) _ _).1
      (((fun right => ((operator, token.span), right)) <$> operand) _ _).2.failure
    rw [Rule.map_apply]
    have moved : Frontier.next ⟨.afterOperand, brackets⟩ token.kind =
        some ⟨.operand, brackets⟩ := by
      simp [Frontier.next, Frontier.goOn, operators _ marked]
    have outcome := reads.outcome rest ⟨trail.depth, failure⟩ depth
    refine (outcome.prepend [token] rest rfl (Frontier.within_cons moved room []) agrees
      fun tokens right derived => ?_).map _ fun _ _ derived => derived
    exact .signed token symbol operator tokens right listed written derived

/-- A chain of some operators asks for them after its last operand. It is an operand and the loop
over the steps behind it, so both lemmas on loops are used, and what they collect is grouped as the
grammar nests it. -/
theorem reads_chain (readsSigns : ReadsSigns sign signs)
    (reads : Reads limit operand language ⟨.operand, brackets⟩ ⟨.afterOperand, brackets⟩ asked)
    (room : brackets.length ≤ limit) (apart : ∀ kind ∈ asked, kind ∉ kindsOf signs)
    (operators : ∀ kind ∈ kindsOf signs, kind ∈ Frontier.signKinds) :
    Reads limit (chain sign operand) (Chain signs language) ⟨.operand, brackets⟩
      ⟨.afterOperand, brackets⟩ (asked ++ kindsOf signs) := by
  have loop := alternative_step readsSigns reads room operators
  refine reads.bind (fun head tokens expr => ∃ steps, Star (Step signs language) tokens steps ∧
      expr = groupLeft head steps) (fun head => loop.keeps.repeated.map (groupLeft head)) ?_
    (fun head => (loop.idles_repeated apart).map (groupLeft head)) ?_
  · intro head tokens trail earlier depth stops given
    exact (loop.outcome_repeated apart tokens trail earlier depth stops given).map (groupLeft head)
      fun tokens steps derived => ⟨steps, derived, rfl⟩
  · rintro front head tokens _ derived ⟨steps, others, rfl⟩
    exact Chain.grouped (.single derived) others

end Chains

section Items

variable {item : Rule α} {language : Language α} {source entry middle target : Frontier}
variable {asked : List Token.Kind} {closing : Symbol}

/-- A comma leads back to where an item begins, so the loop over later items starts like the first
item does. -/
theorem alternative_afterComma (reads : Reads limit item language entry middle asked)
    (moved : middle.next (.symbol .comma) = some entry)
    (level : entry.brackets.length = middle.brackets.length)
    (room : entry.brackets.length ≤ limit) :
    Alternative limit (Rule.token (.symbol .comma) >>= fun _ => item) (AfterComma language)
      middle middle asked [.symbol .comma] where
  keeps := (Rule.keeps_token _).bind fun _ => reads.keeps
  asks := (Asks.token _).bind _
  among := by
    intro kind isComma
    rw [List.mem_singleton.mp isComma, Frontier.mem_kinds_iff, moved]
    rfl
  nonempty := by
    rintro _ _ ⟨comma, tokens, _, _, _⟩
    simp
  takes token rest trail depth marked := by
    have isComma : token.kind = .symbol .comma := List.mem_singleton.mp marked
    rw [Rule.bind_of_some (Rule.token_of_kind isComma rest trail)]
    have outcome := reads.outcome rest trail (depth.trans level.symm)
    rw [← isComma] at moved
    refine outcome.prepend [token] rest rfl (Frontier.within_cons moved room [])
      (.refl _ _) fun tokens result derived => ?_
    exact .next token tokens result isComma derived

/-- Items with commas between them ask for one more comma after the last of them. It is a loop like
that of a chain, with the comma as its only mark. -/
theorem reads_separated (reads : Reads limit item language entry middle asked)
    (moved : middle.next (.symbol .comma) = some entry)
    (level : entry.brackets.length = middle.brackets.length)
    (room : entry.brackets.length ≤ limit) (apart : .symbol .comma ∉ asked) :
    Reads limit (Rule.separated item .comma) (Separated language) entry middle
      (asked ++ [.symbol .comma]) := by
  have loop := alternative_afterComma reads moved level room
  have others : ∀ kind ∈ asked, kind ∉ [Token.Kind.symbol .comma] := by
    intro kind member isComma
    exact apart (List.mem_singleton.mp isComma ▸ member)
  refine reads.bind (fun first tokens results => ∃ later,
      Star (AfterComma language) tokens later ∧ results = first :: later)
    (fun first => loop.keeps.repeated.map (first :: ·)) ?_
    (fun first => (loop.idles_repeated others).map (first :: ·)) ?_
  · intro first tokens trail earlier depth stops given
    exact (loop.outcome_repeated others tokens trail earlier (depth.trans level) stops given).map
      (first :: ·) fun tokens later derived => ⟨later, derived, rfl⟩
  · rintro front first tokens _ derived ⟨later, followed, rfl⟩
    exact .parted front first tokens later derived followed

/-- A place where a bracket may be closed: its closing symbol is what is asked for last. -/
structure Ends (middle target : Frontier) (asked : List Token.Kind) (closing : Symbol) : Prop where
  kinds : middle.kinds = asked ++ [.symbol closing]
  closes : middle.next (.symbol closing) = some target
  unfinished : middle.isComplete = false
  apart : .symbol closing ∉ asked

/-- Where a bracket may be closed and all else was asked for in vain, it is closed, or nothing may
stand there that does. The question for the closing symbol is the last one of the place, so what was
noted is all that may stand there. -/
theorem Ends.outcome (ends : Ends middle target asked closing) (make : Token → β)
    (fits : target.brackets.length ≤ limit) (tokens : List Token) (trail : Trail)
    (earlier : Failure) (stops : ∀ token ∈ tokens.head?, token.kind ∉ asked)
    (given : trail.failure = earlier.noteAll (.ofList tokens) (asked.map .token)) :
    Outcome limit (fun tokens made => ∃ right, tokens = [right] ∧ right.kind = .symbol closing ∧
        made = make right) middle target [] tokens earlier
      ((Rule.token (.symbol closing) >>= fun right => pure (make right))
        (.ofList tokens) trail).1
      ((Rule.token (.symbol closing) >>= fun right => pure (make right))
        (.ofList tokens) trail).2.failure := by
  rcases Token.head_cases (· = .symbol closing) tokens with ⟨token, rest, isClosing, rfl⟩ | other
  · have closes := ends.closes
    rw [← isClosing] at closes
    rw [Rule.bind_of_some (Rule.token_of_kind isClosing rest trail), Rule.pure_apply, given]
    exact .read [token] rest _ _ rfl ⟨token, rfl, isClosing, rfl⟩
      (Frontier.within_cons closes fits []) (by simp) (Failure.agreesAt_noteAll (by simp) _ _)
  · have noted : (trail.note (.ofList tokens) (.token (.symbol closing))).failure =
        earlier.noteAll (.ofList tokens) (middle.kinds.map .token) := by
      rw [ends.kinds, List.map_append, Failure.noteAll_append, ← given]
      rfl
    rw [Rule.bind_of_none (Rule.token_of_not_kind other trail), noted]
    refine .halted tokens.length none _ ?_ (dangles_none _ _ _)
    refine .stuck [] tokens middle earlier rfl rfl ends.unfinished ?_ (.refl _ _)
    intro token isHead
    have absent : token.kind ∉ middle.kinds := by
      simp [ends.kinds, stops token isHead, other token isHead]
    simpa [Frontier.mem_kinds_iff] using absent

/-- Something up to the symbol that closes the bracket around it. After the bracket nothing more is
asked for. -/
theorem Reads.close {whole : Language β} (reads : Reads limit item language source middle asked)
    (ends : Ends middle target asked closing) (fits : target.brackets.length ≤ limit)
    (make : α → Token → β)
    (wide : ∀ tokens result right, Closed closing language tokens (result, right) →
      whole tokens (make result right)) :
    Reads limit (item >>= fun result => Rule.token (.symbol closing) >>= fun right =>
      pure (make result right)) whole source target [] := by
  refine reads.bind (fun result tokens made => ∃ right, tokens = [right] ∧
      right.kind = .symbol closing ∧ made = make result right)
    (fun result => (Rule.keeps_token _).bind fun _ => Rule.keeps_pure _) ?_ ?_ ?_
  · intro result tokens trail earlier depth stops given
    exact ends.outcome (make result) fits tokens trail earlier stops given
  · intro result
    refine ((Asks.token _).bind _).idles (fun kind member isClosing => ?_) []
    exact ends.apart (List.mem_singleton.mp isClosing ▸ member)
  · rintro front result _ _ derived ⟨right, rfl, isClosing, rfl⟩
    exact wide _ _ _ (.closed front result right derived isClosing)

/-- A place where items may begin or the bracket around them may be closed at once. -/
structure Begins (source entry target : Frontier) (closing : Symbol) : Prop extends
    Ends source target entry.kinds closing where
  level : source.brackets = entry.brackets
  alike : ∀ kind ∈ entry.kinds, source.next kind = entry.next kind

/-- Before a token with which no item begins, a rule for items asks for all that they may begin
with. The frontier does not move, so of all endings only being stuck at once is left. -/
theorem Reads.refused (reads : Reads limit item language entry middle asked)
    (proper : entry ≠ middle) {tokens : List Token} {trail : Trail}
    (depth : trail.depth = entry.brackets.length)
    (other : ∀ token ∈ tokens.head?, token.kind ∉ entry.kinds) :
    (item (.ofList tokens) trail).1 = none ∧ (item (.ofList tokens) trail).2.failure =
      trail.failure.noteAll (.ofList tokens) (entry.kinds.map .token) := by
  have outcome := reads.outcome tokens trail depth
  -- The frontier moves over no token at all, because it does not move over the first.
  have unmoved {front rest : List Token} {place : Frontier} (split : tokens = front ++ rest)
      (reached : entry.within limit front = some place) : front = [] := by
    cases front with
    | nil => rfl
    | cons token front =>
      obtain ⟨inside, moved⟩ := Frontier.next_of_within reached
      have absent := other token (by simp [split])
      rw [Frontier.mem_kinds_iff, moved] at absent
      exact absurd rfl absent
  generalize (item (.ofList tokens) trail).2.failure = kept at outcome
  generalize (item (.ofList tokens) trail).1 = result at outcome
  cases outcome with
  | read front rest result earlier split derived reached stops agrees =>
    obtain rfl := unmoved split reached
    exact absurd (Option.some.inj reached) proper
  | halted left result kept halt dangles =>
    cases halt with
    | stuck front rest place earlier split reached unfinished blocked agrees =>
      obtain rfl := unmoved split reached
      obtain rfl : entry = place := Option.some.inj reached
      obtain rfl : tokens = rest := split
      refine ⟨?_, (agrees.noteAll_eq (Nat.le_refl _) (by simpa using entry.kinds_ne_nil)).symm⟩
      cases result with
      | none => rfl
      | some found =>
        have behind := dangles found rfl
        omega
    | refused front bracket rest place inside split reached opens tooMany =>
      obtain rfl := unmoved split reached
      obtain rfl : entry = place := Option.some.inj reached
      have absent := other bracket (by simp [split])
      rw [Frontier.mem_kinds_iff, opens] at absent
      exact absurd rfl absent

/-- Items with commas between them, or none, up to the symbol that closes the bracket around them.
Whether there are items is told by the first token: one that begins an item is read as such, and
before any other the closing symbol is asked for as well. -/
theorem Reads.items {items : Rule (List α)}
    (reads : Reads limit items (Separated language) entry middle asked)
    (begins : Begins source entry target closing) (ends : Ends middle target asked closing)
    (fits : target.brackets.length ≤ limit) (proper : entry ≠ middle) :
    Reads limit (Rule.optional items >>= fun results => Rule.token (.symbol closing) >>=
        fun right => pure (results.getD [], right))
      (Closed closing (Items language)) source target [] := by
  refine ⟨reads.keeps.optional.bind fun _ => (Rule.keeps_token _).bind fun _ =>
    Rule.keeps_pure _, ?_⟩
  intro tokens trail depth
  have depth' : trail.depth = entry.brackets.length := begins.level ▸ depth
  rcases Token.head_cases (· ∈ entry.kinds) tokens with ⟨token, rest, wanted, rfl⟩ | other
  · -- As long as an item begins, the rule is the one without a choice.
    have closed := reads.close ends fits Prod.mk fun tokens results right derived =>
      show Closed closing (Items language) tokens (results, right) by
        obtain ⟨tokens, results, right, derived, closes⟩ := derived
        exact .closed tokens results right (.some tokens results derived) closes
    have outcome := (closed.outcome (token :: rest) trail depth').of_alike wanted
      (begins.alike _ wanted) (by rintro _ _ ⟨tokens, results, right, derived, closes⟩; simp)
    rcases found : items (.ofList (token :: rest)) trail with ⟨_ | ⟨results, last⟩, after⟩
    · have other : ∀ head ∈ (token :: rest).head?, head.kind ≠ .symbol closing := by
        rintro _ ⟨⟩ isClosing
        exact begins.apart (isClosing ▸ wanted)
      have behind : after.failure.Reaches rest.length := by
        rw [Rule.bind_of_none found] at outcome
        refine outcome.reaches ?_
        rw [begins.kinds]
        exact List.mem_append_left _ wanted
      have same : after.failure.noteAll (.ofList (token :: rest))
          [.token (.symbol closing)] = after.failure := behind.noteAll_eq (by simp) _
      rw [Rule.bind_of_none found] at outcome
      rw [Rule.bind_of_some (Rule.optional_of_none found),
        Rule.bind_of_none (Rule.token_of_not_kind other after)]
      change Outcome limit _ _ _ _ _ _ none (after.failure.noteAll _ [_])
      rw [same]
      exact outcome
    · rw [Rule.bind_of_some found] at outcome
      rw [Rule.bind_of_some (Rule.optional_of_some found)]
      exact outcome
  · obtain ⟨failed, noted⟩ := reads.refused proper depth' other
    rw [Rule.bind_of_some (Rule.optional_of_none (Prod.ext failed rfl))]
    refine (begins.toEnds.outcome (Prod.mk []) fits tokens _ trail.failure other noted).prepend
      [] tokens rfl rfl (.refl _ _) ?_
    rintro _ _ ⟨right, rfl, isClosing, rfl⟩
    exact .closed [] [] right .none isClosing

end Items

end Formula.Grammar
