import Formula.Proofs.Grammar.Expressions

/-!
# How far the rule for statements reads

A statement that begins with a name is tried as an assignment first. The attempt fails at once
unless `=` follows; if the expression after `=` cannot be read, the name is read once more, now as
an expression, which ends before `=` and changes nothing of what was noted further on. So the rule
for statements ends in one of the three ways as well, and what is asked for after a name at the
beginning includes `=`.

At the end of input there is one more thing to ask for. The verdict on a whole list of tokens
follows: it is a statement; or it goes wrong at the first place that the frontier does not pass,
and everything that may stand there was noted; or it opens too many brackets.
-/

namespace Formula.Grammar

variable {limit : Nat} {tokens : List Token} {failure kept : Failure}

/-- The endings of the rule for statements. A statement ends where the frontier is complete, and
then as well everything that may stand there was noted. -/
inductive Ending (limit : Nat) (tokens : List Token) (failure : Failure) :
    Option (Statement × Cursor) → Failure → Prop
  | read (front rest : List Token) (place : Frontier) (statement : Statement) (earlier : Failure)
      (split : tokens = front ++ rest) (derived : Derives limit front statement)
      (reached : Frontier.start.within limit front = some place)
      (complete : place.isComplete = true)
      (blocked : ∀ token ∈ rest.head?, place.next token.kind = none)
      (agrees : failure.AgreesAt rest.length earlier) :
      Ending limit tokens failure (some (statement, .ofList rest))
        (earlier.noteAll (.ofList rest) (place.kinds.map .token))
  | halted (left : Nat) (result : Option (Statement × Cursor)) (kept : Failure)
      (halt : Halt limit .start tokens failure left kept)
      (behind : ∀ found ∈ result, left < found.2.left) : Ending limit tokens failure result kept

/-- Outside of brackets, all that may follow an operand is an operator: there is nothing for a comma
to part or a symbol to close. -/
theorem blocked_afterOperand {rest : List Token}
    (stops : ∀ token ∈ rest.head?, token.kind ∉ Frontier.signKinds) :
    ∀ token ∈ rest.head?, Frontier.next ⟨.afterOperand, []⟩ token.kind = none := by
  intro token isHead
  have absent : token.kind ∉ Frontier.kinds ⟨.afterOperand, []⟩ := stops token isHead
  simpa [Frontier.mem_kinds_iff] using absent

/-- A part that makes a statement by itself ends the rule for statements, with all that may follow
it asked for. -/
theorem Ending.of_outcome {result : Option (Statement × Cursor)}
    (outcome : Outcome limit (Derives limit) .start ⟨.afterOperand, []⟩ Frontier.signKinds tokens
      failure result kept) : Ending limit tokens failure result kept := by
  cases outcome with
  | read front rest statement earlier split derived reached stops agrees =>
    exact .read front rest ⟨.afterOperand, []⟩ statement earlier split derived reached rfl
      (blocked_afterOperand stops) agrees
  | halted left _ _ halt dangles =>
    exact .halted left result kept halt fun found member => (dangles found member).1

section Beginnings

variable {name token : Token} {rest : List Token}

/-- A name at the beginning may be the target of an assignment. -/
theorem next_start (isName : name.kind = .name) :
    Frontier.start.next name.kind = some ⟨.afterName, []⟩ := by
  rw [isName]
  rfl

/-- A name at the beginning may be an operand. -/
theorem next_operand (isName : name.kind = .name) :
    Frontier.next ⟨.operand, []⟩ name.kind = some ⟨.afterOperand, []⟩ := by
  rw [isName]
  rfl

/-- After a name at the beginning, all but `=` has the meaning it has after any other operand. -/
theorem next_afterName (other : token.kind ≠ .symbol .equal) :
    Frontier.next ⟨.afterName, []⟩ token.kind = Frontier.next ⟨.afterOperand, []⟩ token.kind :=
  if_neg other

/-- After a name and another token than `=`, a statement goes on like an expression. The two places
that the name leads to differ in nothing but what they do with `=`. -/
theorem within_name (isName : name.kind = .name) (other : token.kind ≠ .symbol .equal)
    (front : List Token) :
    Frontier.start.within limit (name :: token :: front) =
      Frontier.within limit ⟨.operand, []⟩ (name :: token :: front) := by
  rw [Frontier.within_cons (next_start isName) (Nat.zero_le limit),
    Frontier.within_cons (next_operand isName) (Nat.zero_le limit)]
  simp only [Frontier.within, List.foldlM_cons, next_afterName other]

/-- The place right after the name is the only one that looks different from the start, so with a
second token read there is no difference any more. -/
theorem further_of_split {second : Token} {front rest' : List Token}
    (other : ∀ token ∈ rest.head?, token.kind ≠ .symbol .equal)
    (split : name :: rest = name :: second :: front ++ rest') :
    second.kind ≠ .symbol .equal ∧ rest'.length < rest.length := by
  obtain rfl : rest = second :: front ++ rest' := (List.cons.inj split).2
  exact ⟨other second rfl, by simp only [List.length_append, List.length_cons]; omega⟩

/-- Where `=` was asked for in vain, a statement is halted like an expression. If it is halted right
after the name, the question for `=` belongs to what was noted there; further on it does not
count. -/
theorem Halt.of_name {left : Nat} (isName : name.kind = .name)
    (other : ∀ token ∈ rest.head?, token.kind ≠ .symbol .equal)
    (halt : Halt limit ⟨.operand, []⟩ (name :: rest)
      (failure.note (.ofList rest) (.token (.symbol .equal))) left kept) :
    Halt limit .start (name :: rest) failure left kept := by
  have moved := next_operand isName
  cases halt with
  | stuck front rest' place earlier split reached unfinished blocked agrees =>
    rcases front with _ | ⟨first, _ | ⟨second, front⟩⟩
    · obtain rfl := Option.some.inj reached
      obtain rfl : name :: rest = rest' := split
      cases moved.symm.trans (blocked name rfl)
    · rw [(List.cons.inj split).1.symm, Frontier.within_cons moved (Nat.zero_le limit)] at reached
      obtain rfl := Option.some.inj reached
      cases unfinished
    · obtain rfl : name = first := (List.cons.inj split).1
      obtain ⟨notEqual, further⟩ := further_of_split other split
      exact .stuck (name :: second :: front) rest' place earlier split
        ((within_name isName notEqual front).trans reached) unfinished blocked
        ((Failure.agreesAt_note further failure _).trans agrees)
  | refused front bracket rest' place inside split reached opens tooMany =>
    have forgotten : (failure.note (.ofList rest) (.token (.symbol .equal))).refuse
        (.ofList (bracket :: rest')) .shallowerNesting =
          failure.refuse (.ofList (bracket :: rest')) .shallowerNesting :=
      Failure.refuse_noteAll failure _ [_] _ _
    rw [forgotten]
    rcases front with _ | ⟨first, _ | ⟨second, front⟩⟩
    · obtain rfl := Option.some.inj reached
      obtain rfl : name = bracket := (List.cons.inj split).1
      obtain rfl := Option.some.inj (moved.symm.trans opens)
      exact absurd tooMany (Nat.not_lt_zero limit)
    · obtain ⟨rfl, rfl⟩ := List.cons.inj split
      rw [Frontier.within_cons moved (Nat.zero_le limit)] at reached
      obtain rfl := Option.some.inj reached
      exact .refused [name] bracket rest' ⟨.afterName, []⟩ inside rfl
        (Frontier.within_cons (next_start isName) (Nat.zero_le limit) [])
        ((next_afterName (other bracket rfl)).trans opens) tooMany
    · obtain rfl : name = first := (List.cons.inj split).1
      obtain ⟨notEqual, _⟩ := further_of_split other split
      exact .refused (name :: second :: front) bracket rest' place inside split
        ((within_name isName notEqual front).trans reached) opens tooMany

/-- An expression that begins with a name, where `=` was asked for in vain. Again the case to watch
is the one in which nothing follows the name. -/
theorem Ending.of_name {result : Option (Expr × Cursor)} (isName : name.kind = .name)
    (other : ∀ token ∈ rest.head?, token.kind ≠ .symbol .equal)
    (outcome : Outcome limit (Nested limit) ⟨.operand, []⟩ ⟨.afterOperand, []⟩ Frontier.signKinds
      (name :: rest) (failure.note (.ofList rest) (.token (.symbol .equal))) result kept) :
    Ending limit (name :: rest) failure
      (result.map fun found => (.expression found.1, found.2)) kept := by
  cases outcome with
  | read front rest' expr earlier split derived reached stops agrees =>
    rcases front with _ | ⟨first, _ | ⟨second, front⟩⟩
    · cases reached
    · obtain ⟨rfl, rfl⟩ := List.cons.inj split
      have same := (Failure.reaches_note failure (.ofList rest) _).eq_of_agreesAt agrees
      subst same
      refine .read [name] rest ⟨.afterName, []⟩ _ failure rfl (.expression _ expr derived)
        (Frontier.within_cons (next_start isName) (Nat.zero_le limit) []) rfl ?_ (.refl _ _)
      intro token isHead
      rw [next_afterName (other token isHead)]
      exact blocked_afterOperand stops token isHead
    · obtain rfl : name = first := (List.cons.inj split).1
      obtain ⟨notEqual, further⟩ := further_of_split other split
      exact .read (name :: second :: front) rest' ⟨.afterOperand, []⟩ _ earlier split
        (.expression _ expr derived) ((within_name isName notEqual front).trans reached) rfl
        (blocked_afterOperand stops) ((Failure.agreesAt_note further failure _).trans agrees)
  | halted left result _ halt dangles =>
    refine .halted left _ kept (halt.of_name isName other) fun found member => ?_
    exact (dangles.map Statement.expression found member).1

variable {value : Rule Expr} {equal : Token} {trail : Trail}

/-- Where an assignment failed after `=`, its name is read once more, and nothing is noted. The
expression ends before `=`, which is behind the furthest failure already. -/
theorem read_again (reads : Reads limit value (Nested limit) ⟨.operand, []⟩ ⟨.afterOperand, []⟩
      Frontier.signKinds)
    (isName : name.kind = .name) (isEqual : equal.kind = .symbol .equal) (depth : trail.depth = 0)
    (reaches : trail.failure.Reaches rest.length) :
    (value (.ofList (name :: equal :: rest)) trail).2.failure = trail.failure ∧
      ∀ found ∈ (value (.ofList (name :: equal :: rest)) trail).1,
        found.2.left = rest.length + 1 := by
  have outcome := reads.outcome (name :: equal :: rest) trail depth
  have moved := next_operand isName
  have blocked : Frontier.next ⟨.afterOperand, []⟩ equal.kind = none := by
    rw [isEqual]
    rfl
  -- An expression ends right after the name, for no expression goes on with `=`.
  have passed {front rest' : List Token} {place : Frontier}
      (split : name :: equal :: rest = front ++ rest')
      (reached : Frontier.within limit ⟨.operand, []⟩ front = some place) :
      front = [] ∧ place = ⟨.operand, []⟩ ∨ front = [name] ∧ place = ⟨.afterOperand, []⟩ := by
    rcases front with _ | ⟨first, _ | ⟨second, front⟩⟩
    · exact .inl ⟨rfl, (Option.some.inj reached).symm⟩
    · obtain rfl : name = first := (List.cons.inj split).1
      rw [Frontier.within_cons moved (Nat.zero_le limit)] at reached
      exact .inr ⟨rfl, (Option.some.inj reached).symm⟩
    · obtain rfl : name = first := (List.cons.inj split).1
      obtain rfl : equal = second := (List.cons.inj (List.cons.inj split).2).1
      rw [Frontier.within_cons moved (Nat.zero_le limit)] at reached
      obtain ⟨inside, moved'⟩ := Frontier.next_of_within reached
      cases blocked.symm.trans moved'
  generalize (value (.ofList (name :: equal :: rest)) trail).2.failure = kept at outcome
  generalize (value (.ofList (name :: equal :: rest)) trail).1 = result at outcome
  cases outcome with
  | read front rest' expr earlier split derived reached stops agrees =>
    rcases passed split reached with ⟨rfl, impossible⟩ | ⟨rfl, _⟩
    · cases impossible
    · obtain rfl : equal :: rest = rest' := (List.cons.inj split).2
      have same := (reaches.mono (Nat.le_succ _)).eq_of_agreesAt agrees
      rw [same]
      refine ⟨reaches.noteAll_eq (Nat.lt_succ_self _) _, ?_⟩
      rintro _ ⟨⟩
      rfl
  | halted left result _ halt dangles =>
    cases halt with
    | stuck front rest' place earlier split reached unfinished blocked agrees =>
      rcases passed split reached with ⟨rfl, rfl⟩ | ⟨rfl, rfl⟩
      · obtain rfl : name :: equal :: rest = rest' := split
        cases moved.symm.trans (blocked name rfl)
      · cases unfinished
    | refused front bracket rest' place inside split reached opens tooMany =>
      rcases passed split reached with ⟨rfl, rfl⟩ | ⟨rfl, rfl⟩
      · obtain rfl : name = bracket := (List.cons.inj split).1
        obtain rfl := Option.some.inj (moved.symm.trans opens)
        exact absurd tooMany (Nat.not_lt_zero limit)
      · obtain rfl : equal = bracket := (List.cons.inj (List.cons.inj split).2).1
        cases blocked.symm.trans opens

/-- A name, `=` and an expression. If the expression is read so is the assignment; if not, the name
alone is taken for the statement, and the failure is still that of the expression. -/
theorem Ending.of_assignment (reads : Reads limit value (Nested limit) ⟨.operand, []⟩
      ⟨.afterOperand, []⟩ Frontier.signKinds)
    (isName : name.kind = .name) (isEqual : equal.kind = .symbol .equal) (depth : trail.depth = 0) :
    Ending limit (name :: equal :: rest) trail.failure
      (statement value (.ofList (name :: equal :: rest)) trail).1
      (statement value (.ofList (name :: equal :: rest)) trail).2.failure := by
  have begun : assignment value (.ofList (name :: equal :: rest)) trail =
      ((Statement.assignment ⟨name.lexeme, name.span⟩) <$> value) (.ofList rest) trail :=
    (Rule.bind_of_some (Rule.bind_of_some (Rule.token_of_kind isName _ trail))).trans
      (Rule.bind_of_some (Rule.token_of_kind isEqual rest trail))
  have moved : Frontier.next ⟨.afterName, []⟩ equal.kind = some ⟨.operand, []⟩ := by
    rw [isEqual]
    rfl
  have reached : Frontier.start.within limit [name, equal] = some ⟨.operand, []⟩ := by
    rw [Frontier.within_cons (next_start isName) (Nat.zero_le limit),
      Frontier.within_cons moved (Nat.zero_le limit)]
    rfl
  have outcome := reads.outcome rest trail depth
  have kept := reads.keeps (.ofList rest) trail
  rw [Rule.map_apply] at begun
  rcases found : value (.ofList rest) trail with ⟨_ | ⟨expr, last⟩, after⟩
  · simp only [found] at begun outcome kept
    have failed : statement value (.ofList (name :: equal :: rest)) trail =
        (Statement.expression <$> value) (.ofList (name :: equal :: rest)) after :=
      Rule.orElse_of_none begun
    obtain ⟨left, halt⟩ := outcome.halt_of_none
    obtain ⟨same, given⟩ := read_again reads isName isEqual (kept.1.trans depth)
      (halt.reaches.mono halt.left_le)
    rw [failed, Rule.map_apply]
    simp only [same]
    refine .halted left _ _ (halt.prepend rfl reached (.refl _ _)) ?_
    intro found member
    obtain ⟨inner, isResult, rfl⟩ := Option.map_eq_some_iff.mp member
    rw [given inner isResult]
    exact Nat.lt_succ_of_le halt.left_le
  · simp only [found] at begun outcome
    have read : statement value (.ofList (name :: equal :: rest)) trail =
        (some (.assignment ⟨name.lexeme, name.span⟩ expr, last), after) := Rule.orElse_of_some begun
    have made : Outcome limit (fun tokens made => ∃ expr, Nested limit tokens expr ∧
          made = Statement.assignment ⟨name.lexeme, name.span⟩ expr) ⟨.operand, []⟩
        ⟨.afterOperand, []⟩ Frontier.signKinds rest trail.failure
        (some (.assignment ⟨name.lexeme, name.span⟩ expr, last)) after.failure :=
      outcome.map _ fun tokens expr derived => ⟨expr, derived, rfl⟩
    rw [read]
    refine .of_outcome (made.prepend [name, equal] rest rfl reached (.refl _ _) ?_)
    rintro tokens _ ⟨expr, derived, rfl⟩
    exact .assignment name equal tokens expr isName isEqual derived

end Beginnings

/-- Before another token than a name a statement is an expression, if anything. The name that was
asked for is asked for again among the operands, so it is noted only once. -/
theorem Ending.of_other {value : Rule Expr} {trail : Trail}
    (reads : Reads limit value (Nested limit) ⟨.operand, []⟩ ⟨.afterOperand, []⟩
      Frontier.signKinds)
    (other : ∀ token ∈ tokens.head?, token.kind ≠ .name) (depth : trail.depth = 0) :
    Ending limit tokens trail.failure (statement value (.ofList tokens) trail).1
      (statement value (.ofList tokens) trail).2.failure := by
  have failed : assignment value (.ofList tokens) trail =
      (none, trail.note (.ofList tokens) (.token .name)) :=
    Rule.bind_of_none (Rule.bind_of_none (Rule.token_of_not_kind other trail))
  rw [statement, Rule.orElse_of_none failed, Rule.map_apply]
  rcases Token.head_cases (· ∈ Frontier.operandKinds) tokens with
    ⟨token, rest, wanted, rfl⟩ | absent
  · have outcome : Outcome limit (Nested limit) ⟨.operand, []⟩ ⟨.afterOperand, []⟩
        Frontier.signKinds (token :: rest)
        (trail.failure.noteAll (.ofList (token :: rest)) [.token .name]) _ _ :=
      reads.outcome (token :: rest) (trail.note (.ofList (token :: rest)) (.token .name)) depth
    have alike : Frontier.start.next token.kind = Frontier.next ⟨.operand, []⟩ token.kind :=
      if_neg (other token rfl)
    have begun := (outcome.forget wanted fun _ _ => nested_ne_nil).of_alike wanted alike
      fun _ _ => nested_ne_nil
    exact .of_outcome (begun.map Statement.expression .expression)
  · have depth' : (trail.note (.ofList tokens) (.token .name)).depth = 0 := depth
    obtain ⟨nothing, noted⟩ := reads.refused (by simp) depth' absent
    rw [nothing, noted]
    refine .halted tokens.length none _ ?_ (by rintro _ ⟨⟩)
    refine .stuck [] tokens .start trail.failure rfl rfl rfl ?_ (.refl _ _)
    intro token isHead
    have unknown : token.kind ∉ Frontier.start.kinds := by
      intro member
      exact (List.mem_cons.mp member).elim (other token isHead) (absent token isHead)
    simpa [Frontier.mem_kinds_iff] using unknown

/-- The rule for statements ends in one of the three ways, whatever tokens it is given. The first
two tokens tell which of the lemmas before applies: a name and `=`, a name and something else, or no
name. -/
theorem ending_statement (tokens : List Token) (trail : Trail) (depth : trail.depth = 0) :
    Ending limit tokens trail.failure (statementWithin limit (.ofList tokens) trail).1
      (statementWithin limit (.ofList tokens) trail).2.failure := by
  have reads : Reads limit _ _ _ _ _ := reads_nested limit [] (Nat.zero_add limit)
  unfold statementWithin
  generalize expressionOver limit Rule.fail (limit + 1) = value at reads
  rcases Token.head_cases (· = .name) tokens with ⟨name, rest, isName, rfl⟩ | unnamed
  · rcases Token.head_cases (· = .symbol .equal) rest with ⟨equal, rest, isEqual, rfl⟩ | other
    · exact .of_assignment reads isName isEqual depth
    · have failed : assignment value (.ofList (name :: rest)) trail =
          (none, trail.note (.ofList rest) (.token (.symbol .equal))) :=
        (Rule.bind_of_some (Rule.bind_of_some (Rule.token_of_kind isName rest trail))).trans
          (Rule.bind_of_none (Rule.token_of_not_kind other trail))
      have outcome := reads.outcome (name :: rest)
        (trail.note (.ofList rest) (.token (.symbol .equal))) depth
      rw [statement, Rule.orElse_of_none failed, Rule.map_apply]
      exact .of_name isName other outcome
  · exact .of_other reads unnamed depth

/-- The verdict on a list of tokens that should be one statement. -/
inductive Verdict (limit : Nat) (tokens : List Token) (failure : Failure) :
    Option Statement → Failure → Prop
  | accepted (statement : Statement) (place : Frontier) (kept : Failure)
      (derived : Derives limit tokens statement)
      (reached : Frontier.start.within limit tokens = some place)
      (complete : place.isComplete = true) : Verdict limit tokens failure (some statement) kept
  | stuck (front rest : List Token) (place : Frontier) (earlier : Failure)
      (split : tokens = front ++ rest)
      (reached : Frontier.start.within limit front = some place)
      (unfinished : rest = [] → place.isComplete = false)
      (blocked : ∀ token ∈ rest.head?, place.next token.kind = none)
      (agrees : failure.AgreesAt rest.length earlier) :
      Verdict limit tokens failure none (earlier.noteAll (.ofList rest) place.expected)
  | refused (front : List Token) (bracket : Token) (rest : List Token) (place inside : Frontier)
      (split : tokens = front ++ bracket :: rest)
      (reached : Frontier.start.within limit front = some place)
      (opens : place.next bracket.kind = some inside) (tooMany : limit < inside.brackets.length) :
      Verdict limit tokens failure none
        (failure.refuse (.ofList (bracket :: rest)) .shallowerNesting)

/-- Where a statement may end, the end of input is expected after all the kinds. -/
theorem expected_of_isComplete {place : Frontier} (complete : place.isComplete = true) :
    place.expected = place.kinds.map .token ++ [.endOfInput] := by
  rw [Frontier.expected, if_pos complete]

/-- Elsewhere only tokens are expected. -/
theorem expected_of_unfinished {place : Frontier} (unfinished : place.isComplete = false) :
    place.expected = place.kinds.map .token := by
  simp [Frontier.expected, unfinished]

/-- Where reading was halted, so is the reading of the whole, since no statement was read that could
end. -/
theorem Verdict.of_halt {left : Nat} (halt : Halt limit .start tokens failure left kept) :
    Verdict limit tokens failure none kept := by
  cases halt with
  | stuck front rest place earlier split reached unfinished blocked agrees =>
    rw [← expected_of_unfinished unfinished]
    exact .stuck front rest place earlier split reached (fun _ => unfinished) blocked agrees
  | refused front bracket rest place inside split reached opens tooMany =>
    exact .refused front bracket rest place inside split reached opens tooMany

/-- Where tokens are left, the end of input is asked for in vain. -/
theorem endOfInput_of_left {statement : Statement} {rest : Cursor} (left : 0 < rest.left)
    (trail : Trail) :
    (Rule.endOfInput >>= fun _ => (pure statement : Rule Statement)) rest trail =
      (none, trail.note rest .endOfInput) := by
  obtain ⟨_ | ⟨token, tokens⟩, left', rfl⟩ := rest
  · cases left
  · rfl

/-- Every list of tokens gets a verdict. If a statement was read and nothing is left it is accepted;
if something is left, the end of input is noted in addition to what was noted there before. -/
theorem verdict_wholeStatement (tokens : List Token) (trail : Trail) (depth : trail.depth = 0) :
    Verdict limit tokens trail.failure
      ((wholeStatement limit (.ofList tokens) trail).1.map Prod.fst)
      (wholeStatement limit (.ofList tokens) trail).2.failure := by
  have ending : Ending limit _ _ _ _ := ending_statement tokens trail depth
  unfold wholeStatement
  rcases found : statementWithin limit (.ofList tokens) trail with ⟨_ | ⟨statement, last⟩, after⟩
  · rw [Rule.bind_of_none found]
    simp only [found] at ending ⊢
    cases ending with
    | halted left _ _ halt _ => exact .of_halt halt
  · rw [Rule.bind_of_some found]
    simp only [found] at ending ⊢
    generalize kept : after.failure = failure at ending
    cases ending with
    | read front rest place _ earlier split derived reached complete blocked agrees =>
      cases rest with
      | nil =>
        rw [List.append_nil] at split
        subst split
        exact .accepted statement place _ derived reached complete
      | cons token rest =>
        rw [endOfInput_of_left (by simp)]
        have noted : (after.note (.ofList (token :: rest)) .endOfInput).failure =
            earlier.noteAll (.ofList (token :: rest)) place.expected := by
          rw [expected_of_isComplete complete, Failure.noteAll_append, ← kept]
          rfl
        rw [noted]
        exact .stuck front (token :: rest) place earlier split reached (by simp) blocked agrees
    | halted left _ _ halt behind =>
      have further : left < last.left := behind (statement, last) rfl
      rw [endOfInput_of_left (by omega)]
      have same : (after.note last .endOfInput).failure = failure := by
        have reaches : after.failure.Reaches left := kept ▸ halt.reaches
        exact (reaches.noteAll_eq further [.endOfInput]).trans kept
      rw [same]
      exact .of_halt halt

end Formula.Grammar
