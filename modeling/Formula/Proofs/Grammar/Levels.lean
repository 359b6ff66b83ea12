import Formula.Proofs.Expr.Calls
import Formula.Proofs.Grammar.Longest

/-!
# How deep reading and evaluation go

The rule for expressions is entered again inside brackets alone, and a bracket that would be open
inside too many others is refused before anything inside it is read. So the rule is never entered
more often inside itself than brackets may be open, and once for what is outside of all of them:
whatever rule stood in its place one level further in, reading would not come to use it.

The tree of what was read is evaluated with three calls inside one another for every bracket, at
most. Neither depends on how many tokens there are.
-/

namespace Formula

/-- Two rules that do the same inside of `level` brackets; the second keeps the depth. -/
structure Rule.Same {α : Type} (level : Nat) (rule other : Rule α) : Prop where
  keeps : other.Keeps
  same : ∀ cursor trail, trail.depth = level → rule cursor trail = other cursor trail

namespace Rule

variable {α β : Type} {level : Nat} {rule other second second' : Rule α} {next next' : α → Rule β}

/-- A rule that keeps the depth is the same as itself at every level. -/
theorem Keeps.same (keeps : rule.Keeps) : Same level rule rule := ⟨keeps, fun _ _ _ => rfl⟩

namespace Same

/-- Of two rules one after the other, the second is entered at the depth of the first, which the
first has kept. -/
theorem bind (first : Same level rule other)
    (onwards : ∀ result, Same level (next result) (next' result)) :
    Same level (rule >>= next) (other >>= next') where
  keeps := first.keeps.bind fun result => (onwards result).keeps
  same cursor trail depth := by
    have kept := (first.keeps cursor trail).1.trans depth
    have same := first.same cursor trail depth
    rcases found : other cursor trail with ⟨_ | ⟨result, rest⟩, after⟩
    · rw [bind_of_none found, bind_of_none (same.trans found)]
    · rw [found] at kept
      rw [bind_of_some found, bind_of_some (same.trans found)]
      exact (onwards result).same rest after kept

/-- What is made of a result does not ask at which depth it was read. -/
theorem map (first : Same level rule other) (make : α → β) :
    Same level (make <$> rule) (make <$> other) :=
  first.bind fun _ => (keeps_pure _).same

/-- The second alternative is entered at the same depth, because a failing rule keeps the depth
too. -/
theorem orElse (first : Same level rule other) (last : Same level second second') :
    Same level (rule <|> second) (other <|> second') where
  keeps := first.keeps.orElse last.keeps
  same cursor trail depth := by
    have kept := (first.keeps cursor trail).1.trans depth
    have same := first.same cursor trail depth
    rcases found : other cursor trail with ⟨_ | ⟨result, rest⟩, after⟩
    · rw [found] at kept
      rw [orElse_of_none found, orElse_of_none (same.trans found)]
      exact last.same cursor after kept
    · rw [orElse_of_some found, orElse_of_some (same.trans found)]

/-- A rule whose result may be missing is the same where the rule inside is. -/
theorem optional (first : Same level rule other) :
    Same level (Rule.optional rule) (Rule.optional other) where
  keeps := first.keeps.optional
  same cursor trail depth := by
    have same := first.same cursor trail depth
    rcases found : other cursor trail with ⟨_ | ⟨result, rest⟩, after⟩
    · rw [optional_of_none found, optional_of_none (same.trans found)]
    · rw [optional_of_some found, optional_of_some (same.trans found)]

/-- Repetitions make the same steps, by induction over the steps of one of them: each step keeps the
depth for the next. -/
theorem collect (first : Same level rule other) (cursor : Cursor) (trail : Trail)
    (depth : trail.depth = level) :
    Rule.collect rule cursor trail = Rule.collect other cursor trail := by
  have kept := (first.keeps cursor trail).1.trans depth
  fun_induction Rule.collect other cursor trail with
  | case1 cursor trail after failed =>
    rw [Rule.collect, (first.same cursor trail depth).trans failed]
  | case2 cursor trail result rest after found shorter later last final collected ih =>
    rw [found] at kept
    rw [Rule.collect, (first.same cursor trail depth).trans found]
    dsimp only
    rw [if_pos shorter, ih kept ((first.keeps rest after).1.trans kept), collected]
  | case3 cursor trail result rest after found still =>
    rw [Rule.collect, (first.same cursor trail depth).trans found]
    dsimp only
    rw [if_neg still]

/-- So a repetition has the same results at the same depth. -/
theorem repeated (first : Same level rule other) :
    Same level (Rule.repeated rule) (Rule.repeated other) where
  keeps := first.keeps.repeated
  same cursor trail depth := by
    rw [Rule.repeated, Rule.repeated, first.collect cursor trail depth]

/-- Separators stand at the depth of the items. -/
theorem separated (first : Same level rule other) (separator : Symbol) :
    Same level (Rule.separated rule separator) (Rule.separated other separator) :=
  first.bind fun _ => ((keeps_token _).same.bind fun _ => first).repeated.bind fun _ =>
    (keeps_pure _).same

/-- A closing token stands at the depth of what it closes. -/
theorem closed (first : Same level rule other) (closing : Symbol) :
    Same level (rule >>= fun result => token (.symbol closing) >>= fun _ => pure result)
      (other >>= fun result => token (.symbol closing) >>= fun _ => pure result) :=
  first.bind fun _ => ((keeps_token _).bind fun _ => keeps_pure _).same

/-- Items up to a closing token, at the depth of the items. -/
theorem items (first : Same level rule other) (closing : Symbol) :
    Same level (Rule.optional (Rule.separated rule .comma) >>= fun items =>
        token (.symbol closing) >>= fun right => pure (items.getD [], right))
      (Rule.optional (Rule.separated other .comma) >>= fun items =>
        token (.symbol closing) >>= fun right => pure (items.getD [], right)) :=
  (first.separated .comma).optional.bind fun _ => ((keeps_token _).bind fun _ => keeps_pure _).same

/-- What stands inside a bracket matters only where there is room for the bracket. Where there is
none, the bracket is refused before anything inside is asked; where there is room, the inside is
entered one level further. -/
theorem bracketed {limit : Nat} {opening : Symbol} (keeps : other.Keeps)
    (inside : level < limit → Same (level + 1) rule other) :
    Same level (Rule.bracketed limit opening rule) (Rule.bracketed limit opening other) where
  keeps := keeps.bracketed limit opening
  same cursor trail depth := by
    rcases cursor.head_cases (· = .symbol opening) with
      ⟨token, rest, isOpening, rfl⟩ | ⟨tokens, others, rfl⟩
    · by_cases room : level < limit
      · rw [bracketed_of_room isOpening (depth ▸ room), bracketed_of_room isOpening (depth ▸ room),
          (inside room).same _ trail.enter (congrArg (· + 1) depth)]
      · have full : limit ≤ trail.depth := by omega
        rw [bracketed_of_full isOpening full, bracketed_of_full isOpening full]
    · rw [bracketed_of_not_kind others, bracketed_of_not_kind others]

end Same

end Rule

namespace Grammar

open Rule

variable {limit level : Nat} {inner other : Rule Expr}

/-- The value of a pair is all of it that could differ. -/
theorem same_pair (value : Same level inner other) : Same level (pair inner) (pair other) :=
  ((keeps_token _).bind keeps_literalOf).same.bind fun _ => (keeps_token _).same.bind fun _ =>
    value.bind fun _ => (keeps_pure _).same

/-- The operands of a chain are all of it that could differ. -/
theorem same_chain {sign : Rule (Operator × Span)} (signs : sign.Keeps)
    (operands : Same level inner other) :
    Same level (Grammar.chain sign inner) (Grammar.chain sign other) :=
  operands.bind fun _ => (signs.same.bind fun _ => operands.bind fun _ =>
    (keeps_pure _).same).repeated.bind fun _ => (keeps_pure _).same

section Factors

variable (keeps : other.Keeps) (inside : level < limit → Same (level + 1) inner other)

include keeps inside

/-- A factor is the same at a level where what stands in its brackets is the same one level further
inside. Literals and names have nothing inside. -/
theorem same_factor : Same level (factor limit inner) (factor limit other) := by
  have lists : Same level (list limit inner) (list limit other) :=
    (Same.bracketed (keeps.items _) fun room => (inside room).items _).map _
  have dictionaries : Same level (dictionary limit inner) (dictionary limit other) :=
    (Same.bracketed ((keeps_pair keeps).items _) fun room => (same_pair (inside room)).items _).map _
  have groups : Same level (group limit inner) (group limit other) :=
    (Same.bracketed (keeps.closed _) fun room => (inside room).closed _).map _
  exact keeps_literal.same.orElse ((keeps_name.map _).same.orElse (lists.orElse
    (dictionaries.orElse groups)))

/-- An expression is two chains around factors, at the level of the factors. -/
theorem same_expression : Same level (expression limit inner) (expression limit other) := by
  have terms : Same level (term limit inner) (term limit other) :=
    same_chain ((keeps_operator _ _).orElse (keeps_operator _ _)) (same_factor keeps inside)
  exact same_chain ((keeps_operator _ _).orElse (keeps_operator _ _)) terms

end Factors

/-- Inside of so many brackets that there is room for some more, what stands in for the rule for
expressions beyond that is not used. By induction on the room; without room no bracket is entered,
so the innermost rule is not asked. -/
theorem same_expressionOver (innermost : Rule Expr) (room level : Nat)
    (limited : level + room = limit) :
    Same level (expressionOver limit innermost (room + 1))
      (expressionOver limit Rule.fail (room + 1)) := by
  induction room generalizing level with
  | zero =>
    apply same_expression keeps_fail
    intro impossible
    omega
  | succ room ih =>
    apply same_expression (keeps_expressionOver limit (room + 1))
    intro _
    exact ih (level + 1) (by omega)

/-- At the start there is room for all the brackets that are allowed, so the whole rule for
statements is the same whatever is innermost. -/
theorem same_statementWithin (limit : Nat) (innermost : Rule Expr) :
    Same 0 (statement (expressionOver limit innermost (limit + 1))) (statementWithin limit) := by
  have value := same_expressionOver innermost limit 0 (Nat.zero_add limit)
  have assigned (target : Name) := (keeps_token (.symbol .equal)).same.bind fun _ =>
    value.bind fun expr => (keeps_pure (Statement.assignment target expr)).same
  exact (keeps_name.same.bind assigned).orElse (value.map Statement.expression)

end Grammar

namespace Statement

open Grammar

/-- Neither reading nor evaluation goes deeper than the limit on brackets allows. A statement that
was read, as a whole or from the front of some tokens, is evaluated without being cut off where a
call would be inside three hundred and three others. And for all tokens, whatever rule stands in for
the one for expressions where it would be entered inside a hundred and one others, reading gives the
same result and leaves the same trail.

That calls nest no deeper is shown of derivations, three calls for each bracket and the innermost
expression; that the rule is not used follows level by level from the check before each bracket. -/
theorem levels_bounded :
    (∀ tokens statement bindings,
      (ofTokens tokens = .ok statement ∨ ∃ rest, ofFront tokens = .ok (statement, rest)) →
      statement.evalWithin bindings (3 * (maxNesting + 1)) = .done (statement.eval bindings)) ∧
    ∀ (innermost : Rule Expr) (tokens : List Token),
      let rule := Grammar.statement (expressionOver maxNesting innermost (maxNesting + 1))
      rule (.ofList tokens) (.start tokens) =
        statementWithin maxNesting (.ofList tokens) (.start tokens) ∧
      (rule >>= fun found => Rule.endOfInput >>= fun _ => pure found)
          (.ofList tokens) (.start tokens) =
        wholeStatement maxNesting (.ofList tokens) (.start tokens) := by
  constructor
  · rintro tokens statement bindings (read | ⟨rest, read⟩)
    · apply evalWithin_eq_done
      exact callsWithin_of_derives (ofTokens_eq_ok_iff.mp read)
    · obtain ⟨front, _, derived⟩ := derives_of_ofFront read
      exact evalWithin_eq_done bindings (callsWithin_of_derives derived)
  · intro innermost tokens
    have same := same_statementWithin maxNesting innermost
    have whole := same.bind fun found =>
      (Rule.keeps_endOfInput.bind fun _ => Rule.keeps_pure found).same
    exact ⟨same.same _ _ rfl, whole.same _ _ rfl⟩

/-- The list `[1 + 2 * (3 - x)]` is read without going inside a hundred and one brackets, and with `x`
bound it is evaluated in three hundred and three calls inside one another. Four are too few: the
list, its element, the product, the difference and a number are inside one another. -/
theorem levels_bounded_nested :
    let tokens := [narrow (.symbol .leftBracket) "[" 1, narrow (.integer 1) "1" 2,
      narrow (.symbol .plus) "+" 4, narrow (.integer 2) "2" 6, narrow (.symbol .star) "*" 8,
      narrow (.symbol .leftParen) "(" 10, narrow (.integer 3) "3" 11,
      narrow (.symbol .minus) "-" 13, narrow .name "x" 15, narrow (.symbol .rightParen) ")" 16,
      narrow (.symbol .rightBracket) "]" 17]
    let bindings := Bindings.empty.set "x" (.integer 5)
    ∃ statement, ofTokens tokens = .ok statement ∧
      statement.evalWithin bindings 303 = .done (.ok (.value (.list [.integer (-3)]), bindings)) ∧
      statement.evalWithin bindings 4 = Limited.cutOff ∧
      (Grammar.statement (expressionOver 100 Rule.fail 101) (.ofList tokens) (.start tokens)).1 =
        some (statement, .ofList []) := by
  intro tokens bindings
  have difference : Nested 0 _ _ := Chain.more (.single (.single (factor_narrow _ 0 11 3 "3")))
    (step_narrow minus_mem_additiveSigns "-" 13 (.single (.name (narrow .name "x" 15) rfl)))
  have product : Term (Nested 0) 1 _ _ := Chain.more (.single (factor_narrow _ 1 6 2 "2"))
    (step_narrow List.mem_cons_self "*" 8 (group_narrow 0 10 16 difference))
  have sum : Nested 1 _ _ := Chain.more (.single (.single (factor_narrow _ 1 2 1 "1")))
    (step_narrow List.mem_cons_self "+" 4 product)
  have items : Items (Nested 1) _ _ := .some _ _ (.parted _ _ [] [] sum .none)
  have list : Nested 2 _ _ := .single (.single (.list _ _ _ _ Nat.two_pos
    (.opened (narrow (.symbol .leftBracket) "[" 1) _ _ rfl
      (.closed _ _ (narrow (.symbol .rightBracket) "]" 17) items rfl))))
  have read : ofTokens tokens = .ok _ :=
    ofTokens_eq_ok_iff.mpr (.expression _ _ (nested_mono (by decide) list))
  have value := levels_bounded.1 tokens _ bindings (.inl read)
  have first := (levels_bounded.2 Rule.fail tokens).1
  have front := (ofFront_eq_ok_iff.mp (ofTokens_eq_ok_iff_ofFront.mp read)).2
  exact ⟨_, read, value, rfl, first.symm ▸ front⟩

end Statement

end Formula
