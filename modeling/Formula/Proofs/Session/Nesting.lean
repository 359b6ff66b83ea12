import Formula.Proofs.Session.Values
import Formula.Proofs.Value.Meaning

/-!
# How deep the values of a session nest

A statement nests no deeper than brackets may be open, but the names in it stand for values that
nest already. So the values of a session nest no deeper than all statements so far could make them,
and there is no bound for all sessions: a list goes one level deeper with every statement that puts
it into a list and binds the list to the same name.
-/

namespace Formula

namespace Value

/-- Whatever is made from values within a depth is within it, or one deeper if it is a list or a
dictionary. -/
theorem graded_depth : Graded fun level value => value.depth ≤ level where
  mono higher within := Nat.le_trans within higher
  applied := by
    intro level value operator left right applied _ _
    obtain ⟨number, rfl⟩ | ⟨number, rfl⟩ | ⟨first, second, -, -, rfl⟩ :=
      Operator.apply_eq_ok applied
    · exact Nat.zero_le level
    · exact Nat.zero_le level
    · exact Nat.zero_le level
  list within := Nat.succ_le_succ (itemDepth_le_iff.mpr within)
  dictionary _ within :=
    Nat.succ_le_succ (entryDepth_le_iff.mpr fun entry member => (within entry member).2)

end Value

/-- The literal of a token is no list and no dictionary. -/
theorem Token.depth_of_value? {token : Token} {value : Value}
    (denotes : token.value? = some value) : value.depth = 0 := by
  obtain ⟨content, lexeme, span⟩ := token
  cases content <;> cases denotes <;> rfl

/-- The tokens of an assignment that puts what a name is bound to into a list. They are known from
running the tokenizer on this one line. -/
theorem Token.exists_of_wrapping : ∃ target equal left name right : Token,
    ofText "x = [x]" = .ok [target, equal, left, name, right] ∧
      target.kind = .name ∧ target.lexeme = "x" ∧ equal.kind = .symbol .equal ∧
      left.kind = .symbol .leftBracket ∧ name.kind = .name ∧ name.lexeme = "x" ∧
      right.kind = .symbol .rightBracket := by
  have known : (ofText "x = [x]").toOption.map (List.map fun token => (token.kind, token.lexeme)) =
      some [(.name, "x"), (.symbol .equal, "="), (.symbol .leftBracket, "["), (.name, "x"),
        (.symbol .rightBracket, "]")] := by
    decide +kernel
  obtain ⟨tokens, found, written⟩ := Option.map_eq_some_iff.mp known
  have read : ofText "x = [x]" = .ok tokens := by
    cases result : ofText "x = [x]" with
    | error error =>
      rw [result] at found
      cases found
    | ok others =>
      rw [result] at found
      rw [Option.some.inj found]
  obtain ⟨target, _, rfl, isTarget, written⟩ := List.map_eq_cons_iff.mp written
  obtain ⟨equal, _, rfl, isEqual, written⟩ := List.map_eq_cons_iff.mp written
  obtain ⟨left, _, rfl, isLeft, written⟩ := List.map_eq_cons_iff.mp written
  obtain ⟨name, _, rfl, isName, written⟩ := List.map_eq_cons_iff.mp written
  obtain ⟨right, _, rfl, isRight, written⟩ := List.map_eq_cons_iff.mp written
  obtain rfl := List.map_eq_nil_iff.mp written
  exact ⟨target, equal, left, name, right, read, congrArg Prod.fst isTarget,
    congrArg Prod.snd isTarget, congrArg Prod.fst isEqual, congrArg Prod.fst isLeft,
    congrArg Prod.fst isName, congrArg Prod.snd isName, congrArg Prod.fst isRight⟩

namespace Session

variable {session : Session} {value : Value}

/-- Such an assignment binds the name to the list. The grammar derives the statement from the
tokens, and its list has the value of the name in it. -/
theorem run_wrapping (bound : session.bindings.get? "x" = some value) :
    session.run "x = [x]" = (.ok (some (.assigned "x" (.list [value]))),
      { session with bindings := session.bindings.set "x" (.list [value]) }) := by
  obtain ⟨target, equal, left, name, right, read, isTarget, named, assigns, opens, isName, sameName,
    closes⟩ := Token.exists_of_wrapping
  have items : Grammar.Items (Grammar.Nested 99) [name] [.name ⟨name.lexeme, name.span⟩] :=
    .some _ _ (.parted [name] _ [] [] (Grammar.nested_name isName) .none)
  have derived := Grammar.Derives.assignment target equal _ _ isTarget assigns
    (Grammar.nested_list opens items closes)
  have evaluated : Expr.eval session.bindings
      (.list [.name ⟨name.lexeme, name.span⟩] (left.span.through right.span)) =
        .ok (.list [value]) := by
    rw [Expr.eval_list, Expr.evalElements_cons, Expr.eval_name, sameName, bound]
    rfl
  have accepted : Statement.ofTokens [target, equal, left, name, right] = .ok _ :=
    Grammar.ofTokens_eq_ok_iff.mpr derived
  have notEmpty : [target, equal, left, name, right].isEmpty = false := rfl
  simp only [run, read, execute, notEmpty, accepted, Statement.eval, evaluated, named]
  rfl

/-- The request for it. -/
def wrapping : Request := .run "x = [x]"

/-- As often as it is asked for, the value nests one level deeper. By induction on how often, from
any session in which the name is bound. -/
theorem exists_wrapped (count : Nat) (bound : session.bindings.get? "x" = some value) :
    ∃ wrapped,
      (session.answers (List.replicate count wrapping)).2.bindings.get? "x" = some wrapped ∧
      wrapped.depth = value.depth + count ∧
      ((session.answers (List.replicate count wrapping)).1.filterMap Reply.outcome?).length =
        count := by
  induction count generalizing session value with
  | zero => exact ⟨value, bound, rfl, rfl⟩
  | succ count ih =>
    let after : Session := { session with bindings := session.bindings.set "x" (.list [value]) }
    have answered : session.answer wrapping =
        (.ran (.ok (some (.assigned "x" (.list [value])))), after) := by
      rw [wrapping, answer, run_wrapping bound]
    have rebound : after.bindings.get? "x" = some (.list [value]) := by
      rw [Bindings.get?_set, if_pos rfl]
    obtain ⟨wrapped, found, deep, counted⟩ := ih rebound
    have deeper : (Value.list [value]).depth = value.depth + 1 := by
      simp [Value.depth, Value.itemDepth]
    rw [List.replicate_succ, answers, answered]
    exact ⟨wrapped, found, by omega, congrArg Nat.succ counted⟩

/-- A session with as many statements that knows a value nesting as deep. An empty list is bound at
first, and then put into a list again and again. -/
theorem exists_nesting (count : Nat) : ∃ requests value,
    ((empty.answers requests).1.filterMap Reply.outcome?).length = count + 1 ∧
      (empty.answers requests).2.Knows (empty.answers requests).1 value ∧
      value.depth = count + 1 := by
  have started : ((empty.run "x = []").2.bindings.get? "x").map Value.depth = some 1 := by
    decide +kernel
  obtain ⟨value, bound, shallow⟩ := Option.map_eq_some_iff.mp started
  have reports : (Reply.ran (empty.run "x = []").1).outcome?.isSome = true := by decide +kernel
  obtain ⟨outcome, reported⟩ := Option.isSome_iff_exists.mp reports
  obtain ⟨wrapped, found, deep, counted⟩ := exists_wrapped count bound
  refine ⟨.run "x = []" :: List.replicate count wrapping, wrapped, ?_, .inl ⟨"x", found⟩, by omega⟩
  rw [answers, answer, List.filterMap_cons_some reported, List.length_cons, counted]

/-- What a session can know after some number of statements nests no deeper than the brackets of so
many statements, and there is a session that knows a value that nests as deep as there were
statements.

Each statement adds at most the depth of its own tree to the values that it uses, and one that puts
a value into a list adds one level. -/
theorem answers_depth (count : Nat) :
    (∀ requests value,
      ((empty.answers requests).1.filterMap Reply.outcome?).length = count →
      (empty.answers requests).2.Knows (empty.answers requests).1 value →
        value.depth ≤ maxNesting * count) ∧
    ∃ requests value,
      ((empty.answers requests).1.filterMap Reply.outcome?).length = count + 1 ∧
      (empty.answers requests).2.Knows (empty.answers requests).1 value ∧
        value.depth = count + 1 := by
  constructor
  · rintro requests value rfl known
    exact knows_of_graded Value.graded_depth requests
      (fun token _ value denotes => Nat.le_of_eq (Token.depth_of_value? denotes)) known
  · exact exists_nesting count

/-- So there is no bound for all sessions: with one statement more than the bound, some value nests
deeper. -/
theorem depth_unbounded : ¬∃ bound, ∀ requests value,
    (empty.answers requests).2.Knows (empty.answers requests).1 value → value.depth ≤ bound := by
  rintro ⟨bound, limited⟩
  obtain ⟨requests, value, -, known, deep⟩ := exists_nesting bound
  have within := limited requests value known
  omega

end Session

end Formula
