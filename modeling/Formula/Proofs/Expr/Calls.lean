import Formula.Proofs.Expr.Plain
import Formula.Proofs.Grammar.Origin

/-!
# How deep evaluation calls itself

One call of evaluation looks at one expression and leaves others to calls inside itself: the
leftmost operand and the right operands of a chain, the elements of a list, the keys and values of
a dictionary. It is stated here with those calls as a parameter, so that they can be cut off where
too many would be inside one another.

How many are needed is told by the tree. A product is one call around its factors, a sum one call
around its terms, and a list or a dictionary one call around what it encloses; parentheses cost
nothing by themselves, and an operation that they enclose goes on to the left like any other. So
there are no more than three calls for every bracket, and three for what is outside of all.
-/

namespace Formula

open Grammar

/-- Evaluation that may be cut off, and then has neither a value nor a fault. -/
abbrev Limited : Type → Type := ExceptT EvalError Option

namespace Limited

variable {α β : Type}

/-- Evaluation that was cut off. -/
def cutOff : Limited α := (none : Option (Except EvalError α))

/-- Evaluation that came to its end. -/
def done (result : Except EvalError α) : Limited α := some result

/-- What comes to its end, and then again, comes to its end. -/
theorem done_bind (result : Except EvalError α) (next : α → Except EvalError β) :
    (done result >>= fun value => done (next value)) = done (result >>= next) := by
  cases result <;> rfl

/-- Items are gone through to the end if each of them comes to its end. By induction on the
items. -/
theorem done_mapM {f : α → Limited β} {g : α → Except EvalError β} {items : List α}
    (same : ∀ item ∈ items, f item = done (g item)) : items.mapM f = done (items.mapM g) := by
  induction items with
  | nil => rfl
  | cons item later ih =>
    rw [List.forall_mem_cons] at same
    rw [List.mapM_cons, List.mapM_cons, same.1, ih same.2, ← done_bind]
    congr 1
    funext value
    exact done_bind (later.mapM g) fun values => pure (value :: values)

/-- The same for items that are added to a state, which may differ from item to item, so each has to
come to its end in every state. -/
theorem done_foldlM {f : β → α → Limited β} {g : β → α → Except EvalError β} {items : List α}
    (same : ∀ item ∈ items, ∀ state, f state item = done (g state item)) (state : β) :
    items.foldlM f state = done (items.foldlM g state) := by
  induction items generalizing state with
  | nil => rfl
  | cons item later ih =>
    rw [List.forall_mem_cons] at same
    rw [List.foldlM_cons, List.foldlM_cons, same.1, ← done_bind]
    congr 1
    funext value
    exact ih same.2 value

end Limited

namespace Expr

section Call

variable {m : Type → Type} [Monad m] [MonadExceptOf EvalError m]
variable (bindings : Bindings) (nested : Expr → m Value)

/-- Apply an operator that stands at a position, in any computation that can fail. -/
def combine (link : Link) (left right : Value) : m Value :=
  match link.operator.applyAt link.position left right with
  | .ok value => pure value
  | .error error => throw error

/-- One step along a chain: the right operand in a call of its own, then the operator. -/
def callLink (value : Value) (link : Link) : m Value := do
  let operand ← nested link.operand
  combine link value operand

/-- One pair of a dictionary, its key and its value in calls of their own. -/
def callPair (entries : List (String × Value)) (pair : Expr × Expr) :
    m (List (String × Value)) := do
  match ← nested pair.1 with
  | .string key =>
    let value ← nested pair.2
    return Entries.set key value entries
  | other => throw ⟨.invalidKey other.kind, pair.1.start⟩

/-- One call of evaluation, which leaves all other expressions to the calls inside it. -/
def call : Expr → m Value
  | .literal value _ => pure value
  | .name written =>
    match bindings.get? written.text with
    | some value => pure value
    | none => throw ⟨.unbound written.text, written.span.start⟩
  | .operation operator left right span => do
    let chain := unchain (.operation operator left right span) []
    let first ← nested chain.1
    chain.2.foldlM (callLink nested) first
  | .list elements _ => do
    let items ← elements.mapM nested
    return .list items
  | .dictionary pairs _ => do
    let entries ← pairs.foldlM (callPair nested) []
    return .dictionary entries

end Call

/-- Evaluation in which no more than so many calls may be inside one another. -/
def evalWithin (bindings : Bindings) : (calls : Nat) → Expr → Limited Value
  | 0, _ => Limited.cutOff
  | calls + 1, expr => call bindings (evalWithin bindings calls) expr

/-- The leftmost operand of a chain and its right operands, from left to right. -/
def spine : Expr → List Expr
  | .operation _ left right _ => spine left ++ [right]
  | head => [head]

/-- What one call of evaluation leaves to the calls inside it. -/
def inner : Expr → List Expr
  | .operation operator left right span => spine (.operation operator left right span)
  | .list elements _ => elements
  | .dictionary pairs _ => pairs.flatMap fun pair => [pair.1, pair.2]
  | _ => []

/-- The operands on the spine are the head of the chain and the operands of its links. By following
the chain down to the left, which gathers one link after the other. -/
theorem spine_unchain (expr : Expr) (links : List Link) :
    (unchain expr links).1 :: (unchain expr links).2.map Link.operand =
      spine expr ++ links.map Link.operand := by
  fun_induction unchain expr links with
  | case1 operator left right span links ih =>
    rw [ih, List.map_cons, spine, List.append_assoc]
    rfl
  | case2 head links noOperation =>
    cases head with
    | operation operator left right span => exact absurd rfl (noOperation operator left right span)
    | literal | name | list | dictionary => rfl

section Evaluation

variable {bindings : Bindings}

/-- Evaluation is one call, with evaluation again for all calls inside it. Only for operations is
there something to show: that the evaluator walks along the chain where a call goes through its
links. -/
theorem eval_eq_call (bindings : Bindings) (expr : Expr) :
    eval bindings expr = call bindings (eval bindings) expr := by
  have linked (value : Value) (link : Link) :
      follow bindings value link = callLink (eval bindings) value link := by
    rw [follow, callLink]
    congr 1
    funext operand
    rw [combine]
    cases link.operator.applyAt link.position value operand <;> rfl
  cases expr with
  | literal value span => exact eval_literal bindings value span
  | name written =>
    rw [eval_name, call]
    cases bindings.get? written.text <;> rfl
  | operation operator left right span =>
    rw [eval_eq_chain, call]
    congr 1
    funext first
    congr 1
    funext value link
    exact linked value link
  | list elements span => rw [eval_list, evalElements_eq_mapM fun _ _ => rfl]; rfl
  | dictionary pairs span =>
    rw [eval_dictionary, evalPairs_eq_foldlM fun _ _ => ⟨rfl, rfl⟩]
    rfl

/-- A call comes to its end if the calls inside it do, as it does nothing else that could be cut
off. -/
theorem call_eq_done {nested : Expr → Limited Value} {expr : Expr}
    (inside : ∀ part ∈ expr.inner, nested part = .done (eval bindings part)) :
    call bindings nested expr = .done (eval bindings expr) := by
  rw [eval_eq_call]
  cases expr with
  | literal value span => rfl
  | name written =>
    rw [call, call]
    cases bindings.get? written.text <;> rfl
  | operation operator left right span =>
    have split := spine_unchain (.operation operator left right span) []
    rw [List.map_nil, List.append_nil] at split
    rw [inner, ← split, List.forall_mem_cons, List.forall_mem_map] at inside
    rw [call, call, inside.1, ← Limited.done_bind]
    congr 1
    funext first
    apply Limited.done_foldlM
    intro link member value
    rw [callLink, callLink, inside.2 link member, ← Limited.done_bind]
    congr 1
    funext operand
    rw [combine, combine]
    cases link.operator.applyAt link.position value operand <;> rfl
  | list elements span =>
    rw [inner] at inside
    rw [call, call, Limited.done_mapM inside, ← Limited.done_bind]
    rfl
  | dictionary pairs span =>
    rw [call, call, ← Limited.done_bind]
    congr 1
    apply Limited.done_foldlM
    intro pair member entries
    have ofKey := inside pair.1 (List.mem_flatMap.mpr ⟨pair, member, by simp⟩)
    have ofValue := inside pair.2 (List.mem_flatMap.mpr ⟨pair, member, by simp⟩)
    rw [callPair, callPair, ofKey, ← Limited.done_bind]
    congr 1
    funext key
    cases key with
    | string text =>
      dsimp only
      rw [ofValue, ← Limited.done_bind]
      rfl
    | integer | float | boolean | list | dictionary => rfl

end Evaluation

/-- So many calls inside one another are enough. -/
inductive CallsWithin : Nat → Expr → Prop
  | call (calls : Nat) (expr : Expr) (inside : ∀ part ∈ expr.inner, CallsWithin calls part) :
      CallsWithin (calls + 1) expr

/-- Where so many calls are enough, evaluation is not cut off. By induction on how they are enough,
which follows the calls. -/
theorem evalWithin_eq_done (bindings : Bindings) {calls : Nat} {expr : Expr}
    (within : CallsWithin calls expr) :
    evalWithin bindings calls expr = .done (eval bindings expr) := by
  induction within with
  | call calls expr inside ih => exact call_eq_done ih

section Counting

variable {calls more : Nat} {expr : Expr}

/-- If so many calls are enough, then more are. By induction on how they are enough, with one call
taken off both numbers at a time. -/
theorem CallsWithin.mono (within : CallsWithin calls expr) (atMost : calls ≤ more) :
    CallsWithin more expr := by
  induction within generalizing more with
  | call calls expr inside ih =>
    have positive : 0 < more := Nat.lt_of_lt_of_le (Nat.succ_pos calls) atMost
    obtain ⟨fewer, rfl⟩ := Nat.exists_eq_add_one.mpr positive
    exact .call fewer expr fun part member => ih part member (Nat.le_of_succ_le_succ atMost)

/-- One call is enough where no call is inside it. -/
theorem CallsWithin.leaf (calls : Nat) (alone : expr.inner = []) :
    CallsWithin (calls + 1) expr := by
  apply CallsWithin.call
  rw [alone]
  exact fun part impossible => absurd impossible List.not_mem_nil

/-- What is enough for an expression is enough for every operand on its way down to the left. These
are inside the call for an operation, which leaves one call less for them. -/
theorem CallsWithin.spine (within : CallsWithin calls expr) :
    ∀ part ∈ expr.spine, CallsWithin calls part := by
  cases expr with
  | operation operator left right span =>
    obtain ⟨fewer, _, inside⟩ := within
    exact fun part member => (inside part member).mono (Nat.le_succ fewer)
  | literal | name | list | dictionary =>
    intro part member
    rw [List.mem_singleton.mp member]
    exact within

/-- One call more is enough for a chain than for its operands, as the whole chain is gone through in
one call. -/
theorem callsWithin_of_spine (inside : ∀ part ∈ expr.spine, CallsWithin calls part) :
    CallsWithin (calls + 1) expr := by
  cases expr with
  | operation operator left right span => exact .call calls _ inside
  | literal | name | list | dictionary =>
    exact (inside _ (List.mem_singleton.mpr rfl)).mono (Nat.le_succ calls)

/-- So it is for a chain that the grammar makes. By induction over the chain: its spine is that of
its first operand with one operand more for each step. -/
theorem CallsWithin.chain {signs : List (Symbol × Operator)} {tokens : List Token}
    (derived : Chain signs (fun _ operand => CallsWithin calls operand) tokens expr) :
    CallsWithin (calls + 1) expr := by
  apply callsWithin_of_spine
  induction derived with
  | single within => exact within.spine
  | more _ last ofLeft =>
    obtain ⟨_, _, _, _, _, _, _, ofRight⟩ := last
    exact List.forall_mem_append.mpr ⟨ofLeft, List.forall_mem_singleton.mpr ofRight⟩

/-- A product needs one call more than its factors, and a sum one more than its terms. By induction
over the derivation: with every bracket three calls are added, for the bracket, its terms and its
sum. -/
theorem callsWithin_of_nested {depth : Nat} {tokens : List Token}
    (derived : Nested depth tokens expr) : CallsWithin (3 * (depth + 1)) expr := by
  refine Nested.induction (fun depth _ factor => CallsWithin (3 * depth + 1) factor)
    (fun depth _ term => CallsWithin (3 * depth + 2) term)
    (fun depth _ whole => CallsWithin (3 * (depth + 1)) whole) ?factor ?term ?whole derived
  case term => exact fun depth tokens term derived => .chain derived
  case whole => exact fun depth tokens whole derived => .chain derived
  case factor =>
    intro depth tokens factor derived
    cases derived with
    | literal | name => exact .leaf _ rfl
    | list _ left elements right room derived =>
      obtain ⟨lower, rfl⟩ := Nat.exists_eq_add_one.mpr room
      apply CallsWithin.call
      intro element member
      obtain ⟨_, _, items⟩ := derived.exists_derived
      obtain ⟨_, _, within⟩ := items.exists_derived member
      exact within
    | dictionary _ left pairs right room derived =>
      obtain ⟨lower, rfl⟩ := Nat.exists_eq_add_one.mpr room
      apply CallsWithin.call
      intro part member
      obtain ⟨pair, isPair, isPart⟩ := List.mem_flatMap.mp member
      obtain ⟨_, _, items⟩ := derived.exists_derived
      obtain ⟨_, _, key, value, _, _, bound, _, _, _, within⟩ := items.exists_derived isPair
      simp only [List.mem_cons, List.not_mem_nil, or_false] at isPart
      obtain rfl | rfl := isPart
      · exact .leaf _ rfl
      · exact within
    | group _ left _ right room derived =>
      obtain ⟨lower, rfl⟩ := Nat.exists_eq_add_one.mpr room
      obtain ⟨_, _, within⟩ := derived.exists_derived
      exact within.mono (Nat.le_succ _)

end Counting

end Expr

namespace Statement

/-- A statement in whose evaluation no more than so many calls may be inside one another. -/
def evalWithin (bindings : Bindings) (calls : Nat) : Statement → Limited (Outcome × Bindings)
  | .assignment name expr => do
    let value ← expr.evalWithin bindings calls
    return (.assigned name.text value, bindings.set name.text value)
  | .expression expr => do
    let value ← expr.evalWithin bindings calls
    return (.value value, bindings)

/-- A statement is evaluated to the end where its expression is, since binding a name makes no
call. -/
theorem evalWithin_eq_done (bindings : Bindings) {calls : Nat} {statement : Statement}
    (within : statement.expr.CallsWithin calls) :
    statement.evalWithin bindings calls = .done (statement.eval bindings) := by
  have value := Expr.evalWithin_eq_done bindings within
  cases statement with
  | assignment name expr =>
    rw [Statement.expr] at value
    rw [evalWithin, value, eval, ← Limited.done_bind]
    rfl
  | expression expr =>
    rw [Statement.expr] at value
    rw [evalWithin, value, eval, ← Limited.done_bind]
    rfl

/-- Three calls for every bracket that may be open, and three for what is outside of all. A
statement calls for nothing but its expression. -/
theorem callsWithin_of_derives {depth : Nat} {tokens : List Token} {statement : Statement}
    (derived : Derives depth tokens statement) :
    statement.expr.CallsWithin (3 * (depth + 1)) := by
  obtain ⟨_, _, derived⟩ := exists_nested_of_derives derived
  exact Expr.callsWithin_of_nested derived

end Statement

end Formula
