import Formula.Grammar.Trail

/-!
# Rules

A rule reads a part of a statement from the front of the tokens. It gives what it read and the
tokens after it, or nothing, and in both cases it hands on the trail. Rules follow one another
with the notation for effects, and an alternative starts again where the failed one started, but
with the trail as that one left it.
-/

namespace Formula

/-- A way to read something from the front of the tokens. -/
def Rule (α : Type) : Type := Cursor → Trail → Option (α × Cursor) × Trail

/-- How many brackets may be open around one place. -/
def maxNesting : Nat := 100

namespace Rule

variable {α β : Type}

instance : Monad Rule where
  pure result := fun cursor trail => (some (result, cursor), trail)
  bind rule next := fun cursor trail =>
    match rule cursor trail with
    | (some (result, rest), trail) => next result rest trail
    | (none, trail) => (none, trail)

/-- The first rule, or if it fails the second. -/
instance : OrElse (Rule α) where
  orElse first second := fun cursor trail =>
    match first cursor trail with
    | (some found, trail) => (some found, trail)
    | (none, trail) => second () cursor trail

section Sequencing

variable {rule second : Rule α} {next : α → Rule β}
variable {cursor rest : Cursor} {trail after : Trail} {result : α}

/-- A result that is given reads nothing and notes nothing. -/
@[simp] theorem pure_apply (result : α) (cursor : Cursor) (trail : Trail) :
    (pure result : Rule α) cursor trail = (some (result, cursor), trail) := rfl

/-- A rule that gives a result is followed by the next one, which starts where it has stopped. -/
theorem bind_of_some (found : rule cursor trail = (some (result, rest), after)) :
    (rule >>= next) cursor trail = next result rest after := by
  simp only [bind, found]

/-- A rule that fails ends the sequence with it. -/
theorem bind_of_none (failed : rule cursor trail = (none, after)) :
    (rule >>= next) cursor trail = (none, after) := by
  simp only [bind, failed]

/-- What is made of a result takes the same tokens and leaves the same trail. -/
theorem map_apply (make : α → β) (rule : Rule α) (cursor : Cursor) (trail : Trail) :
    (make <$> rule) cursor trail =
      ((rule cursor trail).1.map fun found => (make found.1, found.2), (rule cursor trail).2) := by
  rcases found : rule cursor trail with ⟨_ | ⟨result, rest⟩, after⟩
  · exact bind_of_none found
  · exact bind_of_some found

/-- The first alternative that gives a result is taken. -/
theorem orElse_of_some (found : rule cursor trail = (some (result, rest), after)) :
    (rule <|> second) cursor trail = (some (result, rest), after) := by
  simp only [HOrElse.hOrElse, OrElse.orElse, found]

/-- After an alternative that fails, the next one starts at the same token, with what has been
noted. -/
theorem orElse_of_none (failed : rule cursor trail = (none, after)) :
    (rule <|> second) cursor trail = second cursor after := by
  simp only [HOrElse.hOrElse, OrElse.orElse, failed]

end Sequencing

/-- The rule that reads nothing and fails without a trace. -/
def fail : Rule α := fun _ trail => (none, trail)

/-- One token of a given kind. -/
def token (kind : Token.Kind) : Rule Token := fun cursor trail =>
  match cursor with
  | ⟨token :: later, left, left_eq⟩ =>
    if token.kind = kind then (some (token, ⟨later, left - 1, by simp [left_eq]⟩), trail)
    else (none, trail.note cursor (.token kind))
  | ⟨[], _, _⟩ => (none, trail.note cursor (.token kind))

/-- A token of the right kind is taken. -/
theorem token_of_kind {kind : Token.Kind} {token : Token} (same : token.kind = kind)
    (rest : List Token) (trail : Trail) :
    Rule.token kind (.ofList (token :: rest)) trail = (some (token, .ofList rest), trail) := by
  simp [Rule.token, Cursor.ofList, same]

/-- Any other token, or the end, is noted as not what was expected. -/
theorem token_of_not_kind {kind : Token.Kind} {tokens : List Token}
    (other : ∀ token ∈ tokens.head?, token.kind ≠ kind) (trail : Trail) :
    Rule.token kind (.ofList tokens) trail =
      (none, trail.note (.ofList tokens) (.token kind)) := by
  cases tokens with
  | nil => rfl
  | cons token rest => simp [Rule.token, Cursor.ofList, other token rfl]

/-- No token is left. -/
def endOfInput : Rule Unit := fun cursor trail =>
  match cursor.tokens with
  | [] => (some ((), cursor), trail)
  | _ :: _ => (none, trail.note cursor .endOfInput)

/-- What the rule reads if it reads something, and nothing otherwise. -/
def optional (rule : Rule α) : Rule (Option α) := fun cursor trail =>
  match rule cursor trail with
  | (some (result, rest), trail) => (some (some result, rest), trail)
  | (none, trail) => (some (none, cursor), trail)

/-- What may be missing is taken if it is there. -/
theorem optional_of_some {rule : Rule α} {cursor rest : Cursor} {trail after : Trail} {result : α}
    (found : rule cursor trail = (some (result, rest), after)) :
    optional rule cursor trail = (some (some result, rest), after) := by
  simp only [optional, found]

/-- If it is not there, nothing is taken, but what was expected has been noted. -/
theorem optional_of_none {rule : Rule α} {cursor : Cursor} {trail after : Trail}
    (failed : rule cursor trail = (none, after)) :
    optional rule cursor trail = (some (none, cursor), after) := by
  simp only [optional, failed]

/-- What the rule reads again and again until it fails. A rule that has taken no token is not
    tried again. -/
def collect (rule : Rule α) (cursor : Cursor) (trail : Trail) : (List α × Cursor) × Trail :=
  match rule cursor trail with
  | (none, trail) => (([], cursor), trail)
  | (some (result, rest), trail) =>
    if rest.left < cursor.left then
      let ((later, last), trail) := collect rule rest trail
      ((result :: later, last), trail)
    else (([result], rest), trail)
termination_by cursor.left

/-- Any number of times the rule, as often as it can be read. -/
def repeated (rule : Rule α) : Rule (List α) := fun cursor trail =>
  let (found, trail) := collect rule cursor trail
  (some found, trail)

/-- A repetition ends where the rule fails. -/
theorem repeated_of_none {rule : Rule α} {cursor : Cursor} {trail after : Trail}
    (failed : rule cursor trail = (none, after)) :
    repeated rule cursor trail = (some ([], cursor), after) := by
  simp only [repeated]
  rw [collect, failed]

/-- A result that took a token is followed by the rest of the repetition. -/
theorem repeated_of_some {rule : Rule α} {cursor rest : Cursor} {trail after : Trail} {result : α}
    (found : rule cursor trail = (some (result, rest), after)) (shorter : rest.left < cursor.left) :
    repeated rule cursor trail =
      ((repeated rule rest after).1.map fun found => (result :: found.1, found.2),
        (repeated rule rest after).2) := by
  simp only [repeated]
  rw [collect, found]
  simp only [if_pos shorter, Option.map_some]

/-- A result that took no token is the last one, or the repetition would not end. -/
theorem repeated_of_still {rule : Rule α} {cursor rest : Cursor} {trail after : Trail} {result : α}
    (found : rule cursor trail = (some (result, rest), after)) (still : ¬rest.left < cursor.left) :
    repeated rule cursor trail = (some ([result], rest), after) := by
  simp only [repeated]
  rw [collect, found]
  simp only [if_neg still]

/-- One or more times the rule, with a symbol between one and the next. -/
def separated (rule : Rule α) (separator : Symbol) : Rule (List α) := do
  let first ← rule
  let later ← repeated do
    let _ ← token (.symbol separator)
    rule
  return first :: later

/-- An opening bracket and what the rule reads after it, one level further inside. Where `limit`
    brackets are open already, the bracket is refused for good. -/
def bracketed (limit : Nat) (opening : Symbol) (inner : Rule α) : Rule (Token × α) :=
  fun cursor trail =>
  match token (.symbol opening) cursor trail with
  | (none, trail) => (none, trail)
  | (some (bracket, rest), trail) =>
    if limit ≤ trail.depth then (none, trail.refuse cursor .shallowerNesting)
    else
      match inner rest trail.enter with
      | (some (result, last), trail) => (some ((bracket, result), last), trail.leave)
      | (none, trail) => (none, trail.leave)

section Bracketed

variable {limit : Nat} {opening : Symbol} {inner : Rule α} {token : Token} {rest : List Token}
variable {trail : Trail}

/-- A bracket is refused if as many are open as may be. -/
theorem bracketed_of_full (opens : token.kind = .symbol opening) (full : limit ≤ trail.depth) :
    bracketed limit opening inner (.ofList (token :: rest)) trail =
      (none, trail.refuse (.ofList (token :: rest)) .shallowerNesting) := by
  simp only [bracketed, token_of_kind opens, if_pos full]

/-- Otherwise what stands inside of it is read one level deeper, and the level is left again whether
or not that succeeds. -/
theorem bracketed_of_room (opens : token.kind = .symbol opening) (room : trail.depth < limit) :
    bracketed limit opening inner (.ofList (token :: rest)) trail =
      ((inner (.ofList rest) trail.enter).1.map fun found => ((token, found.1), found.2),
        (inner (.ofList rest) trail.enter).2.leave) := by
  simp only [bracketed, token_of_kind opens, if_neg (Nat.not_le.mpr room)]
  rcases inner (.ofList rest) trail.enter with ⟨_ | ⟨result, last⟩, after⟩ <;> rfl

/-- Where there is no such bracket, it is noted that one was expected. -/
theorem bracketed_of_not_kind {tokens : List Token}
    (other : ∀ token ∈ tokens.head?, token.kind ≠ .symbol opening) :
    bracketed limit opening inner (.ofList tokens) trail =
      (none, trail.note (.ofList tokens) (.token (.symbol opening))) := by
  simp only [bracketed, token_of_not_kind other]

end Bracketed

end Rule

end Formula
