import Formula.Proofs.Grammar.Statements

/-!
# Derivations move the frontier

Whatever an expression stands in, its tokens lead the frontier from an awaited operand to the place
right after it, and it takes no more open brackets on the way than its derivation counts. So the
tokens of a statement lead from the start to a place where a statement may end.
-/

namespace Formula.Grammar

variable {α : Type} {limit : Nat} {brackets : List Bracket}

/-- Whatever the language derives leads from `source` to `target`, with no more than `limit`
brackets open on the way. -/
def Passes (limit : Nat) (language : Language α) (source target : Frontier) : Prop :=
  ∀ tokens result, language tokens result → source.within limit tokens = some target

section Productions

variable {item : Language α} {source middle target entry : Frontier} {closing : Symbol}

/-- Items that lead from a place back to it do so any number of times. By induction over the
items. -/
theorem Passes.star {place : Frontier} (passes : Passes limit item place place) :
    Passes limit (Star item) place place := by
  intro tokens results derived
  induction derived with
  | none => rfl
  | more tokens result later results derived _ ih =>
    rw [Frontier.within_append (passes tokens result derived), ih]

/-- A comma leads to where an item begins, so items with commas between them lead to where one of
them does. -/
theorem Passes.separated (passes : Passes limit item entry middle)
    (moved : middle.next (.symbol .comma) = some entry) (room : entry.brackets.length ≤ limit) :
    Passes limit (Separated item) entry middle := by
  have others : Passes limit (AfterComma item) middle middle := by
    rintro _ result ⟨comma, tokens, _, parts, derived⟩
    rw [← parts] at moved
    rw [Frontier.within_cons moved room]
    exact passes tokens result derived
  rintro _ _ ⟨tokens, result, later, results, derived, followed⟩
  rw [Frontier.within_append (passes tokens result derived)]
  exact others.star later results followed

/-- What is inside leads to where the bracket may be closed, and the closing symbol leads out of
it. -/
theorem Passes.closed (passes : Passes limit item source middle)
    (closes : middle.next (.symbol closing) = some target) (room : target.brackets.length ≤ limit) :
    Passes limit (Closed closing item) source target := by
  rintro _ _ ⟨tokens, result, right, derived, isClosing⟩
  rw [← isClosing] at closes
  rw [Frontier.within_append (passes tokens result derived), Frontier.within_cons closes room]
  rfl

/-- Items, or none, up to the symbol that closes the bracket around them. The first token of an item
has the same meaning where the bracket may be closed at once. -/
theorem Passes.items (passes : Passes limit (Separated item) entry middle)
    (begins : Begins source entry target closing)
    (closes : middle.next (.symbol closing) = some target) (room : target.brackets.length ≤ limit)
    (proper : entry ≠ middle) :
    Passes limit (Closed closing (Items item)) source target := by
  rintro _ _ ⟨tokens, results, right, derived, isClosing⟩
  cases derived with
  | none =>
    have ended := begins.closes
    rw [← isClosing] at ended
    exact Frontier.within_cons ended room []
  | some _ _ derived =>
    have reached := passes tokens results derived
    cases tokens with
    | nil => exact absurd (Option.some.inj reached) proper
    | cons token rest =>
      obtain ⟨inside, moved⟩ := Frontier.next_of_within reached
      have taken : token.kind ∈ entry.kinds := by
        rw [Frontier.mem_kinds_iff, moved]
        rfl
      have begun : source.within limit (token :: rest) = some middle :=
        (Frontier.within_of_alike (begins.alike _ taken) rest).trans reached
      rw [← isClosing] at closes
      rw [Frontier.within_append begun, Frontier.within_cons closes room]
      rfl

/-- The opening symbol leads to where the inside begins, and that place is within the limit if there
is room for one bracket more. -/
theorem Passes.enclosed {opening : Symbol} (passes : Passes limit (Closed closing item) source target)
    (opens : entry.next (.symbol opening) = some source) (room : source.brackets.length ≤ limit) :
    Passes limit (Enclosed opening closing item) entry target := by
  rintro _ _ ⟨left, tokens, result, isOpening, derived⟩
  rw [← isOpening] at opens
  rw [Frontier.within_cons opens room]
  exact passes tokens result derived

end Productions

section Expressions

variable {language : Language Expr}

/-- A chain leads from an awaited operand to the place after it: a sign leads back to an awaited
operand, whichever of the chain it is. By induction over the chain. -/
theorem Passes.chain {signs : List (Symbol × Operator)}
    (passes : Passes limit language ⟨.operand, brackets⟩ ⟨.afterOperand, brackets⟩)
    (operators : ∀ kind ∈ kindsOf signs, kind ∈ Frontier.signKinds)
    (room : brackets.length ≤ limit) :
    Passes limit (Chain signs language) ⟨.operand, brackets⟩ ⟨.afterOperand, brackets⟩ := by
  have steps : Passes limit (Step signs language) ⟨.afterOperand, brackets⟩
      ⟨.afterOperand, brackets⟩ := by
    rintro _ _ ⟨sign, symbol, operator, tokens, expr, listed, written, derived⟩
    have marked : sign.kind ∈ Frontier.signKinds :=
      operators _ (written ▸ List.mem_map_of_mem listed)
    have moved : Frontier.next ⟨.afterOperand, brackets⟩ sign.kind =
        some ⟨.operand, brackets⟩ := if_pos marked
    rw [Frontier.within_cons moved room]
    exact passes tokens expr derived
  intro tokens expr derived
  induction derived with
  | single derived => exact passes _ _ derived
  | more _ last ih =>
    rw [Frontier.within_append ih]
    exact steps _ _ last

/-- A string leads from an awaited key to the colon, the colon to an operand, and the expression
behind it. -/
theorem Passes.pair
    (passes : Passes limit language ⟨.operand, brackets⟩ ⟨.afterOperand, brackets⟩)
    (room : brackets.length ≤ limit) :
    Passes limit (Pair language) ⟨.key, brackets⟩ ⟨.afterOperand, brackets⟩ := by
  rintro _ _ ⟨key, value, colon, tokens, expr, isString, denotes, parts, derived⟩
  have named : Frontier.next ⟨.key, brackets⟩ key.kind = some ⟨.colon, brackets⟩ := by
    rw [isString]
    rfl
  have parted : Frontier.next ⟨.colon, brackets⟩ colon.kind = some ⟨.operand, brackets⟩ := by
    rw [parts]
    rfl
  rw [Frontier.within_cons named room, Frontier.within_cons parted room]
  exact passes tokens expr derived

variable {depth : Nat}

/-- A factor leads to the place after an operand. A token does so at once; a bracket leads inside,
what it encloses leads to where it may be closed, and the closing symbol leads out. There is room
for it because the derivation counts it. -/
theorem passes_factor (deep : 0 < depth → brackets.length < limit)
    (room : brackets.length ≤ limit)
    (inside : ∀ bracket : Bracket, brackets.length < limit → Passes limit language
      ⟨.operand, bracket :: brackets⟩ ⟨.afterOperand, bracket :: brackets⟩) :
    Passes limit (Factor language depth) ⟨.operand, brackets⟩ ⟨.afterOperand, brackets⟩ := by
  intro tokens expr derived
  cases derived with
  | literal token value denotes =>
    have isLiteral : token.value?.isSome = true := by simp [denotes]
    refine Frontier.within_cons ?_ room []
    rcases token.value?_isSome.mp isLiteral with kind | kind | kind | kind <;> rw [kind] <;> rfl
  | name token isName =>
    refine Frontier.within_cons ?_ room []
    rw [isName]
    rfl
  | list _ left elements right positive derived =>
    have elementsPass := (inside .list (deep positive)).separated rfl (deep positive)
    have body := elementsPass.items begins_list rfl room (by simp)
    exact body.enclosed rfl (deep positive) tokens _ derived
  | dictionary _ left pairs right positive derived =>
    have pairsPass := ((inside .dictionary (deep positive)).pair (deep positive)).separated rfl
      (deep positive)
    have body := pairsPass.items begins_dictionary rfl room (by simp)
    exact body.enclosed rfl (deep positive) tokens _ derived
  | group _ left _ right positive derived =>
    have body : Passes limit (Closed .rightParen language) ⟨.operand, .group :: brackets⟩
        ⟨.afterOperand, brackets⟩ := (inside .group (deep positive)).closed rfl room
    exact body.enclosed rfl (deep positive) tokens _ derived

/-- So does an expression, being a chain of chains of factors. -/
theorem passes_expression (deep : 0 < depth → brackets.length < limit)
    (room : brackets.length ≤ limit)
    (inside : ∀ bracket : Bracket, brackets.length < limit → Passes limit language
      ⟨.operand, bracket :: brackets⟩ ⟨.afterOperand, bracket :: brackets⟩) :
    Passes limit (Expression language depth) ⟨.operand, brackets⟩ ⟨.afterOperand, brackets⟩ := by
  have terms : Passes limit (Term language depth) ⟨.operand, brackets⟩ ⟨.afterOperand, brackets⟩ :=
    (passes_factor deep room inside).chain (by decide) room
  exact terms.chain (by decide) room

end Expressions

/-- The tokens of an expression lead from an awaited operand to the place after it, where there is
room for the brackets its derivation counts. By induction on that count. -/
theorem passes_nested (depth : Nat) (brackets : List Bracket)
    (limited : brackets.length + depth ≤ limit) :
    Passes limit (Nested depth) ⟨.operand, brackets⟩ ⟨.afterOperand, brackets⟩ := by
  induction depth generalizing brackets with
  | zero =>
    refine passes_expression (by omega) (by omega) fun _ _ => ?_
    rintro _ _ ⟨⟩
  | succ depth ih =>
    refine passes_expression (fun _ => by omega) (by omega) fun bracket _ => ?_
    exact ih (bracket :: brackets) (by rw [List.length_cons]; omega)

/-- The tokens of a statement lead to where a statement may end. For an expression the beginning has
to be looked at: a name leads to another place there than it does elsewhere, but the next token
makes up for it. -/
theorem within_of_derives {tokens : List Token} {statement : Statement}
    (derived : Derives limit tokens statement) :
    ∃ place, Frontier.start.within limit tokens = some place ∧ place.isComplete = true := by
  cases derived with
  | assignment name equal tokens expr isName assigns derived =>
    have moved : Frontier.next ⟨.afterName, []⟩ equal.kind = some ⟨.operand, []⟩ := by
      rw [assigns]
      rfl
    refine ⟨⟨.afterOperand, []⟩, ?_, rfl⟩
    rw [Frontier.within_cons (next_start isName) (Nat.zero_le limit),
      Frontier.within_cons moved (Nat.zero_le limit)]
    exact passes_nested limit [] (Nat.le_of_eq (Nat.zero_add limit)) tokens expr derived
  | expression _ expr derived =>
    have reached := passes_nested limit [] (Nat.le_of_eq (Nat.zero_add limit)) tokens expr derived
    rcases tokens with _ | ⟨token, rest⟩
    · cases reached
    by_cases isName : token.kind = .name
    · cases rest with
      | nil =>
        exact ⟨⟨.afterName, []⟩, Frontier.within_cons (next_start isName) (Nat.zero_le limit) [], rfl⟩
      | cons second rest =>
        have other : second.kind ≠ .symbol .equal := by
          intro isEqual
          rw [Frontier.within_cons (next_operand isName) (Nat.zero_le limit)] at reached
          obtain ⟨inside, moved⟩ := Frontier.next_of_within reached
          rw [isEqual] at moved
          cases moved
        exact ⟨⟨.afterOperand, []⟩, (within_name isName other rest).trans reached, rfl⟩
    · have alike : Frontier.start.next token.kind = Frontier.next ⟨.operand, []⟩ token.kind :=
        if_neg isName
      exact ⟨⟨.afterOperand, []⟩, (Frontier.within_of_alike alike rest).trans reached, rfl⟩

end Formula.Grammar
