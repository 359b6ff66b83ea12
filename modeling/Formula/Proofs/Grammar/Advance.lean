import Formula.Proofs.Grammar.Levels
import Formula.Proofs.Grammar.Procedure

/-!
# Reading takes tokens

What a rule gives back after it has read something are the tokens it was given without some at the
front. How many these are at least can be told from the procedure for the rule. So a repetition of
something that takes a token never comes to a standstill, and the procedure for expressions enters
itself only after the bracket that it has taken.
-/

namespace Formula

/-- A rule that takes at least so many tokens from the front when it reads something. -/
def Rule.Takes {α : Type} (least : Nat) (rule : Rule α) : Prop :=
  ∀ cursor trail result rest, (rule cursor trail).1 = some (result, rest) →
    ∃ front, least ≤ front.length ∧ cursor.tokens = front ++ rest.tokens

namespace Rule

variable {α β : Type} {rule second : Rule α} {next : α → Rule β} {least more : Nat}

/-- The count that a cursor keeps goes down by the tokens that were taken, because it is their
number. -/
theorem Takes.left_le (takes : rule.Takes least) {cursor rest : Cursor} {trail : Trail} {result : α}
    (found : (rule cursor trail).1 = some (result, rest)) : rest.left + least ≤ cursor.left := by
  obtain ⟨front, enough, split⟩ := takes cursor trail result rest found
  rw [cursor.left_eq, rest.left_eq, split, List.length_append]
  omega

/-- What takes many tokens takes fewer as well; the bound is from below. -/
theorem Takes.mono (takes : rule.Takes more) (fewer : least ≤ more) : rule.Takes least := by
  intro cursor trail result rest found
  obtain ⟨front, enough, split⟩ := takes cursor trail result rest found
  exact ⟨front, Nat.le_trans fewer enough, split⟩

/-- A result that is given without reading takes no token. -/
theorem takes_pure (result : α) : Takes 0 (pure result : Rule α) := by
  intro cursor trail result rest found
  obtain ⟨rfl, rfl⟩ := Prod.mk.inj (Option.some.inj found)
  exact ⟨[], Nat.le_refl 0, rfl⟩

/-- A rule that never reads anything takes as many tokens as one likes. -/
theorem takes_fail (least : Nat) : Takes least (Rule.fail : Rule α) := by
  intro cursor trail result rest found
  cases found

/-- A token of the wanted kind is the first of those that are left, and is taken. Any other is not
read. -/
theorem takes_token (kind : Token.Kind) : Takes 1 (Rule.token kind) := by
  intro cursor trail token rest found
  rcases cursor.head_cases (· = kind) with ⟨head, later, isKind, rfl⟩ | ⟨tokens, other, rfl⟩
  · rw [token_of_kind isKind] at found
    obtain ⟨rfl, rfl⟩ := Prod.mk.inj (Option.some.inj found)
    exact ⟨[head], Nat.le_refl 1, rfl⟩
  · rw [token_of_not_kind other] at found
    cases found

/-- One rule after another takes what both take together, one part of the tokens behind the
other. -/
theorem Takes.bind (first : rule.Takes least) (others : ∀ result, (next result).Takes more) :
    (rule >>= next).Takes (least + more) := by
  intro cursor trail made last read
  rcases found : rule cursor trail with ⟨_ | ⟨result, rest⟩, after⟩
  · rw [bind_of_none found] at read
    cases read
  · rw [bind_of_some found] at read
    obtain ⟨front, enough, split⟩ := first cursor trail result rest (by rw [found])
    obtain ⟨back, enough', split'⟩ := others result rest after made last read
    refine ⟨front ++ back, ?_, by rw [split, split', List.append_assoc]⟩
    rw [List.length_append]
    omega

/-- Of two alternatives one is read, from the same cursor, so a bound for both is a bound for
either. -/
theorem Takes.orElse (first : rule.Takes least) (other : second.Takes least) :
    (rule <|> second).Takes least := by
  intro cursor trail result rest read
  rcases found : rule cursor trail with ⟨_ | ⟨result', rest'⟩, after⟩
  · rw [orElse_of_none found] at read
    exact other cursor after result rest read
  · rw [orElse_of_some found] at read
    exact first cursor trail result rest (by rw [found]; exact read)

/-- A rule that may be left out gives no bound, but never goes back: what it leaves is still the end
of what there was. -/
theorem Takes.optional (takes : rule.Takes least) : Takes 0 (Rule.optional rule) := by
  intro cursor trail result rest read
  rcases found : rule cursor trail with ⟨_ | ⟨result', rest'⟩, after⟩
  · rw [optional_of_none found] at read
    obtain ⟨rfl, rfl⟩ := Prod.mk.inj (Option.some.inj read)
    exact ⟨[], Nat.le_refl 0, rfl⟩
  · rw [optional_of_some found] at read
    obtain ⟨rfl, rfl⟩ := Prod.mk.inj (Option.some.inj read)
    obtain ⟨front, -, split⟩ := takes cursor trail result' rest' (by rw [found])
    exact ⟨front, Nat.zero_le _, split⟩

/-- However often something is read, what is left is the end of what there was. By induction over
the rounds, joining the parts that were taken. -/
theorem Takes.collect (takes : rule.Takes least) (cursor : Cursor) (trail : Trail) :
    ∃ front, cursor.tokens = front ++ (Rule.collect rule cursor trail).1.2.tokens := by
  fun_induction Rule.collect rule cursor trail with
  | case1 cursor trail after failed => exact ⟨[], rfl⟩
  | case2 cursor trail result rest after found shorter later last final collected ih =>
    obtain ⟨front, -, split⟩ := takes cursor trail result rest (by rw [found])
    obtain ⟨back, split'⟩ := ih
    rw [collected] at split'
    exact ⟨front ++ back, by rw [split, split', List.append_assoc]⟩
  | case3 cursor trail result rest after found still =>
    obtain ⟨front, -, split⟩ := takes cursor trail result rest (by rw [found])
    exact ⟨front, split⟩

/-- The same of the rule for repetitions, which may read nothing at all. -/
theorem Takes.repeated (takes : rule.Takes least) : Takes 0 (Rule.repeated rule) := by
  intro cursor trail results last read
  have found : (Rule.collect rule cursor trail).1 = (results, last) := Option.some.inj read
  obtain ⟨front, split⟩ := takes.collect cursor trail
  rw [found] at split
  exact ⟨front, Nat.zero_le _, split⟩

/-- Inside a bracket one token more is taken, the opening one. Where the bracket is refused nothing
is read. -/
theorem Takes.bracketed (takes : rule.Takes least) (limit : Nat) (opening : Symbol) :
    Takes (least + 1) (Rule.bracketed limit opening rule) := by
  intro cursor trail result rest read
  rcases cursor.head_cases (· = .symbol opening) with
    ⟨bracket, later, opens, rfl⟩ | ⟨tokens, other, rfl⟩
  · by_cases room : trail.depth < limit
    · rw [bracketed_of_room opens room] at read
      obtain ⟨⟨inside, last⟩, found, ⟨⟩⟩ := Option.map_eq_some_iff.mp read
      obtain ⟨front, enough, split⟩ := takes _ _ inside last found
      exact ⟨bracket :: front, Nat.succ_le_succ enough, congrArg (bracket :: ·) split⟩
    · rw [bracketed_of_full opens (Nat.not_lt.mp room)] at read
      cases read
  · rw [bracketed_of_not_kind other] at read
    cases read

end Rule

namespace Procedure

/-- What is read takes at least so many tokens, as far as the procedure shows it, and whatever is
repeated takes one. -/
def Takes : {α : Type} → Nat → Procedure α → Prop
  | _, least, .token _ => least ≤ 1
  | _, least, .give _ => least = 0
  | _, _, .fail => True
  | _, least, .andThen first next =>
    ∃ front back, least ≤ front + back ∧ Takes front first ∧ ∀ result, Takes back (next result)
  | _, least, .orElse first second => Takes least first ∧ Takes least second
  | _, least, .optional body => least = 0 ∧ ∃ inside, Takes inside body
  | _, least, .repeated body => least = 0 ∧ Takes 1 body
  | _, least, .bracketed _ body => ∃ inside, least ≤ inside + 1 ∧ Takes inside body
  | _, least, .expression => least ≤ 1

/-- Expressions are entered inside brackets alone. This is read off the procedure and does not
depend on what stands inside. -/
def Guarded : {α : Type} → Procedure α → Prop
  | _, .token _ => True
  | _, .give _ => True
  | _, .fail => True
  | _, .andThen first next => Guarded first ∧ ∀ result, Guarded (next result)
  | _, .orElse first second => Guarded first ∧ Guarded second
  | _, .optional body => Guarded body
  | _, .repeated body => Guarded body
  | _, .bracketed _ _ => True
  | _, .expression => False

/-- What the procedure shows holds of the rule: if the expressions inside take a token, the rule
takes as many as the procedure says. By induction over the procedure, with one lemma on rules for
each way of putting it together. -/
theorem Takes.rule {limit : Nat} {inner : Rule Expr} (inside : inner.Takes 1) {α : Type}
    {procedure : Procedure α} {least : Nat} (takes : procedure.Takes least) :
    (procedure.rule limit inner).Takes least := by
  induction procedure generalizing least with
  | token kind => exact (Rule.takes_token kind).mono takes
  | give result => exact (Rule.takes_pure result).mono (Nat.le_of_eq takes)
  | fail => exact Rule.takes_fail least
  | andThen first next ih ih' =>
    obtain ⟨front, back, enough, begins, goesOn⟩ := takes
    exact ((ih begins).bind fun result => ih' result (goesOn result)).mono enough
  | orElse first second ih ih' => exact (ih takes.1).orElse (ih' takes.2)
  | optional body ih =>
    obtain ⟨none, inside, takes⟩ := takes
    exact (ih takes).optional.mono (Nat.le_of_eq none)
  | repeated body ih => exact (ih takes.2).repeated.mono (Nat.le_of_eq takes.1)
  | bracketed opening body ih =>
    obtain ⟨inside, enough, takes⟩ := takes
    exact ((ih takes).bracketed limit opening).mono enough
  | expression => exact inside.mono takes

section Sequences

variable {α β : Type} {first : Procedure α} {next : α → Procedure β} {least : Nat}

/-- What takes tokens takes at least none. A procedure is gone through again, since its parts have
to be told how little is wanted. -/
theorem Takes.forget {procedure : Procedure α} (takes : procedure.Takes least) :
    procedure.Takes 0 := by
  induction procedure generalizing least with
  | token | expression => exact Nat.zero_le 1
  | give => rfl
  | fail => trivial
  | andThen first next ih ih' =>
    obtain ⟨front, back, -, begins, goesOn⟩ := takes
    exact ⟨front, back, Nat.zero_le _, begins, goesOn⟩
  | orElse first second ih ih' => exact ⟨ih takes.1, ih' takes.2⟩
  | optional => exact ⟨rfl, takes.2⟩
  | repeated => exact ⟨rfl, takes.2⟩
  | bracketed =>
    obtain ⟨inside, -, takes⟩ := takes
    exact ⟨inside, Nat.zero_le _, takes⟩

/-- Giving a result takes no token. -/
theorem takes_give (result : α) : Takes 0 (pure result : Procedure α) := rfl

/-- A token is one token. -/
theorem takes_token (kind : Token.Kind) : (token kind).Takes 1 := Nat.le_refl 1

/-- Tokens are taken at first, and then perhaps more. So it is enough to look at the first part. -/
theorem Takes.before (takes : first.Takes least) (others : ∀ result, (next result).Takes 0) :
    (first >>= next).Takes least :=
  ⟨least, 0, Nat.le_refl least, takes, others⟩

/-- Tokens are taken after the first part, whatever that part takes. -/
theorem Takes.after (takes : first.Takes 0) (others : ∀ result, (next result).Takes least) :
    (first >>= next).Takes least :=
  ⟨0, least, Nat.le_of_eq (Nat.zero_add least).symm, takes, others⟩

/-- What may be left out need not take anything. -/
theorem Takes.optional (takes : first.Takes least) : (Procedure.optional first).Takes 0 :=
  ⟨rfl, least, takes⟩

/-- A repetition need not take anything, but what it repeats has to take a token. Otherwise it might
go on forever. -/
theorem Takes.repeated (takes : first.Takes 1) : (Procedure.repeated first).Takes 0 := ⟨rfl, takes⟩

/-- A bracket is taken in any case, also around nothing. -/
theorem Takes.bracketed (takes : first.Takes least) (opening : Symbol) :
    (Procedure.bracketed opening first).Takes 1 :=
  ⟨least, Nat.succ_le_succ (Nat.zero_le least), takes⟩

end Sequences

section Productions

/-- A literal is made from a token that was taken before, so nothing more is taken. -/
theorem takes_literalOf (token : Token) : (literalOf token).Takes 0 := by
  unfold literalOf
  split
  · exact takes_give _
  · exact trivial

/-- A literal is one token, whichever of the four kinds it is. -/
theorem takes_literal : literal.Takes 1 := by
  have tokens : Takes 1
      (.token .integer <|> .token .float <|> .token .string <|> .token .boolean) :=
    ⟨takes_token _, takes_token _, takes_token _, takes_token _⟩
  exact tokens.before takes_literalOf

/-- A string is one token. -/
theorem takes_string : string.Takes 1 := (takes_token _).before takes_literalOf

/-- A name is one token. -/
theorem takes_name : name.Takes 1 := (takes_token _).before fun _ => takes_give _

/-- An operator is one token. -/
theorem takes_operator (symbol : Symbol) (meaning : Operator) : (operator symbol meaning).Takes 1 :=
  (takes_token _).before fun _ => takes_give _

/-- A chain takes a token because its first operand does. Every later step begins with a sign, so
the repetition is one that may be made. -/
theorem takes_chain {sign : Procedure (Operator × Span)} {operand : Procedure Expr}
    (signs : sign.Takes 1) (operands : operand.Takes 1) : (chain sign operand).Takes 1 := by
  have step : Takes 1 (sign >>= fun step => operand >>= fun right => pure (step, right)) :=
    signs.before fun _ => operands.forget.before fun _ => takes_give _
  exact operands.before fun _ => step.repeated.before fun _ => takes_give _

/-- Items with separators between them take a token because the first item does, and every later one
comes after a separator. -/
theorem takes_separated {α : Type} {body : Procedure α} (takes : body.Takes 1)
    (separator : Symbol) : (separated body separator).Takes 1 := by
  have more : Takes 1 (.token (.symbol separator) >>= fun _ => body) :=
    (takes_token _).before fun _ => takes.forget
  exact takes.before fun _ => more.repeated.before fun _ => takes_give _

/-- Items in brackets take the opening bracket, even if there are none. -/
theorem takes_enclosed {α : Type} {item : Procedure α} (takes : item.Takes 1)
    (opening closing : Symbol) (make : List α → Span → Expr) :
    (enclosed opening closing item make).Takes 1 := by
  have inside : Takes 1 (.optional (separated item .comma) >>= fun items =>
      .token (.symbol closing) >>= fun right => pure (items.getD [], right)) :=
    (takes_separated takes .comma).optional.after fun _ =>
      (takes_token _).before fun _ => takes_give _
  exact (inside.bracketed opening).before fun _ => takes_give _

/-- An expression entered by name is taken to read a token, which is shown of it in the end. -/
theorem takes_expression : expression.Takes 1 := Nat.le_refl 1

/-- A list takes its opening bracket. -/
theorem takes_list : list.Takes 1 := takes_enclosed takes_expression _ _ _

/-- A pair takes its key. -/
theorem takes_pair : pair.Takes 1 :=
  takes_string.before fun _ => (takes_token _).forget.before fun _ =>
    takes_expression.forget.before fun _ => takes_give _

/-- A dictionary takes its opening brace. -/
theorem takes_dictionary : dictionary.Takes 1 := takes_enclosed takes_pair _ _ _

/-- A group takes its opening parenthesis. -/
theorem takes_group : group.Takes 1 := by
  have inside : Takes 1 (Procedure.expression >>= fun expr =>
      .token (.symbol .rightParen) >>= fun _ => pure expr) :=
    takes_expression.before fun _ => (takes_token _).forget.before fun _ => takes_give _
  exact (inside.bracketed .leftParen).before fun _ => takes_give _

/-- A factor takes a token, since all five alternatives do. -/
theorem takes_factor : factor.Takes 1 := by
  have named : Takes 1 (Expr.name <$> name) := takes_name.before fun _ => takes_give _
  exact ⟨takes_literal, named, takes_list, takes_dictionary, takes_group⟩

/-- A term takes a token, being a chain of factors. -/
theorem takes_term : term.Takes 1 :=
  takes_chain ⟨takes_operator _ _, takes_operator _ _⟩ takes_factor

/-- A sum takes a token, being a chain of terms. -/
theorem takes_sum : sum.Takes 1 :=
  takes_chain ⟨takes_operator _ _, takes_operator _ _⟩ takes_term

/-- An assignment takes the name in front. -/
theorem takes_assignment : assignment.Takes 1 :=
  takes_name.before fun _ => (takes_token _).forget.before fun _ =>
    takes_expression.forget.before fun _ => takes_give _

/-- A statement takes a token, with or without an assignment. -/
theorem takes_statement : statement.Takes 1 := by
  have alone : Takes 1 (Statement.expression <$> Procedure.expression) :=
    takes_expression.before fun _ => takes_give _
  exact ⟨takes_assignment, alone⟩

end Productions

section Guards

/-- Making a literal enters no rule. -/
theorem guarded_literalOf (token : Token) : (literalOf token).Guarded := by
  unfold literalOf
  split <;> exact trivial

/-- A chain enters expressions where its signs and operands do, and nowhere else. -/
theorem guarded_chain {sign : Procedure (Operator × Span)} {operand : Procedure Expr}
    (signs : sign.Guarded) (operands : operand.Guarded) : (chain sign operand).Guarded :=
  ⟨operands, fun _ => ⟨⟨signs, fun _ => ⟨operands, fun _ => trivial⟩⟩, fun _ => trivial⟩⟩

/-- Reading an operator enters no rule. -/
theorem guarded_operator (symbol : Symbol) (meaning : Operator) :
    (operator symbol meaning).Guarded := ⟨trivial, fun _ => trivial⟩

/-- A factor enters expressions only in its last three alternatives, which begin with a bracket. -/
theorem guarded_factor : factor.Guarded := by
  have literals : literal.Guarded := ⟨⟨trivial, trivial, trivial, trivial⟩, guarded_literalOf⟩
  have enclosed : Guarded list ∧ Guarded dictionary ∧ Guarded group :=
    ⟨⟨trivial, fun _ => trivial⟩, ⟨trivial, fun _ => trivial⟩, ⟨trivial, fun _ => trivial⟩⟩
  exact ⟨literals, ⟨⟨trivial, fun _ => trivial⟩, fun _ => trivial⟩, enclosed⟩

/-- Expressions are entered again inside brackets alone: neither the chains of a sum nor its factors
go into one without a bracket around it. This is why the recursion can be counted in brackets. -/
theorem guarded_sum : sum.Guarded :=
  guarded_chain ⟨guarded_operator _ _, guarded_operator _ _⟩
    (guarded_chain ⟨guarded_operator _ _, guarded_operator _ _⟩ guarded_factor)

end Guards

end Procedure

namespace Grammar

/-- The rule for expressions in which at most `limit` brackets are open at once. One level more than
that is enough, since the level outside of all brackets counts too. -/
def expressionWithin (limit : Nat) : Rule Expr := expressionOver limit Rule.fail (limit + 1)

/-- Levels can be put on top of levels. By induction over the upper ones. -/
theorem expressionOver_add (limit : Nat) (innermost : Rule Expr) (levels more : Nat) :
    expressionOver limit (expressionOver limit innermost levels) more =
      expressionOver limit innermost (levels + more) := by
  induction more with
  | zero => rfl
  | succ more ih => exact congrArg (expression limit) ih

/-- Of the levels only so many are used as there is room for brackets. What stands below them makes
no difference, so it may be the failing rule at once. -/
theorem expressionOver_apply {limit levels room : Nat} {trail : Trail} (enough : room < levels)
    (limited : trail.depth + room = limit) (cursor : Cursor) :
    expressionOver limit Rule.fail levels cursor trail =
      expressionOver limit Rule.fail (room + 1) cursor trail := by
  obtain ⟨unused, rfl⟩ := Nat.exists_eq_add_of_le' enough
  rw [← expressionOver_add]
  exact (same_expressionOver _ room trail.depth limited).same cursor trail rfl

/-- So it makes no difference how many levels more than enough there are. Where too many brackets
are open already no level is entered but the first, which needs no second. -/
theorem expressionOver_eq {limit levels : Nat} (enough : limit < levels) :
    expressionOver limit Rule.fail levels = expressionWithin limit := by
  funext cursor trail
  by_cases room : trail.depth ≤ limit
  · have limited : trail.depth + (limit - trail.depth) = limit := by omega
    have enough' : limit - trail.depth < levels := by omega
    have enough'' : limit - trail.depth < limit + 1 := by omega
    have used := expressionOver_apply enough' limited cursor
    have used' := expressionOver_apply enough'' limited cursor
    exact used.trans used'.symm
  · obtain ⟨unused, rfl⟩ := Nat.exists_eq_add_of_lt enough
    have outside : trail.depth < limit →
        Rule.Same (trail.depth + 1) (expressionOver limit Rule.fail (limit + unused))
          (expressionOver limit Rule.fail limit) := by
      intro impossible
      omega
    exact (same_expression (keeps_expressionOver limit limit) outside).same cursor trail rfl

/-- The rule for expressions is what the grammar says, with itself inside of brackets. One more
level is one more than enough. -/
theorem expression_expressionWithin (limit : Nat) :
    expression limit (expressionWithin limit) = expressionWithin limit :=
  expressionOver_eq (Nat.lt_succ_of_lt (Nat.lt_succ_self limit))

/-- An expression takes a token at every level. By induction on the levels, each of which is the
procedure for sums with the lower ones inside. -/
theorem takes_expressionWithin (limit : Nat) : (expressionWithin limit).Takes 1 := by
  have levels (count : Nat) : (expressionOver limit Rule.fail count).Takes 1 := by
    induction count with
    | zero => exact Rule.takes_fail 1
    | succ count ih =>
      rw [expressionOver, ← Procedure.rule_sum]
      exact Procedure.takes_sum.rule ih
  exact levels (limit + 1)

end Grammar

end Formula
