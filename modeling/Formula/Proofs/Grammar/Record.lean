import Formula.Grammar.Statement

/-!
# What the furthest failure keeps

Only the failures at the furthest place count, so what was noted before that place makes no
difference to what is kept there. This module states that as an agreement of failures from some
place on, and shows that every rule leaves the depth of the brackets as it was, and does nothing
to the failure but note and refuse. Once a bracket has been refused nothing changes any more.
-/

namespace Formula

namespace Failure

variable {failure other third : Failure} {cursor : Cursor} {left near : Nat}

/-- Note several expectations at one place, one after another and in order, as the alternatives that
are tried there do. -/
def noteAll (failure : Failure) (cursor : Cursor) (expectations : List Expectation) : Failure :=
  expectations.foldl (fun failure expectation => failure.note cursor expectation) failure

/-- Where nothing is noted the failure stays as it was. -/
@[simp] theorem noteAll_nil (failure : Failure) (cursor : Cursor) :
    failure.noteAll cursor [] = failure := rfl

/-- The first expectation is noted before the others, so inductions over what is noted start with
it. -/
@[simp] theorem noteAll_cons (failure : Failure) (cursor : Cursor) (expectation : Expectation)
    (others : List Expectation) :
    failure.noteAll cursor (expectation :: others) =
      (failure.note cursor expectation).noteAll cursor others := rfl

/-- Expectations can be noted in two lots, since noting goes from left to right. With this the
expectations of consecutive alternatives are put together. -/
theorem noteAll_append (failure : Failure) (cursor : Cursor) (first last : List Expectation) :
    failure.noteAll cursor (first ++ last) = (failure.noteAll cursor first).noteAll cursor last :=
  List.foldl_append

/-- Two failures between which nothing can tell that is noted where at most `left` tokens are
left: both are behind such a place, and neither is final. -/
def AgreesAt (left : Nat) (failure other : Failure) : Prop :=
  failure = other ∨
    (left < failure.left ∧ left < other.left ∧ failure.final = false ∧ other.final = false)

namespace AgreesAt

/-- A failure agrees with itself everywhere. -/
@[refl] theorem refl (left : Nat) (failure : Failure) : AgreesAt left failure failure := .inl rfl

/-- Agreement at a place goes through a failure in the middle: either one of the steps is an
equation, or all three failures are behind the place and none is final. -/
theorem trans (agrees : AgreesAt left failure other) (agrees' : AgreesAt left other third) :
    AgreesAt left failure third := by
  rcases agrees with rfl | ⟨first, second, final, final'⟩
  · exact agrees'
  · rcases agrees' with rfl | ⟨_, third, _, final''⟩
    · exact .inr ⟨first, second, final, final'⟩
    · exact .inr ⟨first, third, final, final''⟩

/-- Agreement at a place is kept at all places further on, where fewer tokens are left. What is
behind a place is also behind those. -/
theorem mono (further : near ≤ left) (agrees : AgreesAt left failure other) :
    AgreesAt near failure other := by
  rcases agrees with rfl | ⟨first, second, final, final'⟩
  · exact refl near failure
  · exact .inr ⟨by omega, by omega, final, final'⟩

end AgreesAt

/-- Noting something is seen only up to the place where it is noted. Further on, the failure either
was kept as it was or is still behind, with nothing final about it. -/
theorem agreesAt_note (behind : left < cursor.left) (failure : Failure)
    (expectation : Expectation) : AgreesAt left failure (failure.note cursor expectation) := by
  unfold note
  split
  · exact .refl left failure
  · next open' =>
    have notFinal : failure.final = false := by simpa using open'
    split
    · next ahead => exact .inr ⟨by omega, behind, notFinal, rfl⟩
    · split
      · next same => exact .inr ⟨by omega, by simpa [← same.1] using behind, notFinal, notFinal⟩
      · exact .refl left failure

/-- The same of several expectations at one place, by induction over them and because agreement goes
through the failures in between. -/
theorem agreesAt_noteAll (behind : left < cursor.left) (failure : Failure)
    (expectations : List Expectation) :
    AgreesAt left failure (failure.noteAll cursor expectations) := by
  induction expectations generalizing failure with
  | nil => exact .refl left failure
  | cons expectation others ih =>
    exact (agreesAt_note behind failure expectation).trans (ih _)

/-- Failures that agree at a place are made equal by what is noted there. If they differ, both are
behind the place, so both are replaced by the same new failure. -/
theorem AgreesAt.note_eq (agrees : AgreesAt left failure other) (reached : cursor.left ≤ left)
    (expectation : Expectation) :
    failure.note cursor expectation = other.note cursor expectation := by
  rcases agrees with rfl | ⟨first, second, final, final'⟩
  · rfl
  · have ahead : cursor.left < failure.left := by omega
    have ahead' : cursor.left < other.left := by omega
    simp [note, final, final', ahead, ahead']

/-- One expectation is enough to make such failures equal, so several do too. With none to note they
might stay different. -/
theorem AgreesAt.noteAll_eq (agrees : AgreesAt left failure other) (reached : cursor.left ≤ left)
    {expectations : List Expectation} (nonempty : expectations ≠ []) :
    failure.noteAll cursor expectations = other.noteAll cursor expectations := by
  cases expectations with
  | nil => exact absurd rfl nonempty
  | cons expectation others => simp only [noteAll_cons, agrees.note_eq reached]

/-- A refused bracket makes such failures equal wherever it stands: a refusal replaces every failure
that is not final, and looks at nothing else. -/
theorem AgreesAt.refuse_eq (agrees : AgreesAt left failure other)
    (expectation : Expectation) :
    failure.refuse cursor expectation = other.refuse cursor expectation := by
  rcases agrees with rfl | ⟨_, _, final, final'⟩
  · rfl
  · simp [refuse, final, final']

/-- A refusal forgets whatever was noted before it, because noting never makes a failure final. By
induction over what was noted. -/
theorem refuse_noteAll (failure : Failure) (cursor : Cursor) (expectations : List Expectation)
    (place : Cursor) (expectation : Expectation) :
    (failure.noteAll cursor expectations).refuse place expectation =
      failure.refuse place expectation := by
  induction expectations generalizing failure with
  | nil => rfl
  | cons noted others ih =>
    rw [noteAll_cons, ih]
    unfold note
    split
    · rfl
    · next open' =>
      split
      · simp [refuse, single, open']
      · split
        · simp [refuse, open']
        · rfl

/-- After a refusal the failure is final, whether it was final before or is replaced now. -/
theorem final_refuse (failure : Failure) (cursor : Cursor) (expectation : Expectation) :
    (failure.refuse cursor expectation).final = true := by
  unfold refuse
  split
  · assumption
  · rfl

/-- To a final failure nothing is added. -/
theorem note_of_final (final : failure.final = true) (cursor : Cursor)
    (expectation : Expectation) : failure.note cursor expectation = failure := by
  rw [note, if_pos final]

/-- Noting neither makes a failure final nor undoes that it is: only a refusal decides. By induction
over what is noted, with one case for every way of noting. -/
theorem final_noteAll (failure : Failure) (cursor : Cursor) (expectations : List Expectation) :
    (failure.noteAll cursor expectations).final = failure.final := by
  induction expectations generalizing failure with
  | nil => rfl
  | cons expectation others ih =>
    rw [noteAll_cons, ih]
    unfold note
    split
    · rfl
    · next notFinal =>
      split
      · simpa [single] using notFinal
      · split <;> rfl

/-- Failures that agree at some place are both final or both not. -/
theorem AgreesAt.final_eq (agrees : AgreesAt left failure other) : other.final = failure.final := by
  rcases agrees with rfl | ⟨_, _, final, final'⟩
  · rfl
  · exact final'.trans final.symm

/-- What is noted behind the furthest failure is not kept: its place is not ahead, nor is it the
same. -/
theorem note_of_behind (behind : failure.left < cursor.left) (expectation : Expectation) :
    failure.note cursor expectation = failure := by
  unfold note
  split
  · rfl
  · rw [if_neg (by omega), if_neg (by omega)]

/-- A failure that nothing moves any more from the places with `left` tokens left: it is final, or
it has come as far. -/
def Reaches (failure : Failure) (left : Nat) : Prop :=
  failure.final = true ∨ failure.left ≤ left

/-- What nothing moves at a place is moved by nothing at the places behind it. -/
theorem Reaches.mono (further : near ≤ left) (reaches : failure.Reaches near) :
    failure.Reaches left :=
  reaches.imp_right fun atMost => Nat.le_trans atMost further

/-- Such a failure agrees there with itself alone, since of two different failures that agree both
are behind the place and neither is final. -/
theorem Reaches.eq_of_agreesAt (reaches : failure.Reaches left) (agrees : AgreesAt left failure other) :
    other = failure := by
  rcases agrees with rfl | ⟨ahead, _, open', _⟩
  · rfl
  · cases reaches with
    | inl final => simp [final] at open'
    | inr atMost => omega

/-- After something was noted at a place, the failure has come as far as that place, or it was final
and nothing was noted. -/
theorem reaches_note (failure : Failure) (cursor : Cursor) (expectation : Expectation) :
    (failure.note cursor expectation).Reaches cursor.left := by
  unfold note
  split
  · next final => exact .inl final
  · split
    · exact .inr (Nat.le_refl _)
    · next notAhead =>
      have atMost : failure.left ≤ cursor.left := by omega
      split <;> exact .inr atMost

/-- Whatever else is noted, a failure does not fall back: the furthest place never moves away from
the end. -/
theorem Reaches.note (reaches : failure.Reaches left) (cursor : Cursor)
    (expectation : Expectation) : (failure.note cursor expectation).Reaches left := by
  cases reaches with
  | inl final =>
    rw [note_of_final final]
    exact .inl final
  | inr atMost => exact .inr (Nat.le_trans (left_note_le failure cursor expectation) atMost)

/-- After at least one expectation was noted at a place the failure has come as far. The first one
takes it there and the others keep it there. -/
theorem reaches_noteAll {expectations : List Expectation} (nonempty : expectations ≠ [])
    (failure : Failure) (cursor : Cursor) :
    (failure.noteAll cursor expectations).Reaches cursor.left := by
  have kept (others : List Expectation) : ∀ failure : Failure, failure.Reaches cursor.left →
      (failure.noteAll cursor others).Reaches cursor.left := by
    induction others with
    | nil => exact fun _ reaches => reaches
    | cons expectation others ih => exact fun _ reaches => ih _ (reaches.note cursor expectation)
  cases expectations with
  | nil => exact absurd rfl nonempty
  | cons expectation others => exact kept others _ (reaches_note failure cursor expectation)

/-- Nothing is kept of what is noted behind such a failure. That is why an alternative that fails
early leaves no trace once another one went further. -/
theorem Reaches.noteAll_eq (reaches : failure.Reaches left) (behind : left < cursor.left)
    (expectations : List Expectation) : failure.noteAll cursor expectations = failure := by
  have same (expectation : Expectation) : failure.note cursor expectation = failure := by
    cases reaches with
    | inl final => exact note_of_final final cursor expectation
    | inr atMost => exact note_of_behind (by omega) expectation
  induction expectations with
  | nil => rfl
  | cons expectation others ih => rw [noteAll_cons, same, ih]

/-- A history of a failure: some expectations noted, some brackets refused, in whatever order.
Reading does nothing else to the failure it carries along. -/
inductive Records : Failure → Failure → Prop
  | same (failure : Failure) : Records failure failure
  | noted {failure later : Failure} (records : Records failure later) (cursor : Cursor)
      (expectation : Expectation) : Records failure (later.note cursor expectation)
  | refused {failure later : Failure} (records : Records failure later) (cursor : Cursor)
      (expectation : Expectation) : Records failure (later.refuse cursor expectation)

/-- Two histories, one after the other, are one history. By induction over the second. -/
theorem Records.trans (records : Records failure other) (records' : Records other third) :
    Records failure third := by
  induction records' with
  | same => exact records
  | noted _ cursor expectation ih => exact .noted ih cursor expectation
  | refused _ cursor expectation ih => exact .refused ih cursor expectation

end Failure

/-- A rule that keeps the depth of the brackets, and only notes and refuses, whether it reads
something or not. -/
def Rule.Keeps {α : Type} (rule : Rule α) : Prop :=
  ∀ cursor trail, (rule cursor trail).2.depth = trail.depth ∧
    Failure.Records trail.failure (rule cursor trail).2.failure

namespace Rule

variable {α β : Type} {rule second : Rule α} {next : α → Rule β}

/-- A result without reading leaves the trail alone. -/
theorem keeps_pure (result : α) : (pure result : Rule α).Keeps :=
  fun _ trail => ⟨rfl, .same trail.failure⟩

/-- A rule that always fails leaves the trail alone. -/
theorem keeps_fail : (Rule.fail : Rule α).Keeps := fun _ trail => ⟨rfl, .same trail.failure⟩

/-- One rule after another keeps what both keep. If the first fails the second is not entered, so
its trail is that of the first; otherwise the two histories are joined. -/
theorem Keeps.bind (first : rule.Keeps) (others : ∀ result, (next result).Keeps) :
    (rule >>= next).Keeps := by
  intro cursor trail
  have kept := first cursor trail
  rcases found : rule cursor trail with ⟨_ | ⟨result, rest⟩, after⟩
  · rw [bind_of_none found]
    simpa only [found] using kept
  · rw [bind_of_some found]
    simp only [found] at kept
    obtain ⟨depth, records⟩ := others result rest after
    exact ⟨depth.trans kept.1, kept.2.trans records⟩

/-- What is made of a result does not touch the trail. -/
theorem Keeps.map (first : rule.Keeps) (make : α → β) : (make <$> rule).Keeps :=
  first.bind fun _ => keeps_pure _

/-- Of two alternatives the second is entered with the trail that the first one left, so it goes on
with the history of the failed attempt. -/
theorem Keeps.orElse (first : rule.Keeps) (other : second.Keeps) : (rule <|> second).Keeps := by
  intro cursor trail
  have kept := first cursor trail
  rcases found : rule cursor trail with ⟨_ | ⟨result, rest⟩, after⟩
  · rw [orElse_of_none found]
    simp only [found] at kept
    obtain ⟨depth, records⟩ := other cursor after
    exact ⟨depth.trans kept.1, kept.2.trans records⟩
  · rw [orElse_of_some found]
    simpa only [found] using kept

/-- A token of some kind is read without a trace, and every other token is noted once. -/
theorem keeps_token (kind : Token.Kind) : (Rule.token kind).Keeps := by
  intro cursor trail
  unfold Rule.token
  split
  · split
    · exact ⟨rfl, .same trail.failure⟩
    · exact ⟨rfl, .noted (.same trail.failure) _ _⟩
  · exact ⟨rfl, .noted (.same trail.failure) _ _⟩

/-- The end of the tokens is met without a trace, and any token before it is noted once. -/
theorem keeps_endOfInput : endOfInput.Keeps := by
  intro cursor trail
  unfold endOfInput
  split
  · exact ⟨rfl, .same trail.failure⟩
  · exact ⟨rfl, .noted (.same trail.failure) _ _⟩

/-- A rule that may be left out does to the trail what the rule does, since a failed attempt is kept
on record. -/
theorem Keeps.optional (kept : rule.Keeps) : (Rule.optional rule).Keeps := by
  intro cursor trail
  have first := kept cursor trail
  unfold Rule.optional
  rcases found : rule cursor trail with ⟨_ | ⟨result, rest⟩, after⟩ <;>
    simpa only [found] using first

/-- Reading something as often as possible keeps the depth and adds to the history with each round.
By induction on the rounds, as the rule makes them. -/
theorem Keeps.collect (kept : rule.Keeps) (cursor : Cursor) (trail : Trail) :
    (Rule.collect rule cursor trail).2.depth = trail.depth ∧
      Failure.Records trail.failure (Rule.collect rule cursor trail).2.failure := by
  fun_induction Rule.collect rule cursor trail with
  | case1 cursor trail after failed => simpa only [failed] using kept cursor trail
  | case2 cursor trail result rest after found shorter later last final collected ih =>
    have first := kept cursor trail
    simp only [found] at first
    simp only [collected] at ih
    exact ⟨ih.1.trans first.1, first.2.trans ih.2⟩
  | case3 cursor trail result rest after found same => simpa only [found] using kept cursor trail

/-- The same, stated of the rule for repetitions. -/
theorem Keeps.repeated (kept : rule.Keeps) : (Rule.repeated rule).Keeps :=
  fun cursor trail => kept.collect cursor trail

/-- Items with separators between them keep what the items keep, being made of the rules before. -/
theorem Keeps.separated (kept : rule.Keeps) (separator : Symbol) :
    (Rule.separated rule separator).Keeps :=
  kept.bind fun _ => ((keeps_token _).bind fun _ => kept).repeated.bind fun _ => keeps_pure _

/-- Something up to the symbol that closes it keeps what the something keeps. -/
theorem Keeps.closed (kept : rule.Keeps) (closing : Symbol) :
    (rule >>= fun result => token (.symbol closing) >>= fun _ => pure result).Keeps :=
  kept.bind fun _ => (keeps_token _).bind fun _ => keeps_pure _

/-- Items up to the symbol that closes them keep what an item keeps, also if there are none. -/
theorem Keeps.items (kept : rule.Keeps) (closing : Symbol) :
    (Rule.optional (Rule.separated rule .comma) >>= fun items =>
      token (.symbol closing) >>= fun right => pure (items.getD [], right)).Keeps :=
  (kept.separated .comma).optional.bind fun _ => (keeps_token _).bind fun _ => keeps_pure _

/-- Inside a bracket the depth is one more, and it is taken back on the way out, also on the way out
of a failed attempt. Where no bracket is allowed a refusal is recorded instead. -/
theorem Keeps.bracketed (kept : rule.Keeps) (limit : Nat) (opening : Symbol) :
    (Rule.bracketed limit opening rule).Keeps := by
  intro cursor trail
  have first := keeps_token (.symbol opening) cursor trail
  unfold Rule.bracketed
  rcases found : Rule.token (.symbol opening) cursor trail with ⟨_ | ⟨bracket, rest⟩, after⟩
  · simpa only [found] using first
  · simp only [found] at first
    dsimp only
    split
    · exact ⟨first.1, .refused first.2 _ _⟩
    · have inside := kept rest after.enter
      rcases read : rule rest after.enter with ⟨_ | ⟨result, last⟩, final⟩ <;>
        simp only [read] at inside <;>
        exact ⟨by simpa [Trail.leave, inside.1, Trail.enter] using first.1,
          first.2.trans inside.2⟩

end Rule

namespace Grammar

open Rule

variable {inner : Rule Expr} {limit : Nat}

/-- A literal is taken from its token without a look at the trail. -/
theorem keeps_literalOf (token : Token) : (literalOf token).Keeps := by
  unfold literalOf
  split
  · exact keeps_pure _
  · exact keeps_fail

/-- Four alternatives for one token, and the literal that it stands for. -/
theorem keeps_literal : literal.Keeps :=
  ((keeps_token _).orElse ((keeps_token _).orElse ((keeps_token _).orElse (keeps_token _)))).bind
    keeps_literalOf

/-- A name is one token. -/
theorem keeps_name : name.Keeps := (keeps_token _).bind fun _ => keeps_pure _

/-- An operator is one token, whatever it means. -/
theorem keeps_operator (symbol : Symbol) (meaning : Operator) : (operator symbol meaning).Keeps :=
  (keeps_token _).bind fun _ => keeps_pure _

/-- A chain of operands keeps what its signs and its operands keep. -/
theorem keeps_chain {sign : Rule (Operator × Span)} {operand : Rule Expr} (signs : sign.Keeps)
    (operands : operand.Keeps) : (chain sign operand).Keeps :=
  operands.bind fun _ =>
    (signs.bind fun _ => operands.bind fun _ => keeps_pure _).repeated.bind fun _ => keeps_pure _

/-- An expression in parentheses keeps what the expression keeps. -/
theorem keeps_group (kept : inner.Keeps) : (group limit inner).Keeps :=
  ((kept.closed _).bracketed _ _).bind fun _ => keeps_pure _

/-- A list keeps what its elements keep. -/
theorem keeps_list (kept : inner.Keeps) : (list limit inner).Keeps :=
  ((kept.items _).bracketed _ _).bind fun _ => keeps_pure _

/-- A pair keeps what its value keeps; its key and its colon are tokens. -/
theorem keeps_pair (kept : inner.Keeps) : (pair inner).Keeps :=
  ((keeps_token _).bind keeps_literalOf).bind fun _ =>
    (keeps_token _).bind fun _ => kept.bind fun _ => keeps_pure _

/-- A dictionary keeps what the values of its pairs keep. -/
theorem keeps_dictionary (kept : inner.Keeps) : (dictionary limit inner).Keeps :=
  (((keeps_pair kept).items _).bracketed _ _).bind fun _ => keeps_pure _

/-- A factor keeps what the expressions in its brackets keep, by one of the lemmas before for each
alternative. -/
theorem keeps_factor (kept : inner.Keeps) : (factor limit inner).Keeps :=
  keeps_literal.orElse ((keeps_name.map _).orElse ((keeps_list kept).orElse
    ((keeps_dictionary kept).orElse (keeps_group kept))))

/-- An expression keeps what the expressions in its brackets keep. It is a chain of chains of
factors. -/
theorem keeps_expression (kept : inner.Keeps) : (expression limit inner).Keeps :=
  keeps_chain ((keeps_operator _ _).orElse (keeps_operator _ _))
    (keeps_chain ((keeps_operator _ _).orElse (keeps_operator _ _)) (keeps_factor kept))

/-- The rule for expressions keeps the depth at every level. By induction on the levels, with the
failing rule at the bottom. -/
theorem keeps_expressionOver (limit levels : Nat) :
    (expressionOver limit Rule.fail levels).Keeps := by
  induction levels with
  | zero => exact keeps_fail
  | succ levels ih => exact keeps_expression ih

/-- A statement keeps what its expression keeps, with or without a name and an equality sign in
front. -/
theorem keeps_statement {value : Rule Expr} (kept : value.Keeps) : (statement value).Keeps :=
  (keeps_name.bind fun _ => (keeps_token _).bind fun _ => kept.bind fun _ => keeps_pure _).orElse
    (kept.map _)

end Grammar

end Formula
