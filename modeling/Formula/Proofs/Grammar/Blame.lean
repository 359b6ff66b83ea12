import Formula.Proofs.Grammar.Prefixes

/-!
# What a syntax error blames

Of tokens that are no statement, an error blames one place. If a bracket among them would be open
inside too many others, in tokens that a statement can so far begin with, it is the first such
bracket. Otherwise it is the place after the longest part that a statement can begin with, and the
error says all that may follow there, each thing once, and nothing else. What it says is a text, so
the names that the text gives to the kinds of tokens, and how it puts them together, are written
down here once more and shown to be what messages use.

What was noted on the way at places before that one leaves no trace, so none of the alternatives
that were tried and given up can be seen in an error.
-/

namespace Formula

/-- Symbols are written with different characters, because the symbol is found again by its
character. -/
theorem Symbol.char_injective {first second : Symbol} (same : first.char = second.char) :
    first = second := by
  have found := Symbol.ofChar?_eq_some_iff.mpr same
  rw [Symbol.ofChar?_eq_some_iff.mpr rfl] at found
  exact (Option.some.inj found).symm

/-- Messages name different expectations differently. All pairs of descriptions are compared; only
those of symbols depend on a character, which tells the symbol. -/
theorem Expectation.description_injective {first second : Expectation}
    (same : first.description = second.description) : first = second := by
  have chars := congrArg String.toList same
  rcases first with (_ | _ | _ | _ | _ | mark) | _ | _ <;>
    rcases second with (_ | _ | _ | _ | _ | mark') | _ | _ <;>
      first
      | rfl
      | simp [Expectation.description, Token.Kind.description] at chars
  rw [Symbol.char_injective chars]

/-- The name that a message gives to each kind of token. -/
def kindNames : List (Token.Kind × String) :=
  [(.integer, "integer"), (.float, "float"), (.string, "string"), (.boolean, "boolean"),
    (.name, "identifier"), (.symbol .equal, "'='"), (.symbol .plus, "'+'"),
    (.symbol .minus, "'-'"), (.symbol .star, "'*'"), (.symbol .slash, "'/'"),
    (.symbol .leftParen, "'('"), (.symbol .rightParen, "')'"), (.symbol .leftBracket, "'['"),
    (.symbol .rightBracket, "']'"), (.symbol .leftBrace, "'\x7b'"),
    (.symbol .rightBrace, "'\x7d'"), (.symbol .colon, "':'"), (.symbol .comma, "','")]

/-- How a text says what was expected: by its name, or by all the names after `one of`. -/
inductive Says : List String → String → Prop
  | one (name : String) : Says [name] name
  | several (first second : String) (others : List String) :
      Says (first :: second :: others) ("one of " ++ ", ".intercalate (first :: second :: others))

/-- The table lists every kind, each under the name that messages use. That its entries agree with
the descriptions is seen entry by entry, and that none is missing kind by kind. -/
theorem mem_kindNames_iff {kind : Token.Kind} {name : String} :
    (kind, name) ∈ kindNames ↔ kind.description = name := by
  have agree : ∀ entry ∈ kindNames, entry.1.description = entry.2 := by decide
  constructor
  · exact agree (kind, name)
  · rintro rfl
    rcases kind with _ | _ | _ | _ | _ | mark <;> try cases mark
    all_goals decide

/-- The text of an error gives the names of all that was expected, in order: one name by itself,
several after words that say that any of them would do. -/
theorem says_expectation {error : SyntaxError} (nonempty : error.expected ≠ []) :
    Says (error.expected.map Expectation.description) error.expectation := by
  obtain ⟨found, expected, position⟩ := error
  cases expected with
  | nil => exact absurd rfl nonempty
  | cons first others =>
    cases others with
    | nil => exact .one first.description
    | cons second others => exact .several first.description second.description _

namespace Failure

variable {failure : Failure} {cursor : Cursor}

/-- Where the error stands does not change what was expected. -/
theorem expected_toError (failure : Failure) (stop : Position) :
    (failure.toError stop).expected = failure.expected := by
  unfold toError
  split <;> rfl

/-- At the furthest place, everything that is noted is kept once. By induction on the expectations,
with those already kept as the invariant. -/
theorem noteAll_of_here (here : failure.left = cursor.left) (notFinal : failure.final = false)
    (distinct : failure.expected.Nodup) (expectations : List Expectation) :
    (failure.noteAll cursor expectations).found = failure.found ∧
      (failure.noteAll cursor expectations).expected.Nodup ∧
      ∀ expectation, expectation ∈ (failure.noteAll cursor expectations).expected ↔
        expectation ∈ failure.expected ∨ expectation ∈ expectations := by
  induction expectations generalizing failure with
  | nil => simp [distinct]
  | cons expectation others ih =>
    by_cases fresh : expectation ∈ failure.expected
    · have same : failure.note cursor expectation = failure := by
        simp [note, notFinal, here, fresh]
      rw [noteAll_cons, same]
      obtain ⟨found, distinct', members⟩ := ih here notFinal distinct
      refine ⟨found, distinct', fun other => ?_⟩
      rw [members]
      constructor
      · rintro (old | new)
        · exact .inl old
        · exact .inr (List.mem_cons_of_mem _ new)
      · rintro (old | new)
        · exact .inl old
        · rcases List.mem_cons.mp new with rfl | new
          · exact .inl fresh
          · exact .inr new
    · have added : failure.note cursor expectation =
          { failure with expected := failure.expected ++ [expectation] } := by
        simp [note, notFinal, here, fresh]
      have here' : (failure.note cursor expectation).left = cursor.left := added ▸ here
      have notFinal' : (failure.note cursor expectation).final = false := added ▸ notFinal
      obtain ⟨found, distinct', members⟩ :=
        ih here' notFinal' (nodup_note distinct cursor expectation)
      refine ⟨by rw [noteAll_cons, found, added], distinct', fun other => ?_⟩
      rw [noteAll_cons, members, added]
      simp [or_assoc]

/-- At a place further on than all that was noted, nothing older is kept. The first expectation
makes the place the furthest, and the others are noted there. -/
theorem noteAll_of_ahead (ahead : cursor.left < failure.left) (notFinal : failure.final = false)
    {expectations : List Expectation} (nonempty : expectations ≠ []) :
    (failure.noteAll cursor expectations).found = cursor.tokens.head? ∧
      (failure.noteAll cursor expectations).expected.Nodup ∧
      ∀ expectation, expectation ∈ (failure.noteAll cursor expectations).expected ↔
        expectation ∈ expectations := by
  cases expectations with
  | nil => exact absurd rfl nonempty
  | cons expectation others =>
    have begun : failure.note cursor expectation = single cursor expectation false := by
      simp [note, notFinal, ahead]
    rw [noteAll_cons, begun]
    have here : (single cursor expectation false).left = cursor.left := rfl
    obtain ⟨found, distinct, members⟩ := noteAll_of_here here rfl (by simp [single]) others
    refine ⟨found, distinct, fun other => ?_⟩
    rw [members]
    simp [single]

end Failure

namespace Grammar

variable {limit : Nat} {tokens : List Token}

/-- After these tokens, with which a statement can begin, the bracket is the first thing too many:
it is open inside as many others as are allowed. -/
structure Exceeds (limit : Nat) (front : List Token) (bracket : Token) : Prop where
  viable : Viable (front ++ [bracket])
  opens : bracket.IsOpening
  count : openBrackets (front ++ [bracket]) = limit + 1

/-- What an error says that blames the place after `front` in `front ++ rest`: the token there and
where it starts, or the end of the last token; and, as a list and as a text, all that would have
been possible there. -/
structure Blames (front rest : List Token) (error : SyntaxError) : Prop where
  viable : Viable front
  longest : ∀ longer, longer <+: front ++ rest → Viable longer → longer.length ≤ front.length
  found : error.found = rest.head?.map Token.lexeme
  position : error.position = match rest.head? with
    | some token => token.span.start
    | none => (front.getLast?.map fun token => token.span.stop).getD ⟨1, 1⟩
  distinct : (error.expected.map Expectation.description).Nodup
  tokens : ∀ kind, .token kind ∈ error.expected ↔ ∃ token, token.kind = kind ∧ Viable (front ++ [token])
  ending : .endOfInput ∈ error.expected ↔ IsStatement front
  noLimit : .shallowerNesting ∉ error.expected
  text : ∃ names, names.Nodup ∧ Says names error.expectation ∧ ∀ name, name ∈ names ↔
    (∃ token, (token.kind, name) ∈ kindNames ∧ Viable (front ++ [token])) ∨
      name = "end of input" ∧ IsStatement front

section Limit

variable {front rest : List Token} {bracket : Token} {place inside : Frontier}

/-- A bracket that is refused exceeds the limit. The tokens before it stay within the limit, so
their count is at most the limit; with the bracket it is more, and one token adds no more than
one. -/
theorem exceeds_of_refused (reached : Frontier.start.within limit front = some place)
    (opens : place.next bracket.kind = some inside) (tooMany : limit < inside.brackets.length) :
    Exceeds limit front bracket := by
  obtain ⟨passed, limited⟩ := start_within_iff.mp reached
  have outside : (place.brackets.length : Int) = 0 + openBrackets front := length_after passed
  have room : openBrackets front ≤ limit := limited front [] (List.append_nil front).symm
  have counted := length_next opens
  have atMost := opened_le_one bracket.kind
  refine ⟨viable_iff.mpr ⟨inside, ?_⟩, ?_, ?_⟩
  · rw [Frontier.after_append_of_eq passed, Frontier.after_cons, opens]
    rfl
  · rw [← opens_pos_iff, opens_content]
    omega
  · rw [openBrackets_append, openBrackets_cons, openBrackets_nil, opens_content]
    omega

/-- What passes within a limit does not exceed it, as its count at any front of it is at most the
limit. -/
theorem not_exceeds_of_within {longer : List Token}
    (reached : Frontier.start.within limit longer = some place)
    (within : front ++ [bracket] <+: longer) : ¬Exceeds limit front bracket := by
  intro exceeds
  obtain ⟨later, split⟩ := within
  have atMost := (start_within_iff.mp reached).2 (front ++ [bracket]) later split.symm
  have count := exceeds.count
  omega

end Limit

section Place

variable {front rest : List Token} {place : Frontier}

/-- Where the frontier does not pass the next token, a statement can begin with no more tokens. A
longer part would have that token in it, and the frontier would pass all of that part. -/
theorem length_le_of_blocked {longer : List Token} (passed : Frontier.start.after front = some place)
    (blocked : ∀ token ∈ rest.head?, place.next token.kind = none)
    (within : longer <+: front ++ rest) (viable : Viable longer) :
    longer.length ≤ front.length := by
  cases Nat.lt_or_ge front.length longer.length with
  | inl further =>
    obtain ⟨middle, rfl⟩ := List.prefix_of_prefix_length_le (List.prefix_append front rest) within
      (Nat.le_of_lt further)
    obtain ⟨last, reached⟩ := viable_iff.mp viable
    rw [Frontier.after_append_of_eq passed] at reached
    cases middle with
    | nil => simp at further
    | cons token middle =>
      have isNext : token :: middle <+: rest := (List.prefix_append_right_inj front).mp within
      obtain ⟨later, rfl⟩ := isNext
      obtain ⟨inside, moved, _⟩ := Option.bind_eq_some_iff.mp reached
      cases (blocked token rfl).symm.trans moved
  | inr atMost => exact atMost

/-- Nor does any bracket exceed the limit, if what was passed stays within it. A bracket that
exceeds the limit is one with which a statement can begin, so it stands before the place that
blocks. -/
theorem not_exceeds_of_blocked {front' rest' : List Token} {bracket : Token}
    (reached : Frontier.start.within limit front = some place)
    (blocked : ∀ token ∈ rest.head?, place.next token.kind = none)
    (split : front ++ rest = front' ++ bracket :: rest') : ¬Exceeds limit front' bracket := by
  intro exceeds
  have within : front' ++ [bracket] <+: front ++ rest := ⟨rest', by simp [split]⟩
  have atMost := length_le_of_blocked (Frontier.after_of_within reached) blocked within exceeds.viable
  have inside := List.prefix_of_prefix_length_le within (List.prefix_append front rest) atMost
  exact not_exceeds_of_within reached inside exceeds

/-- Of the kinds of tokens, those are expected with which a statement can go on. The frontier passes
exactly these, and every token of the kind serves as well as any other. -/
theorem token_mem_expected {kind : Token.Kind} (passed : Frontier.start.after front = some place) :
    .token kind ∈ place.expected ↔ ∃ token, token.kind = kind ∧ Viable (front ++ [token]) := by
  have listed : .token kind ∈ place.expected ↔ (place.next kind).isSome = true := by
    rw [← Frontier.mem_kinds_iff, Frontier.expected]
    split <;> simp
  have passes (token : Token) : Viable (front ++ [token]) ↔
      (place.next token.kind).isSome = true := by
    rw [viable_iff, Frontier.after_append_of_eq passed, Frontier.after_cons,
      Option.isSome_iff_exists]
    simp
  rw [listed]
  constructor
  · intro moved
    exact ⟨sample kind, kind_sample kind, (passes _).mpr ((kind_sample kind).symm ▸ moved)⟩
  · rintro ⟨token, rfl, viable⟩
    exact (passes token).mp viable

/-- The end is expected where what was passed is a statement already. -/
theorem endOfInput_mem_expected (passed : Frontier.start.after front = some place) :
    .endOfInput ∈ place.expected ↔ IsStatement front := by
  have listed : .endOfInput ∈ place.expected ↔ place.isComplete = true := by
    rw [Frontier.expected]
    split
    · next complete => simp [complete]
    · next unfinished => simp [unfinished]
  rw [listed, isStatement_iff, passed]
  simp

/-- No place of the frontier expects less nesting; this is only said of a bracket that is
refused. -/
theorem shallowerNesting_not_mem_expected : .shallowerNesting ∉ place.expected := by
  rw [Frontier.expected]
  split <;> simp

/-- Something is expected at every place, as there are kinds that lead on from it. -/
theorem expected_ne_nil : place.expected ≠ [] := by
  simp [Frontier.expected, place.kinds_ne_nil]

/-- The names of what is expected are those of the tokens that may follow, and the name of the end
if nothing has to. An expectation is found by its name, since the table has each kind under one
name. -/
theorem mem_names_iff {error : SyntaxError} {name : String}
    (tokens : ∀ kind, .token kind ∈ error.expected ↔
      ∃ token, token.kind = kind ∧ Viable (front ++ [token]))
    (ending : .endOfInput ∈ error.expected ↔ IsStatement front)
    (noLimit : .shallowerNesting ∉ error.expected) :
    name ∈ error.expected.map Expectation.description ↔
      (∃ token, (token.kind, name) ∈ kindNames ∧ Viable (front ++ [token])) ∨
        name = "end of input" ∧ IsStatement front := by
  rw [List.mem_map]
  constructor
  · rintro ⟨expectation, member, rfl⟩
    cases expectation with
    | token kind =>
      obtain ⟨token, rfl, viable⟩ := (tokens kind).mp member
      exact .inl ⟨token, mem_kindNames_iff.mpr rfl, viable⟩
    | endOfInput => exact .inr ⟨rfl, ending.mp member⟩
    | shallowerNesting => exact absurd member noLimit
  · rintro (⟨token, named, viable⟩ | ⟨rfl, whole⟩)
    · exact ⟨_, (tokens token.kind).mpr ⟨token, rfl, viable⟩, mem_kindNames_iff.mp named⟩
    · exact ⟨_, ending.mpr whole, rfl⟩

/-- A failure at the place after `front`, before which nothing counts, blames that place. What was
noted there is all that the place expects, each expectation once; and from this follows what the
names in the text are. -/
theorem blames_of_stuck {failure : Failure} (passed : Frontier.start.after front = some place)
    (blocked : ∀ token ∈ rest.head?, place.next token.kind = none)
    (ahead : rest.length < failure.left) (notFinal : failure.final = false) :
    Blames front rest ((failure.noteAll (.ofList rest) place.expected).toError
      (stopOf (front ++ rest))) := by
  have ahead' : (Cursor.ofList rest).left < failure.left := ahead
  obtain ⟨found, distinct, members⟩ := Failure.noteAll_of_ahead ahead' notFinal expected_ne_nil
  generalize failure.noteAll (.ofList rest) place.expected = kept at found distinct members
  have distinct' : ((kept.toError (stopOf (front ++ rest))).expected.map
      Expectation.description).Nodup := by
    rw [Failure.expected_toError]
    exact List.pairwise_map.mpr (distinct.imp fun differ same =>
      differ (Expectation.description_injective same))
  have listed (expectation : Expectation) : expectation ∈ (kept.toError
      (stopOf (front ++ rest))).expected ↔ expectation ∈ place.expected := by
    rw [Failure.expected_toError, members]
  have tokens (kind : Token.Kind) := (listed (.token kind)).trans (token_mem_expected passed)
  have ending := (listed .endOfInput).trans (endOfInput_mem_expected passed)
  have noLimit := mt (listed .shallowerNesting).mp shallowerNesting_not_mem_expected
  have nonempty : (kept.toError (stopOf (front ++ rest))).expected ≠ [] := by
    obtain ⟨expectation, member⟩ := List.exists_mem_of_ne_nil _ (@expected_ne_nil place)
    exact List.ne_nil_of_mem ((listed expectation).mpr member)
  constructor
  case viable => exact viable_iff.mpr ⟨place, passed⟩
  case longest => exact fun longer within viable => length_le_of_blocked passed blocked within viable
  case found =>
    rw [Failure.toError, found]
    cases rest <;> rfl
  case position =>
    rw [Failure.toError, found, stopOf]
    cases rest with
    | nil =>
      rw [List.append_nil]
      cases front.getLast? <;> rfl
    | cons token rest => rfl
  case distinct => exact distinct'
  case tokens => exact tokens
  case ending => exact ending
  case noLimit => exact noLimit
  case text =>
    exact ⟨_, distinct', says_expectation nonempty, fun name => mem_names_iff tokens ending noLimit⟩

end Place

/-- Tokens that are no statement were either read up to a place that nothing passes, and the error
blames that place, or up to a bracket too many, and the error names the bracket. These are the two
ways in which the verdict on a reading can be a failure. -/
theorem blames_or_refused {tokens : List Token} {error : SyntaxError}
    (rejected : Statement.ofTokens tokens = .error error) :
    (∃ front rest place, tokens = front ++ rest ∧
      Frontier.start.within maxNesting front = some place ∧
      (∀ token ∈ rest.head?, place.next token.kind = none) ∧ Blames front rest error) ∨
    ∃ front bracket rest place, tokens = front ++ bracket :: rest ∧
      Frontier.start.within maxNesting front = some place ∧ Exceeds maxNesting front bracket ∧
      error = ⟨some bracket.lexeme, [.shallowerNesting], bracket.span.start⟩ := by
  have verdict : Verdict maxNesting _ _ _ _ := verdict_wholeStatement tokens (.start tokens) rfl
  rw [Statement.ofTokens] at rejected
  rcases found : wholeStatement maxNesting (.ofList tokens) (.start tokens) with
    ⟨_ | ⟨statement, rest⟩, after⟩
  · simp only [found, Except.error.injEq] at rejected verdict
    subst rejected
    generalize after.failure = kept at verdict
    cases verdict with
    | stuck front rest place earlier split reached unfinished blocked agrees =>
      subst split
      have passed := Frontier.after_of_within reached
      have behind : rest.length < (Trail.start (front ++ rest)).failure.left := by
        simp only [Trail.start, List.length_append]
        omega
      refine .inl ⟨front, rest, place, rfl, reached, blocked, ?_⟩
      rcases agrees with same | ⟨_, ahead, _, notFinal⟩
      · exact same ▸ blames_of_stuck passed blocked behind rfl
      · exact blames_of_stuck passed blocked ahead notFinal
    | refused front bracket rest place inside split reached opens tooMany =>
      exact .inr ⟨front, bracket, rest, place, split, reached,
        exceeds_of_refused reached opens tooMany, rfl⟩
  · simp [found] at rejected

/-- A syntax error names the token in the way and stands where that token starts, or it names none
and stands where the tokens end. A refused bracket is the token in the way as well. -/
theorem place_of_ofTokens {tokens : List Token} {error : SyntaxError}
    (rejected : Statement.ofTokens tokens = .error error) :
    (∃ token ∈ tokens, error.found = some token.lexeme ∧ error.position = token.span.start) ∨
      error.found = none ∧ error.position = stopOf tokens := by
  rcases blames_or_refused rejected with
    ⟨front, rest, _, rfl, _, _, blames⟩ | ⟨front, bracket, rest, _, rfl, _, _, rfl⟩
  · cases rest with
    | nil =>
      refine .inr ⟨blames.found, blames.position.trans ?_⟩
      rw [List.append_nil, stopOf]
      cases front.getLast? <;> rfl
    | cons token rest =>
      exact .inl ⟨token, List.mem_append_right front List.mem_cons_self, blames.found,
        blames.position⟩
  · exact .inl ⟨bracket, List.mem_append_right front List.mem_cons_self, rfl, rfl⟩

/-- What a syntax error says, for all tokens that are no statement. If some bracket would be the
hundred and first that is open, the first such bracket is refused, with a text of its own; otherwise
the error blames the place after the longest part that a statement can begin with. No bracket before
a place that was reached exceeds the limit, so the refused one is the first. -/
theorem ofTokens_error {tokens : List Token} {error : SyntaxError}
    (rejected : Statement.ofTokens tokens = .error error) :
    ((∃ front bracket rest, tokens = front ++ bracket :: rest ∧ Exceeds 100 front bracket) →
      ∃ front bracket rest, tokens = front ++ bracket :: rest ∧
        Exceeds 100 front bracket ∧
        (∀ front' bracket' rest', tokens = front' ++ bracket' :: rest' →
          Exceeds 100 front' bracket' → front.length ≤ front'.length) ∧
        error = ⟨some bracket.lexeme, [.shallowerNesting], bracket.span.start⟩ ∧
        error.expectation = "less deeply nested expression") ∧
    ((¬∃ front bracket rest, tokens = front ++ bracket :: rest ∧ Exceeds 100 front bracket) →
      ∃ front rest, tokens = front ++ rest ∧ Blames front rest error) := by
  rcases blames_or_refused rejected with ⟨front, rest, place, rfl, reached, blocked, blames⟩ |
    ⟨front, bracket, rest, place, split, reached, exceeds, rfl⟩
  · constructor
    · rintro ⟨front', bracket, rest', split', exceeds⟩
      exact (not_exceeds_of_blocked reached blocked split' exceeds).elim
    · exact fun _ => ⟨front, rest, rfl, blames⟩
  · constructor
    · intro _
      refine ⟨front, bracket, rest, split, exceeds, ?_, rfl, rfl⟩
      intro front' bracket' rest' split' exceeds'
      by_contra shorter
      have within : front' ++ [bracket'] <+: front := by
        refine List.prefix_of_prefix_length_le ⟨rest', ?_⟩ ⟨bracket :: rest, split.symm⟩ ?_
        · rw [split', List.append_assoc]
          rfl
        · rw [List.length_append, List.length_singleton]
          omega
      exact not_exceeds_of_within reached within exceeds'
    · intro none
      exact (none ⟨front, bracket, rest, split, exceeds⟩).elim

set_option maxRecDepth 10000 in
/-- Where nothing was written, everything is expected that a statement can begin with. Of a hundred
and one parentheses the innermost is refused. -/
theorem ofTokens_error_extremes :
    (∃ error, Statement.ofTokens [] = .error error ∧ Blames [] [] error ∧ error.expectation =
      "one of identifier, integer, float, string, boolean, '[', '\x7b', '('") ∧
    ∃ error, Statement.ofTokens (List.replicate 101 (sample (.symbol .leftParen))) = .error error ∧
      error = ⟨some "(", [.shallowerNesting], .first⟩ ∧
      error.expectation = "less deeply nested expression" := by
  constructor
  · have rejected : Statement.ofTokens [] = .error _ := rfl
    have unlimited : ¬∃ front bracket rest, [] = front ++ bracket :: rest ∧
        Exceeds 100 front bracket := by simp
    obtain ⟨front, rest, split, blames⟩ := (ofTokens_error rejected).2 unlimited
    obtain ⟨rfl, rfl⟩ := List.append_eq_nil_iff.mp split.symm
    exact ⟨_, rejected, blames, by decide⟩
  · cases read : Statement.ofTokens (List.replicate 101 (sample (.symbol .leftParen))) with
    | error error =>
      have exceeds : Exceeds 100 (List.replicate 100 (sample (.symbol .leftParen)))
          (sample (.symbol .leftParen)) :=
        ⟨viable_iff.mpr ⟨⟨.operand, List.replicate 101 .group⟩, rfl⟩, by decide, rfl⟩
      obtain ⟨front, bracket, rest, split, _, _, refused, text⟩ :=
        (ofTokens_error read).1 ⟨_, _, [], rfl, exceeds⟩
      have member : bracket ∈ List.replicate 101 (sample (.symbol .leftParen)) := by
        rw [split]
        exact List.mem_append_right front (List.mem_cons_self ..)
      exact ⟨error, rfl, by rw [refused, List.eq_of_mem_replicate member]; rfl, text⟩
    | ok statement =>
      obtain ⟨_, limited⟩ := derives_limit_iff.mp (ofTokens_eq_ok_iff.mp read)
      exact absurd (limited _ [] (List.append_nil _).symm) (by decide)

end Grammar

end Formula
