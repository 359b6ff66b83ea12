import Formula.Proofs.Grammar.Exact
import Formula.Proofs.Token.Brackets

/-!
# What a statement can begin with

Tokens that a statement can begin with are exactly those that the frontier passes: what passes can
be led to an end by values, keys and closing symbols, and what leads there is read. And the
brackets of the frontier are as many as the tokens open and do not close, so a limit on them is a
limit on the difference between opening and closing symbols at every place.
-/

namespace Formula.Grammar

/-- What a kind of token adds to the number of open brackets. -/
def opened : Token.Kind → Int
  | .symbol mark => mark.opens
  | _ => 0

/-- What a draft counts for the content of a token is what its kind opens. -/
theorem opens_content (token : Token) : Draft.opens token.content = opened token.kind := by
  obtain ⟨content, lexeme, span⟩ := token
  cases content <;> rfl

/-- No token opens more than one bracket. -/
theorem opened_le_one (kind : Token.Kind) : opened kind ≤ 1 := by
  rcases kind with _ | _ | _ | _ | _ | mark <;> try cases mark
  all_goals decide

section Count

variable {brackets : List Bracket} {kind : Token.Kind} {place inside last : Frontier}

/-- Where an operand is awaited, the kind passes into its bracket, if it opens one, and out of
none. -/
theorem length_openOperand (moved : Frontier.openOperand brackets kind = some inside) :
    (inside.brackets.length : Int) = brackets.length + opened kind := by
  rcases kind with _ | _ | _ | _ | _ | mark <;> try cases mark
  all_goals
    cases moved
    try rfl

/-- Out of the innermost bracket leads the kind that closes it, which counts as one bracket less. No
other kind leads out. -/
theorem length_close (moved : Frontier.close brackets kind = some inside) :
    (inside.brackets.length : Int) = brackets.length + opened kind := by
  cases brackets with
  | nil => cases moved
  | cons bracket outer =>
    by_cases closes : kind = .symbol bracket.closing
    · rw [Frontier.close, if_pos closes] at moved
      obtain rfl := Option.some.inj moved
      have added : opened kind = -1 := by
        rw [closes]
        cases bracket <;> rfl
      simp only [added, List.length_cons]
      omega
    · rw [Frontier.close, if_neg closes] at moved
      cases moved

/-- After an operand, a sign or a comma leaves the brackets as they are; anything else has to close
the innermost. -/
theorem length_goOn (moved : Frontier.goOn brackets kind = some inside) :
    (inside.brackets.length : Int) = brackets.length + opened kind := by
  unfold Frontier.goOn at moved
  by_cases isSign : kind ∈ Frontier.signKinds
  · rw [if_pos isSign] at moved
    obtain rfl := Option.some.inj moved
    simp only [Frontier.signKinds, List.mem_cons, List.not_mem_nil, or_false] at isSign
    rcases isSign with rfl | rfl | rfl | rfl <;> simp [opened, Symbol.opens]
  rw [if_neg isSign] at moved
  by_cases isComma : kind = .symbol .comma
  · rw [if_pos isComma] at moved
    subst isComma
    rcases brackets with _ | ⟨_ | _ | _, outer⟩ <;> cases moved <;> simp [opened, Symbol.opens]
  · rw [if_neg isComma] at moved
    exact length_close moved

/-- The brackets of the frontier are counted token by token. By cases on what is awaited; each place
either goes on in the same brackets, where the kind opens nothing, or it opens or closes one. -/
theorem length_next (moved : place.next kind = some inside) :
    (inside.brackets.length : Int) = place.brackets.length + opened kind := by
  obtain ⟨awaited, brackets⟩ := place
  have plain {other : Token.Kind} {awaited : Awaited} (isOther : kind = other)
      (adds : opened other = 0)
      (moved : (some ⟨awaited, brackets⟩ : Option Frontier) = some inside) :
      (inside.brackets.length : Int) = brackets.length + opened kind := by
    obtain rfl := Option.some.inj moved
    rw [isOther, adds, Int.add_zero]
  cases awaited with
  | statement =>
    by_cases isName : kind = .name
    · exact plain isName rfl ((if_pos isName).symm.trans moved)
    · exact length_openOperand ((if_neg isName).symm.trans moved)
  | afterName =>
    by_cases isEqual : kind = .symbol .equal
    · exact plain isEqual rfl ((if_pos isEqual).symm.trans moved)
    · exact length_goOn ((if_neg isEqual).symm.trans moved)
  | operand => exact length_openOperand moved
  | afterOperand => exact length_goOn moved
  | firstElement =>
    rcases Option.or_eq_some_iff.mp moved with closed | ⟨_, begun⟩
    · exact length_close closed
    · exact length_openOperand begun
  | firstKey =>
    by_cases isString : kind = .string
    · exact plain isString rfl ((if_pos isString).symm.trans moved)
    · exact length_close ((if_neg isString).symm.trans moved)
  | key =>
    by_cases isString : kind = .string
    · exact plain isString rfl ((if_pos isString).symm.trans moved)
    · cases (if_neg isString).symm.trans moved
  | colon =>
    by_cases isColon : kind = .symbol .colon
    · exact plain isColon rfl ((if_pos isColon).symm.trans moved)
    · cases (if_neg isColon).symm.trans moved

/-- So along any tokens, the brackets of the frontier grow by as many as the tokens open. By
induction on the tokens. -/
theorem length_after {tokens : List Token} (reached : place.after tokens = some last) :
    (last.brackets.length : Int) = place.brackets.length + openBrackets tokens := by
  induction tokens generalizing place with
  | nil =>
    obtain rfl := Option.some.inj reached
    simp
  | cons token rest ih =>
    obtain ⟨inside, moved, reached⟩ := Option.bind_eq_some_iff.mp reached
    rw [ih reached, length_next moved, openBrackets_cons, opens_content, Int.add_assoc]

/-- To stay within a limit is to pass with no more brackets open at any place. By induction on the
tokens: what is open after each front of them is what the frontier is inside of there. -/
theorem within_eq_some_iff {limit : Nat} {tokens : List Token}
    (room : place.brackets.length ≤ limit) :
    place.within limit tokens = some last ↔ place.after tokens = some last ∧
      ∀ front rest, tokens = front ++ rest →
        place.brackets.length + openBrackets front ≤ limit := by
  induction tokens generalizing place with
  | nil =>
    refine ⟨fun reached => ⟨reached, ?_⟩, fun passed => passed.1⟩
    intro front rest split
    obtain rfl := (List.append_eq_nil_iff.mp split.symm).1
    rw [openBrackets_nil, Int.add_zero]
    exact Int.ofNat_le.mpr room
  | cons token rest ih =>
    constructor
    · intro reached
      obtain ⟨inside, moved⟩ := Frontier.next_of_within reached
      have fits := Frontier.fits_of_within moved reached
      have counted := length_next moved
      rw [Frontier.within_cons moved fits] at reached
      obtain ⟨passed, limited⟩ := (ih fits).mp reached
      refine ⟨by rw [Frontier.after_cons, moved]; exact passed, ?_⟩
      intro front later split
      cases front with
      | nil =>
        rw [openBrackets_nil, Int.add_zero]
        exact Int.ofNat_le.mpr room
      | cons first front =>
        obtain ⟨rfl, after⟩ := List.cons.inj split
        have atMost := limited front later after
        rw [openBrackets_cons, opens_content]
        omega
    · rintro ⟨passed, limited⟩
      obtain ⟨inside, moved, passed⟩ := Option.bind_eq_some_iff.mp passed
      have counted := length_next moved
      have fits : inside.brackets.length ≤ limit := by
        have atMost := limited [token] rest rfl
        rw [openBrackets_cons, opens_content, openBrackets_nil] at atMost
        omega
      rw [Frontier.within_cons moved fits]
      refine (ih fits).mpr ⟨passed, fun front later split => ?_⟩
      have atMost := limited (token :: front) later (by rw [split]; rfl)
      rw [openBrackets_cons, opens_content] at atMost
      omega

end Count

section Completion

/-- A token of a given kind. -/
def sample : Token.Kind → Token
  | .integer => ⟨.integer 0, "0", ⟨.first, .first⟩⟩
  | .float => ⟨.float 0, "0.0", ⟨.first, .first⟩⟩
  | .string => ⟨.string "", "\"\"", ⟨.first, .first⟩⟩
  | .boolean => ⟨.boolean true, "true", ⟨.first, .first⟩⟩
  | .name => ⟨.name, "x", ⟨.first, .first⟩⟩
  | .symbol mark => ⟨.symbol mark, String.singleton mark.char, ⟨.first, .first⟩⟩

/-- The sample of a kind is of that kind. -/
@[simp] theorem kind_sample (kind : Token.Kind) : (sample kind).kind = kind := by
  cases kind <;> rfl

/-- Closing symbols lead from an operand inside brackets to one outside of them. By induction on the
brackets, the innermost of which is closed first. -/
theorem exists_closing (brackets : List Bracket) :
    ∃ later, Frontier.after ⟨.afterOperand, brackets⟩ later = some ⟨.afterOperand, []⟩ := by
  induction brackets with
  | nil => exact ⟨[], rfl⟩
  | cons bracket outer ih =>
    obtain ⟨later, reached⟩ := ih
    have closed : Frontier.next ⟨.afterOperand, bracket :: outer⟩ (.symbol bracket.closing) =
        some ⟨.afterOperand, outer⟩ := by
      cases bracket <;> rfl
    refine ⟨sample (.symbol bracket.closing) :: later, ?_⟩
    rw [Frontier.after_cons, kind_sample, closed]
    exact reached

/-- What leads from any place to the place after an operand, in the same brackets. Wherever an
operand is awaited it is an integer, and where a key is awaited, a pair. -/
theorem exists_operand (place : Frontier) :
    ∃ later, place.after later = some ⟨.afterOperand, place.brackets⟩ := by
  obtain ⟨awaited, brackets⟩ := place
  have closing : Frontier.close brackets .integer = none := by
    cases brackets <;> rfl
  cases awaited with
  | statement | operand => exact ⟨[sample .integer], rfl⟩
  | afterName => exact ⟨[sample (.symbol .equal), sample .integer], rfl⟩
  | afterOperand => exact ⟨[], rfl⟩
  | firstElement =>
    refine ⟨[sample .integer], ?_⟩
    rw [Frontier.after_cons, kind_sample, Frontier.next, closing]
    rfl
  | firstKey | key => exact ⟨[sample .string, sample (.symbol .colon), sample .integer], rfl⟩
  | colon => exact ⟨[sample (.symbol .colon), sample .integer], rfl⟩

/-- Every place can be led to where a statement may end: first to the place after an operand, and
then out of all brackets. -/
theorem exists_completion (place : Frontier) :
    ∃ later last, place.after later = some last ∧ last.isComplete = true := by
  obtain ⟨first, reached⟩ := exists_operand place
  obtain ⟨second, closed⟩ := exists_closing place.brackets
  refine ⟨first ++ second, ⟨.afterOperand, []⟩, ?_, rfl⟩
  rw [Frontier.after_append_of_eq reached, closed]

end Completion

section Statements

variable {tokens : List Token}

/-- From the start, a limit on the brackets of the frontier is one on those the tokens open, since
none are open at the start. -/
theorem start_within_iff {limit : Nat} {place : Frontier} :
    Frontier.start.within limit tokens = some place ↔ Frontier.start.after tokens = some place ∧
      ∀ front rest, tokens = front ++ rest → openBrackets front ≤ limit := by
  have counted : Frontier.start.within limit tokens = some place ↔ _ :=
    within_eq_some_iff (Nat.zero_le limit)
  simpa [Frontier.start] using counted

/-- A statement closes every bracket that it opens, and no other: it leads to where a statement may
end, and there no brackets are open. -/
theorem openBrackets_of_derives {limit : Nat} {statement : Statement}
    (derived : Derives limit tokens statement) : openBrackets tokens = 0 := by
  obtain ⟨place, reached, complete⟩ := within_of_derives derived
  have counted := length_after (Frontier.after_of_within reached)
  have closed : place.brackets = [] := by
    simpa using (Bool.and_eq_true_iff.mp complete).2
  simpa [closed, Frontier.start, eq_comm] using counted

/-- Tokens make a statement, however deep it nests, exactly if they lead to where one may end. For
the converse the number of the tokens serves as the limit, as they open no more brackets than
that. -/
theorem isStatement_iff : IsStatement tokens ↔
    ∃ place, Frontier.start.after tokens = some place ∧ place.isComplete = true := by
  constructor
  · rintro ⟨depth, statement, derived⟩
    obtain ⟨place, reached, complete⟩ := within_of_derives derived
    exact ⟨place, Frontier.after_of_within reached, complete⟩
  · rintro ⟨place, reached, complete⟩
    have within : Frontier.start.within tokens.length tokens = some place := by
      refine start_within_iff.mpr ⟨reached, fun front rest split => ?_⟩
      have atMost := openBrackets_le_length front
      have size := congrArg List.length split
      rw [List.length_append] at size
      omega
    obtain ⟨statement, derived⟩ := derives_iff_isComplete.mpr ⟨place, within, complete⟩
    exact ⟨tokens.length, statement, derived⟩

/-- A statement can begin with exactly those tokens that the frontier passes. From every place that
it reaches, it can be led on to where a statement may end. -/
theorem viable_iff : Viable tokens ↔ ∃ place, Frontier.start.after tokens = some place := by
  constructor
  · rintro ⟨later, whole⟩
    obtain ⟨last, reached, _⟩ := isStatement_iff.mp whole
    rw [Frontier.after_append] at reached
    obtain ⟨place, passed, _⟩ := Option.bind_eq_some_iff.mp reached
    exact ⟨place, passed⟩
  · rintro ⟨place, reached⟩
    obtain ⟨later, last, completed, complete⟩ := exists_completion place
    refine ⟨later, isStatement_iff.mpr ⟨last, ?_, complete⟩⟩
    rw [Frontier.after_append_of_eq reached, completed]

/-- A limit on the brackets that are open around one place is a limit on how many more brackets are
opened than closed before any place. The derivation without the limit leads to the same end, and to
stay within the limit is all that is missing. -/
theorem derives_limit_iff {limit : Nat} {statement : Statement} :
    Derives limit tokens statement ↔ (∃ depth, Derives depth tokens statement) ∧
      ∀ front rest, tokens = front ++ rest → openBrackets front ≤ limit := by
  constructor
  · intro derived
    obtain ⟨place, reached, _⟩ := within_of_derives derived
    exact ⟨⟨limit, derived⟩, (start_within_iff.mp reached).2⟩
  · rintro ⟨⟨depth, derived⟩, limited⟩
    obtain ⟨place, reached, complete⟩ := within_of_derives derived
    have within : Frontier.start.within limit tokens = some place :=
      start_within_iff.mpr ⟨Frontier.after_of_within reached, limited⟩
    obtain ⟨other, derived'⟩ := derives_iff_isComplete.mpr ⟨place, within, complete⟩
    have atMost : depth ≤ max depth limit ∧ limit ≤ max depth limit :=
      ⟨Nat.le_max_left depth limit, Nat.le_max_right depth limit⟩
    rw [(derived.mono atMost.1).unique (derived'.mono atMost.2)]
    exact derived'

end Statements

end Formula.Grammar
