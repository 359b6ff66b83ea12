import Formula.Proofs.Grammar.Exact

/-!
# Nothing is left that could be read

A rule may end where an operand is missing, or where a bracket is never closed, and then gives what
it has read before. It is shown here that it still gives as much as it can: whatever front of the
tokens the language derives, the rule reads at least as far. That a rule does not read too far needs
no look at the rule. What it reads is derived as well, and of two readings neither of which is
followed by a token it could go on with, none is longer.
-/

namespace Formula.Grammar

variable {α β : Type} {level : Nat}

/-- Inside of `level` brackets, what the rule reads is derived by the language, and it reads at
least as far as any front that the language derives. -/
structure Greedy (level : Nat) (rule : Rule α) (language : Language α) : Prop where
  keeps : rule.Keeps
  derived : ∀ tokens trail result last, trail.depth = level →
    (rule (.ofList tokens) trail).1 = some (result, last) →
    ∃ front, tokens = front ++ last.tokens ∧ language front result
  reaches : ∀ front result rest trail, trail.depth = level → language front result →
    ∃ given last, (rule (.ofList (front ++ rest)) trail).1 = some (given, last) ∧
      last.left ≤ rest.length

/-- A greedy rule that the first token decides on: it fails before every other token, and what its
language derives begins with none. -/
structure Choice (level : Nat) (rule : Rule α) (language : Language α) (kinds : List Token.Kind) :
    Prop where
  greedy : Greedy level rule language
  asks : Asks rule kinds
  leads : Leads language kinds

/-- One part after another, where the second may depend on what the first makes. -/
def Then (first : Language α) (second : α → Language β) : Language β := fun tokens made =>
  ∃ front result back, tokens = front ++ back ∧ first front result ∧ second result back made

/-- A part, or no token at all. -/
def Maybe (language : Language α) : Language (Option α)
  | tokens, none => tokens = []
  | tokens, some result => language tokens result

/-- An opening symbol and a part. -/
def Opened (opening : Symbol) (language : Language α) : Language (Token × α) := fun tokens result =>
  ∃ rest, tokens = result.1 :: rest ∧ result.1.kind = .symbol opening ∧ language rest result.2

/-- The first token of what is not empty is not changed by more tokens after it. -/
theorem Stops.append {follow : List Token.Kind} {tokens : List Token} (stops : Stops follow tokens)
    (nonempty : tokens ≠ []) (rest : List Token) : Stops follow (tokens ++ rest) := by
  cases tokens with
  | nil => exact absurd rfl nonempty
  | cons token later => exact stops

/-- Where there is a first token, there is a token. -/
theorem Starts.ne_nil {kinds : List Token.Kind} {tokens : List Token}
    (starts : Starts kinds tokens) : tokens ≠ [] := by
  rintro rfl
  obtain ⟨token, impossible, -⟩ := starts
  cases impossible

/-- Items, if there are any, begin with a mark of their own, and so with none of the kinds that a
mark is apart from. -/
theorem Star.stops {item : Language α} {follow marks : List Token.Kind} {tokens : List Token}
    {results : List α} (derived : Star item tokens results) (leads : Leads item marks)
    (apart : ∀ kind ∈ marks, kind ∉ follow) (nonempty : tokens ≠ []) : Stops follow tokens := by
  cases derived with
  | none => exact absurd rfl nonempty
  | more tokens result later results derived _ =>
    exact ((leads tokens result derived).append later).stops apart

/-- Where items may be missing, they end as well before a token that no item begins with. That token
is what keeps one derivation from having nothing where the other has something. -/
theorem Definite.maybe {language : Language α} {follow kinds : List Token.Kind}
    (definite : Definite language follow) (leads : Leads language kinds) :
    Definite (Maybe language) (follow ++ kinds) := by
  have begun {front rest : List Token} {result : α} (derived : language front result)
      (stops : Stops (follow ++ kinds) (front ++ rest)) : False :=
    ((leads front result derived).append rest).not_stops
      (stops.mono fun kind member => List.mem_append_right follow member)
  have ends {rest : List Token} (stops : Stops (follow ++ kinds) rest) : Stops follow rest :=
    stops.mono fun kind member => List.mem_append_left kinds member
  rintro front (_ | result) rest front' (_ | result') rest' derived derived' same stops stops'
  · exact ⟨derived.trans derived'.symm, rfl⟩
  · obtain rfl : front = [] := derived
    obtain rfl : rest = front' ++ rest' := same
    exact (begun derived' stops).elim
  · obtain rfl : front' = [] := derived'
    obtain rfl : front ++ rest = rest' := same
    exact (begun derived stops').elim
  · obtain ⟨rfl, rfl⟩ := definite front result rest front' result' rest' derived derived' same
      (ends stops) (ends stops')
    exact ⟨rfl, rfl⟩

namespace Greedy

variable {rule : Rule α} {language other : Language α} {follow : List Token.Kind}

/-- No rule gives more tokens back than it was given, because what it gives back is the rest of
them. -/
theorem left_le (greedy : Greedy level rule language) {tokens : List Token} {trail : Trail}
    {result : α} {last : Cursor} (depth : trail.depth = level)
    (found : (rule (.ofList tokens) trail).1 = some (result, last)) : last.left ≤ tokens.length := by
  obtain ⟨front, rfl, -⟩ := greedy.derived tokens trail result last depth found
  rw [List.length_append, last.left_eq]
  exact Nat.le_add_left _ _

/-- A rule reads one language as far as it reaches if it reads the same language in other words. -/
theorem congr (greedy : Greedy level rule language)
    (same : ∀ tokens result, language tokens result ↔ other tokens result) :
    Greedy level rule other where
  keeps := greedy.keeps
  derived tokens trail result last depth found := by
    obtain ⟨front, split, derived⟩ := greedy.derived tokens trail result last depth found
    exact ⟨front, split, (same front result).mp derived⟩
  reaches front result rest trail depth derived :=
    greedy.reaches front result rest trail depth ((same front result).mpr derived)

/-- What the language derives is read as it is where it could not go on. Of what is read beyond it,
the first token would be one with which it can go on; so nothing is read beyond, and the results
agree because the language is definite. -/
theorem exact (greedy : Greedy level rule language) (definite : Definite language follow)
    {front rest : List Token} {result : α} {trail : Trail} (depth : trail.depth = level)
    (derived : language front result) (stops : Stops follow rest) :
    (rule (.ofList (front ++ rest)) trail).1 = some (result, .ofList rest) := by
  obtain ⟨given, last, found, further⟩ := greedy.reaches front result rest trail depth derived
  obtain ⟨front', split, derived'⟩ := greedy.derived _ trail given last depth found
  obtain ⟨more, rfl, rfl⟩ : ∃ more, front' = front ++ more ∧ rest = more ++ last.tokens := by
    rcases List.append_eq_append_iff.mp split with beyond | ⟨missing, rfl, short⟩
    · exact beyond
    · rw [last.left_eq, short, List.length_append] at further
      obtain rfl : missing = [] := List.length_eq_zero_iff.mp (by omega)
      exact ⟨[], by simp, by simpa using short.symm⟩
  have stops' : Stops follow more := by
    intro token isHead
    obtain ⟨later, rfl⟩ := List.head?_eq_some_iff.mp isHead
    exact stops token rfl
  obtain ⟨same, rfl⟩ := definite front result more (front ++ more) given [] derived derived'
    (by simp) stops' (by rintro _ ⟨⟩)
  obtain rfl : more = [] := by simpa using same
  rw [found, List.nil_append, Cursor.ofList_tokens]

/-- A part before more of which the first token is none it can go on with: it is read as it is, or
nothing more was to come and it is read at least. -/
theorem onward (greedy : Greedy level rule language) (definite : Definite language follow)
    {front back : List Token} {result : α} {trail : Trail} (depth : trail.depth = level)
    (derived : language front result) (begins : back ≠ [] → Stops follow back) (rest : List Token) :
    ∃ given last, (rule (.ofList (front ++ (back ++ rest))) trail).1 = some (given, last) ∧
      (back = [] ∧ last.left ≤ rest.length ∨ given = result ∧ last = .ofList (back ++ rest)) := by
  by_cases empty : back = []
  · subst empty
    obtain ⟨given, last, found, further⟩ := greedy.reaches front result rest trail depth derived
    exact ⟨given, last, found, .inl ⟨rfl, further⟩⟩
  · have stops := (begins empty).append empty rest
    exact ⟨result, _, greedy.exact definite depth derived stops, .inr ⟨rfl, rfl⟩⟩

/-- One rule after another, where a token that begins the second part is none with which the first
could go on. What is derived in two parts is read in two parts: the first is read exactly, and the
second as far as it reaches. Only where the second part is empty can the first go on, and then the
second has something to give there too. -/
theorem bind {first : Language α} {next : α → Rule β} {whole : α → Language β}
    (greedy : Greedy level rule first) (definite : Definite first follow)
    (onwards : ∀ result, Greedy level (next result) (whole result))
    (begins : ∀ result tokens made, whole result tokens made → tokens ≠ [] → Stops follow tokens)
    (uniform : ∀ result given, (∃ made, whole result [] made) → ∃ made, whole given [] made) :
    Greedy level (rule >>= next) (Then first whole) where
  keeps := greedy.keeps.bind fun result => (onwards result).keeps
  derived tokens trail made last depth read := by
    have kept := (greedy.keeps (.ofList tokens) trail).1.trans depth
    rcases found : rule (.ofList tokens) trail with ⟨_ | ⟨result, middle⟩, after⟩
    · rw [Rule.bind_of_none found] at read
      cases read
    · rw [found] at kept
      rw [Rule.bind_of_some found, ← Cursor.ofList_tokens middle] at read
      obtain ⟨front, rfl, derived⟩ := greedy.derived tokens trail result middle depth (by rw [found])
      obtain ⟨back, split, derived'⟩ := (onwards result).derived _ after made last kept read
      exact ⟨front ++ back, by rw [split, List.append_assoc], front, result, back, rfl, derived,
        derived'⟩
  reaches := by
    rintro _ made rest trail depth ⟨front, result, back, rfl, derived, derived'⟩
    obtain ⟨given, middle, found, reached⟩ := greedy.onward definite depth derived
      (begins result back made derived') rest
    rw [← List.append_assoc] at found
    have kept := (greedy.keeps (.ofList (front ++ back ++ rest)) trail).1.trans depth
    rw [Rule.bind_of_some (Prod.ext found rfl)]
    rcases reached with ⟨rfl, further⟩ | ⟨rfl, rfl⟩
    · obtain ⟨made', none⟩ := uniform result given ⟨made, derived'⟩
      obtain ⟨made'', last, read, atMost⟩ :=
        (onwards given).reaches [] made' middle.tokens _ kept none
      rw [List.nil_append, Cursor.ofList_tokens] at read
      exact ⟨made'', last, read, Nat.le_trans atMost (middle.left_eq ▸ further)⟩
    · exact (onwards given).reaches back made rest _ kept derived'

/-- What is made of the result does not change which tokens are read, nor how far. -/
theorem map (greedy : Greedy level rule language) (make : α → β) :
    Greedy level (make <$> rule) (Made language make) where
  keeps := greedy.keeps.map make
  derived tokens trail made last depth read := by
    rw [Rule.map_apply] at read
    obtain ⟨⟨result, last⟩, found, ⟨⟩⟩ := Option.map_eq_some_iff.mp read
    obtain ⟨front, split, derived⟩ := greedy.derived tokens trail result last depth found
    exact ⟨front, split, result, derived, rfl⟩
  reaches := by
    rintro front _ rest trail depth ⟨result, derived, rfl⟩
    obtain ⟨given, last, found, further⟩ := greedy.reaches front result rest trail depth derived
    exact ⟨make given, last, by rw [Rule.map_apply, found]; rfl, further⟩

/-- A rule whose result may be missing reads what is there if it is there. If the rule inside fails,
its language derives nothing from the front of the tokens, and nothing is as far as this reaches. -/
theorem optional (greedy : Greedy level rule language) :
    Greedy level (Rule.optional rule) (Maybe language) where
  keeps := greedy.keeps.optional
  derived tokens trail result last depth read := by
    rcases found : rule (.ofList tokens) trail with ⟨_ | ⟨result', rest⟩, after⟩
    · rw [Rule.optional_of_none found] at read
      cases read
      exact ⟨[], rfl, rfl⟩
    · rw [Rule.optional_of_some found] at read
      cases read
      exact greedy.derived tokens trail result' last depth (by rw [found])
  reaches := by
    rintro front (_ | result) rest trail depth derived
    · obtain rfl : front = [] := derived
      rw [List.nil_append]
      rcases found : rule (.ofList rest) trail with ⟨_ | ⟨result', last⟩, after⟩
      · exact ⟨none, .ofList rest, by rw [Rule.optional_of_none found], Nat.le_refl _⟩
      · exact ⟨some result', last, by rw [Rule.optional_of_some found],
          greedy.left_le depth (by rw [found])⟩
    · obtain ⟨given, last, found, further⟩ := greedy.reaches front result rest trail depth derived
      exact ⟨some given, last, by rw [Rule.optional_of_some (Prod.ext found rfl)], further⟩

section Repetition

variable {step : Rule α} {item : Language α} {marks : List Token.Kind}

/-- What a repetition reads are items. By induction on how many tokens there are, as every item
takes the mark that it begins with. -/
theorem derived_repeated (greedy : Greedy level step item) (leads : Leads item marks)
    {tokens : List Token} {trail : Trail} {results : List α} {last : Cursor}
    (depth : trail.depth = level)
    (read : (Rule.repeated step (.ofList tokens) trail).1 = some (results, last)) :
    ∃ front, tokens = front ++ last.tokens ∧ Star item front results := by
  induction size : tokens.length using Nat.strongRecOn generalizing tokens trail results with
  | ind size ih =>
  subst size
  have kept := (greedy.keeps (.ofList tokens) trail).1.trans depth
  rcases found : step (.ofList tokens) trail with ⟨_ | ⟨result, middle⟩, after⟩
  · rw [Rule.repeated_of_none found] at read
    cases read
    exact ⟨[], rfl, .none⟩
  · rw [found] at kept
    obtain ⟨front, split, derived⟩ :=
      greedy.derived tokens trail result middle depth (by rw [found])
    have positive := List.length_pos_iff.mpr (leads front result derived).ne_nil
    have further : middle.left < tokens.length := by
      rw [split, List.length_append, middle.left_eq]
      omega
    rw [Rule.repeated_of_some found further] at read
    dsimp only at read
    obtain ⟨⟨later, last⟩, isLater, ⟨⟩⟩ := Option.map_eq_some_iff.mp read
    rw [← Cursor.ofList_tokens middle] at isLater
    obtain ⟨back, split', others⟩ := ih _ (middle.left_eq ▸ further) kept isLater rfl
    refine ⟨front ++ back, ?_, .more front result back later derived others⟩
    rw [split, split', List.append_assoc]

/-- A repetition always gives something, if only no item. -/
theorem exists_repeated (step : Rule α) (cursor : Cursor) (trail : Trail) :
    ∃ results last, (Rule.repeated step cursor trail).1 = some (results, last) := ⟨_, _, rfl⟩

/-- A repetition reads as many items as can be derived. By induction over the items: each of them
but the last is read exactly, since a mark comes after it, and the last one reaches as far as it
can. -/
theorem repeated (greedy : Greedy level step item) (definite : Definite item follow)
    (leads : Leads item marks) (apart : ∀ kind ∈ marks, kind ∉ follow) :
    Greedy level (Rule.repeated step) (Star item) where
  keeps := greedy.keeps.repeated
  derived tokens trail results last depth read := greedy.derived_repeated leads depth read
  reaches front results rest trail depth derived := by
    have left_le {cursor last : Cursor} {trail : Trail} {results : List α}
        (depth : trail.depth = level)
        (read : (Rule.repeated step cursor trail).1 = some (results, last)) :
        last.left ≤ cursor.left := by
      rw [← Cursor.ofList_tokens cursor] at read
      obtain ⟨front, split, -⟩ := greedy.derived_repeated leads depth read
      rw [cursor.left_eq, last.left_eq, split, List.length_append]
      exact Nat.le_add_left _ _
    induction derived generalizing trail with
    | none =>
      obtain ⟨results, last, read⟩ := exists_repeated step (.ofList rest) trail
      exact ⟨results, last, read, left_le depth read⟩
    | more tokens result later results derived others ih =>
      obtain ⟨given, middle, found, reached⟩ := greedy.onward definite depth derived
        (others.stops leads apart) rest
      rw [← List.append_assoc] at found
      have kept := (greedy.keeps (.ofList (tokens ++ later ++ rest)) trail).1.trans depth
      have positive := List.length_pos_iff.mpr (leads tokens result derived).ne_nil
      have further : middle.left < (tokens ++ later ++ rest).length := by
        rw [List.length_append, List.length_append]
        rcases reached with ⟨-, atMost⟩ | ⟨-, rfl⟩
        · omega
        · rw [Cursor.left_ofList, List.length_append]
          omega
      rw [Rule.repeated_of_some (Prod.ext found rfl) further]
      rcases reached with ⟨rfl, atMost⟩ | ⟨rfl, rfl⟩
      · obtain ⟨results', last, read⟩ := exists_repeated step middle
          (step (.ofList (tokens ++ [] ++ rest)) trail).2
        exact ⟨given :: results', last, by rw [read]; rfl, Nat.le_trans (left_le kept read) atMost⟩
      · obtain ⟨results', last, read, atMost⟩ := ih _ kept
        exact ⟨given :: results', last, by rw [read]; rfl, atMost⟩

end Repetition

end Greedy

namespace Choice

variable {rule second : Rule α} {language other : Language α} {kinds others : List Token.Kind}

/-- Alternatives of which the first fails before every token that begins the second. Where the
second language derives something, the first alternative has failed without a result, and the second
one is asked at the same place. -/
theorem orElse (first : Choice level rule language kinds) (last : Choice level second other others)
    (apart : ∀ kind ∈ others, kind ∉ kinds) :
    Choice level (rule <|> second) (Either language other) (kinds ++ others) where
  asks := first.asks.orElse last.asks
  leads := first.leads.or last.leads
  greedy := by
    constructor
    case keeps => exact first.greedy.keeps.orElse last.greedy.keeps
    case derived =>
      intro tokens trail result end' depth read
      have kept := (first.greedy.keeps (.ofList tokens) trail).1.trans depth
      rcases found : rule (.ofList tokens) trail with ⟨_ | ⟨result', rest⟩, after⟩
      · rw [found] at kept
        rw [Rule.orElse_of_none found] at read
        obtain ⟨front, split, derived⟩ := last.greedy.derived tokens after result end' kept read
        exact ⟨front, split, .inr derived⟩
      · rw [Rule.orElse_of_some found] at read
        cases read
        obtain ⟨front, split, derived⟩ :=
          first.greedy.derived tokens trail result end' depth (by rw [found])
        exact ⟨front, split, .inl derived⟩
    case reaches =>
      rintro front result rest trail depth (derived | derived)
      · obtain ⟨given, end', found, further⟩ :=
          first.greedy.reaches front result rest trail depth derived
        exact ⟨given, end', by rw [Rule.orElse_of_some (Prod.ext found rfl)], further⟩
      · have stops := ((last.leads front result derived).append rest).stops apart
        rw [Rule.orElse_of_none (first.asks _ trail stops)]
        exact last.greedy.reaches front result rest _ depth derived

/-- What is made of the results keeps the kinds by which the alternative is chosen. -/
theorem map (choice : Choice level rule language kinds) (make : α → β) :
    Choice level (make <$> rule) (Made language make) kinds :=
  ⟨choice.greedy.map make, choice.asks.map make, choice.leads.map make⟩

/-- A rule for one token is chosen by the kind of that token, and reads no further than it. Before
any other token it fails and reads nothing. -/
theorem single {accepts : Token → α → Prop} (keeps : rule.Keeps) (asks : Asks rule kinds)
    (among : ∀ token result, accepts token result → token.kind ∈ kinds)
    (takes : ∀ token rest trail, token.kind ∈ kinds → ∃ result, accepts token result ∧
      (rule (.ofList (token :: rest)) trail).1 = some (result, .ofList rest)) :
    Choice level rule (Single accepts) kinds where
  asks := asks
  leads := leads_single among
  greedy := by
    constructor
    case keeps => exact keeps
    case derived =>
      intro tokens trail result last depth found
      rcases Token.head_cases (· ∈ kinds) tokens with ⟨token, rest, member, rfl⟩ | other
      · obtain ⟨result', accepted, read⟩ := takes token rest trail member
        cases read.symm.trans found
        exact ⟨[token], rfl, token, rfl, accepted⟩
      · rw [asks tokens trail other] at found
        cases found
    case reaches =>
      rintro _ result rest trail depth ⟨token, rfl, accepted⟩
      obtain ⟨result', -, read⟩ := takes token rest trail (among token result accepted)
      exact ⟨result', .ofList rest, read, Nat.le_refl _⟩

/-- A bracket is opened where there is room for one more, and what stands inside is read one level
further inside. The depth is back at its level afterwards, because the rule inside keeps it. -/
theorem bracketed {limit : Nat} {opening : Symbol} (keeps : rule.Keeps)
    (greedy : level < limit → Greedy (level + 1) rule language) :
    Choice level (Rule.bracketed limit opening rule)
      (fun tokens result => level < limit ∧ Opened opening language tokens result)
      [.symbol opening] where
  asks := Asks.bracketed limit opening rule
  leads := by
    rintro _ result ⟨_, rest, rfl, isOpening, _⟩
    exact ⟨result.1, rfl, List.mem_singleton.mpr isOpening⟩
  greedy := by
    constructor
    case keeps => exact keeps.bracketed limit opening
    case derived =>
      intro tokens trail result last depth read
      rcases Token.head_cases (· = .symbol opening) tokens with
        ⟨token, rest, isOpening, rfl⟩ | other
      · by_cases room : level < limit
        · rw [Rule.bracketed_of_room isOpening (by omega)] at read
          obtain ⟨⟨inner, last⟩, found, ⟨⟩⟩ := Option.map_eq_some_iff.mp read
          obtain ⟨front, split, derived⟩ := (greedy room).derived rest trail.enter inner last
            (congrArg (· + 1) depth) found
          exact ⟨token :: front, by rw [split]; rfl, room, front, rfl, isOpening, derived⟩
        · rw [Rule.bracketed_of_full isOpening (by omega)] at read
          cases read
      · rw [Rule.bracketed_of_not_kind other] at read
        cases read
    case reaches =>
      rintro _ ⟨token, result⟩ rest trail depth ⟨room, front, rfl, isOpening, derived⟩
      obtain ⟨given, last, found, further⟩ :=
        (greedy room).reaches front result rest trail.enter (congrArg (· + 1) depth) derived
      refine ⟨(token, given), last, ?_, further⟩
      rw [List.cons_append, Rule.bracketed_of_room isOpening (by omega), found]
      rfl

end Choice

end Formula.Grammar
