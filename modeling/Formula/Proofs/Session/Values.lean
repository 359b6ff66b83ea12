import Formula.Proofs.Session.Evaluations
import Formula.Proofs.Token.Fronts
import Formula.Proofs.Value.Quotations

/-!
# The values of a session

Two things are true of all values that a session binds or returns. No string and no key in them has
a quote or a line feed, because literals have none and joining strings adds none; and no dictionary
holds a key twice. So the text of a value shows where each of its strings ends, though nothing in it
is escaped.
-/

namespace Formula

namespace Front

/-- A string on one line can be quoted. Its lexeme is the text between two quotes, so there is
neither a quote in the text nor a line feed. -/
theorem Stands.quotable {text : String} {chars : List Char} (stands : Stands (.string text) chars)
    (oneLine : '\n' ∉ chars) : Value.Quotable text := by
  obtain ⟨c, later, rfl, found⟩ := stands
  obtain ⟨other, -⟩ | ⟨other, -⟩ | ⟨-, isString⟩ | ⟨other, -⟩ := token_cases found
  · simp [Token.Content.kind] at other
  · simp [Token.Content.kind] at other
  · obtain ⟨body, same, noQuote, isLexeme, -⟩ := string_eq_ok isString
    obtain rfl := Token.Content.string.inj same
    rw [isLexeme] at oneLine
    constructor
    · simpa using noQuote
    · intro member
      apply oneLine
      simp at member
      simp [member]
  · simp [Token.Content.kind] at other

end Front

namespace Value

/-- Every string and key in a value can be quoted, and no dictionary in it holds a key twice. -/
def IsClean (value : Value) : Prop := ∀ part ∈ value.parts, part.IsPlain ∧ part.HasDistinctKeys

/-- A value without further parts is clean if it is plain and has distinct keys itself. -/
theorem isClean_of_scalar {value : Value} (scalar : value.parts = [value]) (plain : value.IsPlain)
    (distinct : value.HasDistinctKeys) : value.IsClean := by
  intro part isPart
  rw [scalar] at isPart
  obtain rfl := List.mem_singleton.mp isPart
  exact ⟨plain, distinct⟩

/-- A string that is clean can be quoted. -/
theorem IsClean.quotable {text : String} (clean : (string text).IsClean) : Quotable text :=
  (clean (.string text) List.mem_cons_self).1

/-- Whatever is made from such values is one. Two strings that can be quoted can be quoted when they
are joined, and a setting does not bring in a key twice. -/
theorem graded_isClean : Graded fun _ value => value.IsClean where
  mono _ clean := clean
  applied := by
    intro level value operator left right applied cleanLeft cleanRight
    obtain ⟨number, rfl⟩ | ⟨number, rfl⟩ | ⟨first, second, rfl, rfl, rfl⟩ :=
      Operator.apply_eq_ok applied
    · exact isClean_of_scalar rfl trivial trivial
    · exact isClean_of_scalar rfl trivial trivial
    · refine isClean_of_scalar rfl ?_ trivial
      have ofFirst := cleanLeft.quotable
      have ofSecond := cleanRight.quotable
      constructor
      · simp [ofFirst.1, ofSecond.1]
      · simp [ofFirst.2, ofSecond.2]
  list clean := forall_parts_list.mpr ⟨⟨trivial, trivial⟩, forall_itemParts_iff.mpr clean⟩
  dictionary := by
    intro level entries distinct clean
    refine forall_parts_dictionary.mpr ⟨⟨?_, distinct⟩, ?_⟩
    · intro key isKey
      obtain ⟨entry, member, rfl⟩ := List.mem_map.mp isKey
      exact (clean entry member).1.quotable
    · exact forall_entryParts_iff.mpr fun entry member => (clean entry member).2

end Value

namespace Session

/-- A value that is bound now, or that one of the replies has reported. -/
def Knows (session : Session) (replies : List Reply) (value : Value) : Prop :=
  (∃ name, session.bindings.get? name = some value) ∨
    ∃ reply ∈ replies, ∃ outcome, reply.outcome? = some outcome ∧ outcome.result = value

variable {property : Nat → Value → Prop} {value : Value}

/-- What the statements of a session keep holds of all values that it knows. These are the outcomes
that it has reported and the values that are bound in the end, and both come from its
evaluations. -/
theorem knows_of_graded (graded : Value.Graded property) (requests : List Request)
    (literals : ∀ token, Fed (requests.filterMap Request.line?) token → ∀ value,
      token.value? = some value → property 0 value)
    (known : (empty.answers requests).2.Knows (empty.answers requests).1 value) :
    property (maxNesting * ((empty.answers requests).1.filterMap Reply.outcome?).length) value := by
  have nothing : empty.Begun [] := begun_nil rfl
  have evaluations := nothing.evaluations requests
  rw [List.nil_append] at evaluations
  have unbound : ∀ name value, empty.bindings.get? name = some value → property 0 value := by
    intro name value found
    cases found
  obtain ⟨results, bound⟩ := graded.evaluations literals unbound evaluations
  rw [Nat.zero_add] at results bound
  obtain ⟨name, found⟩ | ⟨reply, member, outcome, reported, rfl⟩ := known
  · exact bound name value found
  · exact results outcome (List.mem_filterMap.mpr ⟨reply, member, reported⟩)

/-- As long as no line is fed with a line feed in it, every value that a session knows is clean.
Literals are, as string tokens have neither quotes nor line feeds in them, and the rest is made from
these. -/
theorem isClean_of_knows {requests : List Request}
    (noFeed : ∀ line, .feed line ∈ requests → '\n' ∉ line.toList)
    (known : (empty.answers requests).2.Knows (empty.answers requests).1 value) :
    value.IsClean := by
  refine knows_of_graded Value.graded_isClean requests ?_ known
  intro token fed value denotes
  have oneLine : '\n' ∉ token.lexeme.toList := by
    intro feed
    obtain ⟨line, isLine, inLine⟩ := fed.2 feed
    obtain ⟨request, member, isFeed⟩ := List.mem_filterMap.mp isLine
    cases request with
    | feed other =>
      obtain rfl : other = line := Option.some.inj isFeed
      exact noFeed other member inLine
    | run | finish | reset => cases isFeed
  obtain ⟨content, lexeme, span⟩ := token
  cases content with
  | string text =>
    obtain rfl := Option.some.inj denotes
    exact Value.isClean_of_scalar rfl (Front.Stands.quotable fed.1 oneLine) trivial
  | integer | float | boolean =>
    obtain rfl := Option.some.inj denotes
    exact Value.isClean_of_scalar rfl trivial trivial
  | name | symbol => cases denotes

/-- As long as no line is fed with a line feed in it, every string and every key in every value that
a session binds or returns is without quotes and line feeds, and no dictionary among its parts holds
a key twice. So the strings and keys are what stands between quotes in the text of the value.

Literals have these properties, and whatever is made from values that have them has them as well. -/
theorem answers_isClean (requests : List Request)
    (noFeed : ∀ line, .feed line ∈ requests → '\n' ∉ line.toList) (value : Value)
    (known : (empty.answers requests).2.Knows (empty.answers requests).1 value) :
    (∀ part ∈ value.parts, part.IsPlain ∧ part.HasDistinctKeys) ∧
      betweenQuotes none value.chars = value.quotations := by
  have clean : value.IsClean := isClean_of_knows noFeed known
  refine ⟨clean, ?_⟩
  have found := value.betweenQuotes_chars (fun part isPart => (clean part isPart).1) []
  rwa [List.append_nil, betweenQuotes, List.append_nil] at found

/-- Two strings joined, in a dictionary over two lines that has one key twice. -/
theorem answers_isClean_two_lines :
    let requests := [.run "x = \"a \" + \"b\"", .feed "y = \x7b\"k\": 1, \"l\": [x],",
      .feed "\"k\": x\x7d"]
    ∃ value, (empty.answers requests).2.bindings.get? "y" = some value ∧
      (∀ part ∈ value.parts, part.IsPlain ∧ part.HasDistinctKeys) ∧
      betweenQuotes none value.chars = ["k", "a b", "l", "a b"] := by
  intro requests
  have kept : ((empty.answers requests).2.bindings.get? "y").map Value.quotations =
      some ["k", "a b", "l", "a b"] := by decide +kernel
  obtain ⟨value, found, quotations⟩ := Option.map_eq_some_iff.mp kept
  have noFeed : ∀ line, .feed line ∈ requests → '\n' ∉ line.toList := by
    intro line isFeed
    have known : line = "y = \x7b\"k\": 1, \"l\": [x]," ∨ line = "\"k\": x\x7d" := by
      simpa [requests] using isFeed
    obtain rfl | rfl := known <;> decide
  obtain ⟨clean, read⟩ := answers_isClean requests noFeed value (.inl ⟨"y", found⟩)
  exact ⟨value, found, clean, read.trans quotations⟩

end Session

end Formula
