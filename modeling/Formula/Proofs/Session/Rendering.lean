import Formula.Proofs.Grammar.Exact
import Formula.Proofs.Session.Joined
import Formula.Proofs.Value.Meaning
import Formula.Proofs.Value.Signs
import Formula.Session

/-!
# Values and the texts that give them back

The text of a value is run as one line. If every number in the value has a literal, the words of the
text are an expression that evaluates to the value. If some number has a sign, the text is no
statement, if it can be cut into tokens at all; if none has, but some number is infinite or no
number, the expression names something that is not bound. Whatever happens, nothing is bound.
-/

namespace Formula

section Tokens

variable {chars : List Char} (noFeed : '\n' ∉ chars) (nonempty : chars ≠ [])

include noFeed nonempty

/-- What adds words up to the end of a line is cut into tokens with these words. -/
theorem ofText_of_adds {words : List Word} (adds : Draft.Adds chars [] words) :
    ∃ tokens, Token.ofText (String.ofList chars) = .ok tokens ∧
      tokens.map Token.word = words := by
  obtain ⟨after, position, outside, added, read⟩ :=
    adds { Draft.empty with lines := 1 } ⟨1, 1⟩ rfl
  rw [List.append_nil, Draft.readFrom_nil outside] at read
  refine ⟨after.tokens.toList, ?_, added⟩
  rw [ofText_of_line noFeed nonempty, read]
  simp only [Draft.finish, outside]

/-- Tokens of a text that breaks at a sign have a minus where a value is led to. The words before
the break are added first, then the sign is read as a minus, and what is read later comes after
it. -/
theorem minus_of_breaks (breaks : Breaks [] chars) {tokens : List Token}
    (found : Token.ofText (String.ofList chars) = .ok tokens) :
    ∃ front minus rest, tokens = front ++ minus :: rest ∧ minus.kind = .symbol .minus ∧
      Leading (front.map Token.word) := by
  rw [ofText_of_line noFeed nonempty] at found
  obtain ⟨front, rest, words, rfl, adds, leading⟩ := breaks
  obtain ⟨after, position, outside, added, read⟩ :=
    adds { Draft.empty with lines := 1 } ⟨1, 1⟩ rfl
  have sign : Front.ofChars '-' rest = .ok ⟨.token (.symbol .minus), ['-'], rest⟩ :=
    Front.ofChars_symbol (by decide : Symbol.minus ≠ .slash) rest
  rw [read, Draft.readFrom_of_ok outside sign] at found
  have kept := Draft.words_readFrom (after.add position ⟨.token (.symbol .minus), ['-'], rest⟩)
    (position.advance (byteLength ['-'])) rest
  rcases result : Draft.readFrom (after.add position ⟨.token (.symbol .minus), ['-'], rest⟩)
    (position.advance (byteLength ['-'])) rest with ⟨final, _ | error⟩
  · rw [result] at found kept
    obtain ⟨more, split⟩ := kept
    have whole : tokens.map Token.word = words ++ Symbol.minus.word :: more := by
      rw [Draft.words_of_finish found, ← split, Draft.words_add, added, List.append_assoc]
      rfl
    obtain ⟨before, others, rfl, same, written⟩ := List.map_eq_append_iff.mp whole
    obtain ⟨minus, later, rfl, isMinus, -⟩ := List.map_eq_cons_iff.mp written
    refine ⟨before, minus, later, rfl, Value.kind_of_word isMinus, ?_⟩
    rw [same]
    exact leading
  · rw [result] at found
    cases found

end Tokens

namespace Session

section Running

variable {session : Session} {value : Value} (plain : ∀ part ∈ value.parts, part.IsPlain)

include plain

/-- A sign in the text of a value is an error, in its tokens or before there are any. If there are
tokens, a minus stands where an operand is awaited, and the grammar does not pass it. -/
theorem run_of_signed (signed : ¬∀ part ∈ value.parts, ¬part.IsSigned) :
    ∃ error, session.run value.text = (.error error, session) := by
  obtain ⟨c, later, begins, -⟩ := value.chars_begin
  have nonempty : value.chars ≠ [] := by simp [begins]
  have noFeed := value.feed_not_mem_chars plain
  have breaks : Breaks [] value.chars := by
    have leading : Leading [] := by
      rintro _ ⟨⟩
    have whole := value.breaks_chars leading [] plain signed
    rw [List.append_nil] at whole
    exact whole
  unfold run
  cases found : Token.ofText value.text with
  | error error => exact ⟨.lexical error, rfl⟩
  | ok tokens =>
    obtain ⟨front, minus, rest, rfl, isMinus, leading⟩ :=
      minus_of_breaks noFeed nonempty breaks found
    cases read : Statement.ofTokens (front ++ minus :: rest) with
    | error error =>
      refine ⟨.syntactic error, ?_⟩
      simp [execute, read]
    | ok statement =>
      exact (Grammar.not_derives_of_leading isMinus leading statement
        (Grammar.ofTokens_eq_ok_iff.mp read)).elim

/-- Without signs, the text of a value is run as an expression. Its tokens are those of the value,
and the grammar derives from them an expression that gives the value. -/
theorem run_of_unsigned (distinct : ∀ part ∈ value.parts, part.HasDistinctKeys)
    (shallow : value.depth ≤ maxNesting) (unnamed : Value.Unnamed session.bindings)
    (unsigned : ∀ part ∈ value.parts, ¬part.IsSigned) :
    ∃ expr : Expr, Gives value.parts value (expr.eval session.bindings) ∧
      session.run value.text = match expr.eval session.bindings with
        | .error error => (.error (.evaluation error), session)
        | .ok shown => (.ok (some (.value shown)), session) := by
  obtain ⟨c, later, begins, -⟩ := value.chars_begin
  have nonempty : value.chars ≠ [] := by simp [begins]
  obtain ⟨tokens, found, written⟩ := ofText_of_adds (value.feed_not_mem_chars plain) nonempty
    (value.adds_chars Front.separates_nil plain unsigned)
  obtain ⟨expr, derived, given⟩ := Value.reads_words unnamed value shallow distinct unsigned written
  have read : Statement.ofTokens tokens = .ok (.expression expr) :=
    Grammar.ofTokens_eq_ok_iff.mpr (.expression tokens expr derived)
  have notEmpty : tokens.isEmpty = false := by
    simpa using Grammar.nested_ne_nil derived
  refine ⟨expr, given, ?_⟩
  rw [run, Value.text, found]
  simp only [execute, notEmpty, read, Statement.eval]
  rcases expr.eval session.bindings with error | shown <;> rfl

end Running

/-- The text of a value gives the value back if all its numbers have literals, and an error
otherwise, and the session stays as it is.

A part with a sign is told apart first: it is an error when the tokens are read. Without signs the
text is an expression, which gives the value or, where a number is not finite, the error of a name
that is not bound. -/
theorem run_text (session : Session) (value : Value)
    (plain : ∀ part ∈ value.parts, part.IsPlain)
    (distinct : ∀ part ∈ value.parts, part.HasDistinctKeys)
    (shallow : value.depth ≤ maxNesting)
    (noInfinity : session.bindings.get? "inf" = none)
    (noNumber : session.bindings.get? "NaN" = none) :
    ((∀ part ∈ value.parts, part.HasLiteral) →
      session.run value.text = (.ok (some (.value value)), session)) ∧
    ((∃ part ∈ value.parts, ¬part.HasLiteral) →
      ∃ error, session.run value.text = (.error error, session)) := by
  by_cases unsigned : ∀ part ∈ value.parts, ¬part.IsSigned
  · obtain ⟨expr, given, ran⟩ :=
      run_of_unsigned plain distinct shallow ⟨noInfinity, noNumber⟩ unsigned
    constructor
    · intro all
      rw [ran, given.whole all]
    · rintro ⟨part, member, without⟩
      obtain ⟨error, failed⟩ := given.fault part member without
      rw [ran, failed]
      exact ⟨.evaluation error, rfl⟩
  · constructor
    · intro all
      exact (unsigned fun part member => (all part member).not_isSigned).elim
    · intro _
      exact run_of_signed plain unsigned

/-- A list with a dictionary in it is given back; a list with a negative number is not. -/
theorem run_text_nested :
    Session.empty.run "[7, 0.5, \x7b\"a\": true\x7d]" =
      (.ok (some (.value (.list [.integer 7, .float 0.5, .dictionary [("a", .boolean true)]]))),
        Session.empty) ∧
    ∃ error, Session.empty.run "[-7]" = (.error error, Session.empty) := by
  have text : Value.text (.list [.integer 7, .float 0.5, .dictionary [("a", .boolean true)]]) =
      "[7, 0.5, \x7b\"a\": true\x7d]" := by
    decide +kernel
  have text' : Value.text (.list [.integer (-7)]) = "[-7]" := by
    decide +kernel
  rw [← text, ← text']
  constructor
  · refine (run_text .empty _ ?_ ?_ ?_ rfl rfl).1 ?_
    · simp [Value.parts, Value.itemParts, Value.entryParts, Value.IsPlain, Value.Quotable,
        Entries.keys]
    · simp [Value.parts, Value.itemParts, Value.entryParts, Value.HasDistinctKeys,
        Entries.Distinct, Entries.keys]
    · decide
    · have half : (0.5 : Float).isFinite = true ∧ Binary64.isNegative 0.5 = false := by
        decide +kernel
      simp [Value.parts, Value.itemParts, Value.entryParts, Value.HasLiteral, half]
  · refine (run_text .empty _ ?_ ?_ ?_ rfl rfl).2 ?_
    · simp [Value.parts, Value.itemParts, Value.IsPlain]
    · simp [Value.parts, Value.itemParts, Value.HasDistinctKeys]
    · decide
    · have negative : ¬(0 : Int) ≤ Int64.toInt (-7) := by decide
      exact ⟨.integer (-7), by simp [Value.parts, Value.itemParts], negative⟩

end Session

end Formula
