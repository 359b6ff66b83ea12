import Formula.Proofs.Token.Longest

/-!
# Identifiers as texts

An identifier by itself is one token, a truth value or a name, except for one kind. Whether a truth
value stands at the front of a line is decided by where a word ends, and a word ends before a
superscript or a fraction, with which a name goes on. So of an identifier that goes on after a truth
value with one of these only the truth value is read, and what is left begins no token.
-/

namespace Formula

open CharClass

/-- An identifier is a letter or an underscore, and then letters, numerals and underscores. -/
def IsIdentifier (word : String) : Prop :=
  ∃ c later, word.toList = c :: later ∧ isNameStart c = true ∧ ∀ d ∈ later, isNamePart d = true

/-- A truth value and then more, beginning with a character before which a word ends. -/
def IsTorn (word : String) (truth : Bool) (c : Char) : Prop :=
  ∃ more, word.toList = (toString truth).toList ++ c :: more ∧ isWordPart c = false

section Identifiers

variable {word : String} (isIdentifier : IsIdentifier word)

include isIdentifier

/-- All characters of an identifier are parts of names. -/
theorem IsIdentifier.all_isNamePart : ∀ d ∈ word.toList, isNamePart d = true := by
  obtain ⟨c, later, split, start, parts⟩ := isIdentifier
  rw [split]
  exact List.forall_mem_cons.mpr ⟨isNamePart_of_isNameStart c start, parts⟩

/-- So an identifier stands on one line. -/
theorem IsIdentifier.noFeed : '\n' ∉ word.toList := by
  intro member
  exact absurd (isIdentifier.all_isNamePart '\n' member) (by decide +kernel)

/-- An identifier that neither is a truth value nor is torn after one is a name. It cannot start
with a truth value as a word, because what follows the truth value would tear it; so the rule for
names takes all of it. -/
theorem IsIdentifier.stands_name (noTruth : ∀ truth : Bool, word ≠ toString truth)
    (whole : ∀ truth c, ¬IsTorn word truth c) : Front.Stands .name word.toList := by
  have noStart (truth : Bool) :
      Front.startsWith (toString truth).toList word.toList = false := by
    apply eq_false_of_ne_true
    intro starts
    obtain ⟨begins, -⟩ := Bool.and_eq_true_iff.mp starts
    obtain ⟨rest, split⟩ := List.isPrefixOf_iff_prefix.mp begins
    rw [← split, Front.startsWith_append_self] at starts
    cases rest with
    | nil =>
      rw [List.append_nil, String.toList_inj] at split
      exact noTruth truth split.symm
    | cons c more =>
      have ends : isWordPart c = false := by simpa [Front.endsWord] using starts
      exact whole truth c ⟨more, split.symm, ends⟩
  have isRun : Front.word word.toList = ⟨.token .name, word.toList, []⟩ := by
    obtain ⟨truth, starts, -⟩ | ⟨-, isName⟩ := Front.word_cases word.toList
    · cases (noStart truth).symm.trans starts
    · rw [isName, Front.run_of_all _ isIdentifier.all_isNamePart]
  obtain ⟨c, later, split, start, -⟩ := isIdentifier
  refine ⟨c, later, split, ?_⟩
  rw [Front.ofChars_nameStart start, ← split, isRun]

end Identifiers

/-- At the front of a word that is torn after a truth value, the truth value is a token, since the
character after it belongs to no word. -/
theorem Front.word_of_torn {truth : Bool} {c : Char} (ends : isWordPart c = false)
    (more : List Char) : word ((toString truth).toList ++ c :: more) =
      ⟨.token (.boolean truth), (toString truth).toList, c :: more⟩ := by
  have starts : startsWith (toString truth).toList ((toString truth).toList ++ c :: more) = true := by
    rw [startsWith_append_self, endsWord, ends]
    rfl
  obtain ⟨other, starts', isTruth⟩ | ⟨noTruth, -⟩ :=
    word_cases ((toString truth).toList ++ c :: more)
  · have same : other = truth := by
      cases truth <;> cases other
      case true.true | false.false => rfl
      all_goals cases starts'
    rw [isTruth, same, ← String.length_toList, List.drop_left]
  · cases (noTruth truth).symm.trans starts

namespace Token

section Lines

variable {word : String} {c : Char} {later : List Char} (noFeed : '\n' ∉ word.toList)
  (split : word.toList = c :: later)

include noFeed split

/-- A text on one line is read as its front and then what is left of it, from the first position
on. -/
theorem ofText_of_front {front : Front} (found : Front.ofChars c later = .ok front) :
    ofText word = match ({ Draft.empty with lines := 1 }.add .first front).readFrom
        (Position.first.advance (byteLength front.lexeme)) front.rest with
      | (_, some error) => .error error
      | (draft, none) => draft.finish := by
  have line := ofText_of_line noFeed (by simp [split])
  have place : (⟨1, 1⟩ : Position) = .first := rfl
  rw [String.ofList_toList, split, place, Draft.readFrom_of_ok rfl found] at line
  exact line

end Lines

/-- A text that is a token by itself. -/
theorem ofText_of_stands {word : String} {content : Content} (noFeed : '\n' ∉ word.toList)
    (stands : Front.Stands content word.toList) :
    ofText word = .ok [⟨content, word, .within .first (byteLength word.toList)⟩] := by
  obtain ⟨c, later, split, front⟩ := stands
  rw [ofText_of_front noFeed split front, Draft.readFrom_nil rfl]
  simp only [Draft.finish, Draft.add, Draft.empty, String.ofList_toList]
  rfl

/-- Of a torn identifier only the truth value is a token, and a fault stands right after it. The
character there belongs to names but not to words, and no piece begins with such a character. -/
theorem ofText_of_torn {word : String} {truth : Bool} {c : Char} (isIdentifier : IsIdentifier word)
    (torn : IsTorn word truth c) :
    ofText word = .error ⟨.invalidCharacter c, ⟨1, (toString truth).length + 1⟩⟩ := by
  obtain ⟨more, written, ends⟩ := torn
  have named : isNamePart c = true := by
    apply isIdentifier.all_isNamePart
    simp [written]
  have fault : Front.ofChars c more = .error (.invalidCharacter c) :=
    Front.ofChars_of_ne (by simp [ends, named]) more
  have noFeed := isIdentifier.noFeed
  obtain ⟨d, later, split, start, -⟩ := isIdentifier
  have front : Front.ofChars d later =
      .ok ⟨.token (.boolean truth), (toString truth).toList, c :: more⟩ := by
    rw [Front.ofChars_nameStart start, ← split, written, Front.word_of_torn ends]
  rw [ofText_of_front noFeed split front, Draft.readFrom_of_error rfl fault]
  cases truth <;> rfl

/-- An identifier by itself is one token: a truth value if it is spelled like one, and a name
otherwise, unless it is torn. Then it is no text. The three cases are those in which the rule for
words reads all of it, or only the truth value at its front. -/
theorem ofText_of_isIdentifier {word : String} (isIdentifier : IsIdentifier word) :
    (∀ truth : Bool, word = toString truth →
      ofText word = .ok [⟨.boolean truth, word, .within .first (byteLength word.toList)⟩]) ∧
    ((∀ truth : Bool, word ≠ toString truth) → (∀ truth c, ¬IsTorn word truth c) →
      ofText word = .ok [⟨.name, word, .within .first (byteLength word.toList)⟩]) ∧
    ∀ truth c, IsTorn word truth c →
      ofText word = .error ⟨.invalidCharacter c, ⟨1, (toString truth).length + 1⟩⟩ := by
  refine ⟨?_, ?_, ?_⟩
  · rintro truth rfl
    apply ofText_of_stands isIdentifier.noFeed
    cases truth
    · exact Front.stands_boolean false
    · exact Front.stands_boolean true
  · intro noTruth whole
    exact ofText_of_stands isIdentifier.noFeed (isIdentifier.stands_name noTruth whole)
  · intro truth c torn
    exact ofText_of_torn isIdentifier torn

/-- A name that goes on after a truth value with a letter, and only then with a superscript. -/
theorem ofText_of_isIdentifier_name : IsIdentifier "trueé²" ∧
    ofText "trueé²" = .ok [⟨.name, "trueé²", .within .first 8⟩] := by
  have isIdentifier : IsIdentifier "trueé²" := by
    have parts : ['r', 'u', 'e', 'é', '²'].all isNamePart = true := by decide +kernel
    exact ⟨'t', _, rfl, by decide +kernel, List.all_eq_true.mp parts⟩
  have noTruth : ∀ truth : Bool, "trueé²" ≠ toString truth := by decide
  have whole : ∀ truth c, ¬IsTorn "trueé²" truth c := by
    rintro truth c ⟨more, split, ends⟩
    cases truth with
    | false => cases split
    | true =>
      cases split
      exact absurd ends (by decide +kernel)
  exact ⟨isIdentifier, (ofText_of_isIdentifier isIdentifier).2.1 noTruth whole⟩

/-- There are identifiers that are torn: `true` with a superscript is one, and no token by itself. -/
theorem isIdentifier_torn : IsIdentifier "true²" ∧
    ¬∃ token, ofText "true²" = .ok [token] ∧ token.lexeme = "true²" := by
  have isIdentifier : IsIdentifier "true²" := by
    have parts : ['r', 'u', 'e', '²'].all isNamePart = true := by decide +kernel
    exact ⟨'t', _, rfl, by decide +kernel, List.all_eq_true.mp parts⟩
  have torn : IsTorn "true²" true '²' := ⟨[], rfl, by decide +kernel⟩
  refine ⟨isIdentifier, ?_⟩
  rintro ⟨token, read, -⟩
  cases (ofText_of_torn isIdentifier torn).symm.trans read

end Token

end Formula
