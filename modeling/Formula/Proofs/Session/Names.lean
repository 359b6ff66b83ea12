import Formula.Proofs.Session.Evaluations
import Formula.Proofs.Session.Rendering

/-!
# What has been bound can be read

A name is bound as it stood in an assignment, and it is read as it stands by itself. Both times it
is the same token, because an assignment that is evaluated comes from lines without a fault. This is
why no name is bound that is spelled like a truth value. There are texts with such a name in them:
one in which a combining mark comes after `true`. But no text goes on with the mark.
-/

namespace Formula

/-- Characters that are a name if they stand by themselves. -/
def IsName (name : String) : Prop := Front.Stands .name name.toList

namespace IsName

variable {name : String}

/-- A truth value is no name, as the tokenizer finds a truth value at the front of it. -/
theorem ne_boolean (isName : IsName name) : name ≠ "true" ∧ name ≠ "false" := by
  refine ⟨?_, ?_⟩ <;> rintro rfl <;> obtain ⟨c, later, begins, found⟩ := isName <;> cases begins <;>
    cases found

/-- A name is read as an expression, which is that name. It is cut into one token, and the grammar
derives the expression from this token. -/
theorem reads (isName : IsName name) : ∃ tokens span, Token.ofText name = .ok tokens ∧
    Statement.ofTokens tokens = .ok (.expression (.name ⟨name, span⟩)) ∧ tokens ≠ [] := by
  obtain ⟨c, later, begins, -⟩ := isName.begins
  have nonempty : name.toList ≠ [] := by simp [begins]
  have noFeed : '\n' ∉ name.toList := by
    intro member
    exact absurd (isName.isNamePart '\n' member) (by decide +kernel)
  have adds := Draft.adds_word isName Front.separates_nil
  obtain ⟨tokens, found, written⟩ := ofText_of_adds noFeed nonempty adds
  obtain ⟨token, rfl, content, lexeme⟩ := Value.exists_single written
  have isKind : token.kind = .name := congrArg Token.Content.kind content
  rw [String.ofList_toList] at found lexeme
  refine ⟨[token], token.span, found, ?_, List.cons_ne_nil token []⟩
  have derived : Grammar.Nested maxNesting [token] (.name ⟨token.lexeme, token.span⟩) :=
    Grammar.nested_name isKind
  rw [show token.lexeme = name from lexeme] at derived
  exact Grammar.ofTokens_eq_ok_iff.mpr (.expression [token] _ derived)

end IsName

section Mark

open CharClass

variable (truth : Bool) {mark : Char} (inWord : isWordPart mark = true)
variable (notNamed : isNamePart mark = false)

include inWord notNamed

/-- Before a character that belongs to words but not to names, a truth value is a name. It does not
end there as a word, so it is read by the rule for names, and a name ends there. -/
theorem Front.ofChars_before_mark : ∃ c later, (toString truth).toList = c :: later ∧
    ofChars c (later ++ [mark]) = .ok ⟨.token .name, c :: later, [mark]⟩ := by
  have stops : ∀ c ∈ [mark].head?, isNamePart c = false := by simpa using notNamed
  have all : (toString truth).toList.all isNamePart = true := by
    cases truth <;> decide +kernel
  have taken := run_append (.token .name) stops (toString truth).toList
  rw [run_of_all _ (List.all_eq_true.mp all)] at taken
  cases truth with
  | false =>
    have start : isNameStart 'f' = true := by decide +kernel
    have goesOn : startsWith ['f', 'a', 'l', 's', 'e'] ['f', 'a', 'l', 's', 'e', mark] = false := by
      simp [startsWith, endsWord, inWord]
    have other : startsWith ['t', 'r', 'u', 'e'] ['f', 'a', 'l', 's', 'e', mark] = false := rfl
    refine ⟨'f', ['a', 'l', 's', 'e'], rfl, ?_⟩
    rw [ofChars_nameStart start]
    refine congrArg Except.ok ?_
    exact (if_neg (ne_true_of_eq_false other)).trans
      ((if_neg (ne_true_of_eq_false goesOn)).trans taken)
  | true =>
    have start : isNameStart 't' = true := by decide +kernel
    have goesOn : startsWith ['t', 'r', 'u', 'e'] ['t', 'r', 'u', 'e', mark] = false := by
      simp [startsWith, endsWord, inWord]
    have other : startsWith ['f', 'a', 'l', 's', 'e'] ['t', 'r', 'u', 'e', mark] = false := rfl
    refine ⟨'t', ['r', 'u', 'e'], rfl, ?_⟩
    rw [ofChars_nameStart start]
    refine congrArg Except.ok ?_
    exact (if_neg (ne_true_of_eq_false goesOn)).trans
      ((if_neg (ne_true_of_eq_false other)).trans taken)

/-- But then there is a fault, so no text has such a name among its tokens. The character that ended
the name begins no piece. -/
theorem Draft.ofText_before_mark : ∃ draft : Draft, draft.words = [⟨.name, toString truth⟩] ∧
    ofText (toString truth ++ String.singleton mark) =
      (draft, some ⟨.invalidCharacter mark, ⟨1, (toString truth).length + 1⟩⟩) := by
  obtain ⟨c, later, spelled, front⟩ := Front.ofChars_before_mark truth inWord notNamed
  have noFeed : '\n' ∉ c :: (later ++ [mark]) := by
    have differs : '\n' ≠ mark := by
      rintro rfl
      exact absurd inWord (by decide +kernel)
    have free : '\n' ∉ (toString truth).toList := by cases truth <;> decide
    rw [← List.cons_append, ← spelled]
    simp [differs, free]
  have text : toString truth ++ String.singleton mark = String.ofList (c :: (later ++ [mark])) := by
    rw [← List.cons_append, ← spelled, String.ofList_append, String.ofList_toList,
      String.singleton_eq_ofList]
  have bytes : byteLength (c :: later) = (toString truth).length := by
    rw [← spelled]
    cases truth <;> rfl
  let counted : Draft := { Draft.empty with lines := 1 }
  refine ⟨counted.add ⟨1, 1⟩ ⟨.token .name, c :: later, [mark]⟩, ?_, ?_⟩
  · rw [words_add, ← spelled, String.ofList_toList]
    rfl
  · rw [text, ofText_of_line noFeed (by simp), readFrom_of_ok rfl front]
    rw [← bytes, Nat.add_comm]
    have differs : isWordPart mark ≠ isNamePart mark := by simp [inWord, notNamed]
    exact readFrom_of_error rfl (Front.ofChars_of_ne differs [])

end Mark

section Assigning

variable {allowed : Token → Prop} {before last : Bindings} {name : String} {value : Value}
variable (stands : ∀ token, allowed token → token.word.Stands)

include stands

/-- Tokens that stand by themselves assign to a name. The target of an assignment is its first
token, which stands by itself as one. -/
theorem Evaluation.isName (evaluation : Evaluation allowed before (.assigned name value)) :
    IsName name := by
  obtain ⟨tokens, statement, each, read, evaluated⟩ := evaluation.exists_statement
  cases statement with
  | expression expr =>
    obtain ⟨result, -, impossible⟩ := bind_eq_ok_iff.mp evaluated
    cases impossible
  | assignment target expr =>
    obtain ⟨result, -, isOutcome⟩ := bind_eq_ok_iff.mp evaluated
    cases isOutcome
    cases Grammar.ofTokens_eq_ok_iff.mp read with
    | assignment token equal rest _ isName assigns derived =>
      have stood := stands token (each token List.mem_cons_self)
      obtain ⟨content, lexeme, span⟩ := token
      cases content <;> cases isName
      exact stood

/-- So statements bind nothing but names. By induction on the evaluations, each of which binds one
name more at most. -/
theorem Evaluations.isName {outcomes : List Outcome}
    (evaluations : Evaluations allowed before outcomes last)
    (named : ∀ name ∈ before.names, IsName name) : ∀ name ∈ last.names, IsName name := by
  induction evaluations with
  | none bindings => exact named
  | more before outcome outcomes last first others ih =>
    refine ih fun name bound => ?_
    cases outcome with
    | value shown => exact named name bound
    | assigned target given =>
      have bound : name ∈ (before.set target given).names := bound
      rw [Bindings.names_set] at bound
      split at bound
      · exact named name bound
      · rcases List.mem_append.mp bound with earlier | isNew
        · exact named name earlier
        · rw [List.mem_singleton.mp isNew]
          exact first.isName stands

end Assigning

namespace Session

variable {session : Session} {lines : List String} {name : String} {value : Value}

/-- A name that is bound can be read. -/
theorem run_name (isName : IsName name) (bound : session.bindings.get? name = some value) :
    session.run name = (.ok (some (.value value)), session) := by
  obtain ⟨tokens, span, found, read, nonempty⟩ := isName.reads
  have notEmpty : tokens.isEmpty = false := by simpa using nonempty
  have evaluated : Expr.eval session.bindings (.name ⟨name, span⟩) = .ok value := by
    simp [Expr.eval, Expr.evalThen, Expr.resume, bound]
    rfl
  simp only [run, found, execute, notEmpty, read, Statement.eval, evaluated]
  rfl

/-- Nothing but names is bound. -/
def BindsNames (session : Session) : Prop := ∀ name ∈ session.bindings.names, IsName name

/-- A session that binds nothing but names does so after any requests. -/
theorem Begun.bindsNames_answers (begun : session.Begun lines) (named : session.BindsNames)
    (requests : List Request) : (session.answers requests).2.BindsNames :=
  (begun.evaluations requests).isName (fun _ fed => fed.1) named

/-- Whatever a session has been asked for, each name that it binds gives its value when it is run.
So it does not bind the truth values, though a text can have a name in it that is spelled like one:
where a mark follows that belongs to words but not to names, and that is a fault.

What is bound has been assigned by tokens that stand by themselves, and a lexeme that stands by
itself as a name is read as a name again. -/
theorem run_bound (requests : List Request) :
    let session := (Session.empty.answers requests).2
    (∀ name value, (name, value) ∈ session.bindings.entries →
      session.run name = (.ok (some (.value value)), session)) ∧
    (∀ truth : Bool, session.bindings.get? (toString truth) = none) ∧
    (∀ (truth : Bool) (mark : Char), CharClass.isWordPart mark = true →
      CharClass.isNamePart mark = false →
      ∃ draft : Draft, draft.words = [⟨.name, toString truth⟩] ∧
        Draft.ofText (toString truth ++ String.singleton mark) =
          (draft, some ⟨.invalidCharacter mark, ⟨1, (toString truth).length + 1⟩⟩)) := by
  intro session
  have named : session.BindsNames :=
    (begun_nil rfl : Session.empty.Begun []).bindsNames_answers (List.forall_mem_nil _) requests
  refine ⟨?_, ?_, fun truth mark => Draft.ofText_before_mark truth⟩
  · intro name value bound
    have isName := named name (List.mem_map_of_mem bound)
    exact run_name isName (session.bindings.distinct.mem_iff.mp bound)
  · intro truth
    refine Entries.get?_of_not_mem fun bound => ?_
    obtain ⟨notTrue, notFalse⟩ := (named (toString truth) bound).ne_boolean
    cases truth with
    | true => exact notTrue rfl
    | false => exact notFalse rfl

/-- Names that begin like truth values, one of them bound over two lines; and `true` under an acute
accent. -/
theorem run_bound_truth :
    let session := (Session.empty.answers
      [.run "truth = 1", .feed "falsehood = [truth,", .feed "2]"]).2
    (∃ value, session.run "falsehood" = (.ok (some (.value value)), session)) ∧
    ∃ draft : Draft, draft.words = [⟨.name, "true"⟩] ∧
      Draft.ofText "true\u0301" = (draft, some ⟨.invalidCharacter '\u0301', ⟨1, 5⟩⟩) := by
  intro session
  obtain ⟨bound, -, marked⟩ :=
    run_bound [.run "truth = 1", .feed "falsehood = [truth,", .feed "2]"]
  constructor
  · have known : (session.bindings.get? "falsehood").isSome = true := by decide +kernel
    obtain ⟨value, found⟩ := Option.isSome_iff_exists.mp known
    exact ⟨value, bound "falsehood" value (session.bindings.distinct.mem_iff.mpr found)⟩
  · exact marked true '\u0301' (by decide +kernel) (by decide +kernel)

end Session

end Formula
