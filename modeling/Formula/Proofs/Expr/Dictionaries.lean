import Formula.Proofs.Entries
import Formula.Proofs.Expr.Evaluation
import Mathlib.Data.List.Forall2

/-!
# What a dictionary comes to

The pairs of a dictionary are gone through in order. For each of them the key is evaluated, the key
is looked at, and the value is evaluated; the first of these steps that fails is the error of the
whole. If none fails every pair is a setting, whether or not a later pair sets the same key again.
The entries are what the settings come to: the keys in the order of their first occurrence, each
with the value of its last one.
-/

namespace Formula.Expr

variable (bindings : Bindings)

/-- A pair of a dictionary sets a key to a value. -/
def Sets (pair : Expr × Expr) (setting : String × Value) : Prop :=
  eval bindings pair.1 = .ok (.string setting.1) ∧ eval bindings pair.2 = .ok setting.2

/-- What is done for the pairs of a dictionary: keys and values are evaluated, and keys are found to
be strings. -/
inductive PairStep where
  | evaluate (expr : Expr)
  | findString (key : Expr)

/-- The steps for a pair, in order. -/
def pairSteps (pair : Expr × Expr) : List PairStep :=
  [.evaluate pair.1, .findString pair.1, .evaluate pair.2]

/-- The error of a step. A key without a value has no kind to be looked at. -/
def PairStep.error? : PairStep → Option EvalError
  | .evaluate expr =>
    match eval bindings expr with
    | .ok _ => none
    | .error error => some error
  | .findString key =>
    match eval bindings key with
    | .ok value =>
      if value.kind = .string then none else some ⟨.invalidKey value.kind, key.span.start⟩
    | .error _ => none

/-- The error of the first step that fails. -/
def firstError? (pairs : List (Expr × Expr)) : Option EvalError :=
  (pairs.flatMap pairSteps).findSome? (PairStep.error? bindings)

variable {bindings} {pairs later : List (Expr × Expr)} {pair : Expr × Expr}
  {settings : List (String × Value)}

/-- A pair is a setting if none of its steps fails. By cases on what the key and the value come
to. -/
theorem exists_sets_iff :
    (∃ setting, Sets bindings pair setting) ↔ firstError? bindings [pair] = none := by
  obtain ⟨key, value⟩ := pair
  cases ofKey : eval bindings key with
  | error error => simp [Sets, firstError?, pairSteps, PairStep.error?, ofKey]
  | ok named =>
    cases named with
    | string text =>
      cases ofValue : eval bindings value <;>
        simp [Sets, firstError?, pairSteps, PairStep.error?, Value.kind, ofKey, ofValue]
    | integer | float | boolean | list | dictionary =>
      simp [Sets, firstError?, pairSteps, PairStep.error?, Value.kind, ofKey]

/-- A pair that is a setting is made before the later pairs are gone through. -/
theorem evalPairs_of_sets {setting : String × Value} (sets : Sets bindings pair setting)
    (entries : List (String × Value)) :
    evalPairs bindings (pair :: later) entries =
      evalPairs bindings later (Entries.set setting.1 setting.2 entries) := by
  obtain ⟨key, value⟩ := pair
  rw [evalPairs_cons, sets.1]
  change (eval bindings value >>= _) = _
  rw [sets.2]
  rfl

/-- If a step for a pair fails, nothing is done for the later pairs. By cases on which of the three
steps it is. -/
theorem evalPairs_of_failed {error : EvalError} (failed : firstError? bindings [pair] = some error)
    (entries : List (String × Value)) :
    evalPairs bindings (pair :: later) entries = .error error := by
  obtain ⟨key, value⟩ := pair
  rw [evalPairs_cons]
  cases ofKey : eval bindings key with
  | error error' =>
    obtain rfl : error' = error := by
      simpa [firstError?, pairSteps, PairStep.error?, ofKey] using failed
    rfl
  | ok named =>
    cases named with
    | string text =>
      cases ofValue : eval bindings value with
      | error error' =>
        obtain rfl : error' = error := by
          simpa [firstError?, pairSteps, PairStep.error?, Value.kind, ofKey, ofValue] using failed
        rfl
      | ok bound =>
        simp [firstError?, pairSteps, PairStep.error?, Value.kind, ofKey, ofValue] at failed
    | integer | float | boolean | list | dictionary =>
      obtain rfl : ⟨.invalidKey _, key.span.start⟩ = error := by
        simpa [firstError?, pairSteps, PairStep.error?, Value.kind, ofKey] using failed
      rfl

/-- The first error is that of the first pair, or else that of the later ones. -/
theorem firstError?_cons :
    firstError? bindings (pair :: later) =
      (firstError? bindings [pair]).or (firstError? bindings later) := by
  rw [firstError?, firstError?, firstError?, List.flatMap_cons, List.flatMap_singleton,
    List.findSome?_append]

/-- If all pairs are settings, these are made. By induction on the pairs, with any entries made
before. -/
theorem evalPairs_of_forall₂ (all : List.Forall₂ (Sets bindings) pairs settings)
    (entries : List (String × Value)) :
    evalPairs bindings pairs entries = .ok (Entries.setAll settings entries) := by
  induction all generalizing entries with
  | nil => rfl
  | cons sets _ ih => exact (evalPairs_of_sets sets entries).trans (ih _)

/-- If a step fails, the first one that does is the error. By induction on the pairs: those before
the one that fails are settings and only change the entries, which have no part in the error. -/
theorem evalPairs_of_firstError {error : EvalError}
    (failed : firstError? bindings pairs = some error) (entries : List (String × Value)) :
    evalPairs bindings pairs entries = .error error := by
  induction pairs generalizing entries with
  | nil => cases failed
  | cons pair later ih =>
    rw [firstError?_cons] at failed
    cases first : firstError? bindings [pair] with
    | some error' =>
      rw [first] at failed
      exact evalPairs_of_failed (first.trans failed) entries
    | none =>
      rw [first] at failed
      obtain ⟨setting, sets⟩ := exists_sets_iff.mpr first
      exact (evalPairs_of_sets sets entries).trans (ih failed _)

/-- If no step fails, all pairs are settings. By induction on the pairs. -/
theorem exists_forall₂ (clean : firstError? bindings pairs = none) :
    ∃ settings, List.Forall₂ (Sets bindings) pairs settings := by
  induction pairs with
  | nil => exact ⟨[], .nil⟩
  | cons pair later ih =>
    rw [firstError?_cons, Option.or_eq_none_iff] at clean
    obtain ⟨setting, sets⟩ := exists_sets_iff.mpr clean.1
    obtain ⟨settings, all⟩ := ih clean.2
    exact ⟨setting :: settings, .cons sets all⟩

/-- All pairs are settings if every key is a string and every value has a value. By induction on the
pairs, with one setting for each. -/
theorem exists_forall₂_iff :
    (∃ settings, List.Forall₂ (Sets bindings) pairs settings) ↔
      ∀ pair ∈ pairs, (∃ text, eval bindings pair.1 = .ok (.string text)) ∧
        ∃ value, eval bindings pair.2 = .ok value := by
  induction pairs with
  | nil => simp
  | cons pair later ih =>
    rw [List.forall_mem_cons, ← ih]
    constructor
    · rintro ⟨_, all⟩
      cases all with
      | cons sets others => exact ⟨⟨⟨_, sets.1⟩, _, sets.2⟩, _, others⟩
    · rintro ⟨⟨⟨text, ofKey⟩, value, ofValue⟩, settings, others⟩
      exact ⟨(text, value) :: settings, .cons ⟨ofKey, ofValue⟩ others⟩

section Results

variable {span : Span}

/-- A dictionary has the entries that its pairs set. If some pair were no setting, a step for it
would fail, and then there would be no value. -/
theorem eval_dictionary_eq_ok_iff {value : Value} :
    eval bindings (.dictionary pairs span) = .ok value ↔
      ∃ settings entries, List.Forall₂ (Sets bindings) pairs settings ∧
        Entries.Recalls entries settings ∧ value = .dictionary entries := by
  have made {settings : List (String × Value)} (all : List.Forall₂ (Sets bindings) pairs settings) :
      eval bindings (.dictionary pairs span) = .ok (.dictionary (Entries.setAll settings [])) := by
    rw [eval_dictionary, evalPairs_of_forall₂ all]
    rfl
  constructor
  · intro evaluated
    cases first : firstError? bindings pairs with
    | some error =>
      rw [eval_dictionary, evalPairs_of_firstError first] at evaluated
      cases evaluated
    | none =>
      obtain ⟨settings, all⟩ := exists_forall₂ first
      obtain rfl := Except.ok.inj ((made all).symm.trans evaluated)
      exact ⟨settings, _, all, Entries.recalls_iff.mpr rfl, rfl⟩
  · rintro ⟨settings, entries, all, recalls, rfl⟩
    obtain rfl := Entries.recalls_iff.mp recalls
    exact made all

/-- A dictionary fails with the first error in its pairs. Conversely, if it fails, some step for a
pair does, because otherwise all pairs would be settings and there would be a value. -/
theorem eval_dictionary_eq_error_iff {error : EvalError} :
    eval bindings (.dictionary pairs span) = .error error ↔
      firstError? bindings pairs = some error := by
  have fails {error : EvalError} (first : firstError? bindings pairs = some error) :
      eval bindings (.dictionary pairs span) = .error error := by
    rw [eval_dictionary, evalPairs_of_firstError first]
    rfl
  constructor
  · intro failed
    cases first : firstError? bindings pairs with
    | some error' => exact congrArg some (Except.error.inj ((fails first).symm.trans failed))
    | none =>
      obtain ⟨settings, all⟩ := exists_forall₂ first
      rw [eval_dictionary, evalPairs_of_forall₂ all] at failed
      cases failed
  · exact fails

end Results

/-- A dictionary has a value exactly if each of its keys is a string and each of its values has a
value, those that are set anew later on included. Its entries are then what its pairs have set: the
keys in the order of their first occurrence, each with the value of its last one. If there is no
such value, the first step that fails tells why: a key is evaluated, then found to be a string, and
then its value is evaluated, one pair after the other.

Either all pairs are settings, or some step fails; each part is told from this. -/
theorem eval_dictionary_pairs (bindings : Bindings) (pairs : List (Expr × Expr)) (span : Span) :
    ((∃ value, eval bindings (.dictionary pairs span) = .ok value) ↔
      ∀ pair ∈ pairs, (∃ text, eval bindings pair.1 = .ok (.string text)) ∧
        ∃ value, eval bindings pair.2 = .ok value) ∧
    (∀ value, eval bindings (.dictionary pairs span) = .ok value ↔
      ∃ settings entries, List.Forall₂ (Sets bindings) pairs settings ∧
        Entries.Recalls entries settings ∧ value = .dictionary entries) ∧
    ∀ error, eval bindings (.dictionary pairs span) = .error error ↔
      firstError? bindings pairs = some error := by
  refine ⟨?_, fun _ => eval_dictionary_eq_ok_iff, fun _ => eval_dictionary_eq_error_iff⟩
  rw [← exists_forall₂_iff]
  constructor
  · rintro ⟨value, evaluated⟩
    obtain ⟨settings, -, all, -⟩ := eval_dictionary_eq_ok_iff.mp evaluated
    exact ⟨settings, all⟩
  · rintro ⟨settings, all⟩
    exact ⟨_, eval_dictionary_eq_ok_iff.mpr ⟨settings, _, all, Entries.recalls_iff.mpr rfl, rfl⟩⟩

/-- In `{"a": 1, "b": 2, "a": 3}` the first key stays in front and has its last value. -/
example (span : Span) :
    let pair (key : String) (number : Int64) : Expr × Expr :=
      (.literal (.string key) span, .literal (.integer number) span)
    eval Bindings.empty (.dictionary [pair "a" 1, pair "b" 2, pair "a" 3] span) =
      .ok (.dictionary [("a", .integer 3), ("b", .integer 2)]) := rfl

end Formula.Expr
