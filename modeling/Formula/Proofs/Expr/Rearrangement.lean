import Formula.Proofs.Expr.Dictionaries
import Formula.Proofs.Expr.Results
import Formula.Proofs.Value.Equality

/-!
# Pairs in another order

A dictionary may be written with its pairs in another order. Where every key is written as a string
and none is written twice, each pair sets a key of its own, so the entries are those of the pairs
and only their order differs. Equality does not see the order.
-/

namespace Formula

namespace Entries

variable {α : Type}

/-- Settings of keys that are all different are the entries that they come to. By induction on the
settings, each of which is added at the end because its key is new. -/
theorem setAll_of_distinct {settings entries : List (String × α)}
    (distinct : Distinct (entries ++ settings)) :
    setAll settings entries = entries ++ settings := by
  induction settings generalizing entries with
  | nil => exact (List.append_nil entries).symm
  | cons setting later ih =>
    obtain ⟨key, value⟩ := setting
    rw [List.append_cons] at distinct
    have made : set key value entries = entries ++ [(key, value)] := by
      apply set_of_not_mem
      rw [List.append_assoc] at distinct
      exact distinct.not_mem
    have step : setAll ((key, value) :: later) entries = setAll later (set key value entries) := rfl
    rw [step, made, ih distinct, ← List.append_cons]

end Entries

namespace Value

/-- No way to make a value from others brings a key in twice. -/
theorem graded_isKeyed : Graded fun _ value => value.IsKeyed where
  mono _ keyed := keyed
  applied := by
    intro level value operator left right applied _ _
    obtain ⟨number, rfl⟩ | ⟨number, rfl⟩ | ⟨first, second, -, -, rfl⟩ :=
      Operator.apply_eq_ok applied <;> simp [IsKeyed, parts, HasDistinctKeys]
  list keyed := isKeyed_list.mpr keyed
  dictionary distinct keyed :=
    isKeyed_dictionary.mpr ⟨distinct, fun entry member => (keyed entry member).2⟩

/-- Neither does evaluation, as it makes values in these ways alone, from literals and from what is
bound. -/
theorem isKeyed_of_eval {bindings : Bindings} {expr : Expr} {value : Value}
    (bound : ∀ name value, bindings.get? name = some value → value.IsKeyed)
    (literals : ∀ value span, .literal value span ∈ expr.parts → value.IsKeyed)
    (evaluated : expr.eval bindings = .ok value) : value.IsKeyed :=
  @Graded.eval _ graded_isKeyed bindings 0 bound expr literals value evaluated

end Value

namespace Expr

variable {bindings : Bindings} {pairs pairs' : List (Expr × Expr)}
  {settings : List (String × Value)} {texts : List String}

/-- The text of an expression that is written as a string. -/
def quoted? : Expr → Option String
  | .literal (.string text) _ => some text
  | _ => none

/-- A string that is written down is evaluated to itself. -/
theorem eval_of_quoted? {expr : Expr} {text : String} (quoted : expr.quoted? = some text) :
    expr.eval bindings = .ok (.string text) := by
  unfold quoted? at quoted
  split at quoted
  · obtain rfl := Option.some.inj quoted
    rw [eval_literal]
  · cases quoted

/-- Where keys are written as strings, these are the keys that are set. By induction on the pairs
and their settings. -/
theorem keys_of_sets (all : List.Forall₂ (Sets bindings) pairs settings)
    (written : pairs.map (fun pair => pair.1.quoted?) = texts.map some) :
    Entries.keys settings = texts := by
  induction all generalizing texts with
  | nil => exact (List.map_eq_nil_iff.mp written.symm).symm
  | cons sets _ ih =>
    obtain ⟨text, later, rfl, quoted, written'⟩ := List.map_eq_cons_iff.mp written.symm
    have named := (eval_of_quoted? quoted.symm).symm.trans sets.1
    obtain rfl := Value.string.inj (Except.ok.inj named)
    exact congrArg _ (ih written'.symm)

/-- Each setting is made by one of the pairs. By induction on the pairs and their settings. -/
theorem exists_pair_of_sets (all : List.Forall₂ (Sets bindings) pairs settings) :
    ∀ setting ∈ settings, ∃ pair ∈ pairs, Sets bindings pair setting := by
  induction all with
  | nil => exact List.forall_mem_nil _
  | @cons pair setting _ _ sets _ ih =>
    refine List.forall_mem_cons.mpr ⟨⟨pair, List.mem_cons_self, sets⟩, fun other member => ?_⟩
    obtain ⟨pair', member', sets'⟩ := ih other member
    exact ⟨pair', List.mem_cons_of_mem pair member', sets'⟩

/-- A dictionary whose pairs set different keys has these settings as its entries. -/
theorem eval_dictionary_of_distinct (all : List.Forall₂ (Sets bindings) pairs settings)
    (distinct : Entries.Distinct settings) (span : Span) :
    eval bindings (.dictionary pairs span) = .ok (.dictionary settings) := by
  have made : Entries.setAll settings [] = settings := Entries.setAll_of_distinct distinct
  rw [eval_dictionary, evalPairs_of_forall₂ all, made]
  rfl

/-- Pairs in another order that set different keys give a rearranged dictionary. What the pairs set
is exchanged as they are, and different keys keep every setting as an entry. -/
theorem exists_rearranged (perm : pairs.Perm pairs')
    (all : List.Forall₂ (Sets bindings) pairs settings) (distinct : Entries.Distinct settings)
    (span span' : Span) :
    ∃ others, eval bindings (.dictionary pairs span) = .ok (.dictionary settings) ∧
      eval bindings (.dictionary pairs' span') = .ok (.dictionary others) ∧
      Value.Rearranged (.dictionary settings) (.dictionary others) := by
  obtain ⟨others, all', perm'⟩ := List.perm_comp_forall₂ perm.symm all
  have distinct' : Entries.Distinct others := (perm'.symm.map Prod.fst).nodup distinct
  exact ⟨others, eval_dictionary_of_distinct all distinct span,
    eval_dictionary_of_distinct all' distinct' span', .entries perm'.symm⟩

end Expr

namespace Value

open Formula.Expr

/-- Where bound values and literals are keyed and the values of the pairs have numbers only, the
dictionaries of pairs in one order and in another are equal. The one is a rearrangement of the
other, it is keyed since evaluation keeps values so, and no value in it is other than a number. -/
theorem equals_of_perm {bindings : Bindings} {pairs pairs' : List (Expr × Expr)} {span : Span}
    {texts : List String} (bound : ∀ name value, bindings.get? name = some value → value.IsKeyed)
    (literals : ∀ value place, .literal value place ∈ (Expr.dictionary pairs span).parts →
      value.IsKeyed)
    (written : pairs.map (fun pair => pair.1.quoted?) = texts.map some) (distinct : texts.Nodup)
    (numbers : ∀ pair ∈ pairs, ∃ value, pair.2.eval bindings = .ok value ∧
      ∀ part ∈ value.parts, ¬part.IsNaN)
    (perm : pairs.Perm pairs') (span' : Span) :
    ∃ value value', eval bindings (.dictionary pairs span) = .ok value ∧
      eval bindings (.dictionary pairs' span') = .ok value' ∧ value.equals value' = true := by
  have strings : ∀ pair ∈ pairs, ∃ text, pair.1.eval bindings = .ok (.string text) := by
    intro pair member
    have quoted : pair.1.quoted? ∈ texts.map some :=
      written ▸ List.mem_map_of_mem (f := fun pair => pair.1.quoted?) member
    obtain ⟨text, -, isText⟩ := List.mem_map.mp quoted
    exact ⟨text, eval_of_quoted? isText.symm⟩
  obtain ⟨settings, all⟩ := exists_forall₂_iff.mpr fun pair member =>
    ⟨strings pair member, (numbers pair member).imp fun _ found => found.1⟩
  have different : Entries.Distinct settings := by
    rw [Entries.Distinct, keys_of_sets all written]
    exact distinct
  obtain ⟨others, evaluated, evaluated', rearranged⟩ :=
    exists_rearranged perm all different span span'
  have keyed : (Value.dictionary settings).IsKeyed := isKeyed_of_eval bound literals evaluated
  have free : ∀ part ∈ (Value.dictionary settings).parts, ¬part.IsNaN := by
    refine forall_parts_dictionary.mpr ⟨id, forall_entryParts_iff.mpr fun setting member => ?_⟩
    obtain ⟨pair, member', sets⟩ := exists_pair_of_sets all setting member
    obtain ⟨value, found, free⟩ := numbers pair member'
    obtain rfl := Except.ok.inj (found.symm.trans sets.2)
    exact free
  exact ⟨_, _, evaluated, evaluated', rearranged.equals keyed free⟩

/-- Of values without a key twice in any dictionary: equality is symmetric and transitive; a value
equals itself exactly if nothing in it, at any depth, is no number; and then it equals whatever
differs from it in the order of the entries of dictionaries alone, at any depth. So a dictionary may
be written with its pairs in any order: if its keys are strings, none written twice, and its values
have numbers only, both ways to write it have a value, and these are equal, whatever is bound.

The laws are shown by induction on values; the last part is the case of a rearrangement of one
dictionary. -/
theorem equals_laws :
    (∀ left right : Value, left.IsKeyed → right.IsKeyed → left.equals right = right.equals left) ∧
    (∀ left middle right : Value, left.equals middle = true → middle.equals right = true →
      left.equals right = true) ∧
    (∀ value : Value, value.IsKeyed →
      (value.equals value = true ↔ ∀ part ∈ value.parts, ¬part.IsNaN)) ∧
    (∀ left right : Value, left.IsKeyed → (∀ part ∈ left.parts, ¬part.IsNaN) →
      Rearranged left right → left.equals right = true) ∧
    ∀ (bindings : Bindings) (pairs pairs' : List (Expr × Expr)) (texts : List String)
      (span span' : Span),
      (∀ name value, bindings.get? name = some value → value.IsKeyed) →
      (∀ value place, .literal value place ∈ (Expr.dictionary pairs span).parts →
        value.IsKeyed) →
      pairs.map (fun pair => pair.1.quoted?) = texts.map some → texts.Nodup →
      (∀ pair ∈ pairs, ∃ value, pair.2.eval bindings = .ok value ∧
        ∀ part ∈ value.parts, ¬part.IsNaN) →
      pairs.Perm pairs' →
      ∃ value value', eval bindings (.dictionary pairs span) = .ok value ∧
        eval bindings (.dictionary pairs' span') = .ok value' ∧ value.equals value' = true := by
  refine ⟨?symmetric, ?transitive, ?reflexive, ?unordered, ?written⟩
  case symmetric =>
    intro left right keyed keyed'
    rw [Bool.eq_iff_iff]
    exact ⟨equals_symm keyed, equals_symm keyed'⟩
  case transitive =>
    intro left middle right
    exact equals_trans
  case reflexive =>
    intro value keyed
    exact equals_self_iff keyed
  case unordered =>
    intro left right keyed numbers rearranged
    exact rearranged.equals keyed numbers
  case written =>
    intro bindings pairs pairs' texts span span' bound literals written distinct numbers perm
    exact equals_of_perm bound literals written distinct numbers perm span'

/-- A dictionary in a list, its entries exchanged, and `{"a": x, "b": 0.0}` where that list is bound
to `x`, its pairs exchanged. -/
theorem equals_laws_exchanged :
    let nested (first second : String × Value) : Value := .list [.dictionary [first, second]]
    let left := nested ("k", .integer 1) ("l", .float 0.5)
    let right := nested ("l", .float 0.5) ("k", .integer 1)
    let pair (key : String) (value : Expr) : Expr × Expr := (.literal (.string key) .nowhere, value)
    let first := pair "a" (.name ⟨"x", .nowhere⟩)
    let second := pair "b" (.literal (.float 0.0) .nowhere)
    left.equals left = true ∧ left.equals right = true ∧ right.equals left = true ∧
      right.equals right = true ∧
      ∃ value value',
        eval (.ofList [("x", left)]) (.dictionary [first, second] .nowhere) = .ok value ∧
        eval (.ofList [("x", left)]) (.dictionary [second, first] .nowhere) = .ok value' ∧
        value.equals value' = true := by
  intro nested left right pair first second
  obtain ⟨symmetric, transitive, reflexive, unordered, written⟩ := equals_laws
  have keyed : left.IsKeyed ∧ right.IsKeyed := by
    simp [left, right, nested, IsKeyed, parts, itemParts, entryParts, HasDistinctKeys,
      Entries.Distinct, Entries.keys]
  have half : ¬IsNaN (.float 0.5) := Bool.eq_false_iff.mp (by decide +kernel)
  have zero : ¬IsNaN (.float 0.0) := Bool.eq_false_iff.mp (by decide +kernel)
  have numbers : ∀ part ∈ left.parts, ¬part.IsNaN := by
    intro part member
    simp only [left, nested, parts, itemParts, entryParts, List.mem_cons, List.append_nil,
      List.not_mem_nil, or_false, List.cons_append, List.nil_append] at member
    rcases member with rfl | rfl | rfl | rfl
    · exact id
    · exact id
    · exact id
    · exact half
  have rearranged : Rearranged left right := .item [] [] (.entries (.swap _ _ _))
  have there := unordered left right keyed.1 numbers rearranged
  have back := (symmetric right left keyed.2 keyed.1).trans there
  refine ⟨(reflexive left keyed.1).mpr numbers, there, back,
    transitive right left right back there, ?_⟩
  have found : (Bindings.ofList [("x", left)]).get? "x" = some left := rfl
  refine written _ [first, second] [second, first] ["a", "b"] .nowhere .nowhere ?_ ?_ rfl
    (by decide) ?_ (.swap _ _ _)
  · intro name value bound
    by_cases named : "x" = name
    · subst named
      obtain rfl := Option.some.inj (found.symm.trans bound)
      exact keyed.1
    · simp [Bindings.get?, Bindings.ofList, Bindings.set, Bindings.empty, Entries.set, Entries.get?,
        named] at bound
  · intro value place part
    simp [first, second, pair, Expr.parts, pairParts] at part
    obtain ⟨rfl, -⟩ | ⟨rfl, -⟩ | ⟨rfl, -⟩ := part <;> simp [IsKeyed, parts, HasDistinctKeys]
  · have ofName : eval (.ofList [("x", left)]) first.2 = .ok left :=
      eval_name_eq_ok_iff.mpr found
    have ofZero : eval (.ofList [("x", left)]) second.2 = .ok (.float 0.0) := rfl
    exact List.forall_mem_cons.mpr ⟨⟨left, ofName, numbers⟩,
      List.forall_mem_singleton.mpr ⟨.float 0.0, ofZero, List.forall_mem_singleton.mpr zero⟩⟩

end Value

end Formula
