import Mathlib
import Formula.Value.Equality
import Formula.Proofs.Entries
import Formula.Proofs.Value.Parts

/-!
# Equality as a relation

Dictionaries are compared by going through the keys of one of them. That both have as many keys
makes it a comparison of both ways, because no key is there twice: where all keys of one are keys of
the other, and these are as many, there are no others. So equality is symmetric, and it is
transitive. Nothing differs from itself but what has no number somewhere in it, and nothing but that
is changed by an exchange of entries.
-/

namespace Formula.Value

/-- What holds of a list if it holds of its items, and of a dictionary if it holds of what its keys
are bound to, holds of all values. The recursor of the nested type is used once here, so that no
other proof has to. -/
@[elab_as_elim]
theorem induction {motive : Value → Prop} (integer : ∀ number, motive (.integer number))
    (float : ∀ number, motive (.float number)) (string : ∀ text, motive (.string text))
    (boolean : ∀ truth, motive (.boolean truth))
    (list : ∀ items, (∀ item ∈ items, motive item) → motive (.list items))
    (dictionary : ∀ entries, (∀ entry ∈ entries, motive entry.2) → motive (.dictionary entries))
    (value : Value) : motive value := by
  refine @Value.rec motive (fun items => ∀ item ∈ items, motive item)
    (fun entries => ∀ entry ∈ entries, motive entry.2) (fun entry => motive entry.2)
    integer float string boolean list dictionary ?noItem ?item ?noEntry ?entry ?bound value
  case noItem => exact List.forall_mem_nil _
  case item => exact fun _ _ first later => List.forall_mem_cons.mpr ⟨first, later⟩
  case noEntry => exact List.forall_mem_nil _
  case entry => exact fun _ _ first later => List.forall_mem_cons.mpr ⟨first, later⟩
  case bound => exact fun _ _ held => held

/-- A floating-point value that is no number. -/
def IsNaN : Value → Prop
  | .float number => number.isNaN = true
  | _ => False

/-- In no dictionary among the parts of the value is a key there twice. -/
def IsKeyed (value : Value) : Prop := ∀ part ∈ value.parts, part.HasDistinctKeys

section Containers

variable {items others : List Value} {entries entries' : List (String × Value)}

/-- A list is keyed if its items are. -/
theorem isKeyed_list : IsKeyed (.list items) ↔ ∀ item ∈ items, item.IsKeyed := by
  rw [IsKeyed, forall_parts_list, forall_itemParts_iff]
  exact and_iff_right trivial

/-- A dictionary is keyed if no key is in it twice and its values are keyed. -/
theorem isKeyed_dictionary : IsKeyed (.dictionary entries) ↔
    Entries.Distinct entries ∧ ∀ entry ∈ entries, entry.2.IsKeyed := by
  rw [IsKeyed, forall_parts_dictionary, forall_entryParts_iff]
  rfl

/-- Items are equal if they are equal one by one. By induction on both lists. -/
theorem equalItems_iff : equalItems items others = true ↔
    List.Forall₂ (fun item other => equals item other = true) items others := by
  induction items generalizing others with
  | nil => cases others <;> simp [equalItems]
  | cons item later ih =>
    cases others with
    | nil => simp [equalItems]
    | cons other later' => rw [equalItems, Bool.and_eq_true, ih, List.forall₂_cons]

/-- Entries are bound in others if each key finds a value there that is equal to its own. -/
theorem boundIn_iff : boundIn entries entries' = true ↔ ∀ entry ∈ entries,
    ∃ other, Entries.get? entry.1 entries' = some other ∧ equals entry.2 other = true := by
  induction entries with
  | nil => simp [boundIn]
  | cons entry later ih =>
    obtain ⟨key, value⟩ := entry
    rw [boundIn, Bool.and_eq_true, ih, List.forall_mem_cons]
    cases Entries.get? key entries' <;> simp

end Containers

section Inversion

variable {number : Float} {items : List Value} {entries : List (String × Value)}
  {left right : Value}

/-- A whole number, a string or a truth equals itself alone. -/
theorem equals_iff_eq (exact : left.kind = .integer ∨ left.kind = .string ∨ left.kind = .boolean) :
    left.equals right = true ↔ left = right := by
  cases left with
  | integer | string | boolean => cases right <;> simp [equals]
  | float | list | dictionary => simp [kind] at exact

/-- A floating-point value equals those that compare equal as numbers. -/
theorem float_equals_iff : (float number).equals right = true ↔
    ∃ other, right = .float other ∧ (number == other) = true := by
  cases right <;> simp [equals]

/-- A list equals those whose items equal its own, one by one. -/
theorem list_equals_iff : (list items).equals right = true ↔ ∃ others, right = .list others ∧
    List.Forall₂ (fun item other => equals item other = true) items others := by
  cases right <;> simp [equals, equalItems_iff]

/-- A dictionary equals those with as many entries in which each of its keys is bound to a value
equal to its own. -/
theorem dictionary_equals_iff : (dictionary entries).equals right = true ↔
    ∃ others, right = .dictionary others ∧ entries.length = others.length ∧ ∀ entry ∈ entries,
      ∃ other, Entries.get? entry.1 others = some other ∧ equals entry.2 other = true := by
  cases right <;> simp [equals, boundIn_iff]

end Inversion

/-- Where all keys are keys of entries that are no more, these have no other keys. They are included
without repetition in as many, so they are a permutation of them. -/
theorem keys_perm_of_bound {entries others : List (String × Value)}
    (distinct : Entries.Distinct entries) (length : entries.length = others.length)
    (bound : ∀ entry ∈ entries, ∃ other, Entries.get? entry.1 others = some other) :
    (Entries.keys entries).Perm (Entries.keys others) := by
  have subset : Entries.keys entries ⊆ Entries.keys others := by
    intro key isKey
    obtain ⟨entry, member, rfl⟩ := List.mem_map.mp isKey
    obtain ⟨other, found⟩ := bound entry member
    rw [← Entries.get?_isSome, found]
    rfl
  have part := List.subperm_of_subset distinct subset
  apply part.perm_of_length_le
  simp [Entries.keys, length]

/-- Equality goes both ways. By induction on the value; of dictionaries with distinct keys, each has
the keys of the other, and each key finds the entry that is there. -/
theorem equals_symm {left right : Value} (keyed : left.IsKeyed)
    (equal : left.equals right = true) : right.equals left = true := by
  induction left using Value.induction generalizing right with
  | integer | string | boolean =>
    obtain rfl := (equals_iff_eq (by simp [kind])).mp equal
    exact equal
  | float number =>
    obtain ⟨other, rfl, equal⟩ := float_equals_iff.mp equal
    exact BEq.symm equal
  | list items ih =>
    obtain ⟨others, rfl, pairwise⟩ := list_equals_iff.mp equal
    rw [isKeyed_list] at keyed
    have each := (List.forall₂_and_left items others).mpr ⟨fun _ member => member, pairwise⟩
    refine list_equals_iff.mpr ⟨items, rfl, List.Forall₂.flip ?_⟩
    exact each.imp fun item other held => ih item held.1 (keyed item held.1) held.2
  | dictionary entries ih =>
    obtain ⟨others, rfl, length, bound⟩ := dictionary_equals_iff.mp equal
    obtain ⟨distinct, keyed⟩ := isKeyed_dictionary.mp keyed
    have sameKeys := keys_perm_of_bound distinct length fun entry member =>
      (bound entry member).imp fun _ found => found.1
    have distinct' : Entries.Distinct others := sameKeys.nodup distinct
    refine dictionary_equals_iff.mpr ⟨entries, rfl, length.symm, ?_⟩
    rintro ⟨key, other⟩ member
    have isKey : key ∈ Entries.keys entries :=
      sameKeys.mem_iff.mpr (List.mem_map_of_mem (f := Prod.fst) member)
    obtain ⟨value, found⟩ :=
      Option.isSome_iff_exists.mp ((Entries.get?_isSome key entries).mpr isKey)
    have there := Entries.mem_of_get? found
    obtain ⟨other', found', equal⟩ := bound _ there
    obtain rfl : other = other' :=
      Option.some.inj ((distinct'.mem_iff.mp member).symm.trans found')
    exact ⟨value, found, ih _ there (keyed _ there) equal⟩

/-- What goes from each of the first items to the last one goes from the first list to the last. By
induction on the first two lists. -/
theorem forall₂_trans {α : Type} {relation : α → α → Prop} {first second third : List α}
    (step : ∀ item ∈ first, ∀ other last, relation item other → relation other last →
      relation item last)
    (begun : List.Forall₂ relation first second) (ended : List.Forall₂ relation second third) :
    List.Forall₂ relation first third := by
  induction begun generalizing third with
  | nil =>
    cases ended
    exact .nil
  | cons related _ ih =>
    cases ended with
    | cons related' ended =>
      exact .cons (step _ List.mem_cons_self _ _ related related')
        (ih (fun item member => step item (List.mem_cons_of_mem _ member)) ended)

/-- What equals an equal is equal. By induction on the first of the three values; what a key finds
in the second dictionary is an entry there, and so it is found in the third. -/
theorem equals_trans {left middle right : Value} (equal : left.equals middle = true)
    (equal' : middle.equals right = true) : left.equals right = true := by
  induction left using Value.induction generalizing middle right with
  | integer | string | boolean =>
    obtain rfl := (equals_iff_eq (by simp [kind])).mp equal
    exact equal'
  | float number =>
    obtain ⟨other, rfl, first⟩ := float_equals_iff.mp equal
    obtain ⟨third, rfl, second⟩ := float_equals_iff.mp equal'
    exact BEq.trans first second
  | list items ih =>
    obtain ⟨others, rfl, first⟩ := list_equals_iff.mp equal
    obtain ⟨thirds, rfl, second⟩ := list_equals_iff.mp equal'
    refine list_equals_iff.mpr ⟨thirds, rfl, forall₂_trans ?_ first second⟩
    intro item member other third equal equal'
    exact ih item member equal equal'
  | dictionary entries ih =>
    obtain ⟨others, rfl, length, first⟩ := dictionary_equals_iff.mp equal
    obtain ⟨thirds, rfl, length', second⟩ := dictionary_equals_iff.mp equal'
    refine dictionary_equals_iff.mpr ⟨thirds, rfl, length.trans length', fun entry member => ?_⟩
    obtain ⟨other, found, equal⟩ := first entry member
    obtain ⟨third, found', equal'⟩ := second (entry.1, other) (Entries.mem_of_get? found)
    exact ⟨third, found', ih entry member equal equal'⟩

/-- A value equals itself if nothing in it is no number. By induction on the value; of a keyed
dictionary each key finds its own entry. -/
theorem equals_self_iff {value : Value} (keyed : value.IsKeyed) :
    value.equals value = true ↔ ∀ part ∈ value.parts, ¬part.IsNaN := by
  induction value using Value.induction with
  | integer | string | boolean => simp [equals, parts, IsNaN]
  | float number => simp [equals, parts, IsNaN]
  | list items ih =>
    rw [isKeyed_list] at keyed
    rw [equals, equalItems_iff, List.forall₂_same, forall_parts_list, forall_itemParts_iff]
    refine Iff.trans ?_ (and_iff_right id).symm
    exact forall₂_congr fun item member => ih item member (keyed item member)
  | dictionary entries ih =>
    obtain ⟨distinct, keyed⟩ := isKeyed_dictionary.mp keyed
    rw [equals, beq_self_eq_true, Bool.true_and, boundIn_iff, forall_parts_dictionary,
      forall_entryParts_iff]
    refine Iff.trans ?_ (and_iff_right id).symm
    refine forall₂_congr fun entry member => ?_
    rw [distinct.mem_iff.mp member, ← ih entry member (keyed entry member)]
    simp

/-- So do the items of a list of which this is said. -/
theorem equals_self_of_list {items : List Value} (keyed : (list items).IsKeyed)
    (numbers : ∀ part ∈ (list items).parts, ¬part.IsNaN) :
    ∀ item ∈ items, item.equals item = true := by
  rw [isKeyed_list] at keyed
  rw [forall_parts_list, forall_itemParts_iff] at numbers
  intro item member
  exact (equals_self_iff (keyed item member)).mpr (numbers.2 item member)

/-- So do the values in a dictionary. -/
theorem equals_self_of_dictionary {entries : List (String × Value)}
    (keyed : (dictionary entries).IsKeyed)
    (numbers : ∀ part ∈ (dictionary entries).parts, ¬part.IsNaN) :
    ∀ entry ∈ entries, entry.2.equals entry.2 = true := by
  obtain ⟨-, keyed⟩ := isKeyed_dictionary.mp keyed
  rw [forall_parts_dictionary, forall_entryParts_iff] at numbers
  intro entry member
  exact (equals_self_iff (keyed entry member)).mpr (numbers.2 entry member)

/-- Values that differ in the order of the entries of dictionaries alone, at any depth: entries are
exchanged in a dictionary, or in what stands in a list or in a dictionary. -/
inductive Rearranged : Value → Value → Prop
  | same (value : Value) : Rearranged value value
  | trans {left middle right : Value} (first : Rearranged left middle)
      (second : Rearranged middle right) : Rearranged left right
  | entries {entries others : List (String × Value)} (perm : entries.Perm others) :
      Rearranged (.dictionary entries) (.dictionary others)
  | item {item other : Value} (before after : List Value) (inside : Rearranged item other) :
      Rearranged (.list (before ++ item :: after)) (.list (before ++ other :: after))
  | bound {value other : Value} (before after : List (String × Value)) (key : String)
      (inside : Rearranged value other) :
      Rearranged (.dictionary (before ++ (key, value) :: after))
        (.dictionary (before ++ (key, other) :: after))

section Rearranged

variable {property : Value → Prop} {left right : Value}

/-- What is said of the parts of a value, and of a dictionary only in regard to its keys, is said of
the rearranged one as well. By induction on how it is rearranged. -/
theorem Rearranged.forall_parts (lists : ∀ items, property (.list items))
    (dictionaries : ∀ entries others, (Entries.keys entries).Perm (Entries.keys others) →
      property (.dictionary entries) → property (.dictionary others))
    (rearranged : Rearranged left right) (held : ∀ part ∈ left.parts, property part) :
    ∀ part ∈ right.parts, property part := by
  induction rearranged with
  | same => exact held
  | trans _ _ ih ih' => exact ih' (ih held)
  | entries perm =>
    rw [forall_parts_dictionary, forall_entryParts_iff] at held ⊢
    refine ⟨dictionaries _ _ (perm.map Prod.fst) held.1, fun entry member => ?_⟩
    exact held.2 entry (perm.mem_iff.mpr member)
  | item before after _ ih =>
    rw [forall_parts_list, forall_itemParts_iff, List.forall_mem_append, List.forall_mem_cons]
      at held ⊢
    obtain ⟨-, first, one, last⟩ := held
    exact ⟨lists _, first, ih one, last⟩
  | bound before after key _ ih =>
    rw [forall_parts_dictionary, forall_entryParts_iff, List.forall_mem_append,
      List.forall_mem_cons] at held ⊢
    obtain ⟨here, first, one, last⟩ := held
    exact ⟨dictionaries _ _ (by simp [Entries.keys]) here, first, ih one, last⟩

/-- A rearranged value has no key twice in any dictionary if there was none before. -/
theorem Rearranged.isKeyed (rearranged : Rearranged left right) (keyed : left.IsKeyed) :
    right.IsKeyed :=
  rearranged.forall_parts (fun _ => trivial) (fun _ _ perm distinct => perm.nodup distinct) keyed

/-- A rearranged value has the numbers that were there before. -/
theorem Rearranged.not_isNaN (rearranged : Rearranged left right)
    (numbers : ∀ part ∈ left.parts, ¬part.IsNaN) : ∀ part ∈ right.parts, ¬part.IsNaN :=
  rearranged.forall_parts (fun _ => id) (fun _ _ _ => id) numbers

/-- Rearranging makes no difference to equality. By induction on how the value is rearranged: each
step leaves it equal, and equality is transitive. -/
theorem Rearranged.equals (rearranged : Rearranged left right) (keyed : left.IsKeyed)
    (numbers : ∀ part ∈ left.parts, ¬part.IsNaN) : left.equals right = true := by
  induction rearranged with
  | same => exact (equals_self_iff keyed).mpr numbers
  | trans first _ ih ih' =>
    exact equals_trans (ih keyed numbers) (ih' (first.isKeyed keyed) (first.not_isNaN numbers))
  | @entries entries others perm =>
    obtain ⟨distinct', -⟩ := isKeyed_dictionary.mp ((Rearranged.entries perm).isKeyed keyed)
    have same := equals_self_of_dictionary keyed numbers
    refine dictionary_equals_iff.mpr ⟨others, rfl, perm.length_eq, fun entry member => ?_⟩
    exact ⟨entry.2, distinct'.mem_iff.mp (perm.mem_iff.mp member), same entry member⟩
  | @item item other before after inside ih =>
    have same := equals_self_of_list keyed numbers
    rw [isKeyed_list] at keyed
    rw [forall_parts_list, forall_itemParts_iff] at numbers
    have middle : item ∈ before ++ item :: after := by simp
    rw [List.forall_mem_append, List.forall_mem_cons] at same
    refine list_equals_iff.mpr ⟨_, rfl, List.rel_append (List.forall₂_same.mpr same.1) ?_⟩
    exact .cons (ih (keyed item middle) (numbers.2 item middle)) (List.forall₂_same.mpr same.2.2)
  | @bound value other before after key inside ih =>
    obtain ⟨distinct', -⟩ :=
      isKeyed_dictionary.mp ((Rearranged.bound before after key inside).isKeyed keyed)
    have same := equals_self_of_dictionary keyed numbers
    obtain ⟨-, keyed⟩ := isKeyed_dictionary.mp keyed
    rw [forall_parts_dictionary, forall_entryParts_iff] at numbers
    have middle : (key, value) ∈ before ++ (key, value) :: after := by simp
    refine dictionary_equals_iff.mpr ⟨_, rfl, by simp, fun entry member => ?_⟩
    rw [List.mem_append, List.mem_cons] at member
    obtain first | rfl | last := member
    · exact ⟨entry.2, distinct'.mem_iff.mp (by simp [first]), same entry (by simp [first])⟩
    · exact ⟨other, distinct'.mem_iff.mp (by simp), ih (keyed _ middle) (numbers.2 _ middle)⟩
    · exact ⟨entry.2, distinct'.mem_iff.mp (by simp [last]), same entry (by simp [last])⟩

end Rearranged

end Formula.Value
