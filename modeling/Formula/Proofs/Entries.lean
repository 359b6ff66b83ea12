import Formula.Entries

/-!
# What settings come to

Entries are known by their keys, in order, and by what each key is bound to. Both can be told from
the settings that the entries have come from, made one after another: the keys stand in the order in
which they were first set, and each key is bound to what it was last set to.
-/

namespace Formula.Entries

variable {α : Type}

/-- What is not a key is not bound. -/
theorem get?_of_not_mem {key : String} {entries : List (String × α)}
    (absent : key ∉ keys entries) : get? key entries = none := by
  rw [← get?_isSome, Bool.not_eq_true, Option.isSome_eq_false_iff, Option.isNone_iff_eq_none]
    at absent
  exact absent

/-- Entries are known by their keys, in order, and by what each key is bound to. By induction on the
entries of both sides; the first key is not bound again later on, so what it finds is the first
value. -/
theorem Distinct.eq_of_get? {left right : List (String × α)}
    (distinct : Distinct left) (sameKeys : keys left = keys right)
    (same : ∀ key, get? key left = get? key right) : left = right := by
  induction left generalizing right with
  | nil => exact (List.map_eq_nil_iff.mp sameKeys.symm).symm
  | cons entry later ih =>
    obtain ⟨key, value⟩ := entry
    cases right with
    | nil => cases sameKeys
    | cons entry' later' =>
      obtain ⟨key', value'⟩ := entry'
      obtain ⟨sameKey, sameLater⟩ := List.cons.inj sameKeys
      obtain rfl : key = key' := sameKey
      obtain rfl : value = value' := by simpa [get?] using same key
      obtain ⟨fresh, distinct'⟩ := List.nodup_cons.mp distinct
      rw [ih distinct' sameLater]
      intro asked
      by_cases isKey : key = asked
      · subst isKey
        have fresh' : key ∉ keys later' := by
          rw [← show keys later = keys later' from sameLater]
          exact fresh
        rw [get?_of_not_mem fresh, get?_of_not_mem fresh']
      · simpa [get?, isKey] using same asked

/-- What a key finds is bound to it. By induction on the entries, up to the one that has the key. -/
theorem mem_of_get? {key : String} {value : α} {entries : List (String × α)}
    (found : get? key entries = some value) : (key, value) ∈ entries := by
  induction entries with
  | nil => cases found
  | cons entry later ih =>
    obtain ⟨other, bound⟩ := entry
    by_cases same : other = key
    · subst same
      obtain rfl : bound = value := by simpa [get?] using found
      exact List.mem_cons_self
    · exact List.mem_cons_of_mem _ (ih (by simpa [get?, same] using found))

/-- Where each key is bound once, what is bound to a key is what the key finds. By induction on the
entries; a key that is bound in the first one is not bound in a later one. -/
theorem Distinct.mem_iff {entries : List (String × α)} (distinct : Distinct entries) {key : String}
    {value : α} : (key, value) ∈ entries ↔ get? key entries = some value := by
  induction entries with
  | nil => simp [get?]
  | cons entry later ih =>
    obtain ⟨other, bound⟩ := entry
    obtain ⟨fresh, distinct'⟩ := List.nodup_cons.mp distinct
    by_cases same : other = key
    · subst same
      have elsewhere : (other, value) ∉ later := by
        intro member
        have isKey : other ∈ keys later := List.mem_map_of_mem (f := Prod.fst) member
        exact fresh isKey
      simp [get?, elsewhere, eq_comm]
    · have differs : key ≠ other := fun equal => same equal.symm
      simpa [get?, same, differs] using ih distinct'

/-- What is bound after a setting was bound before it or is new. By induction on the entries, up to
the one that is set anew. -/
theorem mem_set {key : String} {value : α} {entries : List (String × α)} {entry : String × α}
    (member : entry ∈ set key value entries) : entry = (key, value) ∨ entry ∈ entries := by
  induction entries with
  | nil => exact .inl (List.mem_singleton.mp member)
  | cons first later ih =>
    obtain ⟨other, bound⟩ := first
    rw [set] at member
    split at member
    · exact (List.mem_cons.mp member).imp_right (List.mem_cons_of_mem _)
    · obtain isFirst | further := List.mem_cons.mp member
      · exact .inr (isFirst ▸ List.mem_cons_self)
      · exact (ih further).imp_right (List.mem_cons_of_mem _)

/-- The entries after settings that are made one after another. -/
def setAll (settings entries : List (String × α)) : List (String × α) :=
  settings.foldl (fun entries setting => set setting.1 setting.2 entries) entries

/-- Settings keep each key bound once. By induction on the settings. -/
theorem Distinct.setAll {entries : List (String × α)} (distinct : Distinct entries)
    (settings : List (String × α)) : Distinct (setAll settings entries) := by
  induction settings generalizing entries with
  | nil => exact distinct
  | cons setting later ih => exact ih (distinct.set setting.1 setting.2)

/-- Entries that recall settings made one after another: each key stands where it was set first, and
is bound to what it was set to last. -/
structure Recalls (entries settings : List (String × α)) : Prop where
  keys : keys entries = (settings.map Prod.fst).eraseDups
  latest : ∀ key, get? key entries = settings.reverse.lookup key

variable {entries settings : List (String × α)}

/-- Without settings there are no entries to recall them. -/
theorem recalls_nil : Recalls (α := α) [] [] := ⟨rfl, fun _ => rfl⟩

/-- One more setting is recalled too: its key comes last if it is new and stays where it was if not,
and what the key finds is the new value. -/
theorem Recalls.set (recalls : Recalls entries settings) (key : String) (value : α) :
    Recalls (set key value entries) (settings ++ [(key, value)]) where
  keys := by
    have once : [key].eraseDups = [key] := rfl
    rw [keys_set, recalls.keys, List.map_append, List.eraseDups_append]
    by_cases known : key ∈ settings.map Prod.fst
    · rw [if_pos (List.mem_eraseDups.mpr known)]
      simp [List.removeAll, known]
    · rw [if_neg fun member => known (List.mem_eraseDups.mp member)]
      simp [List.removeAll, known, once]
  latest asked := by
    rw [get?_set, recalls.latest, List.reverse_append, List.reverse_singleton,
      List.singleton_append, List.lookup_cons]
    by_cases same : asked = key
    · simp [same]
    · have differs : (asked == key) = false := by simpa using same
      rw [if_neg same, differs]

/-- All settings that are made are recalled. By induction on those still to be made. -/
theorem Recalls.setAll (recalls : Recalls entries settings) (later : List (String × α)) :
    Recalls (setAll later entries) (settings ++ later) := by
  induction later generalizing entries settings with
  | nil =>
    rw [List.append_nil]
    exact recalls
  | cons setting later ih =>
    rw [List.append_cons]
    exact ih (recalls.set setting.1 setting.2)

/-- What recalls settings is what they come to. Both have the same keys in the same order, and each
key finds the same, so they are the same entries. -/
theorem recalls_iff : Recalls entries settings ↔ entries = setAll settings [] := by
  have made : Recalls (setAll settings []) settings := recalls_nil.setAll settings
  constructor
  · intro recalls
    have nothing : Distinct ([] : List (String × α)) := List.nodup_nil
    symm
    refine (nothing.setAll settings).eq_of_get? (made.keys.trans recalls.keys.symm) fun key => ?_
    exact (made.latest key).trans (recalls.latest key).symm
  · rintro rfl
    exact made

end Formula.Entries
