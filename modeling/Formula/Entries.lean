/-!
# Ordered entries

Names and keys are bound in lists of pairs, which keep the order of first binding. Setting a key
that is there already changes its value and leaves it in its place; a new key goes to the end.
So a list built by setting keys one after another holds each key once.
-/

namespace Formula.Entries

variable {α : Type}

/-- The keys, in order. -/
def keys (entries : List (String × α)) : List String := entries.map Prod.fst

/-- What `key` is bound to. -/
def get? (key : String) : List (String × α) → Option α
  | [] => none
  | (other, bound) :: later => if other = key then some bound else get? key later

/-- Bind `key` to `value`, in its old place if it has one and at the end otherwise. -/
def set (key : String) (value : α) : List (String × α) → List (String × α)
  | [] => [(key, value)]
  | (other, bound) :: later =>
    if other = key then (key, value) :: later else (other, bound) :: set key value later

/-- No key is bound twice. -/
def Distinct (entries : List (String × α)) : Prop := (keys entries).Nodup

/-- A key that is bound once is not bound before. -/
theorem Distinct.not_mem {key : String} {value : α} {before later : List (String × α)}
    (distinct : Distinct (before ++ (key, value) :: later)) : key ∉ keys before := by
  have split : (keys before ++ key :: keys later).Nodup := by
    simpa [Distinct, keys] using distinct
  intro member
  exact (List.nodup_append.mp split).2.2 key member key (by simp) rfl

/-- A key is bound exactly if it is one of the keys. -/
theorem get?_isSome (key : String) (entries : List (String × α)) :
    (get? key entries).isSome = true ↔ key ∈ keys entries := by
  induction entries with
  | nil => simp [get?, keys]
  | cons entry later ih =>
    obtain ⟨other, bound⟩ := entry
    by_cases found : other = key
    · simp [get?, keys, found]
    · have differs : key ≠ other := fun equal => found equal.symm
      simpa [get?, keys, found, differs] using ih

/-- After a setting the key has the new value and every other key has the one it had. By induction
on the entries. -/
theorem get?_set (key asked : String) (value : α) (entries : List (String × α)) :
    get? asked (set key value entries) = if asked = key then some value else get? asked entries := by
  induction entries with
  | nil => by_cases same : key = asked <;> simp [set, get?, same, eq_comm (a := asked)]
  | cons entry later ih =>
    obtain ⟨other, bound⟩ := entry
    by_cases found : other = key
    · subst found
      by_cases same : other = asked <;> simp [set, get?, same, eq_comm (a := asked)]
    · by_cases here : other = asked
      · subst here
        simp [set, get?, found]
      · simp [set, get?, found, here, ih]

/-- Setting keeps the keys and their order, and adds a new key at the end. By induction on the
entries. -/
theorem keys_set (key : String) (value : α) (entries : List (String × α)) :
    keys (set key value entries) =
      if key ∈ keys entries then keys entries else keys entries ++ [key] := by
  induction entries with
  | nil => simp [set, keys]
  | cons entry later ih =>
    obtain ⟨other, bound⟩ := entry
    by_cases found : other = key
    · simp [set, found, keys]
    · have differs : key ≠ other := fun equal => found equal.symm
      have step : keys (set key value ((other, bound) :: later)) =
          other :: keys (set key value later) := by
        simp [set, keys, found]
      rw [step, ih]
      by_cases member : key ∈ keys later
      · have present : key ∈ keys ((other, bound) :: later) := List.mem_cons_of_mem other member
        rw [if_pos member, if_pos present]
        rfl
      · have absent : key ∉ keys ((other, bound) :: later) := by
          simpa [keys, differs] using member
        rw [if_neg member, if_neg absent]
        rfl

/-- A new key goes to the end with its value. -/
theorem set_of_not_mem {key : String} {entries : List (String × α)} (new : key ∉ keys entries)
    (value : α) : set key value entries = entries ++ [(key, value)] := by
  induction entries with
  | nil => rfl
  | cons entry later ih =>
    obtain ⟨other, bound⟩ := entry
    have differs : other ≠ key := fun same => new (by simp [keys, same])
    have absent : key ∉ keys later := fun member => new (List.mem_cons_of_mem other member)
    rw [set, if_neg differs, ih absent, List.cons_append]

/-- Setting never binds a key twice: only a key that was not there before is added to the keys. -/
theorem Distinct.set {entries : List (String × α)} (distinct : Distinct entries)
    (key : String) (value : α) : Distinct (set key value entries) := by
  unfold Distinct
  rw [keys_set]
  by_cases member : key ∈ keys entries
  · rw [if_pos member]
    exact distinct
  · rw [if_neg member]
    refine List.nodup_append.mpr ⟨distinct, by simp, ?_⟩
    intro name old last isKey equal
    obtain rfl := List.mem_singleton.mp isKey
    exact member (equal ▸ old)

end Formula.Entries
