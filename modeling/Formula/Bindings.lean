import Formula.Value.Equality

/-!
# Bindings

The names that statements have bound, in the order of their first binding. There is one flat
scope: binding a name again replaces its value and keeps its place.
-/

namespace Formula

/-- Names bound to values, each name once. -/
structure Bindings where
  entries : List (String × Value)
  distinct : Entries.Distinct entries

namespace Bindings

/-- Nothing is bound. -/
def empty : Bindings := ⟨[], by simp [Entries.Distinct, Entries.keys]⟩

/-- The value of a name. -/
def get? (bindings : Bindings) (name : String) : Option Value := Entries.get? name bindings.entries

/-- Bind a name, anew if it is bound already. -/
def set (bindings : Bindings) (name : String) (value : Value) : Bindings :=
  ⟨Entries.set name value bindings.entries, bindings.distinct.set name value⟩

/-- Whether a name is bound. -/
def contains (bindings : Bindings) (name : String) : Bool := (bindings.get? name).isSome

/-- How many names are bound. -/
def size (bindings : Bindings) : Nat := bindings.entries.length

/-- Whether the same names are bound to equal values, in whatever order. -/
def equals (left right : Bindings) : Bool :=
  Value.equals (.dictionary left.entries) (.dictionary right.entries)

/-- Bind names to values one after another. -/
def ofList (pairs : List (String × Value)) : Bindings :=
  pairs.foldl (fun bindings pair => bindings.set pair.1 pair.2) empty

/-- Nothing is bound at first. -/
@[simp] theorem get?_empty (name : String) : empty.get? name = none := rfl

/-- A bound name has its new value, and the others keep theirs. -/
theorem get?_set (bindings : Bindings) (name asked : String) (value : Value) :
    (bindings.set name value).get? asked = if asked = name then some value else bindings.get? asked :=
  Entries.get?_set name asked value bindings.entries

end Bindings

end Formula
