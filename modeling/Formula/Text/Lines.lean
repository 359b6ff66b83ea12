/-!
# Lines

A text is cut at its line feeds. The feed belongs to no line, and neither does one carriage
return right before it. What follows the last feed is a line only if it is not empty, and keeps a
carriage return at its end, because no feed follows that one. The rule is the same for characters
and for raw bytes, so it is stated once for any alphabet with a feed and a return in it.
-/

namespace Formula.Lines

/-- The lines of a text over an alphabet in which `feed` ends a line. -/
def cut {α : Type} [DecidableEq α] (feed carriage : α) : List α → List (List α)
  | [] => []
  | c :: rest =>
    if c = feed then [] :: cut feed carriage rest
    else if c = carriage ∧ rest.head? = some feed then cut feed carriage rest
    else match cut feed carriage rest with
      | [] => [[c]]
      | line :: more => (c :: line) :: more

/-- The lines of a text. -/
def ofText (text : String) : List String :=
  (cut '\n' '\r' text.toList).map String.ofList

/-- The lines of raw bytes, each still undecoded. -/
def ofBytes (bytes : ByteArray) : List ByteArray :=
  (cut 10 13 bytes.data.toList).map fun line => ByteArray.mk line.toArray

/-- A line with neither feed nor carriage return is the only line of itself, unless it is empty. By
induction on the line. -/
theorem cut_of_not_mem {α : Type} [DecidableEq α] (feed carriage : α) (line : List α)
    (noFeed : feed ∉ line) (nonempty : line ≠ []) : cut feed carriage line = [line] := by
  induction line with
  | nil => exact absurd rfl nonempty
  | cons c rest ih =>
    have differs : c ≠ feed := fun same => noFeed (by simp [same])
    have restFree : feed ∉ rest := fun member => noFeed (by simp [member])
    have noHead : rest.head? ≠ some feed := by
      cases rest with
      | nil => simp
      | cons d more => intro same; exact restFree (by simp_all)
    cases rest with
    | nil => simp [cut, differs]
    | cons d more => rw [cut, if_neg differs, if_neg fun both => noHead both.2, ih restFree (by simp)]

/-- No line holds a line feed. By induction on the text; each character is put in front of the first
line of what follows, if it is no feed. -/
theorem feed_not_mem_of_mem_cut {α : Type} [DecidableEq α] (feed carriage : α) (text : List α) :
    ∀ line ∈ cut feed carriage text, feed ∉ line := by
  induction text with
  | nil => simp [cut]
  | cons c rest ih =>
    intro line member
    rw [cut] at member
    split at member
    · rcases List.mem_cons.mp member with rfl | later
      · simp
      · exact ih line later
    · next differs =>
      split at member
      · exact ih line member
      · split at member
        · obtain rfl := List.mem_singleton.mp member
          simpa using fun same => differs same.symm
        · next first more cutRest =>
          rcases List.mem_cons.mp member with rfl | later
          · have free := ih first (by simp [cutRest])
            simpa [free] using fun same => differs same.symm
          · exact ih line (by simp [cutRest, later])

end Formula.Lines
