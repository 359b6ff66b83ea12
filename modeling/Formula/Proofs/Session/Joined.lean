import Formula.Draft
import Formula.Proofs.Token.Boundary

/-!
# Lines and the text they make up

A text that is made of lines with a feed between each and the next is cut into almost the same
lines: a carriage return at the end of a line is lost if a feed follows, and a last line without
characters is none. Neither makes a difference to what is read. The return could only be a blank,
part of a remark or part of a comment, and where a string is still open there is an error either
way; and a line without characters only counts as a line.
-/

namespace Formula

namespace Draft

open CharClass

/-- A carriage return at the end of a line closes no comment. By induction on the search for the end
of the comment, which is never inside of what is added. -/
theorem closeComment?_return (chars : List Char) : closeComment? (chars ++ ['\r']) =
    (closeComment? chars).map fun found => (found.1, found.2 ++ ['\r']) := by
  fun_induction closeComment? chars with
  | case1 => rfl
  | case2 rest => rfl
  | case3 c later notEnd ih =>
    have stillNot : ∀ rest, c = '*' → later ++ ['\r'] = '/' :: rest → False := by
      intro rest isStar begins
      cases later with
      | nil => cases begins
      | cons slash later =>
        obtain ⟨rfl, rfl⟩ := List.cons.inj begins
        exact notEnd later isStar rfl
    rw [List.cons_append, closeComment?.eq_3 _ _ stillNot, ih, Option.map_map, Option.map_map]
    rfl

/-- What stands at the front of a line is the same with a carriage return at the end of the line,
but for blanks and remarks, which may take the return with them. -/
theorem ofChars_return (c : Char) (later : List Char) :
    Front.ofChars c (later ++ ['\r']) = (Front.ofChars c later).map (·.before ['\r']) ∨
      ∃ piece lexeme lexeme', (piece = .blanks ∨ piece = .remark) ∧
        Front.ofChars c later = .ok ⟨piece, lexeme, []⟩ ∧
        Front.ofChars c (later ++ ['\r']) = .ok ⟨piece, lexeme', []⟩ := by
  by_cases blank : isBlank c = true
  · have ofBlank (later : List Char) :
        Front.ofChars c later = .ok (Front.run .blanks isBlank (c :: later)) := if_pos blank
    rw [ofBlank, ofBlank]
    by_cases all : ∀ d ∈ c :: later, isBlank d = true
    · have still : ∀ d ∈ c :: (later ++ ['\r']), isBlank d = true := by
        rw [← List.cons_append]
        intro d member
        cases List.mem_append.mp member with
        | inl member => exact all d member
        | inr isReturn =>
          rw [List.mem_singleton.mp isReturn]
          rfl
      rw [Front.run_of_all _ all, Front.run_of_all _ still]
      exact .inr ⟨.blanks, _, _, .inl rfl, rfl, rfl⟩
    · obtain ⟨d, stopped⟩ := Classical.not_forall.mp all
      obtain ⟨member, stops⟩ := Classical.not_imp.mp stopped
      rw [← List.cons_append, Front.run_append_of_mem _ member (by simpa using stops)]
      exact .inl rfl
  · by_cases remark : c = '/' ∧ later.head? = some '/'
    · have remark' : c = '/' ∧ (later ++ ['\r']).head? = some '/' := by
        refine ⟨remark.1, ?_⟩
        rw [List.head?_append, remark.2]
        rfl
      have ofRemark (later : List Char) (remark : c = '/' ∧ later.head? = some '/') :
          Front.ofChars c later = .ok ⟨.remark, c :: later, []⟩ :=
        (if_neg blank).trans (if_pos remark)
      exact .inr ⟨.remark, _, _, .inr rfl, ofRemark later remark, ofRemark _ remark'⟩
    · exact .inl (Front.ofChars_append Front.separates_return (fun _ => .inr (by decide))
        (by simpa using blank) remark)

/-- Nor does it change what was read of the line. By induction on the reading; in the end the return
is a blank, or part of the blanks, the remark or the comment before it. -/
theorem readFrom_return (draft : Draft) (position : Position) (chars : List Char) :
    draft.readFrom position (chars ++ ['\r']) = draft.readFrom position chars := by
  fun_induction readFrom draft position chars with
  | case1 draft position chars start inside unclosed =>
    have unclosed' : closeComment? (chars ++ ['\r']) = none := by
      rw [closeComment?_return, unclosed]
      rfl
    rw [readFrom_of_open inside unclosed']
  | case2 draft position chars start inside skipped rest closed ih =>
    have closed' : closeComment? (chars ++ ['\r']) = some (skipped, rest ++ ['\r']) := by
      rw [closeComment?_return, closed]
      rfl
    rw [readFrom_of_closed inside closed', ih]
  | case3 draft position outside =>
    rw [List.nil_append, readFrom_of_ok outside (rfl : Front.ofChars '\r' [] = .ok _)]
    exact readFrom_nil outside
  | case4 draft position outside c later fault found =>
    rcases ofChars_return c later with same | ⟨piece, lexeme, lexeme', _, found', _⟩
    · rw [found] at same
      exact readFrom_of_error outside same
    · cases found.symm.trans found'
  | case5 draft position outside c later front found ih =>
    rcases ofChars_return c later with same | ⟨piece, lexeme, lexeme', silent, found', same⟩
    · rw [found] at same
      rw [List.cons_append, readFrom_of_ok outside same]
      exact ih
    · obtain rfl := Except.ok.inj (found.symm.trans found')
      rw [List.cons_append, readFrom_of_ok outside same]
      -- Blanks and remarks add nothing, so the draft is the one in which nothing is left to read.
      rcases silent with rfl | rfl <;>
        exact (readFrom_nil outside).trans (readFrom_nil outside).symm

/-- A line reads the same with and without a carriage return at its end. -/
theorem readLine_return (draft : Draft) {line kept : List Char}
    (same : line = kept ∨ line = kept ++ ['\r']) :
    draft.readLine (String.ofList kept) = draft.readLine (String.ofList line) := by
  rcases same with rfl | rfl
  · rfl
  · simp only [readLine, String.toList_ofList, readFrom_return]

/-- A line without characters is counted, and that is all. -/
theorem readLine_empty (draft : Draft) :
    draft.readLine "" = ({ draft with lines := draft.lines + 1 }, none) := by
  unfold readLine
  cases inside : draft.comment with
  | none => exact readFrom_nil rfl
  | some start => exact readFrom_of_open rfl rfl

end Draft

namespace Lines

/-- Up to a carriage return at its end, what stands before the first feed is a line. By induction on
what stands there. -/
theorem cut_append_feed {line : List Char} (noFeed : '\n' ∉ line) (rest : List Char) :
    ∃ kept, cut '\n' '\r' (line ++ '\n' :: rest) = kept :: cut '\n' '\r' rest ∧
      (line = kept ∨ line = kept ++ ['\r']) := by
  induction line with
  | nil => exact ⟨[], by simp [cut], .inl rfl⟩
  | cons c later ih =>
    have differs : c ≠ '\n' := fun same => noFeed (by simp [same])
    have restFree : '\n' ∉ later := fun member => noFeed (by simp [member])
    by_cases atEnd : c = '\r' ∧ (later ++ '\n' :: rest).head? = some '\n'
    · cases later with
      | nil =>
        refine ⟨[], ?_, .inr (by rw [atEnd.1]; rfl)⟩
        rw [List.cons_append, cut, if_neg differs, if_pos atEnd, List.nil_append, cut, if_pos rfl]
      | cons d later =>
        have isFeed : d = '\n' := Option.some.inj atEnd.2
        exact (restFree (by simp [isFeed])).elim
    · obtain ⟨kept, found, same⟩ := ih restFree
      refine ⟨c :: kept, ?_, ?_⟩
      · rw [List.cons_append, cut, if_neg differs, if_neg atEnd, found]
      · rcases same with rfl | rfl
        · exact .inl rfl
        · exact .inr rfl

/-- The lines of a text whose first line is known. -/
theorem ofText_append {line : String} (noFeed : '\n' ∉ line.toList) (rest : String) :
    ∃ kept : List Char, ofText (line ++ "\n" ++ rest) = String.ofList kept :: ofText rest ∧
      (line.toList = kept ∨ line.toList = kept ++ ['\r']) := by
  obtain ⟨kept, found, same⟩ := cut_append_feed noFeed rest.toList
  refine ⟨kept, ?_, same⟩
  have chars : (line ++ "\n" ++ rest).toList = line.toList ++ '\n' :: rest.toList := by
    simp
  rw [ofText, chars, found]
  rfl

/-- A text without feeds is one line, if anything. -/
theorem ofText_of_no_feed {line : String} (noFeed : '\n' ∉ line.toList) (nonempty : line ≠ "") :
    ofText line = [line] := by
  have chars : line.toList ≠ [] := by
    simpa using nonempty
  rw [ofText, cut_of_not_mem '\n' '\r' line.toList noFeed chars]
  simp

end Lines

namespace Draft

/-- Reading the lines of a text that some lines make up is reading these lines, but for how many
lines were counted. By induction on the lines: each but the last is followed by a feed, which may
take a carriage return with it; and an empty last line is no line of the text, but reads as
nothing. -/
theorem readLines_joined (draft : Draft) {lines : List String} (nonempty : lines ≠ [])
    (noFeed : ∀ line ∈ lines, '\n' ∉ line.toList) :
    (draft.readLines (Lines.ofText ("\n".intercalate lines))).2 = (draft.readLines lines).2 ∧
      (draft.readLines (Lines.ofText ("\n".intercalate lines))).1.finish =
        (draft.readLines lines).1.finish := by
  induction lines generalizing draft with
  | nil => exact absurd rfl nonempty
  | cons line later ih =>
    have free : '\n' ∉ line.toList := noFeed line (by simp)
    cases later with
    | nil =>
      rw [String.intercalate_singleton]
      by_cases blank : line = ""
      · subst blank
        simp only [readLines, readLine_empty]
        exact ⟨rfl, rfl⟩
      · rw [Lines.ofText_of_no_feed free blank]
        exact ⟨rfl, rfl⟩
    | cons next later =>
      rw [String.intercalate_cons_cons]
      obtain ⟨kept, found, same⟩ := Lines.ofText_append free ("\n".intercalate (next :: later))
      have first := readLine_return draft same
      rw [String.ofList_toList] at first
      rw [found, readLines, readLines, first]
      rcases draft.readLine line with ⟨read, _ | error⟩
      · exact ih read (by simp) fun other member => noFeed other (by simp [member])
      · exact ⟨rfl, rfl⟩

end Draft

section OneLine

variable {chars : List Char} (noFeed : '\n' ∉ chars) (nonempty : chars ≠ [])

include noFeed nonempty

/-- A text on one line is read as that line. -/
theorem Draft.ofText_of_line :
    ofText (String.ofList chars) = readFrom { Draft.empty with lines := 1 } ⟨1, 1⟩ chars := by
  have one : Lines.ofText (String.ofList chars) = [String.ofList chars] :=
    Lines.ofText_of_no_feed (by simpa using noFeed) (by simpa using nonempty)
  rw [ofText, one, readLines, readLine, String.toList_ofList]
  dsimp only [empty]
  rcases readFrom _ _ chars with ⟨read, _ | error⟩ <;> rfl

/-- So are its tokens, or the error that there is instead of them. -/
theorem ofText_of_line : Token.ofText (String.ofList chars) =
    match Draft.readFrom { Draft.empty with lines := 1 } ⟨1, 1⟩ chars with
    | (_, some error) => .error error
    | (draft, none) => draft.finish := by
  have line := Draft.ofText_of_line noFeed nonempty
  rcases found : Draft.ofText (String.ofList chars) with ⟨draft, _ | error⟩ <;>
    rw [found] at line <;> simp only [Token.ofText, found, ← line]

end OneLine

end Formula
