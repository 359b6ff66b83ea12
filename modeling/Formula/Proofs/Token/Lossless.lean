import Formula.Proofs.Token.Faults
import Formula.Proofs.Token.Woven

/-!
# Nothing is lost in tokens

From its tokens alone it can be told what a text says. The bytes between the ends of a token's span
are the bytes of its lexeme, the lexeme alone determines the value, and what is left of the text when
the tokens are taken out of it means nothing.
-/

namespace Formula

open CharClass

section Bytes

/-- The bytes of a text's characters. By induction on them. -/
theorem utf8ByteSize_ofList (chars : List Char) :
    (String.ofList chars).utf8ByteSize = byteLength chars := by
  induction chars with
  | nil => rfl
  | cons c later ih =>
    rw [String.ofList_cons, String.utf8ByteSize_append, String.utf8ByteSize_singleton, ih, byteLength]

/-- The bytes of a text between two others. -/
theorem extract_middle (front part tail : String) :
    (front ++ part ++ tail).toUTF8.extract front.utf8ByteSize
      (front.utf8ByteSize + part.utf8ByteSize) = part.toUTF8 := by
  have shifted := ByteArray.extract_append_size_add (a := front.toUTF8)
    (b := part.toUTF8 ++ tail.toUTF8) (i := 0) (j := part.utf8ByteSize)
  have whole : (front ++ part ++ tail).toUTF8 = front.toUTF8 ++ (part.toUTF8 ++ tail.toUTF8) := by
    simp only [String.toUTF8_eq_toByteArray, String.toByteArray_append, ByteArray.append_assoc]
  rw [whole]
  exact shifted.trans (ByteArray.extract_append_eq_left rfl)

/-- The lexeme of a token is cut from one of some lines: it is all the bytes from the column where
the span starts up to the column where it stops. -/
def Token.IsCutFrom (lines : List String) (token : Token) : Prop :=
  ∃ number line first last, lines[number]? = some line ∧
    token.span = ⟨⟨number + 1, first + 1⟩, ⟨number + 1, last + 1⟩⟩ ∧
    first ≤ last ∧ last ≤ line.utf8ByteSize ∧
    line.toUTF8.extract first last = token.lexeme.toUTF8

/-- What stands on a line is cut from it. The columns of a span count bytes, so they are where the
bytes of the lexeme begin and end in those of the line. -/
theorem Token.StandsOn.isCutFrom {token : Token} {lines : List String} {before after : List Char}
    (standsOn : token.StandsOn lines before after) : token.IsCutFrom lines := by
  obtain ⟨number, line, known, split, span⟩ := standsOn
  have written : line = String.ofList before ++ token.lexeme ++ String.ofList after := by
    rw [← String.toList_inj, split]
    simp only [String.toList_append, String.toList_ofList]
  have size : byteLength token.lexeme.toList = token.lexeme.utf8ByteSize := by
    rw [← utf8ByteSize_ofList, String.ofList_toList]
  refine ⟨number, line, byteLength before, byteLength before + token.lexeme.utf8ByteSize, known,
    ?_, ?_, ?_, ?_⟩
  · rw [span, size, Span.within, Position.advance, Nat.add_right_comm]
  · exact Nat.le_add_right _ _
  · rw [written, String.utf8ByteSize_append, String.utf8ByteSize_append, utf8ByteSize_ofList]
    exact Nat.le_add_right _ _
  · rw [written, ← utf8ByteSize_ofList]
    exact extract_middle (String.ofList before) token.lexeme (String.ofList after)

end Bytes

/-- A token that is found has the value that its lexeme denotes. -/
theorem Token.Found.denotes {token : Token} {lines : List String} {before after : List Char}
    (found : token.Found lines before after) :
    Denotes token.kind token.lexeme.toList token.value? := by
  obtain ⟨c, later, front⟩ := found.front
  exact Front.denotes_of_token front

/-- Tokens tell all of a text that means anything: each is cut from a line of the text where its span
says and has the value that its lexeme denotes, each comes after the ones before it, and the text
holds nothing else but blanks, remarks and comments. -/
structure Lossless (text : String) (tokens : List Token) : Prop where
  cut : ∀ token ∈ tokens, token.IsCutFrom (Lines.ofText text)
  inOrder : tokens.Pairwise fun earlier later =>
    earlier.span.start < later.span.start ∧ earlier.span.stop ≤ later.span.start
  woven : Woven .first text.toList tokens
  denoted : ∀ token ∈ tokens, Denotes token.kind token.lexeme.toList token.value?

/-- Nothing is lost in the tokens of a text: they are cut from it where they say, and woven into it
in their order, with the values that their lexemes denote. Each part is known of the tokens one by
one, from where they were found, or of all of them, from the scan of the text. -/
theorem Token.lossless_of_ofText {text : String} {tokens : List Token}
    (read : ofText text = .ok tokens) : Lossless text tokens := by
  have woven := woven_of_ofText read
  constructor
  case cut =>
    intro token member
    obtain ⟨before, after, found⟩ := found_of_ofText read token member
    exact found.standsOn.isCutFrom
  case inOrder =>
    apply List.Pairwise.imp_of_mem _ woven.stop_le_start
    intro earlier later member _ separate
    exact ⟨(woven.start_lt_stop earlier member).trans_le separate, separate⟩
  case woven => exact woven
  case denoted =>
    intro token member
    obtain ⟨before, after, found⟩ := found_of_ofText read token member
    exact found.denotes

/-- Characters of several bytes, a string in which a comment seems to begin, a quote in a remark, and
a comment over two lines in which a string and a remark seem to begin. -/
theorem Token.lossless_of_ofText_comments :
    ∃ tokens, ofText "é + \"/*ü\" // \"\n/* ½ \" // \n*/ 2.50,007" = .ok tokens ∧
      tokens.map Token.lexeme = ["é", "+", "\"/*ü\"", "2.50", ",", "007"] ∧
      Lossless "é + \"/*ü\" // \"\n/* ½ \" // \n*/ 2.50,007" tokens := by
  have reads : (match ofText "é + \"/*ü\" // \"\n/* ½ \" // \n*/ 2.50,007" with
      | .ok tokens => decide (tokens.map Token.lexeme = ["é", "+", "\"/*ü\"", "2.50", ",", "007"])
      | .error _ => false) = true := by decide +kernel
  split at reads
  · next tokens read => exact ⟨tokens, read, of_decide_eq_true reads, lossless_of_ofText read⟩
  · cases reads

end Formula
