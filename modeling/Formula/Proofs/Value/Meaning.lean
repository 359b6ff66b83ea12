import Formula.Expr.Eval
import Formula.Proofs.Grammar.Induction
import Formula.Proofs.Value.Words

/-!
# What the words of a value mean

The words of a value make one expression without operators, which nests as deep as the value does.
Evaluating it gives the value back if all its numbers have literals. Infinity and what is no number
are read as names, and where these are not bound the expression has no value.
-/

namespace Formula

/-- Evaluating comes to a value if all these parts have literals, and to an error if not. -/
structure Gives {α : Type} (parts : List Value) (value : α) (result : Except EvalError α) : Prop where
  whole : (∀ part ∈ parts, part.HasLiteral) → result = .ok value
  fault : ∀ part ∈ parts, ¬part.HasLiteral → ∃ error, result = .error error

namespace Gives

variable {α β : Type} {parts more : List Value} {value : α} {result : Except EvalError α}

/-- What is evaluated to a value gives it if all the parts have literals. -/
theorem ok (value : α) (literal : ∀ part ∈ parts, part.HasLiteral) :
    Gives parts value (.ok value) where
  whole _ := rfl
  fault part member other := (other (literal part member)).elim

/-- What is evaluated in a row fails with the first fault, which is that of a part without a
literal. -/
theorem bind {next : α → Except EvalError β} {last : β} (first : Gives parts value result)
    (second : Gives more last (next value)) : Gives (parts ++ more) last (result >>= next) where
  whole := by
    intro all
    obtain ⟨all, all'⟩ := List.forall_mem_append.mp all
    rw [first.whole all]
    exact second.whole all'
  fault := by
    intro part member other
    by_cases all : ∀ part ∈ parts, part.HasLiteral
    · have later : part ∈ more := by
        refine (List.mem_append.mp member).resolve_left ?_
        exact fun earlier => other (all part earlier)
      rw [first.whole all]
      exact second.fault part later other
    · obtain ⟨earlier, failed⟩ := Classical.not_forall.mp all
      obtain ⟨member, other⟩ := Classical.not_imp.mp failed
      obtain ⟨error, found⟩ := first.fault earlier member other
      rw [found]
      exact ⟨error, rfl⟩

/-- What is made of a value is given by the same parts. -/
theorem map (apply : α → β) (given : Gives parts value result) :
    Gives parts (apply value) (result >>= fun value => .ok (apply value)) := by
  have whole : Gives (parts ++ []) (apply value) (result >>= fun value => .ok (apply value)) :=
    given.bind (.ok (apply value) (List.forall_mem_nil _))
  rw [List.append_nil] at whole
  exact whole

/-- A part that has a literal makes no difference. -/
theorem cons {part : Value} (given : Gives parts value result) (literal : part.HasLiteral) :
    Gives (part :: parts) value result where
  whole all := given.whole fun other member => all other (List.mem_cons_of_mem part member)
  fault := by
    intro other member without
    rcases List.mem_cons.mp member with rfl | later
    · exact (without literal).elim
    · exact given.fault other later without

end Gives

namespace Grammar

section Containers

variable {depth : Nat} {tokens : List Token}

/-- Items between brackets are an expression one level further out. -/
theorem nested_list {left right : Token} {elements : List Expr}
    (opens : left.kind = .symbol .leftBracket) (derived : Items (Nested depth) tokens elements)
    (closes : right.kind = .symbol .rightBracket) :
    Nested (depth + 1) (left :: (tokens ++ [right]))
      (.list elements (left.span.through right.span)) := by
  have whole := Enclosed.opened left _ _ opens (.closed tokens elements right derived closes)
  exact expression_of_factor (.list _ left elements right (Nat.succ_pos depth) whole)

/-- So are pairs between braces. -/
theorem nested_dictionary {left right : Token} {pairs : List (Expr × Expr)}
    (opens : left.kind = .symbol .leftBrace) (derived : Items (Pair (Nested depth)) tokens pairs)
    (closes : right.kind = .symbol .rightBrace) :
    Nested (depth + 1) (left :: (tokens ++ [right]))
      (.dictionary pairs (left.span.through right.span)) := by
  have whole := Enclosed.opened left _ _ opens (.closed tokens pairs right derived closes)
  exact expression_of_factor (.dictionary _ left pairs right (Nat.succ_pos depth) whole)

end Containers

end Grammar

namespace Value

open Grammar

section Tokens

variable {tokens : List Token}

/-- One word is written by one token. -/
theorem exists_single {word : Word} (written : tokens.map Token.word = [word]) :
    ∃ token, tokens = [token] ∧ token.content = word.content ∧ token.lexeme = word.lexeme := by
  obtain ⟨token, rest, rfl, rfl, none⟩ := List.map_eq_cons_iff.mp written
  obtain rfl := List.map_eq_nil_iff.mp none
  exact ⟨token, rfl, rfl, rfl⟩

/-- The kind of a token is known from its word. -/
theorem kind_of_word {token : Token} {word : Word} (written : token.word = word) :
    token.kind = word.content.kind :=
  congrArg (fun word => word.content.kind) written

/-- Words between two symbols come from tokens between two tokens. -/
theorem exists_enclosed {opening closing : Symbol} {words : List Word}
    (written : tokens.map Token.word = opening.word :: (words ++ [closing.word])) :
    ∃ left middle right, tokens = left :: (middle ++ [right]) ∧ left.kind = .symbol opening ∧
      middle.map Token.word = words ∧ right.kind = .symbol closing := by
  obtain ⟨left, rest, rfl, opens, written⟩ := List.map_eq_cons_iff.mp written
  obtain ⟨middle, last, rfl, same, written⟩ := List.map_eq_append_iff.mp written
  obtain ⟨right, rfl, closes, -⟩ := exists_single written
  exact ⟨left, middle, right, rfl, kind_of_word opens, same, congrArg Token.Content.kind closes⟩

/-- The words of a key and of a value make a pair. -/
theorem exists_pair {key : String} {words : List Word}
    (written : tokens.map Token.word = keyWord key :: Symbol.colon.word :: words) :
    ∃ (span : Span) (rest : List Token), rest.map Token.word = words ∧
      ∀ (inner : Grammar.Language Expr) (expr : Expr), inner rest expr →
        Pair inner tokens (.literal (.string key) span, expr) := by
  obtain ⟨key', others, rfl, named, written⟩ := List.map_eq_cons_iff.mp written
  obtain ⟨colon, rest, rfl, parts, written⟩ := List.map_eq_cons_iff.mp written
  have denotes : key'.value? = some (.string key) :=
    congrArg (fun word => word.content.value?) named
  refine ⟨key'.span, rest, written, ?_⟩
  intro inner expr derived
  exact .bound key' _ colon rest expr (kind_of_word named) denotes (kind_of_word parts) derived

end Tokens

section Scalars

variable {bindings : Bindings} {tokens : List Token} {content : Token.Content} {lexeme : String}

/-- One literal is read and gives the value it denotes. -/
theorem reads_literal {value : Value} (denotes : content.value? = some value)
    (literal : ∀ part ∈ value.parts, part.HasLiteral)
    (written : tokens.map Token.word = [⟨content, lexeme⟩]) (depth : Nat) :
    ∃ expr, Nested depth tokens expr ∧ Gives value.parts value (expr.eval bindings) := by
  obtain ⟨token, rfl, same, -⟩ := exists_single written
  have denotes' : token.value? = some value := by
    rw [Token.value?, same, denotes]
  exact ⟨_, nested_literal denotes', .ok value literal⟩

/-- One name is read, and has no value if it is not bound. -/
theorem reads_unbound {value : Value} {part : Value} (member : part ∈ value.parts)
    (other : ¬part.HasLiteral) (unbound : bindings.get? lexeme = none)
    (written : tokens.map Token.word = [⟨.name, lexeme⟩]) (depth : Nat) :
    ∃ expr, Nested depth tokens expr ∧ Gives value.parts value (expr.eval bindings) := by
  obtain ⟨token, rfl, same, named⟩ := exists_single written
  have isName : token.kind = .name := congrArg Token.Content.kind same
  refine ⟨_, nested_name isName, ?_, ?_⟩
  · intro all
    exact (other (all part member)).elim
  · intro _ _ _
    refine ⟨⟨.unbound token.lexeme, token.span.start⟩, ?_⟩
    simp only [Expr.eval, Expr.evalThen, named, unbound]

end Scalars

section Evaluation

variable {bindings : Bindings} {expr : Expr}

/-- An element and the later ones are evaluated in a row. -/
theorem gives_elements {item : Value} {later : List Value} {exprs : List Expr}
    (one : Gives item.parts item (expr.eval bindings))
    (others : Gives (itemParts later) later (Expr.evalElements bindings exprs)) :
    Gives (itemParts (item :: later)) (item :: later)
      (Expr.evalElements bindings (expr :: exprs)) := by
  rw [itemParts, Expr.evalElements]
  exact one.bind (others.map (item :: ·))

/-- An entry is set after those before it, and the later ones after it. As its key is new, it is set
at the end. -/
theorem gives_pairs {key : String} {value : Value} {before later : List (String × Value)}
    {pairs : List (Expr × Expr)} {span : Span} (new : key ∉ Entries.keys before)
    (one : Gives value.parts value (expr.eval bindings))
    (others : Gives (entryParts later) (before ++ [(key, value)] ++ later)
      (Expr.evalPairs bindings pairs (before ++ [(key, value)]))) :
    Gives (entryParts ((key, value) :: later)) (before ++ (key, value) :: later)
      (Expr.evalPairs bindings ((.literal (.string key) span, expr) :: pairs) before) := by
  have evaluated : Expr.evalPairs bindings ((.literal (.string key) span, expr) :: pairs) before =
      expr.eval bindings >>= fun value =>
        Expr.evalPairs bindings pairs (Entries.set key value before) := by
    rw [Expr.evalPairs, Expr.evalThen]
    rfl
  rw [List.append_assoc] at others
  rw [entryParts, evaluated]
  refine one.bind ?_
  rw [Entries.set_of_not_mem new]
  exact others

end Evaluation

/-- The names that numbers without literals are called by are not bound. -/
def Unnamed (bindings : Bindings) : Prop :=
  bindings.get? "inf" = none ∧ bindings.get? "NaN" = none

variable {bindings : Bindings}

/-- A finite number is read as the literal, another one as a name that is not bound, and then the
error is that of a value without a literal. -/
theorem reads_float (unnamed : Unnamed bindings) {number : Float}
    (unsigned : ¬IsSigned (.float number)) {tokens : List Token}
    (written : tokens.map Token.word = words (.float number)) (depth : Nat) :
    ∃ expr, Nested depth tokens expr ∧
      Gives (parts (.float number)) (.float number) (expr.eval bindings) := by
  rw [words] at written
  by_cases finite : number.isFinite = true
  · have literal := hasLiteral_of_finite unsigned finite
    rw [if_pos finite] at written
    exact reads_literal rfl (by simpa [parts] using literal) written depth
  · have without : ¬HasLiteral (.float number) := fun literal => finite literal.1
    have unbound : bindings.get? (text (.float number)) = none := by
      have named : number.isFinite = false := by simpa using finite
      rw [text, chars, String.ofList_toList]
      cases FloatText.write_nameless named (either_of_unsigned unsigned) with
      | inl called => rw [called, unnamed.1]
      | inr called => rw [called, unnamed.2]
    rw [if_neg finite] at written
    exact reads_unbound (mem_parts _) without unbound written depth

mutual

/-- The words of a value without signs are read as an expression that gives it. By induction on the
value: lists and dictionaries use up one level of the depth, and all else is one token. -/
theorem reads_words (unnamed : Unnamed bindings) (value : Value) {depth : Nat}
    (shallow : value.depth ≤ depth)
    (distinct : ∀ part ∈ value.parts, part.HasDistinctKeys)
    (unsigned : ∀ part ∈ value.parts, ¬part.IsSigned) {tokens : List Token}
    (written : tokens.map Token.word = value.words) :
    ∃ expr, Nested depth tokens expr ∧ Gives value.parts value (expr.eval bindings) := by
  cases value with
  | integer number =>
    rw [words] at written
    have natural : 0 ≤ number.toInt := Int.not_lt.mp (unsigned (.integer number) (mem_parts _))
    exact reads_literal rfl (by simpa [parts, HasLiteral] using natural) written depth
  | float number =>
    exact reads_float unnamed (unsigned (.float number) (mem_parts _)) written depth
  | string content =>
    rw [words] at written
    exact reads_literal rfl (by simp [parts, HasLiteral]) written depth
  | boolean truth =>
    rw [words] at written
    exact reads_literal rfl (by simp [parts, HasLiteral]) written depth
  | list items =>
    obtain ⟨-, distinct⟩ := forall_parts_list.mp distinct
    obtain ⟨-, unsigned⟩ := forall_parts_list.mp unsigned
    rw [words] at written
    obtain ⟨left, middle, right, rfl, opens, written, closes⟩ := exists_enclosed written
    cases depth with
    | zero => exact absurd shallow (Nat.not_succ_le_zero _)
    | succ depth =>
      have inside : itemDepth items ≤ depth := Nat.le_of_succ_le_succ shallow
      obtain ⟨exprs, derived, given⟩ :=
        reads_itemWords unnamed items inside distinct unsigned written
      refine ⟨_, nested_list opens derived closes, ?_⟩
      rw [parts]
      exact (given.map Value.list).cons trivial
  | dictionary entries =>
    obtain ⟨once, distinct⟩ := forall_parts_dictionary.mp distinct
    obtain ⟨-, unsigned⟩ := forall_parts_dictionary.mp unsigned
    rw [words] at written
    obtain ⟨left, middle, right, rfl, opens, written, closes⟩ := exists_enclosed written
    cases depth with
    | zero => exact absurd shallow (Nat.not_succ_le_zero _)
    | succ depth =>
      have inside : entryDepth entries ≤ depth := Nat.le_of_succ_le_succ shallow
      obtain ⟨pairs, derived, given⟩ :=
        reads_entryWords unnamed entries inside distinct unsigned once written
      refine ⟨_, nested_dictionary opens derived closes, ?_⟩
      rw [parts]
      exact (given.map Value.dictionary).cons trivial

/-- The words of items are read as the elements of a list. The first item is read from its own
words, and the others from those after it. -/
theorem reads_itemWords (unnamed : Unnamed bindings) (items : List Value) {depth : Nat}
    (shallow : itemDepth items ≤ depth)
    (distinct : ∀ part ∈ itemParts items, part.HasDistinctKeys)
    (unsigned : ∀ part ∈ itemParts items, ¬part.IsSigned) {tokens : List Token}
    (written : tokens.map Token.word = itemWords items) :
    ∃ exprs, Items (Nested depth) tokens exprs ∧
      Gives (itemParts items) items (Expr.evalElements bindings exprs) := by
  cases items with
  | nil =>
    obtain rfl := List.map_eq_nil_iff.mp written
    exact ⟨[], .none, .ok [] (by simp [itemParts])⟩
  | cons first later =>
    obtain ⟨distinct, distinct'⟩ := forall_itemParts_cons.mp distinct
    obtain ⟨unsigned, unsigned'⟩ := forall_itemParts_cons.mp unsigned
    obtain ⟨shallow, shallow'⟩ := Nat.max_le.mp shallow
    rw [itemWords] at written
    obtain ⟨front, rest, rfl, one, others⟩ := List.map_eq_append_iff.mp written
    obtain ⟨expr, derived, given⟩ := reads_words unnamed first shallow distinct unsigned one
    obtain ⟨exprs, derived', given'⟩ :=
      reads_laterItemWords unnamed later shallow' distinct' unsigned' others
    exact ⟨expr :: exprs, .some _ _ (.parted front expr rest exprs derived derived'),
      gives_elements given given'⟩

/-- So are those of the items after a comma, each of which has a comma before its own words. -/
theorem reads_laterItemWords (unnamed : Unnamed bindings) (items : List Value) {depth : Nat}
    (shallow : itemDepth items ≤ depth)
    (distinct : ∀ part ∈ itemParts items, part.HasDistinctKeys)
    (unsigned : ∀ part ∈ itemParts items, ¬part.IsSigned) {tokens : List Token}
    (written : tokens.map Token.word = laterItemWords items) :
    ∃ exprs, Star (AfterComma (Nested depth)) tokens exprs ∧
      Gives (itemParts items) items (Expr.evalElements bindings exprs) := by
  cases items with
  | nil =>
    obtain rfl := List.map_eq_nil_iff.mp written
    exact ⟨[], .none, .ok [] (by simp [itemParts])⟩
  | cons item later =>
    obtain ⟨distinct, distinct'⟩ := forall_itemParts_cons.mp distinct
    obtain ⟨unsigned, unsigned'⟩ := forall_itemParts_cons.mp unsigned
    obtain ⟨shallow, shallow'⟩ := Nat.max_le.mp shallow
    rw [laterItemWords] at written
    obtain ⟨comma, rest, rfl, parts, written⟩ := List.map_eq_cons_iff.mp written
    obtain ⟨front, rest, rfl, one, others⟩ := List.map_eq_append_iff.mp written
    obtain ⟨expr, derived, given⟩ := reads_words unnamed item shallow distinct unsigned one
    obtain ⟨exprs, derived', given'⟩ :=
      reads_laterItemWords unnamed later shallow' distinct' unsigned' others
    have isComma : comma.kind = .symbol .comma := kind_of_word parts
    exact ⟨expr :: exprs, .more (comma :: front) expr rest exprs
      (.next comma front expr isComma derived) derived', gives_elements given given'⟩

/-- The words of entries after a comma are read as pairs, which set the entries after any others
that have different keys. -/
theorem reads_laterEntryWords (unnamed : Unnamed bindings) (entries : List (String × Value))
    {depth : Nat} (shallow : entryDepth entries ≤ depth)
    (distinct : ∀ part ∈ entryParts entries, part.HasDistinctKeys)
    (unsigned : ∀ part ∈ entryParts entries, ¬part.IsSigned) {tokens : List Token}
    (written : tokens.map Token.word = laterEntryWords entries) :
    ∃ pairs, Star (AfterComma (Pair (Nested depth))) tokens pairs ∧
      ∀ before, Entries.Distinct (before ++ entries) →
        Gives (entryParts entries) (before ++ entries) (Expr.evalPairs bindings pairs before) := by
  cases entries with
  | nil =>
    obtain rfl := List.map_eq_nil_iff.mp written
    refine ⟨[], .none, ?_⟩
    intro before _
    rw [List.append_nil]
    exact .ok before (by simp [entryParts])
  | cons entry later =>
    obtain ⟨key, value⟩ := entry
    obtain ⟨distinct, distinct'⟩ := forall_entryParts_cons.mp distinct
    obtain ⟨unsigned, unsigned'⟩ := forall_entryParts_cons.mp unsigned
    obtain ⟨shallow, shallow'⟩ := Nat.max_le.mp shallow
    rw [laterEntryWords] at written
    obtain ⟨comma, rest, rfl, parts, written⟩ := List.map_eq_cons_iff.mp written
    obtain ⟨front, rest, rfl, one, others⟩ := List.map_eq_append_iff.mp written
    obtain ⟨span, inside, one, paired⟩ := exists_pair one
    obtain ⟨expr, derived, given⟩ := reads_words unnamed value shallow distinct unsigned one
    obtain ⟨pairs, derived', given'⟩ :=
      reads_laterEntryWords unnamed later shallow' distinct' unsigned' others
    refine ⟨(.literal (.string key) span, expr) :: pairs, ?_, ?_⟩
    · exact .more (comma :: front) _ rest pairs
        (.next comma front _ (kind_of_word parts) (paired _ expr derived)) derived'
    · intro before once
      have once' : Entries.Distinct (before ++ [(key, value)] ++ later) := by
        rw [List.append_assoc]
        exact once
      exact gives_pairs once.not_mem given (given' _ once')

/-- The words of entries are read as the pairs of a dictionary. Nothing is set before the first of
them, so all the entries are what the pairs set. -/
theorem reads_entryWords (unnamed : Unnamed bindings) (entries : List (String × Value))
    {depth : Nat} (shallow : entryDepth entries ≤ depth)
    (distinct : ∀ part ∈ entryParts entries, part.HasDistinctKeys)
    (unsigned : ∀ part ∈ entryParts entries, ¬part.IsSigned)
    (once : Entries.Distinct entries) {tokens : List Token}
    (written : tokens.map Token.word = entryWords entries) :
    ∃ pairs, Items (Pair (Nested depth)) tokens pairs ∧
      Gives (entryParts entries) entries (Expr.evalPairs bindings pairs []) := by
  cases entries with
  | nil =>
    obtain rfl := List.map_eq_nil_iff.mp written
    exact ⟨[], .none, .ok [] (by simp [entryParts])⟩
  | cons entry later =>
    obtain ⟨key, value⟩ := entry
    obtain ⟨distinct, distinct'⟩ := forall_entryParts_cons.mp distinct
    obtain ⟨unsigned, unsigned'⟩ := forall_entryParts_cons.mp unsigned
    obtain ⟨shallow, shallow'⟩ := Nat.max_le.mp shallow
    rw [entryWords] at written
    obtain ⟨front, rest, rfl, one, others⟩ := List.map_eq_append_iff.mp written
    obtain ⟨span, inside, one, paired⟩ := exists_pair one
    obtain ⟨expr, derived, given⟩ := reads_words unnamed value shallow distinct unsigned one
    obtain ⟨pairs, derived', given'⟩ :=
      reads_laterEntryWords unnamed later shallow' distinct' unsigned' others
    refine ⟨(.literal (.string key) span, expr) :: pairs, ?_, ?_⟩
    · exact .some _ _ (.parted front _ rest pairs (paired _ expr derived) derived')
    · have begun : Entries.Distinct ([] ++ [(key, value)] ++ later) := once
      exact gives_pairs (by simp [Entries.keys]) given (given' _ begun)

end

end Value

end Formula
