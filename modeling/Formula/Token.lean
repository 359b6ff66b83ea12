import Formula.Text.Position
import Formula.Value.Equality

/-!
# Tokens

The words of a formula. A token's content says what it is and, for a literal, which value it
denotes; its lexeme is the text it was read from; its span says where that text stands. The kind
of a token is its content without the value, and is all that the grammar looks at.
-/

namespace Formula

/-- The thirteen punctuation marks and operators. -/
inductive Symbol where
  | equal
  | plus
  | minus
  | star
  | slash
  | leftParen
  | rightParen
  | leftBracket
  | rightBracket
  | leftBrace
  | rightBrace
  | colon
  | comma
  deriving DecidableEq

namespace Symbol

/-- The character that a symbol is written with. -/
def char : Symbol → Char
  | .equal => '='
  | .plus => '+'
  | .minus => '-'
  | .star => '*'
  | .slash => '/'
  | .leftParen => '('
  | .rightParen => ')'
  | .leftBracket => '['
  | .rightBracket => ']'
  | .leftBrace => '\x7b'
  | .rightBrace => '\x7d'
  | .colon => ':'
  | .comma => ','

/-- The symbol written with a character. -/
def ofChar? (c : Char) : Option Symbol :=
  match c with
  | '=' => some .equal
  | '+' => some .plus
  | '-' => some .minus
  | '*' => some .star
  | '/' => some .slash
  | '(' => some .leftParen
  | ')' => some .rightParen
  | '[' => some .leftBracket
  | ']' => some .rightBracket
  | '\x7b' => some .leftBrace
  | '\x7d' => some .rightBrace
  | ':' => some .colon
  | ',' => some .comma
  | _ => none

/-- The label of a symbol in a listing of tokens. -/
def label : Symbol → String
  | .equal => "EQUAL"
  | .plus => "PLUS"
  | .minus => "MINUS"
  | .star => "STAR"
  | .slash => "SLASH"
  | .leftParen => "LPAR"
  | .rightParen => "RPAR"
  | .leftBracket => "LSQB"
  | .rightBracket => "RSQB"
  | .leftBrace => "LBRACE"
  | .rightBrace => "RBRACE"
  | .colon => "COLON"
  | .comma => "COMMA"

/-- What a symbol adds to the number of open brackets. -/
def opens : Symbol → Int
  | .leftParen | .leftBracket | .leftBrace => 1
  | .rightParen | .rightBracket | .rightBrace => -1
  | _ => 0

/-- A character is read as the symbol that is written with it, if there is one. -/
theorem ofChar?_eq_some_iff {c : Char} {symbol : Symbol} :
    ofChar? c = some symbol ↔ symbol.char = c := by
  constructor
  · intro found
    unfold ofChar? at found
    split at found <;> cases found <;> rfl
  · rintro rfl
    cases symbol <;> rfl

end Symbol

namespace Token

/-- What a token is; a literal carries the value it denotes. -/
inductive Content where
  | integer (number : Int64)
  | float (number : Float)
  | string (text : String)
  | boolean (truth : Bool)
  | name
  | symbol (mark : Symbol)

/-- What the grammar sees of a token. -/
inductive Kind where
  | integer
  | float
  | string
  | boolean
  | name
  | symbol (mark : Symbol)
  deriving DecidableEq

/-- How messages name a kind of token. -/
def Kind.description : Kind → String
  | .integer => "integer"
  | .float => "float"
  | .string => "string"
  | .boolean => "boolean"
  | .name => "identifier"
  | .symbol mark => String.ofList ['\'', mark.char, '\'']

/-- How a listing of tokens labels a kind. -/
def Kind.label : Kind → String
  | .integer => "INTEGER"
  | .float => "FLOAT"
  | .string => "STRING"
  | .boolean => "BOOLEAN"
  | .name => "NAME"
  | .symbol mark => mark.label

/-- The kind of what a token holds. -/
def Content.kind : Content → Kind
  | .integer _ => .integer
  | .float _ => .float
  | .string _ => .string
  | .boolean _ => .boolean
  | .name => .name
  | .symbol mark => .symbol mark

/-- The value that a literal denotes. -/
def Content.value? : Content → Option Value
  | .integer number => some (.integer number)
  | .float number => some (.float number)
  | .string text => some (.string text)
  | .boolean truth => some (.boolean truth)
  | .name | .symbol _ => none

end Token

/-- One word of a formula. -/
structure Token where
  content : Token.Content
  lexeme : String
  span : Span

namespace Token

/-- The kind of a token is that of its content. -/
def kind (token : Token) : Kind := token.content.kind

/-- The value of a token that is a literal. -/
def value? (token : Token) : Option Value := token.content.value?

/-- A token in a listing: its label and its lexeme between quotes. -/
def text (token : Token) : String := token.kind.label ++ "('" ++ token.lexeme ++ "')"

/-- Whether two tokens agree in all but where they stand. -/
def equals (left right : Token) : Bool :=
  left.kind == right.kind && left.lexeme == right.lexeme &&
    match left.value?, right.value? with
    | none, none => true
    | some leftValue, some rightValue => leftValue.equals rightValue
    | _, _ => false

/-- Whether two lists hold equal tokens in the same places. -/
def equalLists (left right : List Token) : Bool :=
  left.length == right.length && (left.zip right).all fun pair => pair.1.equals pair.2

/-- The literals are the tokens of the first four kinds. -/
theorem value?_isSome (token : Token) :
    token.value?.isSome = true ↔
      token.kind = .integer ∨ token.kind = .float ∨ token.kind = .string ∨
        token.kind = .boolean := by
  obtain ⟨content, lexeme, span⟩ := token
  cases content <;> simp [value?, kind, Content.value?, Content.kind]

end Token

end Formula
