import Formula.Text.CharClass

/-!
# Escaped quotations

A text is quoted for display between double quotes, on one line, with every character that would
be mistaken or not seen written as an escape. An apostrophe and visible characters of any script
stand for themselves.
-/

namespace Formula.Escaped

/-- How one character is written inside the quotes. A character with no short escape and no
    shape of its own is written by its code point, in lower-case hexadecimal. -/
def ofChar (c : Char) : List Char :=
  if c = '"' then ['\\', '"']
  else if c = '\\' then ['\\', '\\']
  else if c = '\n' then ['\\', 'n']
  else if c = '\r' then ['\\', 'r']
  else if c = '\t' then ['\\', 't']
  else if c = '\x00' then ['\\', '0']
  else if c = ' ' || (categoryOf c).isVisible then [c]
  else ['\\', 'u', '\x7b'] ++ Nat.toDigits 16 c.toNat ++ ['\x7d']

/-- A text between double quotes, escaped. -/
def quote (text : String) : String :=
  String.ofList ('"' :: (text.toList.flatMap ofChar ++ ['"']))

end Formula.Escaped
