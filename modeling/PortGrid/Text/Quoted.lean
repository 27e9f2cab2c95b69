import PortGrid.Text.Printable

/-!
# Texts quoted in messages

A text in a message stands between double quotes. Quotes, backslashes and the common controls have short escapes;
a character that shows no shape of its own is given by its code point.

Key definition: `quoted`.
-/

namespace PortGrid.Text

/-- A character by its code point in lower-case hexadecimal digits. -/
def byCodePoint (c : Char) : List Char :=
  ['\\', 'u', '{'] ++ Nat.toDigits 16 c.toNat ++ ['}']

/-- A character as it stands between the quotes. -/
def quotedChar (c : Char) : List Char :=
  if c = '\x00' then ['\\', '0']
  else if c = '\t' then ['\\', 't']
  else if c = '\r' then ['\\', 'r']
  else if c = '\n' then ['\\', 'n']
  else if c = '\\' then ['\\', '\\']
  else if c = '"' then ['\\', '"']
  else if extendsPrevious c then byCodePoint c
  else if c = ' ' ∨ isVisible c then [c]
  else byCodePoint c

/-- The text between quotes. -/
def quoted (s : String) : String :=
  String.ofList ('"' :: (s.toList.flatMap quotedChar ++ ['"']))

end PortGrid.Text
