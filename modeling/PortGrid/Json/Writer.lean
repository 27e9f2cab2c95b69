/-!
# Writing JSON text

Values are written without white space. In a text only quotes, backslashes and the controls below the space are
escaped.

Key definitions: `writeText`, `writeNat`, `writeBoolean`, `writeList`, `writeObject`, `writeOption`.
-/

namespace PortGrid.Json

/-- A control character by its code, in two hexadecimal digits behind two zeros. -/
def controlEscape (c : Char) : List Char :=
  ['\\', 'u', '0', '0', Nat.digitChar (c.toNat / 16), Nat.digitChar (c.toNat % 16)]

/-- A character as it stands in a text. -/
def writeChar (c : Char) : List Char :=
  if c = '"' then ['\\', '"']
  else if c = '\\' then ['\\', '\\']
  else if c = '\x08' then ['\\', 'b']
  else if c = '\x0c' then ['\\', 'f']
  else if c = '\n' then ['\\', 'n']
  else if c = '\r' then ['\\', 'r']
  else if c = '\t' then ['\\', 't']
  else if c.toNat < 0x20 then controlEscape c
  else [c]

/-- A text between its quotes. -/
def writeText (s : String) : List Char :=
  '"' :: (s.toList.flatMap writeChar ++ ['"'])

def writeNat (n : Nat) : List Char :=
  Nat.toDigits 10 n

def writeBoolean (b : Bool) : List Char :=
  if b then ['t', 'r', 'u', 'e'] else ['f', 'a', 'l', 's', 'e']

def writeNull : List Char :=
  ['n', 'u', 'l', 'l']

def writeOption {α : Type} (write : α → List Char) : Option α → List Char
  | some x => write x
  | none => writeNull

/-- Values with commas between them. -/
def writeSeparated : List (List Char) → List Char
  | [] => []
  | [v] => v
  | v :: vs => v ++ ',' :: writeSeparated vs

def writeList (values : List (List Char)) : List Char :=
  '[' :: (writeSeparated values ++ [']'])

def writeMember (name : String) (value : List Char) : List Char :=
  writeText name ++ ':' :: value

def writeObject (members : List (String × List Char)) : List Char :=
  '{' :: (writeSeparated (members.map fun (name, value) => writeMember name value) ++ ['}'])

end PortGrid.Json
