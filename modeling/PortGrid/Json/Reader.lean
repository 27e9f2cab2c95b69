import PortGrid.Json.Fault
import PortGrid.Text.Size

/-!
# Reading JSON text

A reader takes what it needs from the front of a text and leaves the rest, or stops at the first fault. White space
before a token is skipped. The readers of this module are those of single tokens: words, texts, numbers, and the
punctuation of lists and objects.

Key definitions: `Reader`, `readChars`, `readNumber`, `Reader.peek`, `Reader.text`, `Reader.boolean`, `Reader.nat32`,
`Reader.option`, `Reader.variant`, `Reader.list`, `Reader.all`.
-/

namespace PortGrid.Json

/-- Takes a value from the front of a text. -/
abbrev Reader (α : Type) := StateT (List Char) (Except Fault) α

/-- The four characters that may stand between tokens. -/
def isSpace (c : Char) : Bool :=
  c = ' ' || c = '\n' || c = '\t' || c = '\r'

def isAsciiDigit (c : Char) : Bool :=
  '0' ≤ c && c ≤ '9'

def hexValue? (c : Char) : Option Nat :=
  if '0' ≤ c ∧ c ≤ '9' then some (c.toNat - '0'.toNat)
  else if 'a' ≤ c ∧ c ≤ 'f' then some (c.toNat - 'a'.toNat + 10)
  else if 'A' ≤ c ∧ c ≤ 'F' then some (c.toNat - 'A'.toNat + 10)
  else none

/-- The character that a one-letter escape stands for. -/
def escapeValue? : Char → Option Char
  | '"' => some '"'
  | '\\' => some '\\'
  | '/' => some '/'
  | 'b' => some '\x08'
  | 'f' => some '\x0c'
  | 'n' => some '\n'
  | 'r' => some '\r'
  | 't' => some '\t'
  | _ => none

/-- Where the reader of a text stands. -/
inductive TextMode where
  /-- Between characters. -/
  | plain
  /-- Behind a backslash. -/
  | escape
  /-- Inside four hexadecimal digits: how many are left, their value so far, and the high surrogate before them. -/
  | hex (left value : Nat) (high : Option Nat)
  /-- Behind a high surrogate, where a backslash must follow. -/
  | high (value : Nat)
  /-- Behind a high surrogate and a backslash, where a `u` must follow. -/
  | highEscape (value : Nat)

/-- What four hexadecimal digits mean behind an optional high surrogate: a character, or a high surrogate that
waits for its other half. -/
def decodeUnit (unit : Nat) : Option Nat → Except Fault (Char ⊕ Nat)
  | none =>
    if 0xDC00 ≤ unit ∧ unit ≤ 0xDFFF then .error .loneSurrogate
    else if 0xD800 ≤ unit ∧ unit ≤ 0xDBFF then .ok (.inr unit)
    else .ok (.inl (Char.ofNat unit))
  | some high =>
    if 0xDC00 ≤ unit ∧ unit ≤ 0xDFFF then
      .ok (.inl (Char.ofNat ((high - 0xD800) * 0x400 + (unit - 0xDC00) + 0x10000)))
    else .error .loneSurrogate

/-- Reads the characters of a text up to its closing quote. Four hexadecimal digits are asked for only where four
bytes are left. -/
def readChars : TextMode → List Char → Except Fault (List Char × List Char)
  | _, [] => .error .endOfText
  | .plain, c :: cs =>
    if c = '"' then .ok ([], cs)
    else if c = '\\' then readChars .escape cs
    else if c.toNat < 0x20 then .error .controlCharacter
    else (readChars .plain cs).map fun (text, rest) => (c :: text, rest)
  | .escape, c :: cs =>
    if c = 'u' then
      if Text.byteCount (cs.take 4) < 4 then .error .endOfText else readChars (.hex 3 0 none) cs
    else match escapeValue? c with
      | some d => (readChars .plain cs).map fun (text, rest) => (d :: text, rest)
      | none => .error .invalidEscape
  | .hex left value before, c :: cs =>
    match hexValue? c with
    | none => .error .invalidEscape
    | some d =>
      match left with
      | left + 1 => readChars (.hex left (16 * value + d) before) cs
      | 0 =>
        match decodeUnit (16 * value + d) before with
        | .error fault => .error fault
        | .ok (.inl e) => (readChars .plain cs).map fun (text, rest) => (e :: text, rest)
        | .ok (.inr unit) => readChars (.high unit) cs
  | .high value, c :: cs =>
    if c = '\\' then readChars (.highEscape value) cs else .error .unfinishedPair
  | .highEscape value, c :: cs =>
    if c = 'u' then
      if Text.byteCount (cs.take 4) < 4 then .error .endOfText else readChars (.hex 3 0 (some value)) cs
    else .error .unfinishedPair

/-- The characters of a word in turn. -/
def readWord : List Char → List Char → Except Fault (List Char)
  | [], cs => .ok cs
  | _ :: _, [] => .error .endOfValue
  | w :: ws, c :: cs => if c = w then readWord ws cs else .error .expectedIdent

/-! ## Numbers -/

/-- Appends digits to a number as long as it fits in 64 bits, and returns it with the count of digits used. -/
def appendDigits (n used : Nat) : List Char → Nat × Nat
  | [] => (n, used)
  | c :: cs =>
    let next := 10 * n + (c.toNat - '0'.toNat)
    if next < UInt64.size then appendDigits next (used + 1) cs else (n, used)

def signed (isNegative : Bool) (x : Float) : Number :=
  .decimal (if isNegative then -x else x)

/-- The double with the given digits and power of ten. -/
def scaled (isNegative : Bool) (significand : Nat) (exponent : Int) : Except Fault Number :=
  match scale? significand exponent with
  | some x => .ok (signed isNegative x)
  | none => .error .numberOutOfRange

/-- An exponent that reaches this, which is the 31st power of two, is beyond all numbers. -/
def exponentLimit : Nat := 0x80000000

/-- The number whose digits and exponent so far are given, read on from behind the letter of its exponent. -/
def readExponent (isNegative : Bool) (significand : Nat) (exponent : Int) (cs : List Char) :
    Except Fault (Number × List Char) :=
  let (isDown, cs) : Bool × List Char := match cs with
    | '+' :: rest => (false, rest)
    | '-' :: rest => (true, rest)
    | rest => (false, rest)
  match cs with
  | [] => .error .endOfValue
  | c :: _ =>
    if !isAsciiDigit c then .error .invalidNumber
    else
      let rest := cs.dropWhile isAsciiDigit
      let size := (cs.takeWhile isAsciiDigit).foldl (fun n d => 10 * n + (d.toNat - '0'.toNat)) 0
      if size ≥ exponentLimit then
        if significand ≠ 0 ∧ !isDown then .error .numberOutOfRange else .ok (signed isNegative 0.0, rest)
      else
        (scaled isNegative significand (if isDown then exponent - size else exponent + size)).map (·, rest)

/-- The number whose digits and exponent so far are given, read on from behind its decimal point. -/
def readPlaces (isNegative : Bool) (significand : Nat) (exponent : Int) (cs : List Char) :
    Except Fault (Number × List Char) :=
  let places := cs.takeWhile isAsciiDigit
  let rest := cs.dropWhile isAsciiDigit
  if places.isEmpty then .error (if rest.isEmpty then .endOfValue else .invalidNumber)
  else
    let (significand, used) := appendDigits significand 0 places
    let exponent := exponent - used
    match rest with
    | 'e' :: more => readExponent isNegative significand exponent more
    | 'E' :: more => readExponent isNegative significand exponent more
    | _ => (scaled isNegative significand exponent).map (·, rest)

/-- The size of the least integer of 64 bits with a sign. -/
def negativeLimit : Nat := 0x8000000000000000

/-- The integer with the given digits. -/
def integer (isNegative : Bool) (n : Nat) : Number :=
  if !isNegative then .natural n
  else if n = 0 ∨ n > negativeLimit then .decimal (-(Float.ofNat n))
  else .negative n

/-- Reads a number from behind its minus sign, if it has one. -/
def readNumber (isNegative : Bool) (cs : List Char) : Except Fault (Number × List Char) :=
  match cs with
  | [] => .error .endOfValue
  | c :: cs' =>
    if !isAsciiDigit c then .error .invalidNumber
    else
      let digits := if c = '0' then ['0'] else cs.takeWhile isAsciiDigit
      let rest := if c = '0' then cs' else cs.dropWhile isAsciiDigit
      let (n, used) := appendDigits 0 0 digits
      let dropped : Int := (digits.length - used : Nat)
      match rest with
      | [] => if dropped = 0 then .ok (integer isNegative n, rest) else (scaled isNegative n dropped).map (·, rest)
      | d :: more =>
        if isAsciiDigit d then .error .invalidNumber
        else if d = '.' then readPlaces isNegative n dropped more
        else if d = 'e' ∨ d = 'E' then readExponent isNegative n dropped more
        else if dropped = 0 then .ok (integer isNegative n, rest)
        else (scaled isNegative n dropped).map (·, rest)

/-! ## Tokens -/

namespace Reader

def fail {α : Type} (fault : Fault) : Reader α := fun _ => .error fault

/-- Skips white space and shows the next character without taking it. -/
def peek : Reader (Option Char) := fun cs =>
  let cs := cs.dropWhile isSpace
  .ok (cs.head?, cs)

def advance : Reader Unit := fun cs => .ok ((), cs.drop 1)

/-- Takes a word whose first character is known. -/
def word (w : List Char) : Reader Unit := fun cs => (readWord w cs).map ((), ·)

/-- Takes a text from behind its opening quote. -/
def chars : Reader String := fun cs => (readChars .plain cs).map fun (text, rest) => (String.ofList text, rest)

/-- Takes a number that starts here. -/
def anyNumber : Reader Number := fun cs =>
  match cs with
  | '-' :: rest => readNumber true rest
  | _ => readNumber false cs

/-- The fault of a value of another kind than expected. A value that is not a list or an object is read first, so
that its own faults come before. -/
def wrongKind {α : Type} (expected : String) : Reader α := do
  match ← peek with
  | some 'n' => word ['n', 'u', 'l', 'l']; fail (.wrongKind .null expected)
  | some 't' => word ['t', 'r', 'u', 'e']; fail (.wrongKind (.boolean true) expected)
  | some 'f' => word ['f', 'a', 'l', 's', 'e']; fail (.wrongKind (.boolean false) expected)
  | some '"' => advance; let s ← chars; fail (.wrongKind (.text s) expected)
  | some '[' => fail (.wrongKind .list expected)
  | some '{' => fail (.wrongKind .object expected)
  | some c =>
    if c = '-' ∨ isAsciiDigit c then
      let n ← anyNumber
      fail (.wrongKind (.number n) expected)
    else fail .expectedValue
  | none => fail .expectedValue

def text (expected : String) : Reader String := do
  match ← peek with
  | some '"' => advance; chars
  | some _ => wrongKind expected
  | none => fail .endOfValue

def boolean : Reader Bool := do
  match ← peek with
  | some 't' => word ['t', 'r', 'u', 'e']; return true
  | some 'f' => word ['f', 'a', 'l', 's', 'e']; return false
  | some _ => wrongKind "a boolean"
  | none => fail .endOfValue

def nat32 : Reader UInt32 := do
  match ← peek with
  | some c =>
    if c = '-' ∨ isAsciiDigit c then
      match ← anyNumber with
      | .natural n =>
        if n < UInt32.size then return UInt32.ofNat n else fail (.wrongValue (.number (.natural n)) "u32")
      | .negative n => fail (.wrongValue (.number (.negative n)) "u32")
      | .decimal x => fail (.wrongKind (.number (.decimal x)) "u32")
    else wrongKind "u32"
  | none => fail .endOfValue

/-- Null for none, or a value. -/
def option {α : Type} (value : Reader α) : Reader (Option α) := do
  match ← peek with
  | some 'n' => word ['n', 'u', 'l', 'l']; return none
  | _ => return some (← value)

def unit : Reader Unit := do
  match ← peek with
  | some 'n' => word ['n', 'u', 'l', 'l']
  | some _ => wrongKind "unit"
  | none => fail .endOfValue

/-- The colon behind the name of a member. -/
def colon : Reader Unit := do
  match ← peek with
  | some ':' => advance
  | some _ => fail .expectedColon
  | none => fail .endOfObject

/-- The name of one of the variants. -/
def variantName {α : Type} (variants : List (String × α)) : Reader α := do
  let name ← text "variant identifier"
  match variants.find? (·.1 = name) with
  | some (_, value) => return value
  | none => fail (.unknownVariant name (variants.map (·.1)))

/-- One of the variants: its name, or an object with its name and null. -/
def variant {α : Type} (variants : List (String × α)) : Reader α := do
  match ← peek with
  | some '"' => variantName variants
  | some '{' =>
    advance
    match ← peek with
    | some '"' =>
      let value ← variantName variants
      colon
      unit
      match ← peek with
      | some '}' => advance; return value
      | some _ => fail .expectedValue
      | none => fail .endOfObject
    | some '}' => fail .expectedValue
    | some _ => fail .keyNotText
    | none => fail .endOfObject
  | some _ => fail .expectedValue
  | none => fail .endOfValue

/-- Goes to the next element of a list, if there is one. -/
def nextElement (isFirst : Bool) : Reader Bool := do
  match ← peek with
  | none => fail .endOfList
  | some c =>
    if c = ']' then return false
    else if isFirst then return true
    else if c = ',' then
      advance
      match ← peek with
      | none => fail .endOfValue
      | some d => if d = ']' then fail .trailingComma else return true
    else fail .expectedListEnd

def closeList : Reader Unit := do
  match ← peek with
  | none => fail .endOfList
  | some c =>
    if c = ']' then advance
    else if c = ',' then
      advance
      match ← peek with
      | some ']' => fail .trailingComma
      | _ => fail .trailingCharacters
    else fail .trailingCharacters

/-- The elements of a list and its end, of which no more are taken than the count says. -/
def elements {α : Type} (value : Reader α) : Nat → Bool → Reader (List α)
  | 0, _ => fail .endOfList
  | count + 1, isFirst => do
    if ← nextElement isFirst then
      let x ← value
      let xs ← elements value count false
      return x :: xs
    else
      advance
      return []

/-- A list of values. Each element takes at least one character, so the characters left are as many as there can be
elements. -/
def list {α : Type} (value : Reader α) : Reader (List α) := do
  match ← peek with
  | some '[' =>
    advance
    elements value ((← get).length + 1) true
  | some _ => wrongKind "a sequence"
  | none => fail .endOfValue

def all {α : Type} (value : Reader α) (text : String) : Except Fault α := do
  let (x, rest) ← value.run text.toList
  if (rest.dropWhile isSpace).isEmpty then return x else throw .trailingCharacters

end Reader

end PortGrid.Json
