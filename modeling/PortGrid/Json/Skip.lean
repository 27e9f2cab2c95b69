import PortGrid.Json.Reader

/-!
# Skipping JSON values

The value of an unknown member is skipped. Its brackets, commas, texts and numbers must be in order, but it may be
nested to any depth, a number may be of any size, and the halves of surrogate pairs are not matched.

Key definitions: `skipChars`, `skipNumber`, `skipValue`, `Reader.skip`.
-/

namespace PortGrid.Json

/-- Skips the characters of a text up to its closing quote. In `left` stands how many hexadecimal digits are to
come. -/
def skipChars (isEscaped : Bool) (left : Nat) : List Char → Except Fault (List Char)
  | [] => .error .endOfText
  | c :: cs =>
    if left ≠ 0 then
      if (hexValue? c).isSome then skipChars false (left - 1) cs else .error .invalidEscape
    else if isEscaped then
      if c = 'u' then
        if Text.byteCount (cs.take 4) < 4 then .error .endOfText else skipChars false 4 cs
      else if (escapeValue? c).isSome then skipChars false 0 cs
      else .error .invalidEscape
    else if c = '"' then .ok cs
    else if c = '\\' then skipChars true 0 cs
    else if c.toNat < 0x20 then .error .controlCharacter
    else skipChars false 0 cs

def skipDigits : List Char → Except Fault (List Char)
  | [] => .error .invalidNumber
  | c :: cs => if isAsciiDigit c then .ok (cs.dropWhile isAsciiDigit) else .error .invalidNumber

/-- Skips an exponent, if one stands here. -/
def skipExponent : List Char → Except Fault (List Char)
  | [] => .ok []
  | c :: cs =>
    if c = 'e' ∨ c = 'E' then
      match cs with
      | '+' :: rest => skipDigits rest
      | '-' :: rest => skipDigits rest
      | rest => skipDigits rest
    else .ok (c :: cs)

/-- Skips places and an exponent, if they stand here. -/
def skipPlaces : List Char → Except Fault (List Char)
  | '.' :: cs => skipDigits cs >>= skipExponent
  | cs => skipExponent cs

/-- Skips a number from behind its minus sign, if it has one. -/
def skipNumber : List Char → Except Fault (List Char)
  | [] => .error .invalidNumber
  | c :: cs =>
    if c = '0' then
      match cs with
      | d :: _ => if isAsciiDigit d then .error .invalidNumber else skipPlaces cs
      | [] => .ok []
    else if isAsciiDigit c then skipPlaces (cs.dropWhile isAsciiDigit)
    else .error .invalidNumber

namespace Reader

/-- Takes nothing but a rest. -/
def skipping (f : List Char → Except Fault (List Char)) : Reader Unit := fun cs => (f cs).map ((), ·)

/-- The name of a member and its colon. -/
def skipName : Reader Unit := do
  match ← peek with
  | some '"' => advance; skipping (skipChars false 0); colon
  | some _ => fail .keyNotText
  | none => fail .endOfObject

mutual

/-- Skips a value, with at most `fuel` steps down and along. -/
def skipValue : Nat → Reader Unit
  | 0 => fail .endOfValue
  | fuel + 1 => do
    match ← peek with
    | none => fail .endOfValue
    | some c =>
      if c = 'n' then word ['n', 'u', 'l', 'l']
      else if c = 't' then word ['t', 'r', 'u', 'e']
      else if c = 'f' then word ['f', 'a', 'l', 's', 'e']
      else if c = '"' then do advance; skipping (skipChars false 0)
      else if c = '-' then do advance; skipping skipNumber
      else if isAsciiDigit c then skipping skipNumber
      else if c = '[' then do advance; skipElements fuel true
      else if c = '{' then do advance; skipMembers fuel true
      else fail .expectedValue

/-- Skips the elements of a list and its end. -/
def skipElements : Nat → Bool → Reader Unit
  | 0, _ => fail .endOfList
  | fuel + 1, isFirst => do
    match ← peek with
    | none => fail .endOfList
    | some c =>
      if c = ']' then advance
      else if isFirst then do skipValue fuel; skipElements fuel false
      else if c = ',' then do advance; skipValue fuel; skipElements fuel false
      else fail .expectedListEnd

/-- Skips the members of an object and its end. -/
def skipMembers : Nat → Bool → Reader Unit
  | 0, _ => fail .endOfObject
  | fuel + 1, isFirst => do
    match ← peek with
    | none => fail .endOfObject
    | some c =>
      if c = '}' then advance
      else if isFirst then do skipName; skipValue fuel; skipMembers fuel false
      else if c = ',' then do advance; skipName; skipValue fuel; skipMembers fuel false
      else fail .expectedObjectEnd

end

/-- Skips a value. Every step takes a character, so twice the characters left are steps enough. -/
def skip : Reader Unit := do
  skipValue (2 * (← get).length + 2)

end Reader

end PortGrid.Json
