import PortGrid.Text.Blank
import PortGrid.Text.Digit
import PortGrid.Text.Size
import PortGrid.Timestamp

/-!
# Reading points in time

A written timestamp has a date, one of `T`, `t` and a space, a time of day, and an offset from UTC. Blanks are
allowed around most parts, a year may have a sign and then any number of digits, the fraction of a second is cut
off behind nine digits, and the offset is `Z`, `UTC` or hours and minutes. Numbers are checked as soon as they
are read, the date as a whole at the end.

Key definitions: `TimestampFault`, `Timestamp.parse`.
-/

namespace PortGrid

/-- Why a text is not a timestamp. -/
inductive TimestampFault where
  | outOfRange
  | impossible
  | invalid
  | tooShort
  | tooLong
deriving DecidableEq

def TimestampFault.message : TimestampFault → String
  | .outOfRange => "input is out of range"
  | .impossible => "no possible date and time matching input"
  | .invalid => "input contains invalid characters"
  | .tooShort => "premature end of input"
  | .tooLong => "trailing input"

/-- Takes a part of a timestamp from the front of a text. -/
abbrev TimestampPart (α : Type) := StateT (List Char) (Except TimestampFault) α

/-- The parts of a written timestamp: a date, a time of day and an offset in minutes. -/
structure TimestampParts where
  year : Int
  month : Nat
  day : Nat
  hour : Nat
  minute : Nat
  second : Nat
  nano : Nat
  offset : Int

namespace TimestampPart

def fail {α : Type} (fault : TimestampFault) : TimestampPart α := fun _ => .error fault

def skipBlanks : TimestampPart Unit := fun cs => .ok ((), cs.dropWhile Text.isBlank)

/-- No number may reach this, which is the 63rd power of two. -/
def numberLimit : Nat := 0x8000000000000000

/-- Appends at most `limit` more digits to a number. -/
def appendDigits : Nat → Nat → List Char → Except TimestampFault (Nat × List Char)
  | 0, n, cs => .ok (n, cs)
  | _, n, [] => .ok (n, [])
  | limit + 1, n, c :: cs =>
    match Text.digitValue? c with
    | none => .ok (n, c :: cs)
    | some d => if 10 * n + d < numberLimit then appendDigits limit (10 * n + d) cs else .error .outOfRange

/-- One digit or more, but not more than `limit`. -/
def digits (limit : Nat) : TimestampPart Nat := fun cs =>
  match cs with
  | [] => .error .tooShort
  | c :: cs =>
    match Text.digitValue? c with
    | none => .error .invalid
    | some d => appendDigits (limit - 1) d cs

/-- A number of at most two digits, behind blanks, that lies between two bounds. -/
def bounded (low high : Nat) : TimestampPart Nat := do
  skipBlanks
  let n ← digits 2
  if low ≤ n ∧ n ≤ high then return n else fail .outOfRange

def literal (expected : Char) : TimestampPart Unit := fun cs =>
  match cs with
  | [] => .error .tooShort
  | c :: cs => if c = expected then .ok ((), cs) else .error .invalid

/-- The given character behind blanks. -/
def separator (expected : Char) : TimestampPart Unit := do
  skipBlanks
  literal expected

/-- The number of a year: four digits at most, or a sign and any number of digits. -/
def yearNumber : TimestampPart Int := fun cs =>
  match cs with
  | '-' :: rest => ((fun n : Nat => -(n : Int)) <$> digits rest.length) rest
  | '+' :: rest => ((fun n : Nat => (n : Int)) <$> digits rest.length) rest
  | _ => ((fun n : Nat => (n : Int)) <$> digits 4) cs

/-- A year behind blanks, which must fit in 32 bits with a sign. -/
def year : TimestampPart Int := do
  skipBlanks
  let value ← yearNumber
  if -2147483648 ≤ value ∧ value ≤ 2147483647 then return value else fail .outOfRange

/-- The `T` between date and time, which may be small or a space. -/
def dateEnd : TimestampPart Unit := fun cs =>
  match cs with
  | [] => .error .tooShort
  | c :: cs => if c = 'T' ∨ c = 't' ∨ c = ' ' then .ok ((), cs) else .error .invalid

/-- The fraction of a second in nanoseconds. Without a point it is zero. -/
def fraction : TimestampPart Nat := do
  match ← get with
  | '.' :: rest =>
    set rest
    let n ← digits 9
    let used := rest.length - (← get).length
    modify (·.dropWhile fun c => (Text.digitValue? c).isSome)
    return n * Nat.pow 10 (9 - used)
  | _ => return 0

def offsetHours : TimestampPart Nat := fun cs =>
  if Text.byteCount cs < 2 then .error .tooShort
  else match cs with
    | c :: d :: rest =>
      match Text.digitValue? c, Text.digitValue? d with
      | some c, some d => .ok (10 * c + d, rest)
      | _, _ => .error .invalid
    | _ => .error .invalid

/-- The two digits of a minute below sixty. -/
def offsetMinutes : TimestampPart Nat := fun cs =>
  if Text.byteCount cs < 2 then .error .tooShort
  else match cs with
    | c :: d :: rest =>
      match Text.digitValue? c, Text.digitValue? d with
      | some c, some d => if c < 6 then .ok (10 * c + d, rest) else .error .outOfRange
      | _, _ => .error .invalid
    | _ => .error .invalid

/-- Hours and minutes behind the sign of an offset, in minutes. -/
def offsetSize : TimestampPart Nat := do
  let hours ← offsetHours
  modify (·.dropWhile fun c => c = ':' || Text.isBlank c)
  return 60 * hours + (← offsetMinutes)

/-- Whether the text begins with `UTC`, upper and lower case being the same. -/
def isUniversal : List Char → Bool
  | u :: t :: c :: _ => (u = 'U' || u = 'u') && (t = 'T' || t = 't') && (c = 'C' || c = 'c')
  | _ => false

/-- The offset from UTC in minutes. -/
def offset : TimestampPart Int := do
  let cs ← get
  if isUniversal cs then
    set (cs.drop 3)
    return 0
  match cs with
  | [] => fail .tooShort
  | c :: rest =>
    set rest
    if c = 'Z' ∨ c = 'z' then return 0
    else if c = '+' then return (← offsetSize)
    else if c = '-' ∨ c = '−' then return -(← offsetSize)
    else fail .invalid

/-- All parts of a timestamp, which end the text apart from blanks. -/
def parts : TimestampPart TimestampParts := do
  let year ← year
  separator '-'
  let month ← bounded 1 12
  separator '-'
  let day ← bounded 1 31
  dateEnd
  let hour ← bounded 0 23
  separator ':'
  let minute ← bounded 0 59
  separator ':'
  let second ← bounded 0 60
  let nano ← fraction
  skipBlanks
  let offset ← offset
  skipBlanks
  if (← get).isEmpty then return ⟨year, month, day, hour, minute, second, nano, offset⟩ else fail .tooLong

end TimestampPart

namespace Timestamp

/-- The timestamp with the given local parts, moved to UTC. -/
def ofParts (p : TimestampParts) : Except TimestampFault Timestamp := do
  let some date := Date.make? p.year p.month p.day | throw .outOfRange
  if p.offset.natAbs ≥ 1440 then throw .outOfRange
  let minutes : Int := 60 * p.hour + p.minute - p.offset
  let moved := if minutes < 0 then date.previous? else if minutes ≥ 1440 then date.next? else some date
  let some date := moved | throw .impossible
  return atMinute date (minutes % 1440).toNat p.second p.nano

def parse (text : String) : Except TimestampFault Timestamp := do
  let (p, _) ← TimestampPart.parts.run text.toList
  ofParts p

end Timestamp

end PortGrid
