import PortGrid.Text.Blank
import PortGrid.Text.Digit
import PortGrid.Text.Letter
import PortGrid.Text.Search

/-!
# Name patterns

A pattern says how the ports of a device are named all at once. A template is copied for every port with its row
and column put in; a range walks from a first to a last coordinate; an increment counts columns from a first
coordinate on. A pattern is written as a text without its outer blanks: it is a template as soon as it holds a
marker, and otherwise letters followed by one coordinate, or by two with a dash between them.

Key definitions: `NamePattern`, `readCoordinate`, `NamePattern.ofNumbered?`, `NamePattern.parse`, `PatternError`.
-/

namespace PortGrid

/-- A row and a column as they are written in a pattern. -/
structure Coordinate where
  row : UInt32
  col : UInt32
deriving DecidableEq

/-- A rule for naming ports. -/
inductive NamePattern where
  /-- The text with the markers replaced by the row and the column of each port, counted from one. -/
  | template (text : String)
  /-- Names from one coordinate to another, row by row. -/
  | range (stem : String) (start stop : Coordinate)
  /-- Names from a coordinate on, without end. -/
  | increment (stem : String) (start : Coordinate)
deriving DecidableEq

/-- Why a text is not a pattern. -/
inductive PatternError where
  | empty
  | notRecognized (pattern : String)
deriving DecidableEq

def PatternError.message : PatternError → String
  | .empty => "name pattern is empty"
  | .notRecognized pattern => s!"name pattern not recognized: '{pattern}'"

/-- Stands for the row in a template. -/
def rowMarker : List Char := ['{', 'r', 'o', 'w', '}']

/-- Stands for the column in a template. -/
def colMarker : List Char := ['{', 'c', 'o', 'l', '}']

/-- Reads digits, a slash and digits from the front of a text, and returns the rest. -/
def readCoordinate (cs : List Char) : Option (Coordinate × List Char) :=
  match cs.dropWhile Text.isDigit with
  | '/' :: more =>
    match Text.readNumber? (cs.takeWhile Text.isDigit), Text.readNumber? (more.takeWhile Text.isDigit) with
    | some row, some col => some (⟨row, col⟩, more.dropWhile Text.isDigit)
    | _, _ => none
  | _ => none

namespace NamePattern

/-- Whether the text holds one of the markers. -/
def hasMarker (cs : List Char) : Bool :=
  Text.occursIn rowMarker cs || Text.occursIn colMarker cs

/-- The pattern written by letters and one or two coordinates. -/
def ofNumbered? (cs : List Char) : Option NamePattern :=
  let stem := cs.takeWhile Text.isLetter
  if stem.isEmpty then none
  else match readCoordinate (cs.dropWhile Text.isLetter) with
    | none => none
    | some (start, []) => some (.increment (String.ofList stem) start)
    | some (start, rest) =>
      match rest.dropWhile Text.isBlank with
      | '-' :: more =>
        match readCoordinate (more.dropWhile Text.isBlank) with
        | some (stop, []) => some (.range (String.ofList stem) start stop)
        | _ => none
      | _ => none

/-- Reads a pattern. Markers are looked for first, so a text with a marker is a template whatever else it holds. -/
def parse (input : String) : Except PatternError NamePattern :=
  let pattern := Text.trimChars input.toList
  if pattern.isEmpty then .error .empty
  else if hasMarker pattern then .ok (.template (String.ofList pattern))
  else match ofNumbered? pattern with
    | some numbered => .ok numbered
    | none => .error (.notRecognized input)

end NamePattern

end PortGrid
