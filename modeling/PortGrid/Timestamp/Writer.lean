import PortGrid.Timestamp

/-!
# Writing points in time

A timestamp is written in UTC with a final `Z`. A year from 0 to 9999 has four digits, any other a sign and at
least four digits. The fraction of a second is left out if it is zero, and otherwise has three, six or nine digits,
the fewest that lose nothing.

Key definition: `Timestamp.chars`.
-/

namespace PortGrid

/-- A number with zeros in front up to the given width. -/
def padded (width n : Nat) : List Char :=
  let digits := Nat.toDigits 10 n
  List.replicate (width - digits.length) '0' ++ digits

def yearChars (year : Int) : List Char :=
  if 0 ≤ year ∧ year ≤ 9999 then padded 4 year.toNat
  else (if year < 0 then '-' else '+') :: padded 4 year.natAbs

/-- The fraction of a second behind its point. -/
def fractionChars (nano : Nat) : List Char :=
  if nano = 0 then []
  else if nano % 1000000 = 0 then '.' :: padded 3 (nano / 1000000)
  else if nano % 1000 = 0 then '.' :: padded 6 (nano / 1000)
  else '.' :: padded 9 nano

def Timestamp.chars (t : Timestamp) : List Char :=
  yearChars t.date.year ++ '-' :: padded 2 t.date.month ++ '-' :: padded 2 t.date.day ++
    'T' :: padded 2 t.hour ++ ':' :: padded 2 t.minute ++ ':' :: padded 2 t.second ++
    fractionChars t.nano ++ ['Z']

def Timestamp.text (t : Timestamp) : String :=
  String.ofList t.chars

end PortGrid
