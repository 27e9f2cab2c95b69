/-!
# The shortest decimal text of a binary fraction

A double stands for all the reals that round to it. Its text has the fewest decimal digits that lie among them, and
of these the digits nearest to the value. Values from 1e-5 up to 1e16 are written in positional notation with at
least one place, and others with an exponent that always has a sign.

Key definitions: `Magnitude`, `Magnitude.ofFloat`, `Magnitude.shortest`, `decimalText`.
-/

namespace PortGrid.Json

def twoTo (n : Nat) : Nat := Nat.pow 2 n

def tenTo (n : Nat) : Nat := Nat.pow 10 n

/-- A value and the ends of the interval that rounds to it, over one denominator. -/
structure Magnitude where
  value : Nat
  low : Nat
  high : Nat
  denominator : Nat
  /-- Whether the ends themselves round to the value. -/
  closed : Bool

/-- The magnitude of a finite double. -/
def Magnitude.ofFloat (x : Float) : Magnitude :=
  let bits := x.toBits.toNat
  let exponent := bits / twoTo 52 % twoTo 11
  let fraction := bits % twoTo 52
  let m := if exponent = 0 then fraction else fraction + twoTo 52
  let shift : Int := (max exponent 1 : Nat) - 1077
  let up := twoTo shift.toNat
  let below := if fraction = 0 && exponent > 1 then 1 else 2
  ⟨4 * m * up, (4 * m - below) * up, (4 * m + 2) * up, twoTo (-shift).toNat, m % 2 == 0⟩

/-- The least `p` from `start` on with the value below `10 ^ p`, looked for in `steps` steps. -/
def Magnitude.pointFrom (m : Magnitude) : Nat → Int → Int
  | 0, p => p
  | steps + 1, p =>
    if m.value * tenTo (-p).toNat < m.denominator * tenTo p.toNat then p else m.pointFrom steps (p + 1)

/-- Whether `digits * 10 ^ k` rounds to the value. -/
def Magnitude.holds (m : Magnitude) (digits : Nat) (k : Int) : Bool :=
  let x := digits * tenTo k.toNat * m.denominator
  let low := m.low * tenTo (-k).toNat
  let high := m.high * tenTo (-k).toNat
  if m.closed then low ≤ x && x ≤ high else low < x && x < high

/-- The neighbour of the value among the multiples of `10 ^ k` that rounds to it, the nearer one first. -/
def Magnitude.neighbour? (m : Magnitude) (k : Int) : Option Nat :=
  let num := m.value * tenTo (-k).toNat
  let den := m.denominator * tenTo k.toNat
  let below := num / den
  let above := below + 1
  let nearer := 2 * (num % den) < den || (2 * (num % den) == den && below % 2 == 0)
  let candidates := if nearer then [below, above] else [above, below]
  candidates.find? fun digits => digits != 0 && m.holds digits k

/-- The digits and the exponent of the shortest decimal that rounds to the value, which lies below `10 ^ point`. -/
def Magnitude.shortestFrom (m : Magnitude) (point : Int) : Nat → Nat → Nat × Int
  | 0, count => (m.value / m.denominator, point - count)
  | left + 1, count =>
    match m.neighbour? (point - count) with
    | some digits => (digits, point - count)
    | none => m.shortestFrom point left (count + 1)

def Magnitude.shortest (m : Magnitude) : Nat × Int :=
  m.shortestFrom (m.pointFrom 700 (-330)) 17 1

/-- Digits with the decimal point `point` places behind their front. -/
def layoutDigits (digits : List Char) (point : Int) : List Char :=
  let count : Int := digits.length
  if 0 < point ∧ point ≤ 16 then
    if count ≤ point then digits ++ List.replicate (point - count).toNat '0' ++ ['.', '0']
    else digits.take point.toNat ++ '.' :: digits.drop point.toNat
  else if -5 < point ∧ point ≤ 0 then ['0', '.'] ++ List.replicate (-point).toNat '0' ++ digits
  else
    let exponent := point - 1
    let mantissa := match digits with
      | d :: e :: rest => d :: '.' :: e :: rest
      | short => short
    mantissa ++ ['e', if exponent < 0 then '-' else '+'] ++ Nat.toDigits 10 exponent.natAbs

/-- The text of a finite double. -/
def decimalText (x : Float) : String :=
  let m := Magnitude.ofFloat x
  let digits := if m.value = 0 then ['0', '.', '0'] else
    let (n, k) := m.shortest
    let ds := Nat.toDigits 10 n
    layoutDigits (ds.reverse.dropWhile (· = '0')).reverse (k + ds.length)
  let sign := if x.toBits.toNat / twoTo 63 = 1 then ['-'] else []
  String.ofList (sign ++ digits)

end PortGrid.Json
