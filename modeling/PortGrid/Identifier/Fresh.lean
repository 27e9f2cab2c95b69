import PortGrid.Identifier

/-!
# Fresh identifiers

A fresh identifier is a word for its role and a random number of 122 bits in the form of a UUID: 32 hexadecimal
digits in five groups, of which one digit gives the version and two bits the variant.

Key definitions: `uuidText`, `EquipmentId.ofNumber`, `PortId.ofNumber`.
-/

namespace PortGrid

/-- The hexadecimal digits of a number, `count` of them. -/
def hexDigits : Nat → Nat → List Char
  | 0, _ => []
  | count + 1, n => hexDigits count (n / 16) ++ [Nat.digitChar (n % 16)]

/-- The UUID of version 4 whose free bits are the last 122 bits of a number. -/
def uuidText (n : Nat) : String :=
  let low := n % (1 <<< 62)
  let digits := hexDigits 12 (n >>> 74) ++ '4' :: hexDigits 3 (n >>> 62) ++ hexDigits 16 ((1 <<< 63) + low)
  String.ofList (digits.take 8 ++ '-' :: (digits.drop 8).take 4 ++ '-' :: (digits.drop 12).take 4 ++
    '-' :: (digits.drop 16).take 4 ++ '-' :: digits.drop 20)

def EquipmentId.ofNumber (n : Nat) : EquipmentId := ⟨s!"equipment-{uuidText n}"⟩

def PortId.ofNumber (n : Nat) : PortId := ⟨s!"port-{uuidText n}"⟩

end PortGrid
