import PortGrid.Storage

/-!
# Storage that may refuse

A guarded storage passes reads and writes on to another one, but it can be told to refuse every read, or every
write after a number of them.

Key definition: `Guarded`.
-/

namespace PortGrid

/-- A storage behind a guard. -/
structure Guarded (β : Type) where
  inner : β
  /-- How many more writes are let through; none for no limit. -/
  writesLeft : Option Nat := none
  refusesReads : Bool := false

namespace Guarded

variable {β : Type} [Backend β]

/-- Reads, unless reads are refused. -/
def get (s : Guarded β) (key : String) : Except StorageError (Option String) :=
  if s.refusesReads then .error (.file key (.other "unreadable")) else Backend.get s.inner key

/-- Writes, unless no write is left. -/
def set (s : Guarded β) (key value : String) : Except StorageError Unit × Guarded β :=
  match s.writesLeft with
  | some 0 => (.error (.file key (.other "read-only")), s)
  | left =>
    let (result, inner) := Backend.set s.inner key value
    (result, { s with inner := inner, writesLeft := left.map (· - 1) })

/-- Removes, which is never refused. -/
def remove (s : Guarded β) (key : String) : Except StorageError Unit × Guarded β :=
  let (result, inner) := Backend.remove s.inner key
  (result, { s with inner := inner })

instance : Backend (Guarded β) where
  get := Guarded.get
  set := Guarded.set
  remove := Guarded.remove

end Guarded

end PortGrid
