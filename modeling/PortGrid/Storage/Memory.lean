import PortGrid.Storage

/-!
# Storage in memory

Any text is a key, and nothing ever fails.

Key definitions: `MemoryStorage`, `MemoryStorage.get?`, `MemoryStorage.insert`, `MemoryStorage.erase`.
-/

namespace PortGrid

/-- Texts by their keys, each key once. -/
structure MemoryStorage where
  entries : List (String × String) := []
deriving DecidableEq

namespace MemoryStorage

def get? (s : MemoryStorage) (key : String) : Option String :=
  s.entries.lookup key

def erase (s : MemoryStorage) (key : String) : MemoryStorage :=
  ⟨s.entries.filter (·.1 ≠ key)⟩

def insert (s : MemoryStorage) (key value : String) : MemoryStorage :=
  ⟨(key, value) :: (s.erase key).entries⟩

instance : Backend MemoryStorage where
  get s key := .ok (s.get? key)
  set s key value := (.ok (), s.insert key value)
  remove s key := (.ok (), s.erase key)

end MemoryStorage

end PortGrid
