import PortGrid.Json.Fault

/-!
# Storage of texts by key

A storage keeps texts under keys. A backend says how a value is read, written and removed; each of these may fail,
and a failed write may leave a changed backend behind.

Key definitions: `FileFault`, `StorageError`, `Backend`.
-/

namespace PortGrid

/-- A failure below the storage. -/
inductive FileFault where
  | notFound
  | alreadyExists
  | notDirectory
  | isDirectory
  | nameTooLong
  | notText
  | nulInName
  /-- A failure with words of its own. -/
  | other (reason : String)
deriving DecidableEq

def FileFault.message : FileFault → String
  | .notFound => "No such file or directory (os error 2)"
  | .alreadyExists => "File exists (os error 17)"
  | .notDirectory => "Not a directory (os error 20)"
  | .isDirectory => "Is a directory (os error 21)"
  | .nameTooLong => "File name too long (os error 36)"
  | .notText => "stream did not contain valid UTF-8"
  | .nulInName => "file name contained an unexpected NUL byte"
  | .other reason => reason

/-- Why a storage refuses. -/
inductive StorageError where
  | file (key : String) (fault : FileFault)
  | invalidKey (key : String)
  /-- The stored text holds no state. -/
  | unreadable (fault : Json.Fault)

def StorageError.message : StorageError → String
  | .file key fault => s!"storage I/O failed for key '{key}': {fault.message}"
  | .invalidKey key => s!"invalid key '{key}': keys may only contain letters, digits, '-', '_' and '.'"
  | .unreadable fault => s!"failed to (de)serialize state: {fault.message}"

/-- A way of keeping texts under keys. -/
class Backend (β : Type) where
  /-- The text under a key, or none if there is none. -/
  get : β → String → Except StorageError (Option String)
  /-- Puts a text under a key in place of the one before. -/
  set : β → String → String → Except StorageError Unit × β
  /-- Takes away the text under a key, if there is one. -/
  remove : β → String → Except StorageError Unit × β

end PortGrid
