import PortGrid.Storage.Directory

/-!
# Opening a directory by its path

A path is walked from a folder, step by step, or from the top if it begins with a slash. A folder is made only
inside a folder that exists; to open a directory, the innermost folder of its path is tried first, and the ones
above it are made only if it cannot be made without them. Two dots lead to the folder above, and they can be walked
only through a folder that exists.

Key definitions: `Location`, `Tree`, `Path`, `Path.written`, `Path.parse`, `Tree.walk`, `Tree.makeFolder`,
`Tree.makeFolders`, `Tree.openAt`.
-/

namespace PortGrid

/-- Where something stands: the names on the way to it from the top, the innermost first. -/
abbrev Location := List String

/-- The files and folders below the top, which is a folder itself. -/
structure Tree where
  entries : List (Location × Entry) := []

/-- A path as it is walked: its names and double dots, the innermost first, without empty steps and single dots. -/
structure Path where
  steps : List String
  /-- Whether it ends in a single dot, and so can only name a folder that exists. -/
  endsInDot : Bool
  /-- Whether it starts at the top. -/
  isAbsolute : Bool := false
deriving DecidableEq

/-- What a text has between its slashes, the innermost first, without empty steps. -/
def Path.written (text : String) : List String :=
  ((text.toList.splitOn '/').map String.ofList).reverse.filter (· ≠ "")

/-- The path that a text writes. -/
def Path.parse (text : String) : Path :=
  ⟨(written text).filter (· ≠ "."), (written text).head? = some ".", text.startsWith "/"⟩

namespace Tree

def entry? (t : Tree) : Location → Option Entry
  | [] => some .folder
  | location => t.entries.lookup location

def put (t : Tree) (location : Location) (entry : Entry) : Tree :=
  ⟨(location, entry) :: t.entries⟩

/-- The location that is reached from another by steps, the outermost first. -/
def walk (t : Tree) (here : Location) : List String → Except FileFault Location
  | [] => .ok here
  | step :: steps =>
    match t.entry? here with
    | some .folder =>
      if step = ".." then t.walk (here.drop 1) steps
      else if step.utf8ByteSize > maxNameBytes then .error .nameTooLong
      else match t.entry? (step :: here) with
        | some _ => t.walk (step :: here) steps
        | none => .error .notFound
    | _ => .error .notDirectory

/-- The folder that is reached from another by steps, the innermost first. -/
def folderAt (t : Tree) (base : Location) (steps : List String) : Except FileFault Location := do
  let here ← t.walk base steps.reverse
  match t.entry? here with
  | some .folder => return here
  | _ => throw .notDirectory

/-- The tree with a new folder at a path. -/
def makeFolder (t : Tree) (base : Location) (path : Path) : Except FileFault Tree := do
  match path.steps, path.endsInDot with
  | [], _ => throw .alreadyExists
  | steps, true =>
    let _ ← t.folderAt base steps
    throw .alreadyExists
  | name :: above, false =>
    let parent ← t.folderAt base above
    if name = ".." then throw .alreadyExists
    else if name.utf8ByteSize > maxNameBytes then throw .nameTooLong
    else if (t.entry? (name :: parent)).isSome then throw .alreadyExists
    else return t.put (name :: parent) .folder

/-- The tree with a folder at a path, which may have been there before. -/
def ensureFolder (t : Tree) (base : Location) (path : Path) : Except FileFault Tree :=
  match t.makeFolder base path, t.folderAt base path.steps with
  | .error .alreadyExists, .ok _ => .ok t
  | result, _ => result

/-- The tree with a folder at a path, and with those above it that are missing. -/
def makeFolders (t : Tree) (base : Location) : List String → Bool → Except FileFault Tree
  | [], _ => .ok t
  | step :: above, endsInDot =>
    match t.ensureFolder base { steps := step :: above, endsInDot := endsInDot } with
    | .error .notFound => do
      let below ← t.makeFolders base above false
      below.ensureFolder base { steps := step :: above, endsInDot := endsInDot }
    | result => result

def directoryAt (t : Tree) (here : Location) (pathBytes : Nat) : Directory where
  entries := t.entries.filterMap fun (location, entry) =>
    match location with
    | name :: parent => if parent = here then some (name, entry) else none
    | [] => none
  pathBytes := pathBytes

/-- Opens the directory at a path from a base, to which as many bytes as given lead, and makes the folders that are
missing. -/
def openAt (t : Tree) (base : Location) (baseBytes : Nat) (text : String) : Except FileFault Directory := do
  let path := Path.parse text
  let bytes := if path.isAbsolute then text.utf8ByteSize else baseBytes + text.utf8ByteSize
  let start := if path.isAbsolute then [] else base
  if text.contains '\x00' then throw .nulInName
  if bytes > maxPathBytes then throw .nameTooLong
  let t ← t.makeFolders start path.steps path.endsInDot
  let here ← t.folderAt start path.steps
  return t.directoryAt here (if text.isEmpty || text.endsWith "/" then bytes else bytes + 1)

end Tree

end PortGrid
