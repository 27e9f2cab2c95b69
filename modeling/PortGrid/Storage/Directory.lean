import PortGrid.Storage

/-!
# Storage in a directory

The text under a key is the content of the file `<key>.json`. It is written to a file with another extension first, and
the written file is then renamed, so that the text under a key is at all times either the old one or the new one. A key
holds only letters, digits and three marks, and thus names a file of the directory itself.

Key definitions: `Entry`, `Directory`, `isValidKey`, `targetName`, `withExtension`, `stagingName`, `Directory.readFile`,
`Directory.writeFile`, `Directory.rename`, `Directory.set`.
-/

namespace PortGrid

/-- What stands under a name in a directory. -/
inductive Entry where
  | file (content : ByteArray)
  | folder

/-- The files and folders of a directory by their names, each name once. -/
structure Directory where
  entries : List (String × Entry) := []
  /-- How many bytes stand before a name in its path. -/
  pathBytes : Nat := 0

/-- The most bytes that a name may have. -/
def maxNameBytes : Nat := 255

/-- The most bytes that a path may have. -/
def maxPathBytes : Nat := 4095

/-- Whether a text may serve as a key. -/
def isValidKey (key : String) : Bool :=
  !key.isEmpty && key != "." && key != ".." &&
    key.toList.all fun c => c.isAlphanum || c == '-' || c == '_' || c == '.'

/-- The name of the file with the text under a key. -/
def targetName (key : String) : String := s!"{key}.json"

/-- A name without its last dot and what is behind it. A name whose only dot stands in front is kept whole. -/
def stemChars (name : List Char) : List Char :=
  match name.reverse.dropWhile (· ≠ '.') with
  | '.' :: c :: before => (c :: before).reverse
  | _ => name

/-- The name with what is behind its last dot replaced. -/
def withExtension (name extension : String) : String :=
  s!"{String.ofList (stemChars name.toList)}.{extension}"

/-- The name under which the file of a key is written, before it gets its own. -/
def stagingName (key : String) : String := withExtension (targetName key) "json.tmp"

namespace Directory

def entry? (d : Directory) (name : String) : Option Entry :=
  d.entries.lookup name

def drop (d : Directory) (name : String) : Directory :=
  { d with entries := d.entries.filter (·.1 ≠ name) }

def put (d : Directory) (name : String) (entry : Entry) : Directory :=
  { d with entries := (name, entry) :: (d.drop name).entries }

/-- The names in use, in ascending order. -/
def names (d : Directory) : List String :=
  (d.entries.map (·.1)).mergeSort fun a b => a ≤ b

/-- Refuses a name that is too long, or too long together with its path. -/
def checkName (d : Directory) (name : String) : Except FileFault Unit :=
  if name.utf8ByteSize > maxNameBytes ∨ d.pathBytes + name.utf8ByteSize > maxPathBytes then .error .nameTooLong
  else .ok ()

def readFile (d : Directory) (name : String) : Except FileFault String := do
  d.checkName name
  match d.entry? name with
  | none => throw .notFound
  | some .folder => throw .isDirectory
  | some (.file content) =>
    match String.fromUTF8? content with
    | some text => return text
    | none => throw .notText

/-- The directory with a new content in a file, which is created if need be. -/
def writeFile (d : Directory) (name : String) (content : ByteArray) : Except FileFault Directory := do
  d.checkName name
  match d.entry? name with
  | some .folder => throw .isDirectory
  | _ => return d.put name (.file content)

/-- The directory with a file under another name, where a file is replaced. -/
def rename (d : Directory) (source target : String) : Except FileFault Directory := do
  d.checkName source
  d.checkName target
  match d.entry? source, d.entry? target with
  | none, _ => throw .notFound
  | some _, some .folder => throw .isDirectory
  | some entry, _ => return (d.drop source).put target entry

def removeFile (d : Directory) (name : String) : Except FileFault Directory := do
  d.checkName name
  match d.entry? name with
  | none => throw .notFound
  | some .folder => throw .isDirectory
  | some (.file _) => return d.drop name

/-- The text under a key. -/
def get (d : Directory) (key : String) : Except StorageError (Option String) :=
  if isValidKey key then
    match d.readFile (targetName key) with
    | .ok text => .ok (some text)
    | .error .notFound => .ok none
    | .error fault => .error (.file key fault)
  else .error (.invalidKey key)

/-- Writes the text beside the file of the key and renames it. If the second step fails, the file of the first
stays. -/
def set (d : Directory) (key value : String) : Except StorageError Unit × Directory :=
  if isValidKey key then
    match d.writeFile (stagingName key) value.toUTF8 with
    | .error fault => (.error (.file key fault), d)
    | .ok staged =>
      match staged.rename (stagingName key) (targetName key) with
      | .error fault => (.error (.file key fault), staged)
      | .ok renamed => (.ok (), renamed)
  else (.error (.invalidKey key), d)

def remove (d : Directory) (key : String) : Except StorageError Unit × Directory :=
  if isValidKey key then
    match d.removeFile (targetName key) with
    | .ok rest => (.ok (), rest)
    | .error .notFound => (.ok (), d)
    | .error fault => (.error (.file key fault), d)
  else (.error (.invalidKey key), d)

instance : Backend Directory where
  get := Directory.get
  set := Directory.set
  remove := Directory.remove

end Directory

end PortGrid
