import PortGrid.BatchRename
import PortGrid.Identifier.Fresh
import PortGrid.Timestamp.Clock
import PortGrid.Timestamp.Writer
import Std.Time

/-!
# The command line

`portgrid [DIRECTORY] [PATTERN]` names the ports of the selected device in the directory's state by the pattern and
prints them. This module reads the arguments, the clock, random numbers and the files, and writes what the command
reports; everything else is decided elsewhere.

Key definition: `main`.
-/

namespace PortGrid.CommandLine

def faultOf : IO.Error → FileFault
  | .alreadyExists .. => .alreadyExists
  | .noFileOrDirectory .. => .notFound
  | .inappropriateType .. => .notDirectory
  | e => .other (toString e)

def now : IO Timestamp := do
  let reading ← Std.Time.Timestamp.now
  let nanos := reading.toNanosecondsSinceUnixEpoch.val
  match Timestamp.ofClock? (nanos / 1000000000) (nanos % 1000000000).toNat with
  | some t => return t
  | none => throw (IO.userError "the clock is out of range")

/-- A random number of 128 bits. -/
def randomNumber : IO Nat := do
  let bytes ← IO.getRandomBytes 16
  return bytes.toList.foldl (fun n b => 256 * n + b.toNat) 0

/-- The clock and fresh identifiers. -/
def moment : IO Moment := do
  let seed ← randomNumber
  return ⟨← now, EquipmentId.ofNumber (← randomNumber), fun i => PortId.ofNumber (seed + i)⟩

/-- What stands under a name in a directory on disk. -/
def readEntry (path name : String) : IO (List (String × Entry)) := do
  let file := (← IO.FS.realPath path) / name
  if ← file.isDir then return [(name, .folder)]
  else if ← file.pathExists then return [(name, .file (← IO.FS.readBinFile file))]
  else return []

/-- Opens a directory on disk and reads the files that the command works with. -/
def openDirectory (path key : String) : IO (Except FileFault Directory) := do
  try
    IO.FS.createDirAll path
    let target ← readEntry path (targetName key)
    let staging ← readEntry path (stagingName key)
    return .ok { entries := target ++ staging }
  catch e => return .error (faultOf e)

/-- The content of a file, if the name is that of a file. -/
def content? (directory : Directory) (name : String) : Option ByteArray :=
  match directory.entry? name with
  | some (.file content) => some content
  | _ => none

/-- Writes the file of the key to disk if it has changed: beside it first, and then by a rename. -/
def writeBack (path key : String) (before after : Directory) : IO Unit := do
  let staging : String := s!"{path}/{stagingName key}"
  if content? before (stagingName key) != content? after (stagingName key) then
    if let some content := content? after (stagingName key) then
      IO.FS.writeBinFile staging content
  if content? before (targetName key) != content? after (targetName key) then
    if let some content := content? after (targetName key) then
      IO.FS.writeBinFile staging content
      IO.FS.rename staging s!"{path}/{targetName key}"

def levelName : Level → String
  | .debug => "DEBUG"
  | .info => "INFO"
  | .warn => "WARN"
  | .error => "ERROR"

def writeRecord (record : Level × String) : IO Unit := do
  let time ← now
  let body := "\n    ".intercalate (record.2.splitOn "\n")
  IO.eprintln s!"[{time.text} {levelName record.1}] {body}"

/-- The report of the command, or that of a write to disk that fails. -/
def written (key : String) (report : CommandReport) (write : IO Unit) : IO CommandReport := do
  try
    write
    return report
  catch e => return failedReport [] (StorageError.file key (faultOf e)).message

def run (arguments : List String) : IO UInt32 := do
  let path := arguments[0]?.getD defaultStateDirectory
  let pattern := arguments[1]?.getD defaultPattern
  let key := commandConfig.storageKey
  let directory ← openDirectory path key
  let adding ← moment
  let naming ← moment
  let (report, after) := batchRenameAt path directory pattern adding naming
  let report ← match directory with
    | .ok before => written key report (writeBack path key before after)
    | .error _ => pure report
  for record in report.records do
    if record.1 ≠ .debug then writeRecord record
  for line in report.lines do
    IO.println line
  return UInt32.ofNat report.code

end PortGrid.CommandLine

def main (arguments : List String) : IO UInt32 :=
  PortGrid.CommandLine.run arguments
