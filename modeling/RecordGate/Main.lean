import RecordGate.Command.Run
import RecordGate.Pattern.Reader

/-!
# The program

Reads the files that a command names, carries the command out, and writes what it leaves behind.
-/

namespace RecordGate

/-- The system's reason for a failure. -/
def reasonOf : IO.Error → String
  | .noFileOrDirectory .. => "No such file or directory (os error 2)"
  | .permissionDenied .. => "Permission denied (os error 13)"
  | e => toString e

/-- The contents of the files at the given paths. -/
def readFiles (paths : List String) : IO (List (String × Except String Bytes)) :=
  paths.mapM fun (path : String) => do
    try return (path, .ok (← IO.FS.readBinFile path).toList)
    catch e => return (path, .error (reasonOf e))

/-- A disk of files that have been read. -/
def diskOfFiles (files : List (String × Except String Bytes)) : Disk := fun path =>
  (files.lookup path).getD (.error "No such file or directory (os error 2)")

/--
The host of a program that has read the files. It works without a pool, so none can fail. The files of a run go by
plain names, so it does not matter what is around their directory.
-/
def host (files : List (String × Except String Bytes)) : Host where
  disk := diskOfFiles files
  engine := .common
  pool _ := .ok ()
  directory := .inTree ["run"] []

/-- The current moment, as the file system stamps a new file. -/
def currentMoment : IO Timestamp := do
  let (_, path) ← IO.FS.createTempFile
  let seconds := (← path.metadata).modified.sec
  IO.FS.removeFile path
  return (Timestamp.ofUnixSeconds? seconds.toNat).getD (.midnight .epoch)

/-- A fresh name for a run. -/
def freshRunName (now : Timestamp) : IO (String × String) := do
  let bytes ← IO.getRandomBytes 16
  let digits := bytes.toList.flatMap fun b => [Json.hexChar (b.toNat / 16), Json.hexChar b.toNat]
  let groups := [digits.take 8, (digits.drop 8).take 4, (digits.drop 12).take 4, (digits.drop 16).take 4,
    digits.drop 20]
  let id := "-".intercalate (groups.map String.ofList)
  let stamp := String.ofList (now.universalText.toList.map fun c => if c == ':' then '-' else c)
  return (id, s!"{stamp}__run_{id}")

/-- Writes what a run leaves behind into its directory. -/
def writeRun (now : Timestamp) (id : String) (r : RunRecord) : IO Unit := do
  let file (name : String) := r.root ++ "/" ++ name
  let config := Json.obj [("run_id", .str id), ("started_at", .str now.universalText),
    ("response_version", .str Response.currentForm), ("options", r.options),
    ("git", .obj [("commit", .null), ("dirty", .null)])]
  IO.FS.createDirAll r.root
  IO.FS.writeFile (file "config.json") config.pretty
  if let some response := r.response then IO.FS.writeFile (file "response.json") response.toJson.pretty
  if let some report := r.report then IO.FS.writeFile (file "report.md") report
  if !r.audit.isEmpty then
    IO.FS.writeFile (file "audit.ndjson") (String.join (r.audit.map fun a => a.toJson.compact ++ "\n"))
  for (name, content) in r.tables.entries do
    IO.FS.writeBinFile (file name) (ByteArray.mk content.toArray)

/-- What is said of arguments that are no command. -/
def usage : String :=
  "usage: intake validate FILE --rules PATH | rules check --rules PATH | rules schema | schema RECORD_TYPE"

/-- Carries out the command that the arguments ask for. -/
def carryOut (arguments : List String) : IO UInt32 := do
  match Command.read? arguments with
  | none =>
    IO.eprintln usage
    return 2
  | some command =>
    let files ← readFiles command.paths
    let now ← currentMoment
    let (id, runName) ← freshRunName now
    let result := command.run (host files) now runName
    if let some r := result.run then writeRun now id r
    IO.print result.output
    match result.failure with
    | some e =>
      IO.eprintln s!"Error: {e.message}"
      return 1
    | none => return 0

end RecordGate

def main (arguments : List String) : IO UInt32 := RecordGate.carryOut arguments
