import RecordGate.Command.Arguments
import RecordGate.RecordType
import RecordGate.Schema.Json

/-!
# Commands

The commands of the program: validate a file, check a document of rules, and show the contract of rule
documents or the schema of a record type.

Main definitions: `Command`, `Command.read?`.
-/

namespace RecordGate

/-- What a validation is asked to do. -/
structure ValidateOptions where
  file : String
  rules : String
  source : Option String
  recordType : Option RecordType
  contentType : Option String
  /-- The settings file. -/
  config : Option String
  /-- The directory in which the directory of the run is made. -/
  runDir : String
  asOf : Option Date
  workers : Option Nat
  /-- Whether an invalid row is a failure. -/
  strict : Bool
deriving DecidableEq

/-- A command. -/
inductive Command where
  | validate (o : ValidateOptions)
  | checkRules (rules : String) (recordType : Option RecordType)
  | showContract
  | showSchema (recordType : RecordType)
  | showVersion
deriving DecidableEq

namespace Command

/-- A path is not empty. -/
def path? (s : String) : Option String := if s.isEmpty then none else some s

/-- A count of 64 bits; a plus may stand before it. -/
def count? (s : String) : Option Nat :=
  let digits := match s.toList with
    | '+' :: ds => ds
    | ds => ds
  if digits.isEmpty || !digits.all Char.isDigit then none
  else
    let n := digits.foldl (fun n d => n * 10 + (d.toNat - '0'.toNat)) 0
    if n < Nat.pow 2 64 then some n else none

def readValidate? (arguments : List String) : Option Command := do
  let a ← Arguments.read?
    ["rules", "source", "record-type", "content-type", "config", "run-dir", "as-of", "workers"] ["strict"] arguments
  let file ← a.single? path?
  let rules ← a.required? "rules" path?
  let source ← a.option? "source" some
  let recordType ← a.option? "record-type" RecordType.ofName?
  let contentType ← a.option? "content-type" some
  let config ← a.option? "config" path?
  let runDir ← a.option? "run-dir" path?
  let asOf ← a.option? "as-of" Date.ofDocument?
  let workers ← a.option? "workers" count?
  return .validate {
    file, rules, source, recordType, contentType, config, runDir := runDir.getD "runs", asOf, workers,
    strict := a.flags.contains "strict" }

def readCheckRules? (arguments : List String) : Option Command := do
  let a ← Arguments.read? ["rules", "record-type"] [] arguments
  let rules ← a.required? "rules" path?
  let recordType ← a.option? "record-type" RecordType.ofName?
  if a.positional.isEmpty then return .checkRules rules recordType else none

def readShowContract? (arguments : List String) : Option Command := do
  let a ← Arguments.read? [] [] arguments
  if a.positional.isEmpty then return .showContract else none

def readShowSchema? (arguments : List String) : Option Command := do
  let a ← Arguments.read? [] [] arguments
  return .showSchema (← a.single? RecordType.ofName?)

/-- Reads a command from arguments. -/
def read? : List String → Option Command
  | "validate" :: rest => readValidate? rest
  | "rules" :: "check" :: rest => readCheckRules? rest
  | "rules" :: "schema" :: rest => readShowContract? rest
  | "schema" :: rest => readShowSchema? rest
  | "--version" :: _ => some .showVersion
  | "-V" :: _ => some .showVersion
  | _ => none

/-- The paths of the files that a command may look at. -/
def paths : Command → List String
  | .validate o => o.config.toList ++ [o.rules, o.file]
  | .checkRules rules _ => [rules]
  | _ => []

end Command

end RecordGate
