import RecordGate.Command.Basic
import RecordGate.Gate.Basic
import RecordGate.Response.Report
import RecordGate.Rule.Document
import RecordGate.Settings.File
import RecordGate.Warehouse.Files

/-!
# Carrying commands out

A command is carried out on a host that has the content of the files that it names. What it prints, how it fails
and what a validation leaves in the directory of its run are its result; nothing is written here.

A validation checks its settings first, then opens a run, and then reads the rules; so a run may be left
without a response.

Main definitions: `Host`, `Command.run`, `RunRecord`.
-/

namespace RecordGate

/-- The contents of files by path, or why they cannot be read. -/
abbrev Disk := String → Except String Bytes

/-- What a command finds around it. -/
structure Host where
  disk : Disk
  /-- What reads the patterns of schemas. -/
  engine : Pattern.Engine
  /-- Whether a pool of so many workers can be built; the text says why not. -/
  pool : (workers : Nat) → Except String Unit
  /-- The directory that is made for a run, which holds nothing yet. -/
  directory : Directory

/-- Why a command fails. -/
inductive CommandFailure where
  | settings (e : Settings.LoadError)
  | configuration (e : Settings.Fault)
  | rules (e : RuleSet.LoadError)
  | engine (e : Gate.Failure)
  | ruleCheck (errors : Nat)
  | fileFailed (source : String) (status : FileStatus)
  | invalidRows (source : String) (rows : Nat)

def CommandFailure.message : CommandFailure → String
  | .settings (.unreadable path reason) => s!"settings error: io error reading {path}: {reason}"
  | .settings .notSettings => "settings error: the file holds no settings"
  | .configuration e => s!"engine error: invalid configuration: {e.message}"
  | .rules e => s!"rules error: {e.message}"
  | .engine e => s!"engine error: {e.message}"
  | .ruleCheck errors => s!"rule check failed with {errors} error(s)"
  | .fileFailed source status => s!"file {source} finished with status {status.name}"
  | .invalidRows source rows => s!"file {source} has {rows} invalid row(s)"

/-- What a validation leaves in the directory of its run. -/
structure RunRecord where
  /-- The path of the directory. -/
  root : String
  /-- What the validation was asked to do. -/
  options : Json
  response : Option Response
  report : Option String
  /-- The kept audit records, in order. -/
  audit : List AuditRecord
  /-- The files of the tables, by place. -/
  tables : Record Bytes

/-- The result of a command. -/
structure CommandResult where
  /-- What is printed. -/
  output : String
  failure : Option CommandFailure
  run : Option RunRecord

namespace CommandResult

def printed (output : String) : CommandResult := ⟨output, none, none⟩

def failed (e : CommandFailure) : CommandResult := ⟨"", some e, none⟩

end CommandResult

/-- The tables and the audit of a run. -/
structure RunState where
  tables : TableFiles
  audit : List AuditRecord

namespace RunState

/-- The operations of the tables of a run. -/
def loader (d : Directory) : Loader RunState where
  stage load table rows s :=
    let (count, tables) := (TableFiles.loader d).stage load table rows s.tables
    (count, { s with tables := tables })
  commit load table s :=
    let (count, tables) := (TableFiles.loader d).commit load table s.tables
    (count, { s with tables := tables })
  abort load table s :=
    let (done, tables) := (TableFiles.loader d).abort load table s.tables
    (done, { s with tables := tables })

/-- A run is never cancelled, and it keeps every audit record. -/
def surroundings (host : Host) : Surroundings RunState where
  loader := loader host.directory
  cancelled s := (false, s)
  keep a s := (.ok (), { s with audit := s.audit ++ [a] })
  pool workers _ := host.pool workers

/-- A run before its file. The columns of the table are known when the record type is. -/
def start (t : Option RecordType) : RunState :=
  let tables := TableFiles.ofFiles .empty
  ⟨match t with
    | some t => tables.withColumns t.table (Schema.builtin t).fieldNames
    | none => tables, []⟩

end RunState

namespace ValidateOptions

/-- The source, which is the path when none is given. -/
def sourceName (o : ValidateOptions) : String := o.source.getD o.file

def request (o : ValidateOptions) : Request := ⟨o.sourceName, o.recordType, o.contentType⟩

/-- The settings, with what the options say in their place. -/
def adjust (o : ValidateOptions) (s : Settings) : Settings :=
  { s with asOf := o.asOf.or s.asOf, workers := o.workers.getD s.workers }

/-- The options as the run keeps them. -/
def toJson (o : ValidateOptions) (s : Settings) : Json :=
  .obj [("input", .str o.file), ("source", .str o.sourceName),
    ("record_type", .ofOption (fun t => .str t.key) o.request.recordType?),
    ("content_type", .ofOption .str o.contentType), ("rules", .str o.rules), ("strict", .bool o.strict),
    ("engine", s.toJson)]

/-- The path of a directory in the directory of runs. -/
def root (o : ValidateOptions) (runName : String) : String :=
  if o.runDir.endsWith "/" then o.runDir ++ runName else o.runDir ++ "/" ++ runName

end ValidateOptions

/-- How a validation fails when its file ended in the given way. -/
def Response.failure? (r : Response) (strict : Bool) : Option CommandFailure :=
  if !r.succeeded then some (.fileFailed r.source r.status)
  else if strict && r.invalidRows > 0 then some (.invalidRows r.source r.invalidRows)
  else none

/-- The line that sums up a validation. -/
def Response.line (r : Response) (root : String) : String :=
  s!"{r.source}: {r.status.name} ({r.totalRows} rows, {r.validRows} valid, {r.invalidRows} invalid) -> {root}\n"

namespace Command

/-- Validates a file with settings that passed their check. -/
def validateWith (host : Host) (now : Timestamp) (runName : String) (o : ValidateOptions) (g : Gate) :
    CommandResult :=
  let root := o.root runName
  let opened : RunRecord := ⟨root, o.toJson g.settings, none, none, [], .empty⟩
  match RuleSet.load (host.disk o.rules) with
  | .error e => ⟨"", some (.rules e), some opened⟩
  | .ok v =>
    let start : GateState RunState :=
      ⟨.new g.settings.cache RuleCache.spread, 1, .start o.request.recordType?⟩
    match g.process (RunState.surroundings host) (RuleFile.of v).store o.request
        ((host.disk o.file).mapError fun reason => ⟨o.file, reason⟩) now start with
    | (.error e, _) => ⟨"", some (.engine e), some opened⟩
    | (.ok outcome, state) =>
      let r := outcome.response
      ⟨r.line root, r.failure? o.strict,
        some { opened with
          response := some r
          report := some (r.report g.settings.maxExamples)
          audit := state.around.audit
          tables := state.around.tables.files }⟩

/-- Validates a file. -/
def validateFile (host : Host) (now : Timestamp) (runName : String) (o : ValidateOptions) : CommandResult :=
  match Settings.load host.disk o.config with
  | .error e => .failed (.settings e)
  | .ok s =>
    match Gate.open? host.engine (o.adjust s) with
    | .error e => .failed (.configuration e)
    | .ok g => validateWith host now runName o g

/-- The report on a rule file, as it is printed. -/
def reportText (path : String) (r : Report) : String :=
  s!"{path}: {r.errors.length} error(s), {r.warnings.length} warning(s)\n{r.toJson.pretty}\n"

/-- Prints a report; errors in it are a failure. -/
def reported (path : String) (r : Report) : CommandResult :=
  ⟨reportText path r, if r.isOk then none else some (.ruleCheck r.errors.length), none⟩

/-- Checks a rule file, and its rules under the schemas of the given record types. -/
def checkRuleFile (disk : Disk) (path : String) (types : List RecordType) : CommandResult :=
  match RuleSet.load (disk path) with
  | .error (.rejected r) => reported path r
  | .error e => .failed (.rules e)
  | .ok v =>
    reported path (⟨[], v.warnings⟩ ++ Report.join (types.map fun t =>
      RecordGate.checkRules (v.ruleSet.rules.filter (·.recordType = t)) (Schema.builtin t)))

/-- The version of the program. -/
def version : String := "0.1.0"

/-- Carries a command out at a moment of universal time; a run goes by the given name. -/
def run (host : Host) (now : Timestamp) (runName : String) : Command → CommandResult
  | .validate o => validateFile host now runName o
  | .checkRules path t => checkRuleFile host.disk path ((t.map ([·])).getD RecordType.all)
  | .showContract => .printed (RuleSet.contractJson.pretty ++ "\n")
  | .showSchema t => .printed ((Schema.builtin t).toJson.pretty ++ "\n")
  | .showVersion => .printed s!"intake {version}\n"

end Command

end RecordGate
