import RestRoutes.Api.Listing
import RestRoutes.CommandLine.Invocation
import RestRoutes.Document.Source

/-! Carrying out what a command line asks for.  A command that fails writes no result: only a record
of the crash if it was no refusal that stopped it. -/

namespace RestRoutes.CommandLine

/-- What a command leaves behind. -/
structure Outcome where
  exitCode : Nat
  /-- What was written to the standard output. -/
  output : String
  notices : String
  log : List Log.Record
  /-- The defect that stopped the command and that there is a record of. -/
  crash : Option Defect
  /-- The defect that stopped the writing of that record. -/
  escaped : Option Defect
  tree : File.Tree

/-- What a command leaves behind that was not stopped. -/
structure Success where
  machine : Machine
  output : String
  notices : List Notice

/-! ### Generating -/

def formatOf (s : Settings) : Except Failure Sink.Format :=
  match Sink.Format.ofName? s.format with
  | some f => .ok f
  | none => .error (.refusal (.outputFormat s.format))

/-- The generator that a command line asks for, and the format of its result. -/
def prepared (m : Machine) (o : GenerateOptions) : Except Failure (Generator × Sink.Format) := do
  let settings ← Settings.resolve m o.overrides.layer
  let format ← formatOf settings
  let document ← Document.load m o.source
  return (← settings.generator m.charNames document, format)

/-- The routes that a command line asks for as a text, and the report on them. -/
def generated (m : Machine) (o : GenerateOptions) : Logged (String × Report) := do
  let (generator, format) ← Logged.ofExcept (prepared m o)
  let run := generator.generate
  let report ← ⟨run.log, run.outcome⟩
  let text ← Logged.ofExcept ((format.render run.events).mapError .defect)
  return (text, report)

def summary (report : Report) (file : Option String) : String :=
  "Generated " ++ toString report.emitted.length ++ " operation(s)" ++
    (if report.filtered.isEmpty then ""
      else ", filtered " ++ toString report.filtered.length) ++
    (match file.filter (!·.isEmpty) with
      | some name => " into " ++ name
      | none => "")

/-- A warning for each operation that was skipped, and the summary. -/
def generateNotices (report : Report) (file : Option String) : List Notice :=
  report.failed.map (fun (label, message) => .warning ("Skipped " ++ label ++ ": " ++ message)) ++
    [.info (summary report file)]

def generate (m : Machine) (o : GenerateOptions) : Logged Success := do
  let (text, report) ← generated m o
  let (machine, output) ←
    Logged.ofExcept ((m.writeResult text o.file).mapError (.defect ∘ .file))
  return { machine, output, notices := generateNotices report o.file }

/-! ### Listing -/

def listHeaders : List String := ["Method", "Path", "Operation", "Included"]

def operationRow (filter : Filter) (method : Api.Method) (op : Api.Operation) :
    Except Failure (List String) := do
  let included ← filter.accept op.id?
  return [method.capitalName, op.path, op.name?.getD "-", if included then "yes" else "no"]

def operationRows (document : Value) (version : Document.Version) (filter : Filter) :
    Logged (List (List String)) :=
  let listing := Api.Listing.collect document version (operationRow filter)
  match listing.failure with
  | some failure => ⟨listing.log, .error failure⟩
  | none => ⟨listing.log, .ok listing.items⟩

/-- The title of a document, which must have a text if it has a value. -/
def title (document : Value) : Except Failure String :=
  let value := (document.get "info").get "title"
  if value.isTruthy then value.textOrFail else .ok "API"

/-- The listing that a command line asks for. -/
def listed (m : Machine) (o : ListOptions) : Logged Table := do
  let settings ← Logged.ofExcept
    (Settings.resolve m [(.str "filter", Settings.optionalValue o.filter)])
  let document ← Logged.ofExcept (Document.load m o.source)
  let version ← Logged.ofExcept (Document.version document)
  let rows ← operationRows document version (.ofSetting m.charNames settings.filter)
  let _ ← Logged.ofExcept (title document)
  return ⟨listHeaders, rows⟩

def list (m : Machine) (console : Console) (o : ListOptions) : Logged Success := do
  return { machine := m, output := console.listing (← listed m o), notices := [] }

/-! ### Outcomes -/

def crashLine (d : Defect) : String :=
  if d.message.isEmpty then d.label else d.label ++ ": " ++ d.message

def crashName (m : Machine) : String := "crash-" ++ m.moment ++ ".log"

/-- Makes the directory that records of crashes are written to. -/
def makeLogsDirectory (m : Machine) : File.Filing Defect File.Path := do
  let p := (← m.makeDataDirectory).child "logs"
  (File.Filing.makeDirectories m.directory p).adapt .file
  return p

/-- Writes the record of a crash, and gives the path of it. -/
def recordCrash (m : Machine) (d : Defect) : File.Filing Defect File.Path := do
  let p := (← makeLogsDirectory m).child (crashName m)
  (File.Filing.write m.directory p (Text.Utf8.encode (crashLine d ++ "\n"))).adapt .file
  return p

/-- The outcome of a command.  Where not even the record of a crash can be written, nobody catches the
defect that stopped the writing; the program ends as with any other crash, but tells no path. -/
def outcome (m : Machine) (console : Console) (result : Logged Success) : Outcome :=
  let log := console.shown result.log
  match result.outcome with
  | .ok s => ⟨0, s.output, console.lines s.notices, log, none, none, s.machine.tree⟩
  | .error (.refusal r) =>
    ⟨r.exitCode, "", console.line (.error r.message), log, none, none, m.tree⟩
  | .error (.defect d) =>
    match (recordCrash m d).run m.tree with
    | (.ok p, tree) =>
      let notice := .error ("Unexpected error. Debug log: " ++ p.text)
      ⟨1, "", console.line notice, log, some d, none, tree⟩
    | (.error escaped, tree) => ⟨1, "", "", log, none, some escaped, tree⟩

def execute (m : Machine) (console : Console) : Command → Logged Success
  | .generate o => generate m o
  | .operations o => list m console o

/-! ### Whole command lines -/

def versionLine : String := Machine.programName ++ " 0.1.0\n"

def usage : String :=
  "Usage: " ++ Machine.programName ++ " [--version] [--json] [--plain] [--no-color] " ++
    "[--quiet] [--verbose] (generate | operations) SOURCE [OPTIONS]\n"

/-- What a command line leaves behind. -/
def run (m : Machine) (terminal : Bool) (words : List String) : Outcome :=
  match Invocation.ofWords words with
  | none => ⟨2, "", usage, [], none, none, m.tree⟩
  | some .version => ⟨0, versionLine, "", [], none, none, m.tree⟩
  | some .help => ⟨0, usage, "", [], none, none, m.tree⟩
  | some (.run flags command) =>
    let console := flags.console m terminal
    outcome m console (execute m console command)

end RestRoutes.CommandLine
