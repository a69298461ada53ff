import RestRoutes.CommandLine.Execution
import RestRoutes.Proofs.File.Tree

/-! Generating is all or nothing.  A command either leaves the whole text of the routes behind, or a
failure with every file as it was; whatever was emitted before the failure is seen nowhere.  Only the
record of a crash is new, and where even that cannot be written nothing is.  A listing of operations
has a row for each. -/

namespace RestRoutes.CommandLine

open File

def crashPath (m : Machine) : Except Defect Path :=
  m.dataDirectory.map fun p => (p.child "logs").child (crashName m)

def crashRecord (d : Defect) : List UInt8 := Text.Utf8.encode (crashLine d ++ "\n")

/-- All routes are on the standard output, or in the file that was asked for, with a line end. -/
structure Delivered (m : Machine) (o : GenerateOptions) (out : Outcome) : Prop where
  exitCode : out.exitCode = 0
  crash : out.crash = none
  escaped : out.escaped = none
  result : ∃ generator format report text,
    prepared m o = .ok (generator, format) ∧ generator.generate.outcome = .ok report ∧
    format.render generator.generate.events = .ok text ∧
    ((o.file = none ∨ o.file = some "") ∧ out.output = Text.endedLine text ∧ out.tree = m.tree ∨
      ∃ name, o.file = some name ∧ out.output = "" ∧
        Tree.Wrote m.directory (.ofText name) (Text.Utf8.encode (Text.endedLine text)) m.tree
          out.tree)

/-- A refusal left nothing behind but its exit code and notices. -/
structure Refused (m : Machine) (r : Refusal) (out : Outcome) : Prop where
  exitCode : out.exitCode = r.exitCode
  failed : out.exitCode ≠ 0
  output : out.output = ""
  crash : out.crash = none
  escaped : out.escaped = none
  tree : out.tree = m.tree

/-- A defect left nothing behind but its exit code, notices and the record of the crash. -/
structure Crashed (m : Machine) (d : Defect) (out : Outcome) : Prop where
  exitCode : out.exitCode = 1
  output : out.output = ""
  crash : out.crash = some d
  escaped : out.escaped = none
  record : ∃ p, crashPath m = .ok p ∧
    Tree.Wrote m.directory p (crashRecord d) m.tree out.tree

/-- A defect left nothing behind but its exit code, for a second one kept its record from being
written. -/
structure Unrecorded (m : Machine) (d : Defect) (out : Outcome) : Prop where
  exitCode : out.exitCode = 1
  output : out.output = ""
  crash : out.crash = none
  escaped : ∃ e, out.escaped = some e ∧ ((recordCrash m d).run m.tree).1 = .error e
  files : Tree.SameFiles m.tree out.tree

theorem exitCode_ne_zero (r : Refusal) : r.exitCode ≠ 0 := by
  cases r <;> simp [Refusal.exitCode]

/-! ### Writing -/

theorem writeText_wrote {m after : Machine} {p : Path} {text : String}
    (h : m.writeText p text = .ok after) :
    Tree.Wrote m.directory p (Text.Utf8.encode text) m.tree after.tree := by
  obtain ⟨tree, hTree, h⟩ := except_bind_eq_ok.mp h
  obtain rfl := Except.ok.inj h
  exact Tree.write_wrote hTree

theorem makeDataDirectory_keeps (m : Machine) : Filing.Keeps m.makeDataDirectory :=
  .bind (.lift _) fun p => .bind ((Filing.makeDirectories_keeps m.directory p).adapt _) fun _ => .pure p

theorem makeLogsDirectory_keeps (m : Machine) : Filing.Keeps (makeLogsDirectory m) :=
  .bind (makeDataDirectory_keeps m) fun _ =>
    .bind ((Filing.makeDirectories_keeps m.directory _).adapt _) fun _ => .pure _

theorem dataDirectory_of_make {m : Machine} {t after : Tree} {p : Path}
    (h : m.makeDataDirectory.run t = (.ok p, after)) : m.dataDirectory = .ok p := by
  obtain ⟨data, _, hData, h⟩ := Filing.run_bind_eq_ok.mp h
  obtain ⟨_, _, -, h⟩ := Filing.run_bind_eq_ok.mp h
  cases h
  exact congrArg Prod.fst hData

theorem crashPath_of_makeLogs {m : Machine} {t after : Tree} {logs : Path}
    (h : (makeLogsDirectory m).run t = (.ok logs, after)) :
    crashPath m = .ok (logs.child (crashName m)) := by
  obtain ⟨data, _, hData, h⟩ := Filing.run_bind_eq_ok.mp h
  obtain ⟨_, _, -, h⟩ := Filing.run_bind_eq_ok.mp h
  cases h
  rw [crashPath, dataDirectory_of_make hData]
  rfl

/-- The record of a crash is written, or all files are as they were. -/
theorem run_recordCrash (m : Machine) (d : Defect) :
    (∃ p after, (recordCrash m d).run m.tree = (.ok p, after) ∧ crashPath m = .ok p ∧
      Tree.Wrote m.directory p (crashRecord d) m.tree after) ∨
    ∃ e after, (recordCrash m d).run m.tree = (.error e, after) ∧ Tree.SameFiles m.tree after := by
  have hSame := makeLogsDirectory_keeps m m.tree
  rw [recordCrash, Filing.run_bind]
  rcases hMade : (makeLogsDirectory m).run m.tree with ⟨e | logs, between⟩
  · rw [hMade] at hSame
    exact .inr ⟨e, between, rfl, hSame⟩
  · rw [hMade] at hSame
    dsimp only
    rw [Filing.run_bind, Filing.run_adapt]
    rcases Filing.run_write m.directory (logs.child (crashName m)) (crashRecord d) between with
      ⟨after, hRun, hWrote⟩ | ⟨fault, hRun⟩
    · rw [crashRecord] at hRun
      rw [hRun]
      exact .inl ⟨_, after, rfl, crashPath_of_makeLogs hMade, hWrote.of_sameFiles hSame⟩
    · rw [crashRecord] at hRun
      rw [hRun]
      exact .inr ⟨.file fault, between, rfl, hSame⟩

/-! ### Outcomes -/

/-- What a command line leaves behind is the outcome of its command. -/
theorem run_of_command (m : Machine) (terminal : Bool) {words : List String} {flags : Flags}
    {command : Command} (h : Invocation.ofWords words = some (.run flags command)) :
    run m terminal words =
      outcome m (flags.console m terminal) (execute m (flags.console m terminal) command) := by
  rw [run, h]

theorem generate_eq_ok {m : Machine} {o : GenerateOptions} {s : Success}
    (h : (generate m o).outcome = .ok s) :
    ∃ text report, (generated m o).outcome = .ok (text, report) ∧
      m.writeResult text o.file = .ok (s.machine, s.output) ∧
      s.notices = generateNotices report o.file := by
  obtain ⟨⟨text, report⟩, hGenerated, h⟩ := Logged.bind_eq_ok.mp h
  obtain ⟨⟨after, output⟩, hWritten, h⟩ := Logged.bind_eq_ok.mp h
  obtain rfl := Except.ok.inj h
  exact ⟨text, report, hGenerated, mapError_eq_ok.mp hWritten, rfl⟩

theorem generated_eq_ok {m : Machine} {o : GenerateOptions} {text : String} {report : Report}
    (h : (generated m o).outcome = .ok (text, report)) :
    ∃ generator format, prepared m o = .ok (generator, format) ∧
      generator.generate.outcome = .ok report ∧
      format.render generator.generate.events = .ok text := by
  obtain ⟨⟨generator, format⟩, hPrepared, h⟩ := Logged.bind_eq_ok.mp h
  obtain ⟨report', hReport, h⟩ := Logged.bind_eq_ok.mp h
  obtain ⟨text', hText, h⟩ := Logged.bind_eq_ok.mp h
  obtain ⟨rfl, rfl⟩ := Prod.mk.inj (Except.ok.inj h)
  exact ⟨generator, format, hPrepared, hReport, mapError_eq_ok.mp hText⟩

theorem delivered_of_ok {m : Machine} {o : GenerateOptions} {s : Success}
    (h : (generate m o).outcome = .ok s) (notices : String) (log : List Log.Record) :
    Delivered m o ⟨0, s.output, notices, log, none, none, s.machine.tree⟩ := by
  obtain ⟨text, report, hGenerated, hWritten, -⟩ := generate_eq_ok h
  obtain ⟨generator, format, hPrepared, hReport, hText⟩ := generated_eq_ok hGenerated
  refine ⟨rfl, rfl, rfl, generator, format, report, text, hPrepared, hReport, hText, ?_⟩
  -- What is left is where the text goes: to a file with a name, or else to the standard output.
  unfold Machine.writeResult at hWritten
  split at hWritten
  · rename_i hNone
    obtain ⟨hMachine, hOutput⟩ := Prod.mk.inj (Except.ok.inj hWritten)
    refine .inl ⟨?_, hOutput.symm, congrArg Machine.tree hMachine.symm⟩
    cases hFile : o.file with
    | none => exact .inl rfl
    | some name =>
      rw [hFile, Option.filter_some] at hNone
      refine .inr (congrArg some ?_)
      simpa using hNone
  · rename_i name hName
    obtain ⟨written, hText, h⟩ := except_bind_eq_ok.mp hWritten
    obtain ⟨rfl, hOutput⟩ := Prod.mk.inj (Except.ok.inj h)
    exact .inr ⟨name, (Option.filter_eq_some_iff.mp hName).1, hOutput.symm, writeText_wrote hText⟩

theorem outcome_of_refusal (m : Machine) (console : Console) {result : Logged Success} {r : Refusal}
    (h : result.outcome = .error (.refusal r)) : Refused m r (outcome m console result) := by
  rw [outcome, h]
  exact ⟨rfl, exitCode_ne_zero r, rfl, rfl, rfl, rfl⟩

theorem outcome_of_defect (m : Machine) (console : Console) {result : Logged Success} {d : Defect}
    (h : result.outcome = .error (.defect d)) :
    Crashed m d (outcome m console result) ∨ Unrecorded m d (outcome m console result) := by
  rw [outcome, h]
  dsimp only
  rcases run_recordCrash m d with ⟨p, after, hRun, hPath, hWrote⟩ | ⟨e, after, hRun, hSame⟩
  · rw [hRun]
    exact .inl ⟨rfl, rfl, rfl, rfl, p, hPath, hWrote⟩
  · rw [hRun]
    exact .inr ⟨rfl, rfl, rfl, ⟨e, rfl, by rw [hRun]⟩, hSame⟩

/-- A command line for generating leaves all routes behind, or a refusal with its exit code and no
change, or a defect with exit code 1 and the record of the crash as the only change.  Where the record
cannot be written the exit code is 1 too, and every file is as it was. -/
theorem run_generate (m : Machine) (terminal : Bool) {words : List String} {flags : Flags}
    {o : GenerateOptions} (h : Invocation.ofWords words = some (.run flags (.generate o))) :
    let out := run m terminal words
    Delivered m o out ∨
    (∃ r, (generate m o).outcome = .error (.refusal r) ∧ Refused m r out) ∨
    ∃ d, (generate m o).outcome = .error (.defect d) ∧ (Crashed m d out ∨ Unrecorded m d out) := by
  have hRun : run m terminal words = outcome m (flags.console m terminal) (generate m o) :=
    run_of_command m terminal h
  rw [hRun]
  cases hResult : (generate m o).outcome with
  | ok s =>
    rw [outcome, hResult]
    exact .inl (delivered_of_ok hResult _ _)
  | error e =>
    cases e with
    | refusal r => exact .inr (.inl ⟨r, rfl, outcome_of_refusal m _ hResult⟩)
    | defect d => exact .inr (.inr ⟨d, rfl, outcome_of_defect m _ hResult⟩)

/-- The failure that an outcome is. -/
def failureOf {ε α : Type} : Except ε α → Option ε
  | .ok _ => none
  | .error e => some e

theorem failureOf_eq_some {ε α : Type} {x : Except ε α} {e : ε} :
    failureOf x = some e ↔ x = .error e := by
  cases x <;> simp [failureOf]

/-- A machine whose project has settings that are no text, with something at the place for data. -/
def brokenSettings (data : Entry) : Machine where
  system := "Linux"
  environment := [("HOME", "/work/home"), ("XDG_CONFIG_HOME", "/work/config"),
    ("XDG_DATA_HOME", "data")]
  accountHome := some "/"
  directory := ["work"]
  tree := ⟨[(["work"], .directory), (["work", "restdsl.json"], .file [0xff]),
    (["work", "data"], data)]⟩
  input := ""
  fetch := fun _ => .unreachable "no network"
  moment := "20240101-120000"
  charNames := fun _ => none

def brokenDefect : Defect := .encoding ⟨0, 0xff, 1, .invalidStart⟩

theorem run_generate_brokenSettings :
    let m := brokenSettings .directory
    let out := run m false ["generate", "-"]
    Invocation.ofWords ["generate", "-"] =
        some (.run (.ofItems []) (.generate (.ofSource "-"))) ∧
      Crashed m brokenDefect out ∧
      ∃ p, crashPath m = .ok p ∧ out.tree.read m.directory p = .ok (crashRecord brokenDefect) := by
  intro m out
  have hWords : Invocation.ofWords ["generate", "-"] =
      some (.run (.ofItems []) (.generate (.ofSource "-"))) := by decide +kernel
  have hDefect : (generate m (.ofSource "-")).outcome = .error (.defect brokenDefect) :=
    failureOf_eq_some.mp (by decide +kernel)
  have hRecord : failureOf ((recordCrash m brokenDefect).run m.tree).1 = none := by decide +kernel
  refine ⟨hWords, ?_⟩
  rcases run_generate m false hWords with hDelivered | ⟨r, hRefused, -⟩ | ⟨d, hStopped, hEnd⟩
  · obtain ⟨generator, format, report, text, hPrepared, -⟩ := hDelivered.result
    have hBroken : failureOf (prepared m (.ofSource "-")) = some (.defect brokenDefect) := by
      decide +kernel
    rw [hPrepared] at hBroken
    cases hBroken
  · rw [hDefect] at hRefused
    cases hRefused
  · rw [hDefect] at hStopped
    cases hStopped
    rcases hEnd with hCrashed | hUnrecorded
    · obtain ⟨p, hPath, hWrote⟩ := hCrashed.record
      exact ⟨hCrashed, p, hPath, hWrote.read⟩
    · obtain ⟨e, -, hFailed⟩ := hUnrecorded.escaped
      rw [failureOf_eq_some.mpr hFailed] at hRecord
      cases hRecord

/-- Where a file stands at the place for data, there is no record of a crash. -/
theorem run_generate_blockedRecord :
    let m := brokenSettings (.file [])
    let out := run m false ["generate", "-"]
    Invocation.ofWords ["generate", "-"] =
        some (.run (.ofItems []) (.generate (.ofSource "-"))) ∧
      (generate m (.ofSource "-")).outcome = .error (.defect brokenDefect) ∧
      out.exitCode = 1 ∧ out.crash = none ∧
      out.escaped = some (.file ⟨.notDirectory, "data/restdsl"⟩) ∧ out.tree = m.tree := by
  intro m out
  have hDefect : (generate m (.ofSource "-")).outcome = .error (.defect brokenDefect) :=
    failureOf_eq_some.mp (by decide +kernel)
  refine ⟨by decide +kernel, hDefect, ?_⟩
  decide +kernel

/-! ### Listing -/

theorem operationRow_congr (filter : Filter) (m : Api.Method) {a b : Api.Operation}
    (hPath : a.path = b.path) (hId : a.id? = b.id?) :
    operationRow filter m a = operationRow filter m b := by
  have hName : a.name? = b.name? := by rw [Api.Operation.name?, Api.Operation.name?, hId]
  rw [operationRow, operationRow, hPath, hId, hName]

theorem operationRows_eq_ok {document : Value} {version : Document.Version} {filter : Filter}
    {rows : List (List String)} :
    (operationRows document version filter).outcome = .ok rows ↔
      (Api.Listing.collect document version (operationRow filter)).failure = none ∧
        (Api.Listing.collect document version (operationRow filter)).items = rows := by
  simp only [operationRows]
  split <;> simp_all

theorem listed_eq_ok {m : Machine} {o : ListOptions} {table : Table}
    (h : (listed m o).outcome = .ok table) :
    ∃ settings document version rows,
      Settings.resolve m [(.str "filter", Settings.optionalValue o.filter)] = .ok settings ∧
      Document.load m o.source = .ok document ∧ Document.version document = .ok version ∧
      (operationRows document version (.ofSetting m.charNames settings.filter)).outcome = .ok rows ∧
      table = ⟨listHeaders, rows⟩ := by
  obtain ⟨settings, hSettings, h⟩ := Logged.bind_eq_ok.mp h
  obtain ⟨document, hDocument, h⟩ := Logged.bind_eq_ok.mp h
  obtain ⟨version, hVersion, h⟩ := Logged.bind_eq_ok.mp h
  obtain ⟨rows, hRows, h⟩ := Logged.bind_eq_ok.mp h
  obtain ⟨title, -, h⟩ := Logged.bind_eq_ok.mp h
  obtain rfl := Except.ok.inj h
  exact ⟨settings, document, version, rows, hSettings, hDocument, hVersion, hRows, rfl⟩

theorem list_eq_ok {m : Machine} {console : Console} {o : ListOptions} {success : Success}
    (h : (list m console o).outcome = .ok success) :
    ∃ settings document version rows,
      Settings.resolve m [(.str "filter", Settings.optionalValue o.filter)] = .ok settings ∧
      Document.load m o.source = .ok document ∧
      (operationRows document version (.ofSetting m.charNames settings.filter)).outcome = .ok rows ∧
      success.output = console.listing ⟨listHeaders, rows⟩ := by
  obtain ⟨table, hTable, hSuccess⟩ := Logged.bind_eq_ok.mp h
  obtain ⟨settings, document, version, rows, hSettings, hDocument, -, hRows, rfl⟩ :=
    listed_eq_ok hTable
  obtain rfl := Except.ok.inj hSuccess
  exact ⟨settings, document, version, rows, hSettings, hDocument, hRows, rfl⟩

end RestRoutes.CommandLine
