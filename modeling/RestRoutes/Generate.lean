import RestRoutes.Api.Builder
import RestRoutes.Url.Path
import RestRoutes.Visit

/-! The events of a whole document: the settings of the service, its base path, and every operation
that the filter accepts. -/

namespace RestRoutes

open Api

/-- Settings of the service that the routes belong to. -/
structure RestConfiguration where
  component : Option String
  contextPath : Option String
  apiContextPath : Option String
  host : Option String
deriving DecidableEq, Repr

namespace RestConfiguration

def none : RestConfiguration := ⟨Option.none, Option.none, Option.none, Option.none⟩

def values (c : RestConfiguration) : List (Option String) :=
  [c.component, c.contextPath, c.apiContextPath, c.host]

/-- No setting has a text. -/
def isBlank (c : RestConfiguration) : Bool := c.values.all fun v => v.all (·.isEmpty)

end RestConfiguration

/-- What became of the operations of a document, by their labels. -/
structure Report where
  emitted : List String
  filtered : List String
  /-- The operations that were left out because they failed, with the reasons. -/
  failed : List (String × String)
deriving DecidableEq, Repr

namespace Report

def none : Report := ⟨[], [], []⟩

def append (a b : Report) : Report :=
  ⟨a.emitted ++ b.emitted, a.filtered ++ b.filtered, a.failed ++ b.failed⟩

end Report

/-- Everything that routes are generated from. -/
structure Generator where
  document : Value
  version : Document.Version
  filter : Filter
  destination : Destination
  rest : Option RestConfiguration
  continueOnError : Bool

namespace Generator

def ofDocument (document : Value) (version : Document.Version) : Generator :=
  { document, version
    filter := .all
    destination := Destination.Template.direct.destination
    rest := none
    continueOnError := false }

/-! ### The preamble -/

def withoutSlashes (text : String) : String :=
  String.ofList (Text.dropEndWhile (· == '/') text.toList)

/-- The address of the first server that a document names, null where there is none. -/
def serverUrl (document : Value) : Value :=
  match (document.get "servers").items with
  | first :: _ => first.get "url"
  | [] => .null

def rawBasePath (document : Value) (version : Document.Version) : Except Failure String :=
  match version with
  | .swagger =>
    let raw := document.get "basePath"
    if raw.isTruthy then raw.textOrFail else .ok ""
  | _ => do
    let url := serverUrl document
    if url.isTruthy then (Url.path (← url.textOrFail)).mapError (.defect ∘ .url)
    else return ""

/-- The path that all paths of a document are under, without slashes at its end. A document may have
none. -/
def basePath (document : Value) (version : Document.Version) : Except Failure (Option String) := do
  let path := withoutSlashes (← rawBasePath document version)
  return if path.isEmpty then none else some path

def configurationEvents (c : RestConfiguration) : List Event :=
  if c.isBlank then []
  else
    .bare "restConfiguration" ::
      (Visit.field "component" (Visit.optional c.component) ++
        Visit.field "contextPath" (Visit.optional c.contextPath) ++
        Visit.field "apiContextPath" (Visit.optional c.apiContextPath) ++
        Visit.field "host" (Visit.optional c.host))

def restEvent : Option String → Event
  | some path => ⟨"rest", .text path⟩
  | none => .bare "rest"

/-! ### Operations -/

/-- A run whose events count only if it is not refused. -/
def staged {α : Type} (run : Run α) : Run (Except Refusal α) :=
  match run.outcome with
  | .ok a => ⟨run.events, run.log, .ok (.ok a)⟩
  | .error (.refusal r) => ⟨[], run.log, .ok (.error r)⟩
  | .error (.defect d) => ⟨[], run.log, .error (.defect d)⟩

def reportOn (label : String) (emitted : Bool) : Report :=
  if emitted then { Report.none with emitted := [label] }
  else { Report.none with filtered := [label] }

/-- Visits one operation.  If the generator is to go on after errors, a refused operation is logged
and reported and leaves no event behind. -/
def visitOperation (g : Generator) (method : Method) (op : Operation) : Run Report := do
  let label := op.label method
  let visit := Visit.visit g.filter g.destination method.name op
  if g.continueOnError then
    match ← staged visit with
    | .ok emitted => return reportOn label emitted
    | .error r =>
      Run.record .error ("Skipping " ++ label ++ ": " ++ r.message)
      return { Report.none with failed := [(label, r.message)] }
  else return reportOn label (← visit)

def visitOperations (g : Generator) (path : String) (shared : List Value) :
    List (Method × Value) → Run Report
  | [] => pure .none
  | (method, raw) :: rest => do
    let op ← Run.ofLogged (Builder.operation g.version path raw shared)
    let report ← visitOperation g method op
    return report.append (← visitOperations g path shared rest)

def visitPaths (g : Generator) : List (Value × Value) → Run Report
  | [] => pure .none
  | (key, item) :: rest => do
    let path ← Run.ofExcept key.textOrFail
    let report ← visitOperations g path (item.get "parameters").items (Builder.rawOperations item)
    return report.append (← visitPaths g rest)

def summary (report : Report) : String :=
  "Generated " ++ toString report.emitted.length ++ " operation(s), filtered " ++
    toString report.filtered.length ++ ", failed " ++ toString report.failed.length

def generate (g : Generator) : Run Report := do
  Visit.emitAll ((g.rest.map configurationEvents).getD [])
  let path ← Run.ofExcept (basePath g.document g.version)
  Run.emit (restEvent path)
  let report ← visitPaths g (Builder.paths g.document)
  Run.record .debug (summary report)
  return report

end Generator

end RestRoutes
