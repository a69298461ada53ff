import RestRoutes.Proofs.Descriptor
import RestRoutes.Proofs.Destination
import RestRoutes.Proofs.Generate.Staging

/-! What stops a run that goes on after errors.  With every operation included and destinations from a
template, a refusal never does; the address of a server does if it is no URL, and an integer of too many
digits may.  Whatever else is wrong with a document shows in the report at most. -/

namespace RestRoutes

open Api Visit

namespace Visit

/-! ### Visits -/

theorem emitParameters_bounded {p : Prop} {ps : List (Logged Descriptor)}
    (h : ∀ d ∈ ps, Bounded p d.outcome) : Bounded p (emitParameters ps).outcome := by
  induction ps with
  | nil => exact .ok ()
  | cons d rest ih =>
    rw [emitParameters, Run.bind_outcome]
    refine (h d (.head _)).bind fun descriptor => ?_
    rw [emitAll_bind]
    exact ih fun d hd => h d (.tail _ hd)

theorem visit_bounded {destination : Destination} {op : Operation}
    (h : Bounded op.Textual (destination op).outcome) (method : String) :
    Bounded op.Textual (visit .all destination method op).outcome := by
  have hEmitted : Bounded op.Textual
      (emitOperation destination (methodName method) op).outcome := by
    rw [emitOperation, emitAll_bind, Run.bind_outcome]
    refine (emitParameters_bounded (Descriptor.ofOperation_bounded op)).bind fun _ => ?_
    rw [emitAll_bind, Run.bind_outcome]
    exact h.bind fun _ => .ok ()
  rw [visit_of_accepted rfl]
  cases hOutcome : (emitOperation destination (methodName method) op).outcome with
  | ok u => exact .ok true
  | error e =>
    intro d hd
    obtain rfl := Except.error.inj hd
    exact hEmitted d hOutcome

end Visit

namespace Generator

/-! ### Runs that go on -/

variable {g : Generator}

/-- A run that goes on after errors, over all operations. -/
structure GoesOn (g : Generator) : Prop where
  version : g.version = .swagger ∨ g.version = .openApi
  filter : g.filter = .all
  destination : ∀ op p, Bounded p (g.destination op).outcome
  continueOnError : g.continueOnError = true

theorem visitOperation_reads (h : GoesOn g) (m : Method) (op : Operation) :
    Readable op.Textual (g.visitOperation m op).outcome := by
  have hVisit : Bounded op.Textual (g.visitOf m op).outcome := by
    rw [visitOf, h.filter]
    exact visit_bounded (h.destination op _) _
  cases hOutcome : (g.visitOf m op).outcome with
  | ok emitted =>
    rw [visitOperation_of_ok hOutcome]
    exact .ok fun _ => trivial
  | error e =>
    cases e with
    | refusal r =>
      rw [visitOperation_of_refusal h.continueOnError hOutcome]
      exact .ok fun _ => trivial
    | defect d =>
      rw [visitOperation_of_defect h.continueOnError hOutcome]
      obtain ⟨rfl, hNot⟩ := hVisit d hOutcome
      exact .error ⟨rfl, hNot⟩

theorem andReport_reads {p : Prop} {x y : Run Report} (hx : Readable p x.outcome)
    (hy : Readable p y.outcome) : Readable p (andReport x y).outcome := by
  rw [andReport, Run.bind_outcome]
  refine hx.bind fun a _ => ?_
  rw [Run.bind_outcome]
  exact hy.bind fun b _ => .ok fun _ => trivial

theorem visitOperations_reads (h : GoesOn g) (path : String) (shared : List Value)
    (raws : List (Method × Value)) :
    Readable ((∀ e ∈ raws, e.2.Textual) ∧ ∀ p ∈ shared, p.Textual)
      (g.visitOperations path shared raws).outcome := by
  induction raws with
  | nil => exact .ok fun _ => trivial
  | cons e rest ih =>
    obtain ⟨m, raw⟩ := e
    have hBuilt := (Builder.operation_reading h.version path raw shared).outcome.mono
      fun hAll : (∀ e ∈ (m, raw) :: rest, e.2.Textual) ∧ ∀ p ∈ shared, p.Textual =>
        ⟨hAll.1 _ (.head _), hAll.2⟩
    rw [visitOperations_cons]
    refine andReport_reads ?_ (ih.mono fun hAll => ⟨fun e he => hAll.1 e (.tail _ he), hAll.2⟩)
    rw [visitRaw, Run.bind_outcome]
    exact hBuilt.bind fun op hText => (visitOperation_reads h m op).mono hText

theorem visitPaths_reads (h : GoesOn g) (es : List (Value × Value)) :
    Readable (Value.TextualEntries es) (g.visitPaths es).outcome := by
  induction es with
  | nil => exact .ok fun _ => trivial
  | cons e rest ih =>
    obtain ⟨key, item⟩ := e
    have hParts : Value.TextualEntries ((key, item) :: rest) →
        (∀ e ∈ Builder.rawOperations item, e.2.Textual) ∧
          ∀ p ∈ (item.get "parameters").items, p.Textual := by
      intro hText
      have hItem : item.Textual := (hText _ (.head _)).2
      refine ⟨fun e he => ?_, (hItem.get "parameters").items⟩
      rw [(mem_rawOperations.mp he).1]
      exact hItem.get _
    rw [visitPaths_cons]
    refine andReport_reads ?_ (ih.mono fun hText e he => hText e (.tail _ he))
    rw [Run.bind_outcome]
    refine (key.textOrFail_reads.mono fun hText => (hText _ (.head _)).1).bind fun path _ => ?_
    exact (visitOperations_reads h path _ _).mono hParts

/-! ### Base paths -/

/-- What is wrong with the address of the first server, if it is no URL. -/
def serverFault? (document : Value) (version : Document.Version) : Option Url.Fault :=
  if version = .openApi ∧ (serverUrl document).isTruthy then
    match (serverUrl document).textOrFail with
    | .error _ => none
    | .ok url =>
      match Url.path url with
      | .ok _ => none
      | .error fault => some fault
  else none

theorem textual_serverUrl {document : Value} (h : document.Textual) :
    (serverUrl document).Textual := by
  have hServers := (h.get "servers").items
  unfold serverUrl
  split
  · rename_i first rest hItems
    rw [hItems] at hServers
    exact (hServers first (.head _)).get "url"
  · exact Value.textual_null

theorem basePath_of_fault {document : Value} {version : Document.Version} {fault : Url.Fault}
    (h : serverFault? document version = some fault) :
    basePath document version = .error (.defect (.url fault)) := by
  unfold serverFault? at h
  split at h
  · rename_i hUrl
    obtain ⟨rfl, hTruthy⟩ := hUrl
    split at h
    · cases h
    · rename_i url hText
      split at h
      · cases h
      · rename_i found hPath
        obtain rfl := Option.some.inj h
        simp only [basePath, rawBasePath, hTruthy, if_true, hText, bind, Except.bind, hPath]
        rfl
  · cases h

theorem rawBasePath_reads {document : Value} (h : serverFault? document .openApi = none) :
    Readable document.Textual (rawBasePath document .openApi) := by
  have hText := (serverUrl document).textOrFail_reads.mono textual_serverUrl
  simp only [rawBasePath]
  split
  · rename_i hTruthy
    simp only [serverFault?, hTruthy, and_self, if_true] at h
    -- Only an address that has a text can be no URL, and that this one is one is the hypothesis.
    cases hUrl : (serverUrl document).textOrFail with
    | error e =>
      rw [hUrl] at hText
      exact .error (hText.failure e rfl)
    | ok url =>
      rw [hUrl] at h
      cases hPath : Url.path url with
      | ok path =>
        simp only [bind, Except.bind, hPath]
        exact .ok fun _ => trivial
      | error fault =>
        simp only [hPath] at h
        cases h
  · exact .ok fun _ => trivial

theorem basePath_reads {document : Value} {version : Document.Version}
    (hVersion : version = .swagger ∨ version = .openApi)
    (h : serverFault? document version = none) :
    Readable document.Textual (basePath document version) := by
  have hRaw : Readable document.Textual (rawBasePath document version) := by
    rcases hVersion with rfl | rfl
    · simp only [rawBasePath]
      split
      · exact (Value.textOrFail_reads _).mono fun hText => hText.get "basePath"
      · exact .ok fun _ => trivial
    · exact rawBasePath_reads h
  exact hRaw.bind fun _ _ => .ok fun _ => trivial

/-! ### Whole runs -/

theorem generate_reads (h : GoesOn g) (hServer : serverFault? g.document g.version = none) :
    Readable g.document.Textual g.generate.outcome := by
  have hBase := basePath_reads h.version hServer
  cases hPath : basePath g.document g.version with
  | error e =>
    rw [generate_of_badBasePath hPath]
    exact .error (hBase.failure e hPath)
  | ok path =>
    rw [generate_of_basePath hPath]
    refine (visitPaths_reads h _).mono fun hText e he => ?_
    exact (hText.get "paths").entries e (List.mem_filter.mp he).1

theorem version_of_ok {document : Value} {version : Document.Version}
    (h : Document.version document = .ok version) : version = .swagger ∨ version = .openApi := by
  unfold Document.version at h
  split at h
  · obtain ⟨text, -, h⟩ := except_bind_eq_ok.mp h
    split at h
    · exact .inl (Except.ok.inj h).symm
    · cases h
  · split at h
    · cases h
    · obtain ⟨text, -, h⟩ := except_bind_eq_ok.mp h
      split at h
      · exact .inr (Except.ok.inj h).symm
      · cases h

def resuming (document : Value) (version : Document.Version) (t : Destination.Template)
    (rest : Option RestConfiguration) : Generator where
  document := document
  version := version
  filter := .all
  destination := t.destination
  rest := rest
  continueOnError := true

theorem resuming_goesOn {document : Value} {version : Document.Version}
    (h : Document.version document = .ok version) (t : Destination.Template)
    (rest : Option RestConfiguration) : GoesOn (resuming document version t rest) :=
  ⟨version_of_ok h, rfl, fun op p => t.destination_bounded p op, rfl⟩

/-- A run that goes on after errors ends with a report, whatever the document holds, except in two
cases.  Where the address of the first server of an OpenAPI 3 document is no URL, that stops the run;
and an integer of too many digits can stop it where it would have to be written. -/
theorem generate_resuming_stops {document : Value} {version : Document.Version}
    (h : Document.version document = .ok version) (t : Destination.Template)
    (rest : Option RestConfiguration) :
    let run := (resuming document version t rest).generate
    (∀ fault, serverFault? document version = some fault →
      run.outcome = .error (.defect (.url fault))) ∧
    (serverFault? document version = none →
      (∃ report, run.outcome = .ok report) ∨
        run.outcome = .error (.defect .longIntegerText) ∧ ¬document.Textual) := by
  intro run
  refine ⟨fun fault hFault => ?_, fun hServer => ?_⟩
  · have hBad := basePath_of_fault hFault
    exact congrArg Run.outcome (generate_of_badBasePath (g := resuming document version t rest) hBad)
  · have hRun := generate_reads (resuming_goesOn h t rest) hServer
    cases hOutcome : run.outcome with
    | ok report => exact .inl ⟨report, rfl⟩
    | error e =>
      obtain ⟨rfl, hText⟩ := hRun.failure e hOutcome
      exact .inr ⟨rfl, hText⟩

/-- A document with hardly anything in its place: a base path and an id that are lists, a type that is a
number, and an operation that is refused. -/
def oddDocument : Value :=
  .ofNamed [("swagger", .str "2.0"), ("basePath", .list [.int 1]), ("paths", .ofNamed [
    ("/pets", .ofNamed [
      ("get", .ofNamed [("operationId", .list []),
        ("parameters", .list [.ofNamed [("name", .int 7), ("type", .int 3)], .null])]),
      ("put", .ofNamed [("parameters", .list [.ofNamed [("in", .str "cookie")]])]),
      ("post", .str "none")])])]

theorem generate_resuming_stops_oddDocument :
    Document.version oddDocument = .ok .swagger ∧
      ∃ report, (resuming oddDocument .swagger .direct none).generate.outcome = .ok report ∧
        report.emitted = ["GET /pets"] ∧ report.failed.map (·.1) = ["PUT /pets"] := by
  have hVersion : Document.version oddDocument = .ok .swagger := by decide +kernel
  have hServer : serverFault? oddDocument .swagger = none := by decide +kernel
  have hTextual : oddDocument.Textual := by decide +kernel
  refine ⟨hVersion, ?_⟩
  rcases (generate_resuming_stops hVersion .direct none).2 hServer with
    ⟨report, hReport⟩ | ⟨-, hNot⟩
  · have hOk : (resuming oddDocument .swagger .direct none).generate.outcome =
        .ok ⟨["GET /pets"], [], [("PUT /pets", "Unknown parameter location 'cookie'")]⟩ := by
      decide +kernel
    obtain rfl := Except.ok.inj (hReport.symm.trans hOk)
    exact ⟨_, hReport, rfl, rfl⟩
  · exact absurd hTextual hNot

def brokenServer : Value :=
  .ofNamed [("openapi", .str "3.0.0"), ("paths", .ofNamed []),
    ("servers", .list [.ofNamed [("url", .str "http://[x")]])]

theorem generate_resuming_brokenServer :
    Document.version brokenServer = .ok .openApi ∧ brokenServer.Textual ∧
      (resuming brokenServer .openApi .direct none).generate.outcome =
        .error (.defect (.url .brackets)) ∧
      ¬∃ report, (resuming brokenServer .openApi .direct none).generate.outcome = .ok report := by
  have hStopped : (resuming brokenServer .openApi .direct none).generate.outcome =
      .error (.defect (.url .brackets)) := by decide +kernel
  refine ⟨by decide +kernel, by decide +kernel, hStopped, ?_⟩
  rintro ⟨report, hReport⟩
  rw [hStopped] at hReport
  cases hReport

end Generator

end RestRoutes
