import RestRoutes.Proofs.Api.Listing
import RestRoutes.Proofs.CommandLine.Execution
import RestRoutes.Proofs.Generate.Staging
import RestRoutes.Proofs.Visit.Grammar

/-! The report of a run accounts for the operations of the document: each has one fate, which its
visit tells, and the report, the events and the listing of operations agree on it.  The run and the
listing go through the document on their own; they are followed side by side. -/

namespace RestRoutes

open Api Visit

/-- What becomes of an operation in a run that ends well. -/
inductive Fate
  | emitted
  | filtered
  | failed (reason : String)
deriving DecidableEq, Repr

def Fate.report (label : String) : Fate → Report
  | emitted => ⟨[label], [], []⟩
  | filtered => ⟨[], [label], []⟩
  | failed reason => ⟨[], [], [(label, reason)]⟩

/-- The operations that a listing goes through. -/
abbrev Listed := Method × Operation

namespace Generator

/-! ### Fates -/

/-- The fate that the visit of an operation tells. A defect ends the run. -/
def fate? (g : Generator) (e : Listed) : Option Fate :=
  match (g.visitOf e.1 e.2).outcome with
  | .ok true => some .emitted
  | .ok false => some .filtered
  | .error (.refusal r) => some (.failed r.message)
  | .error (.defect _) => none

def labelOf (e : Listed) : String := e.2.label e.1

/-- The operations among some that have a fate. -/
def withFate (g : Generator) (fate : Fate) (ops : List Listed) : List Listed :=
  ops.filter fun e => g.fate? e = some fate

def failedEntry (g : Generator) (e : Listed) : Option (String × String) :=
  match g.fate? e with
  | some (.failed reason) => some (labelOf e, reason)
  | _ => none

def reportOf (g : Generator) (ops : List Listed) : Report where
  emitted := (g.withFate .emitted ops).map labelOf
  filtered := (g.withFate .filtered ops).map labelOf
  failed := ops.filterMap g.failedEntry

/-- An event that every operation has one of: its method, or its destination. -/
def isMark (e : Event) : Bool := e.name == "to" || (Method.ofName? e.name).isSome

/-- The marks of an operation with a destination. -/
def marks (target : Operation → Argument) (e : Listed) : List Event :=
  [⟨e.1.name, .text e.2.path⟩, ⟨"to", target e.2⟩]

def rowOf (g : Generator) (e : Listed) : List String :=
  [e.1.capitalName, e.2.path, e.2.name?.getD "-",
    if g.fate? e = some .filtered then "no" else "yes"]

section Fates

variable {g : Generator} {e : Listed}

theorem fate?_emitted_iff :
    g.fate? e = some .emitted ↔ (g.visitOf e.1 e.2).outcome = .ok true := by
  unfold fate?
  split <;> simp_all

theorem fate?_filtered_iff : g.fate? e = some .filtered ↔ g.filter.accept e.2.id? = .ok false := by
  rw [← visit_filtered_iff g.filter g.destination e.1.name e.2, ← visitOf]
  unfold fate?
  split <;> simp_all

theorem reportOf_singleton {fate : Fate} (h : g.fate? e = some fate) :
    g.reportOf [e] = fate.report (labelOf e) := by
  cases fate <;> simp [reportOf, withFate, failedEntry, h, Fate.report]

theorem reportOf_append (ops more : List Listed) :
    g.reportOf (ops ++ more) = (g.reportOf ops).append (g.reportOf more) := by
  simp [reportOf, Report.append, withFate]

/-- Operations with fates are each in one of the lists of their report. -/
theorem reportOf_lengths {ops : List Listed} (h : ∀ e ∈ ops, ∃ fate, g.fate? e = some fate) :
    (g.reportOf ops).emitted.length + (g.reportOf ops).filtered.length +
      (g.reportOf ops).failed.length = ops.length := by
  induction ops with
  | nil => rfl
  | cons e rest ih =>
    obtain ⟨fate, hFate⟩ := h e List.mem_cons_self
    have hRest := ih fun e he => h e (List.mem_cons_of_mem _ he)
    simp only [reportOf, withFate, List.length_map] at hRest ⊢
    cases fate <;> simp [hFate, failedEntry] <;> omega

end Fates

/-! ### Marks -/

theorem isMark_name (m : Method) (a : Argument) : isMark ⟨m.name, a⟩ = true := by
  have hName : (Method.ofName? m.name).isSome = true := by cases m <;> decide
  simp [isMark, hName]

theorem filter_isMark_eq_nil (names : List String) {events : List Event}
    (hNames : ∀ name ∈ names, isMark (.bare name) = false) (h : ∀ e ∈ events, e.name ∈ names) :
    events.filter isMark = [] := by
  refine List.filter_eq_nil_iff.mpr fun e he => ?_
  rw [Bool.not_eq_true]
  exact hNames e.name (h e he)

theorem filter_isMark_headerFields (op : Operation) : (headerFields op).filter isMark = [] := by
  refine filter_isMark_eq_nil ["id", "description", "consumes", "produces"] (by decide)
    fun e he => ?_
  have hName := List.mem_map_of_mem (f := Event.name) (List.mem_filter.mp he).1
  exact hName

theorem filter_isMark_framed {blocks : List (List Event)} (h : ∀ fields ∈ blocks, IsBlock fields) :
    (blocks.flatMap framed).filter isMark = [] := by
  refine filter_isMark_eq_nil ("param" :: "endParam" :: blockNames) (by decide)
    fun e he => ?_
  obtain ⟨fields, hFields, hMem⟩ := List.mem_flatMap.mp he
  rcases List.mem_cons.mp hMem with rfl | hMem
  · exact .head _
  · rcases List.mem_append.mp hMem with hMem | hMem
    · have hName := (h fields hFields).order.subset (List.mem_map_of_mem hMem)
      exact .tail _ (.tail _ hName)
    · obtain rfl := List.mem_singleton.mp hMem
      exact .tail _ (.head _)

theorem filter_isMark_settingsEvents (g : Generator) : g.settingsEvents.filter isMark = [] := by
  refine filter_isMark_eq_nil
    ["restConfiguration", "component", "contextPath", "apiContextPath", "host"]
    (by decide) fun e he => ?_
  unfold settingsEvents at he
  cases hRest : g.rest with
  | none => simp [hRest] at he
  | some c =>
    simp only [hRest, Option.map_some, Option.getD_some, configurationEvents] at he
    split at he
    · cases he
    · simp only [List.mem_cons, List.mem_append, mem_field] at he
      rcases he with rfl | ((⟨rfl, -⟩ | ⟨rfl, -⟩) | ⟨rfl, -⟩) | ⟨rfl, -⟩ <;> simp [Event.bare]

def targetOf (g : Generator) (op : Operation) : Argument :=
  (g.destination op).outcome.toOption.getD .null

variable {g : Generator}

theorem destination_of_emitted {e : Listed} (h : g.fate? e = some .emitted) :
    (g.destination e.2).outcome = .ok (g.targetOf e.2) := by
  obtain ⟨-, -, target, hTarget⟩ := (visit_emits_iff _ _ _ _).mp (fate?_emitted_iff.mp h)
  rw [targetOf, hTarget]
  rfl

theorem filter_isMark_visitOf {e : Listed} (h : g.fate? e = some .emitted) :
    (g.visitOf e.1 e.2).events.filter isMark = marks g.targetOf e := by
  obtain ⟨hAccepted, hDescribed, -⟩ := (visit_emits_iff _ _ _ _).mp (fate?_emitted_iff.mp h)
  have hTo : isMark ⟨"to", g.targetOf e.2⟩ = true := rfl
  rw [visitOf, visit_events e.1.name hAccepted hDescribed (destination_of_emitted h),
    methodName_name]
  simp only [List.filter_cons, List.filter_append, filter_isMark_headerFields,
    filter_isMark_framed (isBlock_of_mem_blocks e.2), isMark_name, hTo, if_true,
    List.nil_append, List.filter_nil]
  rfl

/-! ### One operation -/

/-- What a run leaves behind accounts for the operations of a listing. -/
structure Accounts (g : Generator) (listing : Listing Listed) (events : List Event)
    (report : Report) : Prop where
  whole : listing.failure = none
  fates : ∀ e ∈ listing.items, ∃ fate, g.fate? e = some fate
  report : report = g.reportOf listing.items
  marks : events.filter isMark =
    (g.withFate .emitted listing.items).flatMap (Generator.marks g.targetOf)

namespace Accounts

theorem none (g : Generator) : Accounts g .none [] .none :=
  ⟨rfl, fun _ h => (nomatch h), rfl, rfl⟩

theorem single {e : Listed} {fate : Fate} (hFate : g.fate? e = some fate) {events : List Event}
    (hMarks : events.filter isMark = if fate = .emitted then Generator.marks g.targetOf e else [])
    (log : List Log.Record) :
    Accounts g ⟨[e], log, .none⟩ events (fate.report (labelOf e)) := by
  refine ⟨rfl, ?_, (reportOf_singleton hFate).symm, ?_⟩
  · intro e' he
    obtain rfl := List.mem_singleton.mp he
    exact ⟨fate, hFate⟩
  · rw [hMarks, withFate]
    by_cases hEmitted : fate = .emitted <;> simp [hFate, hEmitted]

theorem append {l k : Listing Listed} {es fs : List Event} {a b : Report}
    (hl : Accounts g l es a) (hk : Accounts g k fs b) :
    Accounts g (l.append k) (es ++ fs) (a.append b) := by
  have hItems := Listing.append_items hl.whole k
  refine ⟨Listing.append_failure.mpr ⟨hl.whole, hk.whole⟩, ?_, ?_, ?_⟩
  · rw [hItems]
    intro e he
    exact (List.mem_append.mp he).elim (hl.fates e) (hk.fates e)
  · rw [hItems, reportOf_append, hl.report, hk.report]
  · rw [hItems, withFate, List.filter_append, List.filter_append, List.flatMap_append, hl.marks,
      hk.marks, withFate, withFate]

end Accounts

theorem visitOperation_of_error (hStop : g.continueOnError = false) {m : Method} {op : Operation}
    {e : Failure} (h : (g.visitOf m op).outcome = .error e) :
    (g.visitOperation m op).outcome = .error e := by
  unfold visitOf at h
  simp only [visitOperation, hStop, Bool.false_eq_true, if_false]
  rw [Run.bind_of_error h]

theorem visitOperation_accounts {m : Method} {op : Operation} {report : Report}
    (h : (g.visitOperation m op).outcome = .ok report) (log : List Log.Record) :
    Accounts g ⟨[(m, op)], log, .none⟩ (g.visitOperation m op).events report := by
  -- A failed visit only ends in a report if it was refused and the run goes on after errors.
  cases hVisit : (g.visitOf m op).outcome with
  | ok emitted =>
    rw [visitOperation_of_ok hVisit] at h ⊢
    obtain rfl := Except.ok.inj h
    cases emitted with
    | true =>
      have hFate : g.fate? (m, op) = some .emitted := fate?_emitted_iff.mpr hVisit
      exact .single hFate (filter_isMark_visitOf hFate) log
    | false =>
      have hRejected := (visit_filtered_iff _ _ _ _).mp hVisit
      have hFate : g.fate? (m, op) = some .filtered := fate?_filtered_iff.mpr hRejected
      have hEvents : (g.visitOf m op).events = [] := by rw [visitOf, visit_of_rejected hRejected]
      rw [hEvents]
      exact .single hFate rfl log
  | error e =>
    cases hGo : g.continueOnError with
    | false =>
      rw [visitOperation_of_error hGo hVisit] at h
      cases h
    | true =>
      cases e with
      | defect d =>
        rw [visitOperation_of_defect hGo hVisit] at h
        cases h
      | refusal r =>
        have hFate : g.fate? (m, op) = some (.failed r.message) := by simp only [fate?, hVisit]
        rw [visitOperation_of_refusal hGo hVisit] at h ⊢
        obtain rfl := Except.ok.inj h
        exact .single hFate rfl log

/-! ### All operations -/

theorem andReport_eq_ok {x y : Run Report} {report : Report}
    (h : (andReport x y).outcome = .ok report) :
    ∃ a b, x.outcome = .ok a ∧ y.outcome = .ok b ∧ report = a.append b ∧
      (andReport x y).events = x.events ++ y.events := by
  cases hx : x.outcome with
  | error e =>
    rw [andReport, Run.bind_of_error hx] at h
    cases h
  | ok a =>
    rw [andReport_of_ok hx] at h ⊢
    cases hy : y.outcome with
    | error e =>
      rw [hy] at h
      cases h
    | ok b =>
      rw [hy] at h
      exact ⟨a, b, rfl, rfl, (Except.ok.inj h).symm, rfl⟩

theorem visitRaw_accounts {path : String} {shared : List Value} {m : Method} {raw : Value}
    {report : Report} (h : (g.visitRaw path shared m raw).outcome = .ok report) :
    Accounts g
      (.ofLogged do
        let op ← Builder.operation g.version path raw shared
        Logged.ofExcept (.ok (m, op)))
      (g.visitRaw path shared m raw).events report := by
  cases hOp : (Builder.operation g.version path raw shared).outcome with
  | error e =>
    rw [visitRaw, Run.bind_of_error (x := Run.ofLogged _) hOp] at h
    cases h
  | ok op =>
    rw [visitRaw_of_ok hOp] at h ⊢
    rw [listed_of_ok hOp]
    exact visitOperation_accounts h _

theorem visitOperations_accounts {path : String} {shared : List Value}
    (raws : List (Method × Value)) {report : Report}
    (h : (g.visitOperations path shared raws).outcome = .ok report) :
    Accounts g (.ofPath g.version (fun m op => .ok (m, op)) path shared raws)
      (g.visitOperations path shared raws).events report := by
  induction raws generalizing report with
  | nil =>
    obtain rfl := Except.ok.inj h
    exact .none g
  | cons e rest ih =>
    obtain ⟨m, raw⟩ := e
    rw [visitOperations_cons] at h ⊢
    obtain ⟨a, b, ha, hb, rfl, hEvents⟩ := andReport_eq_ok h
    rw [hEvents, Listing.ofPath]
    exact (visitRaw_accounts ha).append (ih hb)

theorem visitPaths_accounts (es : List (Value × Value)) {report : Report}
    (h : (g.visitPaths es).outcome = .ok report) :
    Accounts g (.ofPaths g.version (fun m op => .ok (m, op)) es) (g.visitPaths es).events
      report := by
  induction es generalizing report with
  | nil =>
    obtain rfl := Except.ok.inj h
    exact .none g
  | cons e rest ih =>
    obtain ⟨key, item⟩ := e
    rw [visitPaths_cons] at h ⊢
    obtain ⟨a, b, ha, hb, rfl, hEvents⟩ := andReport_eq_ok h
    rw [hEvents, Listing.ofPaths]
    cases hKey : key.textOrFail with
    | error e =>
      rw [hKey, Run.bind_of_error (x := Run.ofExcept (.error e)) rfl] at ha
      cases ha
    | ok path =>
      have hPure : ∀ f : String → Run Report, Run.ofExcept (.ok path) >>= f = f path :=
        fun f => Run.ok_bind path f
      rw [hKey, hPure] at ha
      rw [hPure]
      exact (visitOperations_accounts _ ha).append (ih hb)

theorem generate_accounts {report : Report} (h : g.generate.outcome = .ok report) :
    Accounts g (Listing.operations g.document g.version) g.generate.events report := by
  cases hPath : basePath g.document g.version with
  | error e =>
    rw [generate_of_badBasePath hPath] at h
    cases h
  | ok path =>
    have hRun := generate_of_basePath hPath
    rw [hRun] at h ⊢
    have hVisited := visitPaths_accounts _ h
    refine ⟨hVisited.whole, hVisited.fates, hVisited.report, ?_⟩
    have hRest : isMark (restEvent path) = false := by cases path <;> rfl
    simp only [List.filter_append, List.filter_cons, filter_isMark_settingsEvents, hRest,
      Bool.false_eq_true, if_false, List.nil_append]
    exact hVisited.marks

/-! ### The listing of operations -/

theorem operationRow_of_fate {e : Listed} {fate : Fate} (h : g.fate? e = some fate) :
    CommandLine.operationRow g.filter e.1 e.2 = .ok (g.rowOf e) := by
  cases hAccept : g.filter.accept e.2.id? with
  | error failure =>
    rw [fate?, visitOf, visit_of_failedFilter hAccept] at h
    cases failure with
    | refusal r => exact absurd hAccept (Filter.accept_unrefused _ _ r)
    | defect d => cases h
  | ok accepted =>
    have hFiltered := fate?_filtered_iff (g := g) (e := e)
    rw [hAccept] at hFiltered
    rw [CommandLine.operationRow, hAccept, rowOf]
    cases accepted with
    | false =>
      rw [if_pos (hFiltered.mpr rfl)]
      rfl
    | true =>
      have hNot : g.fate? e ≠ some .filtered := by
        rw [Ne, hFiltered]
        simp
      rw [if_neg hNot]
      rfl

theorem collect_operationRow (h : (Listing.operations g.document g.version).failure = none)
    (hFates : ∀ e ∈ (Listing.operations g.document g.version).items,
      ∃ fate, g.fate? e = some fate) :
    (Listing.collect g.document g.version (CommandLine.operationRow g.filter)).failure = none ∧
      (Listing.collect g.document g.version (CommandLine.operationRow g.filter)).items =
        (Listing.operations g.document g.version).items.map g.rowOf := by
  refine Listing.collect_of_operations h fun e he => ?_
  obtain ⟨fate, hFate⟩ := hFates e he
  exact operationRow_of_fate hFate

/-! ### Whole runs -/

/-- A run that ends with a report accounts for all operations of the document, in its order.  Each has
one fate; the report has its label in the list of that fate, so that the lists are as long as the
document has operations; its method with its path and its destination are in the events once if it is
emitted and not at all if it is not.  The listing of operations, also that of a command for the same
document and filter, has a row for each, which says that it is not included exactly if it is reported
as filtered. -/
theorem generate_report (g : Generator) {report : Report} (h : g.generate.outcome = .ok report) :
    let listing := Listing.operations g.document g.version
    listing.failure = none ∧
    (∀ e ∈ listing.items, ∃ fate, g.fate? e = some fate) ∧
    report = g.reportOf listing.items ∧
    report.emitted.length + report.filtered.length + report.failed.length =
      listing.items.length ∧
    (∃ target : Operation → Argument,
      (∀ e ∈ g.withFate .emitted listing.items,
        (g.destination e.2).outcome = .ok (target e.2)) ∧
      g.generate.events.filter isMark =
        (g.withFate .emitted listing.items).flatMap (marks target)) ∧
    (CommandLine.operationRows g.document g.version g.filter).outcome =
      .ok (listing.items.map g.rowOf) ∧
    (∀ (m : Machine) (console : Console) (o : CommandLine.ListOptions) (settings : Settings)
      (success : CommandLine.Success),
      Settings.resolve m [(.str "filter", Settings.optionalValue o.filter)] = .ok settings →
      Filter.ofSetting m.charNames settings.filter = g.filter →
      Document.load m o.source = .ok g.document →
      (CommandLine.list m console o).outcome = .ok success →
      success.output =
        console.listing ⟨CommandLine.listHeaders, listing.items.map g.rowOf⟩) := by
  intro listing
  have hAccounts := generate_accounts h
  obtain ⟨hWhole, hRows⟩ := collect_operationRow hAccounts.whole hAccounts.fates
  refine ⟨hAccounts.whole, hAccounts.fates, hAccounts.report, ?_, ⟨g.targetOf, ?_, ?_⟩,
    CommandLine.operationRows_eq_ok.mpr ⟨hWhole, hRows⟩, ?_⟩
  · rw [hAccounts.report]
    exact reportOf_lengths hAccounts.fates
  · intro e he
    exact destination_of_emitted (by simpa using (List.mem_filter.mp he).2)
  · exact hAccounts.marks
  · intro m console o settings success hSettings hFilter hDocument hOk
    obtain ⟨t, document, version, rows, hs, hd, hOther, hOutput⟩ :=
      CommandLine.list_eq_ok hOk
    obtain rfl := Except.ok.inj (hs.symm.trans hSettings)
    obtain rfl := Except.ok.inj (hd.symm.trans hDocument)
    rw [hFilter] at hOther
    obtain ⟨hOtherWhole, hOtherRows⟩ := CommandLine.operationRows_eq_ok.mp hOther
    have hSame := Listing.collect_items_eq
      (fun m _ _ => CommandLine.operationRow_congr g.filter m) hOtherWhole hWhole
    rw [hOutput, ← hOtherRows, hSame, hRows]

/-- A service with an operation for each fate, if only those with pets in their ids are included. -/
def mixedStore : Value :=
  .ofNamed [("openapi", .str "3.0.0"), ("paths", .ofNamed [
    ("/pets", .ofNamed [
      ("post", .ofNamed [("operationId", .str "addPet"),
        ("parameters", .list [.ofNamed [("name", .str "sid"), ("in", .str "cookie")]])]),
      ("get", .ofNamed [("operationId", .str "listPets")])]),
    ("/admin", .ofNamed [("trace", .ofNamed [])])])]

theorem generate_report_mixedStore :
    let g : Generator :=
      { Generator.ofDocument mixedStore .openApi with
        filter := ⟨["*Pet*"], .none⟩
        continueOnError := true }
    let report : Report := ⟨["listPets"], ["TRACE /admin"],
      [("addPet", "Unknown parameter location 'cookie' on parameter 'sid'")]⟩
    let ops := (Listing.operations g.document g.version).items
    g.generate.outcome = .ok report ∧ g.reportOf ops = report ∧ ops.length = 3 ∧
      (g.generate.events.filter isMark).map (·.name) = ["get", "to"] ∧
      ops.map g.rowOf =
        [["GET", "/pets", "listPets", "yes"], ["POST", "/pets", "addPet", "yes"],
          ["TRACE", "/admin", "-", "no"]] := by
  intro g report ops
  have hOk : g.generate.outcome = .ok report := by decide +kernel
  obtain ⟨-, -, hReport, hLengths, -, hRows, -⟩ := generate_report g hOk
  refine ⟨hOk, hReport.symm, hLengths.symm, by decide +kernel, ?_⟩
  have hListed : (CommandLine.operationRows g.document g.version g.filter).outcome =
      .ok [["GET", "/pets", "listPets", "yes"], ["POST", "/pets", "addPet", "yes"],
        ["TRACE", "/admin", "-", "no"]] := by decide +kernel
  exact Except.ok.inj (hRows.symm.trans hListed)

end Generator

end RestRoutes
