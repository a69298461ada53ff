import RestRoutes.Api.Listing
import RestRoutes.Proofs.Api.Builder
import RestRoutes.Proofs.Filter
import RestRoutes.Proofs.Generate.Passages
import RestRoutes.Proofs.Value
import RestRoutes.Proofs.Visit.Log
import RestRoutes.Sink.Format

/-! Going on after errors.  A run that goes on leaves behind what a run that stops at the first
error leaves behind of the document without the refused operations, and reports these besides.  The
two runs are followed operation by operation: where a visit ends well both take the same step, and
where it is refused only the run that goes on takes one, which emits nothing. -/

namespace RestRoutes

open Api Visit

namespace Run

variable {α β : Type}

/-- Nothing but a refusal stops a run. -/
def Unbroken (x : Run α) : Prop := ∀ d, x.outcome ≠ .error (.defect d)

theorem Unbroken.first {x : Run α} {f : α → Run β} (h : Unbroken (x >>= f)) : Unbroken x := by
  intro d hd
  exact h d (by rw [bind_of_error hd])

theorem Unbroken.next {x : Run α} {f : α → Run β} (h : Unbroken (x >>= f)) {a : α}
    (ha : x.outcome = .ok a) : Unbroken (f a) := by
  intro d hd
  exact h d (by rw [bind_of_ok ha, hd])

end Run

namespace Generator

variable (g : Generator)

def visitOf (m : Method) (op : Operation) : Run Bool :=
  Visit.visit g.filter g.destination m.name op

/-- Why an operation that the filter accepts is refused, if it is. -/
def refusal? (m : Method) (op : Operation) : Option Refusal :=
  match g.filter.accept op.id?, (g.visitOf m op).outcome with
  | .ok true, .error (.refusal r) => some r
  | _, _ => none

/-- The operations among some that are refused, with the reasons. -/
def refusalsOf (ops : List (Method × Operation)) : List (Method × Operation × Refusal) :=
  ops.filterMap fun (m, op) => (g.refusal? m op).map fun r => (m, op, r)

/-- The operations of the document that are refused, in the order they are visited in. -/
def refusals : List (Method × Operation × Refusal) :=
  g.refusalsOf (Listing.operations g.document g.version).items

def failure : Method × Operation × Refusal → String × String
  | (m, op, r) => (op.label m, r.message)

def failureRecord (failed : String × String) : Log.Record :=
  ⟨.error, "Skipping " ++ failed.1 ++ ": " ++ failed.2⟩

/-- What a path holds makes up a refused operation. -/
def refuses (path : String) (shared : List Value) (m : Method) (raw : Value) : Bool :=
  match (Builder.operation g.version path raw shared).outcome with
  | .ok op => (g.refusal? m op).isSome
  | .error _ => false

/-- The names of the methods of a path whose operations are refused. -/
def refusedNames (path : String) (item : Value) : List String :=
  ((Builder.rawOperations item).filter fun (m, raw) =>
    g.refuses path (item.get "parameters").items m raw).map fun (m, _) => m.name

/-- A path without the entries of its refused operations. -/
def prunedPath (e : Value × Value) : Value × Value :=
  match e.1.textOrFail with
  | .ok path => (e.1, e.2.without (g.refusedNames path e.2))
  | .error _ => e

/-- The document without the entries of its refused operations. -/
def prunedDocument : Value := g.document.under "paths" (·.withEntries g.prunedPath)

variable {g}

/-! ### One operation -/

/-- Only an operation that the filter accepts is refused. -/
theorem accepted_of_refused {m : Method} {op : Operation} {r : Refusal}
    (h : (g.visitOf m op).outcome = .error (.refusal r)) : g.filter.accept op.id? = .ok true := by
  cases ha : g.filter.accept op.id? with
  | error e =>
    have hDefect := Filter.accept_unrefused g.filter op.id?
    rw [visitOf, visit_of_failedFilter ha] at h
    exact absurd (ha.trans h) (hDefect r)
  | ok accepted =>
    cases accepted with
    | false =>
      rw [visitOf, visit_of_rejected ha] at h
      cases h
    | true => rfl

theorem refusal?_eq_some_iff {m : Method} {op : Operation} {r : Refusal} :
    g.refusal? m op = some r ↔ (g.visitOf m op).outcome = .error (.refusal r) := by
  constructor
  · intro h
    unfold refusal? at h
    split at h
    · rename_i hr
      rw [hr, Option.some.inj h]
    · cases h
  · intro h
    simp [refusal?, h, accepted_of_refused h]

theorem refusal?_of_ok {m : Method} {op : Operation} {emitted : Bool}
    (h : (g.visitOf m op).outcome = .ok emitted) : g.refusal? m op = none := by
  rw [Option.eq_none_iff_forall_ne_some]
  intro r hr
  rw [refusal?_eq_some_iff, h] at hr
  cases hr

theorem staged_of_ok {α : Type} {x : Run α} {a : α} (h : x.outcome = .ok a) :
    staged x = ⟨x.events, x.log, .ok (.ok a)⟩ := by
  simp only [staged, h]

theorem staged_of_refusal {α : Type} {x : Run α} {r : Refusal}
    (h : x.outcome = .error (.refusal r)) : staged x = ⟨[], x.log, .ok (.error r)⟩ := by
  simp only [staged, h]

theorem staged_of_defect {α : Type} {x : Run α} {d : Defect}
    (h : x.outcome = .error (.defect d)) : staged x = ⟨[], x.log, .error (.defect d)⟩ := by
  simp only [staged, h]

theorem visitOperation_of_ok {m : Method} {op : Operation} {emitted : Bool}
    (h : (g.visitOf m op).outcome = .ok emitted) :
    g.visitOperation m op =
      ⟨(g.visitOf m op).events, (g.visitOf m op).log, .ok (reportOn (op.label m) emitted)⟩ := by
  unfold visitOf at h ⊢
  unfold visitOperation
  cases g.continueOnError with
  | false => simp [Run.bind_of_ok h]
  | true =>
    simp only [staged_of_ok h, if_true]
    rw [Run.bind_of_ok (a := .ok emitted) rfl]
    simp

theorem visitOperation_of_refusal (hGo : g.continueOnError = true) {m : Method} {op : Operation}
    {r : Refusal} (h : (g.visitOf m op).outcome = .error (.refusal r)) :
    g.visitOperation m op =
      ⟨[], (g.visitOf m op).log ++ [failureRecord (failure (m, op, r))],
        .ok { Report.none with failed := [failure (m, op, r)] }⟩ := by
  unfold visitOf at h ⊢
  simp only [visitOperation, hGo, staged_of_refusal h, if_true]
  rw [Run.bind_of_ok (a := .error r) rfl]
  rfl

theorem visitOperation_of_defect (hGo : g.continueOnError = true) {m : Method} {op : Operation}
    {d : Defect} (h : (g.visitOf m op).outcome = .error (.defect d)) :
    g.visitOperation m op = ⟨[], (g.visitOf m op).log, .error (.defect d)⟩ := by
  unfold visitOf at h ⊢
  simp only [visitOperation, hGo, staged_of_defect h, if_true]
  rfl

/-! ### Runs side by side -/

def andReport (x y : Run Report) : Run Report := do
  let report ← x
  return report.append (← y)

theorem none_andReport (y : Run Report) : andReport (pure .none) y = y := by
  simp [andReport, Report.append, Report.none]

theorem andReport_of_ok {x y : Run Report} {a : Report} (h : x.outcome = .ok a) :
    andReport x y = ⟨x.events ++ y.events, x.log ++ y.log, y.outcome.map a.append⟩ := by
  rw [andReport, Run.bind_of_ok h]
  cases hy : y.outcome with
  | error e => simp [Run.bind_of_error hy, Except.map]
  | ok b => simp [Run.bind_of_ok hy, Except.map]

/-- The records of errors that come of visiting an operation: those of the visit, and one more if it
is refused. -/
def errorsOn (g : Generator) (m : Method) (op : Operation) : List Log.Record :=
  Log.errors (g.visitOf m op).log ++
    ((g.refusal? m op).map fun r => failureRecord (failure (m, op, r))).toList

theorem flatMap_errorsOn (g : Generator) (h : ∀ op, Log.errors (g.destination op).log = [])
    (ops : List (Method × Operation)) :
    (ops.flatMap fun (m, op) => g.errorsOn m op) =
      ((g.refusalsOf ops).map failure).map failureRecord := by
  induction ops with
  | nil => rfl
  | cons e rest ih =>
    obtain ⟨m, op⟩ := e
    have hVisit : Log.errors (g.visitOf m op).log = [] := visit_errors (h op) _ _
    rw [List.flatMap_cons, ih]
    change g.errorsOn m op ++ _ = _
    rw [errorsOn, hVisit]
    cases hRefusal : g.refusal? m op <;> simp [refusalsOf, hRefusal]

/-- How a run that goes on after errors compares with one that stops, on the same operations without
the refused ones, and on the same operations. -/
structure Agrees (g : Generator) (operations : Listing (Method × Operation))
    (resuming pruned stopping : Run Report) : Prop where
  whole : operations.failure = none
  events : resuming.events = pruned.events
  outcome : ∃ emitted filtered,
    resuming.outcome = .ok ⟨emitted, filtered, (g.refusalsOf operations.items).map failure⟩ ∧
      pruned.outcome = .ok ⟨emitted, filtered, []⟩
  errors : Log.errors resuming.log = operations.items.flatMap fun (m, op) => g.errorsOn m op
  same : g.refusalsOf operations.items = [] → resuming = stopping

namespace Agrees

theorem none (g : Generator) : Agrees g .none (pure .none) (pure .none) (pure .none) :=
  ⟨rfl, rfl, ⟨[], [], rfl, rfl⟩, rfl, fun _ => rfl⟩

theorem andReport {g : Generator} {l k : Listing (Method × Operation)}
    {x₁ x₂ x₃ y₁ y₂ y₃ : Run Report} (hx : Agrees g l x₁ x₂ x₃) (hy : Agrees g k y₁ y₂ y₃) :
    Agrees g (l.append k) (andReport x₁ y₁) (andReport x₂ y₂) (andReport x₃ y₃) := by
  obtain ⟨emitted, filtered, hx₁, hx₂⟩ := hx.outcome
  obtain ⟨emitted', filtered', hy₁, hy₂⟩ := hy.outcome
  have hItems : l.append k = ⟨l.items ++ k.items, l.log ++ k.log, k.failure⟩ := by
    simp [Listing.append, hx.whole]
  rw [hItems, andReport_of_ok hx₁, andReport_of_ok hx₂]
  refine ⟨hy.whole, ?_, ?_, ?_, ?_⟩
  · simp [hx.events, hy.events]
  · exact ⟨emitted ++ emitted', filtered ++ filtered',
      by simp [hy₁, Except.map, Report.append, refusalsOf],
      by simp [hy₂, Except.map, Report.append]⟩
  · simp [Log.errors_append, hx.errors, hy.errors]
  · intro hNone
    simp only [refusalsOf, List.filterMap_append, List.append_eq_nil_iff] at hNone
    rw [← hx.same hNone.1, ← hy.same hNone.2, andReport_of_ok hx₁]

end Agrees

/-! ### The operations of a document -/

def visitRaw (g : Generator) (path : String) (shared : List Value) (m : Method) (raw : Value) :
    Run Report :=
  Run.ofLogged (Builder.operation g.version path raw shared) >>= g.visitOperation m

theorem visitOperations_cons (path : String) (shared : List Value) (m : Method) (raw : Value)
    (rest : List (Method × Value)) :
    g.visitOperations path shared ((m, raw) :: rest) =
      andReport (g.visitRaw path shared m raw) (g.visitOperations path shared rest) := by
  simp [visitOperations, andReport, visitRaw]

theorem visitPaths_cons (key item : Value) (rest : List (Value × Value)) :
    g.visitPaths ((key, item) :: rest) =
      andReport
        (Run.ofExcept key.textOrFail >>= fun path =>
          g.visitOperations path (item.get "parameters").items (Builder.rawOperations item))
        (g.visitPaths rest) := by
  simp [visitPaths, andReport]

theorem visitRaw_of_ok {path : String} {shared : List Value} {raw : Value} {op : Operation}
    (h : (Builder.operation g.version path raw shared).outcome = .ok op) (m : Method) :
    g.visitRaw path shared m raw =
      ⟨(g.visitOperation m op).events,
        (Builder.operation g.version path raw shared).log ++ (g.visitOperation m op).log,
        (g.visitOperation m op).outcome⟩ := by
  rw [visitRaw, Run.bind_of_ok (x := Run.ofLogged _) h]
  rfl

/-- An operation whose visit ends well is the same to all runs. -/
theorem agrees_of_ok {m : Method} {op : Operation} {emitted : Bool}
    (h : (g.visitOf m op).outcome = .ok emitted) {warned : List Log.Record}
    (hWarned : Log.errors warned = []) :
    let run : Run Report := ⟨(g.visitOf m op).events, warned ++ (g.visitOf m op).log,
      .ok (reportOn (op.label m) emitted)⟩
    Agrees g ⟨[(m, op)], warned, none⟩ run run run := by
  have hNone := refusal?_of_ok h
  have hReport : reportOn (op.label m) emitted =
      ⟨(reportOn (op.label m) emitted).emitted, (reportOn (op.label m) emitted).filtered, []⟩ := by
    cases emitted <;> rfl
  refine ⟨rfl, rfl, ⟨_, _, ?_, congrArg Except.ok hReport⟩, ?_, fun _ => rfl⟩
  · simpa [refusalsOf, hNone] using hReport
  · simp [Log.errors_append, hWarned, errorsOn, hNone]

/-- An operation that is refused is left out by the run that goes on. -/
theorem agrees_of_refusal {m : Method} {op : Operation} {r : Refusal}
    (h : (g.visitOf m op).outcome = .error (.refusal r)) {warned : List Log.Record}
    (hWarned : Log.errors warned = []) (stopping : Run Report) :
    Agrees g ⟨[(m, op)], warned, none⟩
      ⟨[], warned ++ ((g.visitOf m op).log ++ [failureRecord (failure (m, op, r))]),
        .ok { Report.none with failed := [failure (m, op, r)] }⟩
      (pure .none) stopping := by
  have hSome : g.refusal? m op = some r := refusal?_eq_some_iff.mpr h
  have hRecord : Log.errors [failureRecord (failure (m, op, r))] =
      [failureRecord (failure (m, op, r))] := rfl
  refine ⟨rfl, rfl, ⟨[], [], ?_, rfl⟩, ?_, ?_⟩
  · simp [refusalsOf, hSome, Report.none]
  · simp [Log.errors_append, hWarned, errorsOn, hSome, hRecord]
  · simp [refusalsOf, hSome]

/-- The operation that a method of a path holds, listed on its own. -/
theorem listed_of_ok {path : String} {shared : List Value} {raw : Value} {op : Operation}
    (h : (Builder.operation g.version path raw shared).outcome = .ok op) (m : Method) :
    (Listing.ofLogged do
      let op ← Builder.operation g.version path raw shared
      Logged.ofExcept (.ok (m, op))) =
    ⟨[(m, op)], (Builder.operation g.version path raw shared).log, none⟩ := by
  rw [Logged.bind_of_ok h]
  simp [Listing.ofLogged]

theorem visitRaw_agrees (document : Value) {path : String} {shared : List Value} {m : Method}
    {raw : Value}
    (h : (visitRaw { g with continueOnError := true } path shared m raw).Unbroken) :
    Agrees g
      (.ofLogged do
        let op ← Builder.operation g.version path raw shared
        Logged.ofExcept (.ok (m, op)))
      (visitRaw { g with continueOnError := true } path shared m raw)
      (if g.refuses path shared m raw then pure .none
        else visitRaw { g with document, continueOnError := false } path shared m raw)
      (visitRaw { g with continueOnError := false } path shared m raw) := by
  have hLenient := Builder.operation_lenient g.version path raw shared
  have hWarned := Log.errors_of_warnings hLenient.log
  cases hOp : (Builder.operation g.version path raw shared).outcome with
  | error e =>
    have hBroken : (visitRaw { g with continueOnError := true } path shared m raw).outcome =
        .error e := by
      rw [visitRaw, Run.bind_of_error (x := Run.ofLogged _) hOp]
    cases e with
    | refusal r => exact absurd hOp (hLenient.outcome r)
    | defect d => exact absurd hBroken (h d)
  | ok op =>
    have hRefuses : g.refuses path shared m raw = (g.refusal? m op).isSome := by
      simp [refuses, hOp]
    rw [listed_of_ok hOp]
    simp only [visitRaw_of_ok (g := { g with continueOnError := true }) hOp,
      visitRaw_of_ok (g := { g with document, continueOnError := false }) hOp,
      visitRaw_of_ok (g := { g with continueOnError := false }) hOp] at h ⊢
    -- The visit itself is the same in all three runs: they differ in what they make of a failure.
    cases hVisit : (g.visitOf m op).outcome with
    | ok emitted =>
      have hKept : g.refuses path shared m raw = false := by
        rw [hRefuses, refusal?_of_ok hVisit, Option.isSome_none]
      rw [visitOperation_of_ok (g := { g with continueOnError := true }) hVisit,
        visitOperation_of_ok (g := { g with document, continueOnError := false }) hVisit,
        visitOperation_of_ok (g := { g with continueOnError := false }) hVisit, hKept]
      exact agrees_of_ok hVisit hWarned
    | error e =>
      cases e with
      | refusal r =>
        have hLeft : g.refuses path shared m raw = true := by
          rw [hRefuses, refusal?_eq_some_iff.mpr hVisit, Option.isSome_some]
        rw [visitOperation_of_refusal (g := { g with continueOnError := true }) rfl hVisit, hLeft]
        exact agrees_of_refusal hVisit hWarned _
      | defect d =>
        rw [visitOperation_of_defect (g := { g with continueOnError := true }) rfl hVisit] at h
        exact absurd rfl (h d)

theorem andReport_unbroken {x y : Run Report} (h : (andReport x y).Unbroken) {a : Report}
    (ha : x.outcome = .ok a) : y.Unbroken :=
  (Run.Unbroken.next h ha).first

theorem visitOperations_agrees (document : Value) {path : String} {shared : List Value}
    (raws : List (Method × Value))
    (h : (visitOperations { g with continueOnError := true } path shared raws).Unbroken) :
    Agrees g (.ofPath g.version (fun m op => .ok (m, op)) path shared raws)
      (visitOperations { g with continueOnError := true } path shared raws)
      (visitOperations { g with document, continueOnError := false } path shared
        (raws.filter fun (m, raw) => !g.refuses path shared m raw))
      (visitOperations { g with continueOnError := false } path shared raws) := by
  induction raws with
  | nil => exact .none g
  | cons e rest ih =>
    obtain ⟨m, raw⟩ := e
    rw [visitOperations_cons] at h
    -- The first operation ends well, refused or not, so the run of the others is unbroken too.
    have hHead := visitRaw_agrees document h.first
    obtain ⟨emitted, filtered, hOk, -⟩ := hHead.outcome
    have hBoth := hHead.andReport (ih (andReport_unbroken h hOk))
    rw [visitOperations_cons, visitOperations_cons, Listing.ofPath, List.filter_cons]
    cases hRefused : g.refuses path shared m raw with
    | false =>
      simp only [hRefused, Bool.false_eq_true, if_false] at hBoth
      simpa only [hRefused, Bool.not_false, if_true, visitOperations_cons] using hBoth
    | true =>
      simp only [hRefused, if_true, none_andReport] at hBoth
      simpa only [hRefused, Bool.not_true, Bool.false_eq_true, if_false] using hBoth

/-! ### Documents without their refused operations -/

theorem name_injective {m n : Method} (h : m.name = n.name) : m = n := by
  cases m <;> cases n <;> first | rfl | exact absurd h (by decide)

theorem mem_rawOperations {item raw : Value} {m : Method} :
    (m, raw) ∈ Builder.rawOperations item ↔ raw = item.get m.name ∧ raw.isMap = true := by
  have hAll : m ∈ Method.all := by cases m <;> decide
  simp only [Builder.rawOperations, List.mem_filterMap]
  constructor
  · rintro ⟨n, -, hn⟩
    split at hn
    · simp only [Option.some.injEq, Prod.mk.injEq] at hn
      obtain ⟨rfl, rfl⟩ := hn
      exact ⟨rfl, ‹_›⟩
    · cases hn
  · rintro ⟨rfl, hMap⟩
    exact ⟨m, hAll, by simp [hMap]⟩

theorem rawOperations_without (path : String) (item : Value) :
    Builder.rawOperations (item.without (g.refusedNames path item)) =
      (Builder.rawOperations item).filter fun (m, raw) =>
        !g.refuses path (item.get "parameters").items m raw := by
  have hNames : ∀ m : Method, (g.refusedNames path item).contains m.name = true ↔
      (item.get m.name).isMap = true ∧
        g.refuses path (item.get "parameters").items m (item.get m.name) = true := by
    intro m
    simp only [refusedNames, List.contains_iff_mem, List.mem_map, List.mem_filter]
    constructor
    · rintro ⟨⟨n, raw⟩, ⟨hMem, hRefuses⟩, hName⟩
      obtain rfl := name_injective hName
      obtain ⟨rfl, hMap⟩ := mem_rawOperations.mp hMem
      exact ⟨hMap, hRefuses⟩
    · rintro ⟨hMap, hRefuses⟩
      exact ⟨(m, item.get m.name), ⟨mem_rawOperations.mpr ⟨rfl, hMap⟩, hRefuses⟩, rfl⟩
  simp only [Builder.rawOperations, List.filter_filterMap]
  refine List.filterMap_congr fun m _ => ?_
  rw [Value.get, Value.get?_without]
  by_cases hIn : (g.refusedNames path item).contains m.name = true
  · obtain ⟨hMap, hRefuses⟩ := (hNames m).mp hIn
    have hNull : ¬(Value.null.isMap = true) := Bool.false_ne_true
    rw [if_pos hIn, Option.getD_none, if_neg hNull, if_pos hMap]
    simp [Option.filter, hRefuses]
  · rw [if_neg hIn, ← Value.get]
    by_cases hMap : (item.get m.name).isMap = true
    · have hNot : g.refuses path (item.get "parameters").items m (item.get m.name) = false := by
        rw [← Bool.not_eq_true]
        exact fun hRefuses => hIn ((hNames m).mpr ⟨hMap, hRefuses⟩)
      rw [if_pos hMap]
      simp [Option.filter, hNot]
    · rw [if_neg hMap]
      rfl

theorem get_parameters_without (path : String) (item : Value) :
    (item.without (g.refusedNames path item)).get "parameters" = item.get "parameters" := by
  have hNot : (g.refusedNames path item).contains "parameters" = false := by
    rw [← Bool.not_eq_true, List.contains_iff_mem]
    intro hMem
    obtain ⟨⟨m, raw⟩, -, hName⟩ := List.mem_map.mp hMem
    change m.name = "parameters" at hName
    cases m <;> exact absurd hName (by decide)
  simp only [Value.get, Value.get?_without, hNot, Bool.false_eq_true, if_false]

theorem paths_prunedDocument :
    Builder.paths g.prunedDocument = (Builder.paths g.document).map g.prunedPath := by
  have hMap : (fun e : Value × Value => e.2.isMap) ∘ g.prunedPath = fun e => e.2.isMap := by
    funext e
    unfold prunedPath
    simp only [Function.comp]
    split
    · exact Value.isMap_without _ _
    · rfl
  have hEntries : (g.prunedDocument.get "paths").entries =
      (g.document.get "paths").entries.map g.prunedPath := by
    rw [prunedDocument, Value.get, Value.get?_under, if_pos rfl, Value.get]
    cases g.document.get? "paths" with
    | none => rfl
    | some v => exact Value.entries_withEntries _ v
  rw [Builder.paths, hEntries, List.filter_map, hMap, Builder.paths]

theorem basePath_prunedDocument (version : Document.Version) :
    basePath g.prunedDocument version = basePath g.document version := by
  have hBase : g.prunedDocument.get "basePath" = g.document.get "basePath" :=
    Value.get_under_ne (by decide) _ _
  have hUrl : serverUrl g.prunedDocument = serverUrl g.document := by
    rw [serverUrl, prunedDocument, Value.get_under_ne (by decide), serverUrl]
  have hRaw : rawBasePath g.prunedDocument version = rawBasePath g.document version := by
    simp only [rawBasePath, hBase, hUrl]
  rw [basePath, hRaw, basePath]

theorem basePath_unrefused (document : Value) (version : Document.Version) :
    Unrefused (basePath document version) := by
  refine Unrefused.bind ?_ fun _ => .ok _
  unfold rawBasePath
  split
  · simp only
    split
    · exact Value.textOrFail_unrefused _
    · exact .ok ""
  · simp only
    split
    · refine (Value.textOrFail_unrefused _).bind fun url => ?_
      cases Url.path url with
      | ok path => exact .ok path
      | error fault => exact .defect _
    · exact .ok ""

theorem visitPaths_agrees (document : Value) (es : List (Value × Value))
    (h : (visitPaths { g with continueOnError := true } es).Unbroken) :
    Agrees g (.ofPaths g.version (fun m op => .ok (m, op)) es)
      (visitPaths { g with continueOnError := true } es)
      (visitPaths { g with document, continueOnError := false } (es.map g.prunedPath))
      (visitPaths { g with continueOnError := false } es) := by
  induction es with
  | nil => exact .none g
  | cons e rest ih =>
    obtain ⟨key, item⟩ := e
    rw [visitPaths_cons] at h
    cases hKey : key.textOrFail with
    | error e =>
      have hBad := h.first
      rw [hKey, Run.bind_of_error (x := Run.ofExcept (.error e)) rfl] at hBad
      cases e with
      | refusal r => exact absurd hKey (Value.textOrFail_unrefused key r)
      | defect d => exact absurd rfl (hBad d)
    | ok path =>
      have hPure : ∀ f : String → Run Report, Run.ofExcept key.textOrFail >>= f = f path := by
        intro f
        rw [hKey]
        exact Run.ok_bind path f
      rw [hPure] at h
      have hHead := visitOperations_agrees document _ h.first
      obtain ⟨emitted, filtered, hOk, -⟩ := hHead.outcome
      have hBoth := hHead.andReport (ih (andReport_unbroken h hOk))
      have hPruned : g.prunedPath (key, item) =
          (key, item.without (g.refusedNames path item)) := by simp only [prunedPath, hKey]
      rw [List.map_cons, hPruned, visitPaths_cons, visitPaths_cons, visitPaths_cons, hPure, hPure,
        hPure, get_parameters_without, rawOperations_without, Listing.ofPaths, hKey]
      exact hBoth

/-! ### Whole runs -/

theorem visitPaths_unbroken {path : Option String}
    (hPath : basePath g.document g.version = .ok path) (h : g.generate.Unbroken) :
    (g.visitPaths (Builder.paths g.document)).Unbroken := by
  intro d hd
  refine h d ?_
  rw [generate_of_basePath hPath]
  exact hd

theorem errors_generate {path : Option String} {report : Report}
    (hPath : basePath g.document g.version = .ok path)
    (h : (g.visitPaths (Builder.paths g.document)).outcome = .ok report) :
    Log.errors g.generate.log = Log.errors (g.visitPaths (Builder.paths g.document)).log := by
  rw [generate_of_basePath hPath]
  simp only [h, Log.errors_append]
  exact List.append_nil _

/-- Going on after errors, when nothing but refusals occurs: the run ends well.  It emits what a run
that stops at the first error emits for the document without the refused operations, so that every
sink is left in the same state; both report the same operations as emitted and as left out.  The
refused operations are reported in the order of the document, each with one record of an error, and
where there are none, going on makes no difference at all. -/
theorem generate_resuming (g : Generator)
    (h : ∀ d, ({ g with continueOnError := true } : Generator).generate.outcome ≠
      .error (.defect d)) :
    let resuming := ({ g with continueOnError := true } : Generator).generate
    let pruned :=
      ({ g with document := g.prunedDocument, continueOnError := false } : Generator).generate
    (∃ emitted filtered,
      resuming.outcome = .ok ⟨emitted, filtered, g.refusals.map failure⟩ ∧
        pruned.outcome = .ok ⟨emitted, filtered, []⟩) ∧
    resuming.events = pruned.events ∧
    (∀ indent, Sink.Source.render indent resuming.events =
      Sink.Source.render indent pruned.events) ∧
    (∀ b, resuming.events.foldl Sink.Building.step b = pruned.events.foldl Sink.Building.step b) ∧
    (Log.errors resuming.log =
      (Listing.operations g.document g.version).items.flatMap fun (m, op) => g.errorsOn m op) ∧
    ((∀ op, Log.errors (g.destination op).log = []) →
      Log.errors resuming.log = (g.refusals.map failure).map failureRecord) ∧
    (g.refusals = [] → resuming = ({ g with continueOnError := false } : Generator).generate) := by
  cases hPath : basePath g.document g.version with
  | error e =>
    rw [generate_of_badBasePath (g := { g with continueOnError := true }) hPath] at h
    cases e with
    | refusal r => exact absurd hPath (basePath_unrefused g.document g.version r)
    | defect d => exact absurd rfl (h d)
  | ok path =>
    have hPruned := (basePath_prunedDocument g.version).trans hPath
    have hResuming := generate_of_basePath (g := { g with continueOnError := true }) hPath
    have hStopping := generate_of_basePath (g := { g with continueOnError := false }) hPath
    have hOther := generate_of_basePath
      (g := { g with document := g.prunedDocument, continueOnError := false }) hPruned
    have hAgrees := visitPaths_agrees g.prunedDocument _
      (visitPaths_unbroken (g := { g with continueOnError := true }) hPath h)
    obtain ⟨emitted, filtered, hOk, hOkPruned⟩ := hAgrees.outcome
    have hEvents : ({ g with continueOnError := true } : Generator).generate.events =
        ({ g with document := g.prunedDocument, continueOnError := false } :
          Generator).generate.events := by
      rw [hResuming, hOther]
      simp only [paths_prunedDocument, hAgrees.events]
      rfl
    have hErrors : Log.errors ({ g with continueOnError := true } : Generator).generate.log =
        (Listing.operations g.document g.version).items.flatMap fun (m, op) =>
          g.errorsOn m op := by
      rw [errors_generate (g := { g with continueOnError := true }) hPath hOk]
      exact hAgrees.errors
    refine ⟨⟨emitted, filtered, ?_, ?_⟩, hEvents, fun _ => by rw [hEvents],
      fun _ => by rw [hEvents], hErrors, fun hQuiet => ?_, fun hNone => ?_⟩
    · rw [hResuming]
      exact hOk
    · rw [hOther]
      simp only [paths_prunedDocument, hOkPruned]
    · rw [hErrors]
      exact flatMap_errorsOn g hQuiet _
    · rw [hResuming, hStopping]
      simp only [hAgrees.same hNone]
      rfl

def refusingStore : Value :=
  .ofNamed [("swagger", .str "2.0"), ("paths", .ofNamed [
    ("/pets", .ofNamed [
      ("get", .ofNamed [("operationId", .str "listPets")]),
      ("post", .ofNamed [("operationId", .str "addPet"),
        ("parameters", .list [.ofNamed [("name", .str "sid"), ("in", .str "cookie")]])])]),
    ("/", .ofNamed [("get", .ofNamed [])])])]

theorem generate_resuming_refusingStore :
    let g := Generator.ofDocument refusingStore .swagger
    let resuming := ({ g with continueOnError := true } : Generator).generate
    resuming.outcome = .ok ⟨["listPets"], [],
      [("addPet", "Unknown parameter location 'cookie' on parameter 'sid'"),
        ("GET /", "Cannot derive a destination name from path '/'")]⟩ ∧
    resuming.events =
      ({ g with document := g.prunedDocument, continueOnError := false } :
        Generator).generate.events := by
  intro g resuming
  have hOutcome : resuming.outcome = .ok ⟨["listPets"], [],
      [("addPet", "Unknown parameter location 'cookie' on parameter 'sid'"),
        ("GET /", "Cannot derive a destination name from path '/'")]⟩ := by decide +kernel
  refine ⟨hOutcome, (generate_resuming g fun d hd => ?_).2.1⟩
  rw [hOutcome] at hd
  cases hd

end Generator

end RestRoutes
