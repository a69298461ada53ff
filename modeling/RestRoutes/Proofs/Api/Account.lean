import RestRoutes.Proofs.Api.Merge

/-! What becomes of the parameters that are written down for an operation.  Each is built, or replaced by
another one with its key, or left out as a reference with a warning.  Since references take part in
the merging, a parameter of a path can be replaced by a reference, which is then left out itself. -/

namespace RestRoutes.Api

namespace Builder

def skipped (path : String) (target : Value) : Log.Record :=
  ⟨.warning, "Skipping unresolved parameter " ++ referenceText target ++ " on '" ++ path ++ "'"⟩

def isSkip (r : Log.Record) : Bool := Text.startsWith "Skipping unresolved parameter " r.text

/-- An account of parameters that are written down, one after another: each is built, or is replaced, or
is a reference that is warned of, and nothing else is built or warned of. -/
inductive Accounts {α : Type} (build : Value → Except Failure α) (path : String)
    (replaced : Value → Prop) : List Value → List α → List Log.Record → Prop
  | nil : Accounts build path replaced [] [] []
  | built {p : Value} {a : α} {ps : List Value} {as : List α} {log : List Log.Record}
    (inline : p.get? "$ref" = none) (ok : build p = .ok a)
    (rest : Accounts build path replaced ps as log) :
    Accounts build path replaced (p :: ps) (a :: as) log
  | replaced {p : Value} {ps : List Value} {as : List α} {log : List Log.Record}
    (isReplaced : replaced p) (rest : Accounts build path replaced ps as log) :
    Accounts build path replaced (p :: ps) as log
  | reference {p target : Value} {ps : List Value} {as : List α} {log : List Log.Record}
    (found : p.get? "$ref" = some target) (rest : Accounts build path replaced ps as log) :
    Accounts build path replaced (p :: ps) as (skipped path target :: log)

theorem isSkip_skipped (path : String) (target : Value) : isSkip (skipped path target) = true := by
  rw [isSkip, Text.startsWith, skipped]
  simp only [String.toList_append, List.append_assoc]
  exact List.isPrefixOf_iff_prefix.mpr (List.prefix_append _ _)

/-- If more is left of a list with an element than without it, the element is left. -/
theorem kept_of_length_lt {dropped : Value → Bool} (p : Value) {ps : List Value} {n : Nat}
    (hLe : (ps.filter (!dropped ·)).length ≤ n) (hLt : n < ((p :: ps).filter (!dropped ·)).length) :
    dropped p ≠ true ∧ n ≤ (ps.filter (!dropped ·)).length := by
  rw [List.filter_cons] at hLt
  split at hLt
  · rename_i hKept
    simp only [List.length_cons] at hLt
    exact ⟨by simpa using hKept, by omega⟩
  · omega

namespace Accounts

variable {α : Type} {build : Value → Except Failure α} {path : String} {replaced : Value → Prop}
  {ps qs : List Value} {as bs : List α} {log more : List Log.Record}

theorem mono {replaced' : Value → Prop} (h : Accounts build path replaced ps as log)
    (hMore : ∀ p ∈ ps, replaced p → replaced' p) : Accounts build path replaced' ps as log := by
  induction h with
  | nil => exact .nil
  | built inline ok _ ih =>
    exact .built inline ok (ih fun p hp => hMore p (List.mem_cons_of_mem _ hp))
  | replaced isReplaced _ ih =>
    exact .replaced (hMore _ List.mem_cons_self isReplaced)
      (ih fun p hp => hMore p (List.mem_cons_of_mem _ hp))
  | reference found _ ih =>
    exact .reference found (ih fun p hp => hMore p (List.mem_cons_of_mem _ hp))

theorem of_append (h : Accounts build path replaced (ps ++ qs) as log) :
    ∃ as₁ as₂ log₁ log₂, as = as₁ ++ as₂ ∧ log = log₁ ++ log₂ ∧
      Accounts build path replaced ps as₁ log₁ ∧ Accounts build path replaced qs as₂ log₂ := by
  induction ps generalizing as log with
  | nil => exact ⟨[], as, [], log, rfl, rfl, .nil, h⟩
  | cons p ps ih =>
    cases h with
    | built inline ok rest =>
      obtain ⟨as₁, as₂, log₁, log₂, rfl, rfl, hFirst, hSecond⟩ := ih rest
      exact ⟨_ :: as₁, as₂, log₁, log₂, rfl, rfl, .built inline ok hFirst, hSecond⟩
    | replaced isReplaced rest =>
      obtain ⟨as₁, as₂, log₁, log₂, rfl, rfl, hFirst, hSecond⟩ := ih rest
      exact ⟨as₁, as₂, log₁, log₂, rfl, rfl, .replaced isReplaced hFirst, hSecond⟩
    | reference found rest =>
      obtain ⟨as₁, as₂, log₁, log₂, rfl, rfl, hFirst, hSecond⟩ := ih rest
      exact ⟨as₁, as₂, _ :: log₁, log₂, rfl, rfl, .reference found hFirst, hSecond⟩

/-- What was left out before is replaced. -/
theorem of_filter {dropped : Value → Bool}
    (h : Accounts build path replaced (ps.filter (!dropped ·)) as log)
    (hDropped : ∀ p ∈ ps, dropped p = true → replaced p) :
    Accounts build path replaced ps as log := by
  induction ps generalizing as log with
  | nil => exact h
  | cons p ps ih =>
    have hRest := fun q hq => hDropped q (List.mem_cons_of_mem p hq)
    cases hp : dropped p with
    | true =>
      rw [List.filter_cons_of_neg (by simp [hp])] at h
      exact .replaced (hDropped p List.mem_cons_self hp) (ih h hRest)
    | false =>
      rw [List.filter_cons_of_pos (by simp [hp])] at h
      cases h with
      | built inline ok rest => exact .built inline ok (ih rest hRest)
      | replaced isReplaced rest => exact .replaced isReplaced (ih rest hRest)
      | reference found rest => exact .reference found (ih rest hRest)

/-- At least what is not replaced is built or warned of. -/
theorem length_filter_le {dropped : Value → Bool} (h : Accounts build path replaced ps as log)
    (hReplaced : ∀ p ∈ ps, replaced p → dropped p = true) :
    (ps.filter (!dropped ·)).length ≤ as.length + log.length := by
  induction h with
  | nil => exact Nat.le_refl _
  | built _ _ _ ih =>
    have hRest := ih fun p hp => hReplaced p (List.mem_cons_of_mem _ hp)
    rw [List.filter_cons]
    split <;> simp only [List.length_cons] <;> omega
  | replaced isReplaced _ ih =>
    have hDropped := hReplaced _ List.mem_cons_self isReplaced
    rw [List.filter_cons_of_neg (by simp [hDropped])]
    exact ih fun p hp => hReplaced p (List.mem_cons_of_mem _ hp)
  | reference _ _ ih =>
    have hRest := ih fun p hp => hReplaced p (List.mem_cons_of_mem _ hp)
    rw [List.filter_cons]
    split <;> simp only [List.length_cons] <;> omega

/-- Without replacing, everything is built or warned of. -/
theorem length_eq (h : Accounts build path (fun _ => False) ps as log) :
    as.length + log.length = ps.length := by
  induction h with
  | nil => rfl
  | built _ _ _ ih => simp only [List.length_cons]; omega
  | replaced isReplaced => exact isReplaced.elim
  | reference _ _ ih => simp only [List.length_cons]; omega

/-- If no more is built or warned of than was not left out, all that was left out is replaced. -/
theorem replaced_of_length_le {dropped : Value → Bool} (h : Accounts build path replaced ps as log)
    (hReplaced : ∀ p ∈ ps, replaced p → dropped p = true)
    (hLength : as.length + log.length ≤ (ps.filter (!dropped ·)).length) :
    ∀ p ∈ ps, dropped p = true → replaced p := by
  induction h with
  | nil => nofun
  | @built p a ps as log _ _ rest ih =>
    have hRest := fun q hq => hReplaced q (List.mem_cons_of_mem p hq)
    simp only [List.length_cons] at hLength
    obtain ⟨hKept, hLe⟩ := kept_of_length_lt p (rest.length_filter_le hRest) (by omega)
    exact List.forall_mem_cons.mpr ⟨fun hDropped => absurd hDropped hKept, ih hRest hLe⟩
  | @replaced p ps as log isReplaced rest ih =>
    have hDropped := hReplaced p List.mem_cons_self isReplaced
    rw [List.filter_cons_of_neg (by simp [hDropped])] at hLength
    have hRest := ih (fun q hq => hReplaced q (List.mem_cons_of_mem p hq)) hLength
    exact List.forall_mem_cons.mpr ⟨fun _ => isReplaced, hRest⟩
  | @reference p target ps as log _ rest ih =>
    have hRest := fun q hq => hReplaced q (List.mem_cons_of_mem p hq)
    simp only [List.length_cons] at hLength
    obtain ⟨hKept, hLe⟩ := kept_of_length_lt p (rest.length_filter_le hRest) (by omega)
    exact List.forall_mem_cons.mpr ⟨fun hDropped => absurd hDropped hKept, ih hRest hLe⟩

theorem isSkip_of_mem (h : Accounts build path replaced ps as log) : ∀ r ∈ log, isSkip r = true := by
  induction h with
  | nil => nofun
  | built _ _ _ ih => exact ih
  | replaced _ _ ih => exact ih
  | reference _ _ ih => exact List.forall_mem_cons.mpr ⟨isSkip_skipped path _, ih⟩

end Accounts

/-! ### Building with an account -/

section Building

variable {α : Type} {build : Value → Except Failure α} {path : String}

theorem parameters_accounts {ps : List Value} {as : List α} {log : List Log.Record}
    (h : parameters build path ps = ⟨log, .ok as⟩) :
    Accounts build path (fun _ => False) ps as log := by
  induction ps generalizing as log with
  | nil =>
    cases h
    exact .nil
  | cons p rest ih =>
    rw [parameters] at h
    cases hRef : p.get? "$ref" with
    | some target =>
      rw [hRef] at h
      obtain ⟨_, first, second, hWarning, hRest, rfl⟩ := Logged.bind_eq_mk h
      obtain ⟨rfl, -⟩ := Logged.mk.inj hWarning
      exact .reference hRef (ih hRest)
    | none =>
      rw [hRef] at h
      obtain ⟨a, hBuilt, h⟩ := Logged.ofExcept_bind_eq_mk h
      obtain ⟨as, first, second, hRest, hCons, rfl⟩ := Logged.bind_eq_mk h
      obtain ⟨rfl, hAs⟩ := Logged.mk.inj hCons
      obtain rfl := Except.ok.inj hAs
      rw [List.append_nil]
      exact .built hRef hBuilt (ih hRest)

/-- All parameters that are written down are accounted for, those of the path before those of the
operation, of which only the ones that satisfy `replaces` replace a parameter of the path with their
name and place. -/
def AccountedFor (build : Value → Except Failure α) (path : String) (shared own : List Value)
    (replaces : Value → Prop) (as : List α) (log : List Log.Record) : Prop :=
  ∃ as₁ as₂ log₁ log₂, as = as₁ ++ as₂ ∧ log = log₁ ++ log₂ ∧
    Accounts build path (fun p => ∃ q ∈ objects own, replaces q ∧ key q = key p) (objects shared)
      as₁ log₁ ∧
    Accounts build path (fun _ => False) (objects own) as₂ log₂

/-- A parameter that is no reference. -/
def Inline (p : Value) : Prop := p.get? "$ref" = none

variable {shared own ps : List Value} {as : List α} {log : List Log.Record}

theorem accountedFor_of_merge (hMerge : merge shared own = .ok ps)
    (h : parameters build path ps = ⟨log, .ok as⟩) :
    AccountedFor build path shared own (fun _ => True) as log := by
  obtain ⟨-, rfl⟩ := merge_eq_ok_iff.mp hMerge
  obtain ⟨as₁, as₂, log₁, log₂, hAs, hLog, hShared, hOwn⟩ := (parameters_accounts h).of_append
  refine ⟨as₁, as₂, log₁, log₂, hAs, hLog, ?_, hOwn⟩
  refine (hShared.mono fun _ _ hNone => hNone.elim).of_filter fun p _ hOverrides => ?_
  obtain ⟨q, hq, hKey⟩ := overrides_iff.mp hOverrides
  exact ⟨q, hq, trivial, hKey⟩

/-- Parameters that are replaced by references are not accounted for. -/
theorem accountedFor_inline_iff (hMerge : merge shared own = .ok ps)
    (h : parameters build path ps = ⟨log, .ok as⟩) :
    AccountedFor build path shared own Inline as log ↔
      ∀ p ∈ objects shared, overrides own p = true →
        ∃ q ∈ objects own, Inline q ∧ key q = key p := by
  obtain ⟨-, rfl⟩ := merge_eq_ok_iff.mp hMerge
  have hAll := parameters_accounts h
  constructor
  · rintro ⟨as₁, as₂, log₁, log₂, rfl, hLog, hShared, hOwn⟩
    -- As much is built or warned of as is merged, so that nothing else of the path is replaced.
    have hLength := hAll.length_eq
    have hOwnLength := hOwn.length_eq
    rw [hLog, merged] at hLength
    simp only [List.length_append] at hLength
    refine hShared.replaced_of_length_le (fun p _ hReplaced => ?_) (by omega)
    obtain ⟨q, hq, -, hKey⟩ := hReplaced
    exact overrides_iff.mpr ⟨q, hq, hKey⟩
  · intro hInline
    obtain ⟨as₁, as₂, log₁, log₂, hAs, hLog, hShared, hOwn⟩ := hAll.of_append
    exact ⟨as₁, as₂, log₁, log₂, hAs, hLog,
      (hShared.mono fun _ _ hNone => hNone.elim).of_filter hInline, hOwn⟩

end Building

/-- All parameters that are written down for an operation are accounted for by those that it is built
with and a log. -/
def AccountsFor (path : String) (shared own : List Value) (replaces : Value → Prop)
    (log : List Log.Record) : Operation → Prop
  | .swagger op => AccountedFor swaggerParameter path shared own replaces op.parameters log
  | .openApi op => AccountedFor openApiParameter path shared own replaces op.parameters log

theorem requestBody_skips (v : Value) : (requestBody v).log.filter isSkip = [] := by
  unfold requestBody
  split
  · split
    · refine List.filter_eq_nil_iff.mpr fun r hr => ?_
      obtain rfl := List.mem_singleton.mp hr
      simp [isSkip, Text.startsWith, String.toList_append]
    · rfl
  · rfl

theorem parameters_of_swaggerOperation {path : String} {raw : Value} {ps : List Value}
    {log : List Log.Record} {op : Swagger.Operation}
    (h : swaggerOperation path raw ps = ⟨log, .ok op⟩) :
    parameters swaggerParameter path ps = ⟨log, .ok op.parameters⟩ := by
  obtain ⟨id, -, h⟩ := Logged.ofExcept_bind_eq_mk h
  obtain ⟨description, -, h⟩ := Logged.ofExcept_bind_eq_mk h
  obtain ⟨as, first, second, hParameters, hMedia, rfl⟩ := Logged.bind_eq_mk h
  obtain ⟨consumes, -, hMedia⟩ := Logged.ofExcept_bind_eq_mk hMedia
  obtain ⟨produces, -, hMedia⟩ := Logged.ofExcept_bind_eq_mk hMedia
  obtain ⟨rfl, hOp⟩ := Logged.mk.inj hMedia
  obtain rfl := Except.ok.inj hOp
  rw [hParameters, List.append_nil]

theorem parameters_of_openApiOperation {path : String} {raw : Value} {ps : List Value}
    {log : List Log.Record} {op : OpenApi.Operation}
    (h : openApiOperation path raw ps = ⟨log, .ok op⟩) :
    ∃ first, parameters openApiParameter path ps = ⟨first, .ok op.parameters⟩ ∧
      log = first ++ (requestBody (raw.get "requestBody")).log := by
  obtain ⟨id, -, h⟩ := Logged.ofExcept_bind_eq_mk h
  obtain ⟨description, -, h⟩ := Logged.ofExcept_bind_eq_mk h
  obtain ⟨as, first, second, hParameters, hBoth, rfl⟩ := Logged.bind_eq_mk h
  obtain ⟨body, third, fourth, hBody, hAnswers, rfl⟩ := Logged.bind_eq_mk hBoth
  obtain ⟨answers, -, hAnswers⟩ := Logged.ofExcept_bind_eq_mk hAnswers
  obtain ⟨rfl, hOp⟩ := Logged.mk.inj hAnswers
  obtain rfl := Except.ok.inj hOp
  exact ⟨first, hParameters, by rw [hBody, List.append_nil]⟩

/-- An operation has the parameters that are built of a list, with a log. -/
def BuiltWith (path : String) (ps : List Value) (log : List Log.Record) : Operation → Prop
  | .swagger op => parameters swaggerParameter path ps = ⟨log, .ok op.parameters⟩
  | .openApi op => parameters openApiParameter path ps = ⟨log, .ok op.parameters⟩

/-- An operation has the parameters that are built of what is merged, and of all that is logged these
leave the warnings of skipped parameters. -/
theorem operation_builtWith {version : Document.Version} {path : String} {raw : Value}
    {shared : List Value} {log : List Log.Record} {op : Operation}
    (h : operation version path raw shared = ⟨log, .ok op⟩) :
    ∃ ps, merge shared (raw.get "parameters").items = .ok ps ∧
      BuiltWith path ps (log.filter isSkip) op := by
  have hSkips {α : Type} {build : Value → Except Failure α} {ps : List Value} {as : List α}
      {log : List Log.Record} (hBuilt : parameters build path ps = ⟨log, .ok as⟩) :
      log.filter isSkip = log := List.filter_eq_self.mpr (parameters_accounts hBuilt).isSkip_of_mem
  obtain ⟨ps, hMerge, h⟩ := Logged.ofExcept_bind_eq_mk h
  refine ⟨ps, hMerge, ?_⟩
  cases version with
  | swagger =>
    obtain ⟨built, first, second, hBuilt, hPure, rfl⟩ := Logged.bind_eq_mk h
    obtain ⟨rfl, hOp⟩ := Logged.mk.inj hPure
    obtain rfl := Except.ok.inj hOp
    have hParameters := parameters_of_swaggerOperation hBuilt
    rw [List.append_nil, hSkips hParameters]
    exact hParameters
  | openApi =>
    obtain ⟨built, first, second, hBuilt, hPure, rfl⟩ := Logged.bind_eq_mk h
    obtain ⟨rfl, hOp⟩ := Logged.mk.inj hPure
    obtain rfl := Except.ok.inj hOp
    obtain ⟨log, hParameters, rfl⟩ := parameters_of_openApiOperation hBuilt
    rw [List.append_nil, List.filter_append, requestBody_skips, List.append_nil,
      hSkips hParameters]
    exact hParameters
  | unknown n => cases (Logged.mk.inj h).2

section Accounting

variable {path : String} {shared own ps : List Value} {log : List Log.Record} {op : Operation}

theorem BuiltWith.accountsFor (hMerge : merge shared own = .ok ps) (h : BuiltWith path ps log op) :
    AccountsFor path shared own (fun _ => True) log op := by
  cases op with
  | swagger op => exact accountedFor_of_merge hMerge h
  | openApi op => exact accountedFor_of_merge hMerge h

theorem BuiltWith.accountsFor_inline_iff (hMerge : merge shared own = .ok ps)
    (h : BuiltWith path ps log op) :
    AccountsFor path shared own Inline log op ↔
      ∀ p ∈ objects shared, overrides own p = true →
        ∃ q ∈ objects own, Inline q ∧ key q = key p := by
  cases op with
  | swagger op => exact accountedFor_inline_iff hMerge h
  | openApi op => exact accountedFor_inline_iff hMerge h

end Accounting

/-- An operation is built unless an integer of too many digits is in the way, and its building
accounts for all parameters that are written down: each is built, or is left out as a reference with a
warning of its own, or is a parameter of the path that one of the operation replaces.  The one that
replaces it is no reference, except where only references of the operation have its name and place. -/
theorem operation_accounts (version : Document.Version) (path : String) (raw : Value)
    (shared : List Value) :
    let own := (raw.get "parameters").items
    (version = .swagger ∨ version = .openApi → raw.Textual → (∀ p ∈ shared, p.Textual) →
      ∃ log op, operation version path raw shared = ⟨log, .ok op⟩) ∧
    ∀ log op, operation version path raw shared = ⟨log, .ok op⟩ →
      AccountsFor path shared own (fun _ => True) (log.filter isSkip) op ∧
      (AccountsFor path shared own Inline (log.filter isSkip) op ↔
        ∀ p ∈ objects shared, overrides own p = true →
          ∃ q ∈ objects own, Inline q ∧ key q = key p) := by
  refine ⟨fun hVersion hRaw hShared => ?_, fun log op hOperation => ?_⟩
  · cases hOutcome : (operation version path raw shared).outcome with
    | ok op => exact ⟨_, op, Logged.ext rfl hOutcome⟩
    | error e =>
      have hNot := ((operation_reading hVersion path raw shared).outcome.failure e hOutcome).2
      exact absurd ⟨hRaw, hShared⟩ hNot
  · obtain ⟨ps, hMerge, hBuilt⟩ := operation_builtWith hOperation
    exact ⟨hBuilt.accountsFor hMerge, hBuilt.accountsFor_inline_iff hMerge⟩

def pagedSearch : Value :=
  .ofNamed [("operationId", .str "findPets"),
    ("parameters", .list [
      .ofNamed [("name", .str "size"), ("in", .str "query"), ("type", .str "integer")],
      .ofNamed [("$ref", .str "#/parameters/order")]])]

def sharedSize : Value := .ofNamed [("name", .str "size"), ("in", .str "query")]

theorem operation_accounts_pagedSearch :
    ∃ log op, operation .swagger "/pets" pagedSearch [sharedSize, traceHeader] = ⟨log, .ok op⟩ ∧
      AccountsFor "/pets" [sharedSize, traceHeader] (pagedSearch.get "parameters").items Inline
        (log.filter isSkip) op := by
  obtain ⟨hBuilds, hAccounts⟩ :=
    operation_accounts .swagger "/pets" pagedSearch [sharedSize, traceHeader]
  obtain ⟨log, op, hOperation⟩ := hBuilds (.inl rfl) (by decide +kernel) (by decide +kernel)
  refine ⟨log, op, hOperation, (hAccounts log op hOperation).2.mpr ?_⟩
  have hTrace : overrides (pagedSearch.get "parameters").items traceHeader = false := by
    decide +kernel
  refine List.forall_mem_cons.mpr ⟨fun _ => ?_, List.forall_mem_singleton.mpr fun hOverrides => ?_⟩
  · exact ⟨_, List.mem_cons_self, rfl, by decide +kernel⟩
  · rw [hTrace] at hOverrides
    cases hOverrides

def sharedReference : Value := .ofNamed [("$ref", .str "#/parameters/page")]

def referringSearch : Value :=
  .ofNamed [("operationId", .str "findPets"),
    ("parameters", .list [.ofNamed [("$ref", .str "#/parameters/size")]])]

/-- References have neither a name nor a place, so that one of the operation replaces those of the
path, and nothing is left of these, not even a warning. -/
theorem operation_referringSearch :
    let log := [skipped "/pets" (.str "#/parameters/size")]
    ∃ op, operation .swagger "/pets" referringSearch [sharedReference] = ⟨log, .ok op⟩ ∧
      ¬AccountsFor "/pets" [sharedReference] (referringSearch.get "parameters").items Inline
        (log.filter isSkip) op := by
  have hMerge : merge [sharedReference] (referringSearch.get "parameters").items =
      .ok [.ofNamed [("$ref", .str "#/parameters/size")]] := rfl
  have hOperation : operation .swagger "/pets" referringSearch [sharedReference] =
      ⟨[skipped "/pets" (.str "#/parameters/size")],
        .ok (.swagger ⟨"/pets", some "findPets", none, [], [], []⟩)⟩ := rfl
  refine ⟨_, hOperation, fun hAccounts => ?_⟩
  have hBuilt : BuiltWith "/pets" [.ofNamed [("$ref", .str "#/parameters/size")]]
      [skipped "/pets" (.str "#/parameters/size")]
      (.swagger ⟨"/pets", some "findPets", none, [], [], []⟩) := rfl
  obtain ⟨q, hq, hInline, -⟩ := (hBuilt.accountsFor_inline_iff hMerge).mp hAccounts
    sharedReference List.mem_cons_self (by decide +kernel)
  obtain rfl := List.mem_singleton.mp hq
  cases hInline

end Builder

end RestRoutes.Api
