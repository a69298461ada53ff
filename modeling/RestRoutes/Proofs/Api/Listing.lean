import Mathlib.Data.List.Forall2
import RestRoutes.Api.Listing
import RestRoutes.Proofs.Run

/-! Listings of the operations of a document.  Whatever is collected from them is collected from the
same operations in the same order, also where the document is read as one of another generation. -/

namespace RestRoutes.Api.Listing

variable {α : Type}

/-! ### One listing after another -/

theorem append_failure {a b : Listing α} :
    (a.append b).failure = Option.none ↔ a.failure = Option.none ∧ b.failure = Option.none := by
  unfold append
  cases h : a.failure <;> simp

theorem append_items {a : Listing α} (h : a.failure = Option.none) (b : Listing α) :
    (a.append b).items = a.items ++ b.items := by
  simp only [append, h]

theorem ofLogged_failure {x : Logged α} :
    (ofLogged x).failure = Option.none ↔ ∃ a, x.outcome = .ok a := by
  unfold ofLogged
  cases x.outcome <;> simp

theorem ofLogged_items {x : Logged α} {a : α} (h : x.outcome = .ok a) : (ofLogged x).items = [a] := by
  simp only [ofLogged, h]

/-! ### What is collected from the operations -/

section Collecting

variable {version : Document.Version} {f : Method → Operation → Except Failure α}
  {row : Method × Operation → α}

theorem ofPath_of_operations {path : String} {shared : List Value} (raws : List (Method × Value))
    (h : (ofPath version (fun m op => .ok (m, op)) path shared raws).failure = Option.none)
    (hRow : ∀ e ∈ (ofPath version (fun m op => .ok (m, op)) path shared raws).items,
      f e.1 e.2 = .ok (row e)) :
    (ofPath version f path shared raws).failure = Option.none ∧
      (ofPath version f path shared raws).items =
        (ofPath version (fun m op => .ok (m, op)) path shared raws).items.map row := by
  induction raws with
  | nil => exact ⟨rfl, rfl⟩
  | cons e rest ih =>
    obtain ⟨m, raw⟩ := e
    rw [ofPath] at h hRow
    obtain ⟨hFirst, hRest⟩ := append_failure.mp h
    obtain ⟨listed, hListed⟩ := ofLogged_failure.mp hFirst
    obtain ⟨op, hOp, hPair⟩ := Logged.bind_eq_ok.mp hListed
    obtain rfl := Except.ok.inj hPair
    rw [append_items hFirst, ofLogged_items hListed] at hRow
    have hHere : f m op = .ok (row (m, op)) := hRow _ (List.mem_append_left _ (.head _))
    have hOwn : (Builder.operation version path raw shared >>= fun op =>
        Logged.ofExcept (f m op)).outcome = .ok (row (m, op)) :=
      Logged.bind_eq_ok.mpr ⟨op, hOp, hHere⟩
    have hOwnFailure := ofLogged_failure.mpr ⟨_, hOwn⟩
    obtain ⟨hFailure, hItems⟩ := ih hRest fun e he => hRow e (List.mem_append_right _ he)
    rw [ofPath, ofPath, append_items hFirst, append_items hOwnFailure]
    refine ⟨append_failure.mpr ⟨hOwnFailure, hFailure⟩, ?_⟩
    rw [ofLogged_items hListed, ofLogged_items hOwn, hItems]
    rfl

theorem ofPaths_of_operations (es : List (Value × Value))
    (h : (ofPaths version (fun m op => .ok (m, op)) es).failure = Option.none)
    (hRow : ∀ e ∈ (ofPaths version (fun m op => .ok (m, op)) es).items, f e.1 e.2 = .ok (row e)) :
    (ofPaths version f es).failure = Option.none ∧
      (ofPaths version f es).items =
        (ofPaths version (fun m op => .ok (m, op)) es).items.map row := by
  induction es with
  | nil => exact ⟨rfl, rfl⟩
  | cons e rest ih =>
    obtain ⟨key, item⟩ := e
    cases hKey : key.textOrFail with
    | error failure =>
      rw [ofPaths, hKey] at h
      cases h
    | ok path =>
      simp only [ofPaths, hKey] at h hRow ⊢
      obtain ⟨hFirst, hRest⟩ := append_failure.mp h
      rw [append_items hFirst] at hRow ⊢
      obtain ⟨hOwnFailure, hOwn⟩ := ofPath_of_operations _ hFirst fun e he =>
        hRow e (List.mem_append_left _ he)
      obtain ⟨hFailure, hItems⟩ := ih hRest fun e he => hRow e (List.mem_append_right _ he)
      refine ⟨append_failure.mpr ⟨hOwnFailure, hFailure⟩, ?_⟩
      rw [append_items hOwnFailure, hOwn, hItems, List.map_append]

/-- What was collected is collected from operations that can all be listed, from each something. -/
theorem ofPath_collected {path : String} {shared : List Value} (raws : List (Method × Value))
    (h : (ofPath version f path shared raws).failure = Option.none) :
    (ofPath version (fun m op => .ok (m, op)) path shared raws).failure = Option.none ∧
      List.Forall₂ (fun e a => f e.1 e.2 = .ok a)
        (ofPath version (fun m op => .ok (m, op)) path shared raws).items
        (ofPath version f path shared raws).items := by
  induction raws with
  | nil => exact ⟨rfl, .nil⟩
  | cons e rest ih =>
    obtain ⟨m, raw⟩ := e
    rw [ofPath] at h
    obtain ⟨hFirst, hRest⟩ := append_failure.mp h
    obtain ⟨a, ha⟩ := ofLogged_failure.mp hFirst
    obtain ⟨op, hOp, hf⟩ := Logged.bind_eq_ok.mp ha
    have hListed : (Builder.operation version path raw shared >>= fun op =>
        Logged.ofExcept (.ok (m, op))).outcome = .ok (m, op) :=
      Logged.bind_eq_ok.mpr ⟨op, hOp, rfl⟩
    have hListedFailure := ofLogged_failure.mpr ⟨_, hListed⟩
    obtain ⟨hFailure, hItems⟩ := ih hRest
    rw [ofPath, ofPath, append_items hFirst, append_items hListedFailure, ofLogged_items ha,
      ofLogged_items hListed]
    exact ⟨append_failure.mpr ⟨hListedFailure, hFailure⟩, .cons hf hItems⟩

theorem ofPaths_collected (es : List (Value × Value))
    (h : (ofPaths version f es).failure = Option.none) :
    (ofPaths version (fun m op => .ok (m, op)) es).failure = Option.none ∧
      List.Forall₂ (fun e a => f e.1 e.2 = .ok a)
        (ofPaths version (fun m op => .ok (m, op)) es).items (ofPaths version f es).items := by
  induction es with
  | nil => exact ⟨rfl, .nil⟩
  | cons e rest ih =>
    obtain ⟨key, item⟩ := e
    cases hKey : key.textOrFail with
    | error failure =>
      rw [ofPaths, hKey] at h
      cases h
    | ok path =>
      simp only [ofPaths, hKey] at h ⊢
      obtain ⟨hFirst, hRest⟩ := append_failure.mp h
      obtain ⟨hListed, hItems⟩ := ofPath_collected _ hFirst
      obtain ⟨hOthers, hOtherItems⟩ := ih hRest
      rw [append_items hFirst, append_items hListed]
      exact ⟨append_failure.mpr ⟨hListed, hOthers⟩, List.rel_append hItems hOtherItems⟩

theorem collect_collected {document : Value} (h : (collect document version f).failure = Option.none) :
    (operations document version).failure = Option.none ∧
      List.Forall₂ (fun e a => f e.1 e.2 = .ok a) (operations document version).items
        (collect document version f).items :=
  ofPaths_collected _ h

theorem collect_of_operations {document : Value}
    (h : (operations document version).failure = Option.none)
    (hRow : ∀ e ∈ (operations document version).items, f e.1 e.2 = .ok (row e)) :
    (collect document version f).failure = Option.none ∧
      (collect document version f).items = (operations document version).items.map row :=
  ofPaths_of_operations _ h hRow

end Collecting

/-! ### Documents read as of either generation -/

theorem swaggerOperation_id {path : String} {raw : Value} {params : List Value}
    {op : Swagger.Operation} (h : (Builder.swaggerOperation path raw params).outcome = .ok op) :
    op.path = path ∧ (raw.get "operationId").scalarText = .ok op.id := by
  obtain ⟨id, hId, h⟩ := Logged.bind_eq_ok.mp h
  obtain ⟨_, -, h⟩ := Logged.bind_eq_ok.mp h
  obtain ⟨_, -, h⟩ := Logged.bind_eq_ok.mp h
  obtain ⟨_, -, h⟩ := Logged.bind_eq_ok.mp h
  obtain ⟨_, -, h⟩ := Logged.bind_eq_ok.mp h
  obtain rfl := Except.ok.inj h
  exact ⟨rfl, hId⟩

theorem openApiOperation_id {path : String} {raw : Value} {params : List Value}
    {op : OpenApi.Operation} (h : (Builder.openApiOperation path raw params).outcome = .ok op) :
    op.path = path ∧ (raw.get "operationId").scalarText = .ok op.id := by
  obtain ⟨id, hId, h⟩ := Logged.bind_eq_ok.mp h
  obtain ⟨_, -, h⟩ := Logged.bind_eq_ok.mp h
  obtain ⟨_, -, h⟩ := Logged.bind_eq_ok.mp h
  obtain ⟨_, -, h⟩ := Logged.bind_eq_ok.mp h
  obtain ⟨_, -, h⟩ := Logged.bind_eq_ok.mp h
  obtain rfl := Except.ok.inj h
  exact ⟨rfl, hId⟩

/-- An operation has the path it was built for and the id that it is written down with, of whatever
generation it is. -/
theorem operation_id {version : Document.Version} {path : String} {raw : Value}
    {shared : List Value} {op : Operation}
    (h : (Builder.operation version path raw shared).outcome = .ok op) :
    op.path = path ∧ (raw.get "operationId").scalarText = .ok op.id? := by
  obtain ⟨params, -, h⟩ := Logged.bind_eq_ok.mp h
  cases version with
  | swagger =>
    obtain ⟨built, hBuilt, h⟩ := Logged.bind_eq_ok.mp h
    obtain rfl := Except.ok.inj h
    exact swaggerOperation_id hBuilt
  | openApi =>
    obtain ⟨built, hBuilt, h⟩ := Logged.bind_eq_ok.mp h
    obtain rfl := Except.ok.inj h
    exact openApiOperation_id hBuilt
  | unknown n => cases h

section Generations

variable {v w : Document.Version} {f : Method → Operation → Except Failure α}

theorem ofPath_items_eq
    (hf : ∀ m a b, a.path = b.path → a.id? = b.id? → f m a = f m b) {path : String}
    {shared : List Value} (raws : List (Method × Value))
    (hv : (ofPath v f path shared raws).failure = Option.none)
    (hw : (ofPath w f path shared raws).failure = Option.none) :
    (ofPath v f path shared raws).items = (ofPath w f path shared raws).items := by
  induction raws with
  | nil => rfl
  | cons e rest ih =>
    obtain ⟨m, raw⟩ := e
    rw [ofPath] at hv hw
    obtain ⟨hFirst, hRest⟩ := append_failure.mp hv
    obtain ⟨hFirst', hRest'⟩ := append_failure.mp hw
    obtain ⟨x, hx⟩ := ofLogged_failure.mp hFirst
    obtain ⟨y, hy⟩ := ofLogged_failure.mp hFirst'
    obtain ⟨a, ha, hfa⟩ := Logged.bind_eq_ok.mp hx
    obtain ⟨b, hb, hfb⟩ := Logged.bind_eq_ok.mp hy
    -- Both were built from the same entry, which names the path and the id of either.
    have hPath : a.path = b.path := (operation_id ha).1.trans (operation_id hb).1.symm
    have hId : a.id? = b.id? :=
      Except.ok.inj ((operation_id ha).2.symm.trans (operation_id hb).2)
    have hSame : x = y := by
      simp only [Logged.ofExcept_outcome] at hfa hfb
      rw [hf m a b hPath hId, hfb] at hfa
      exact (Except.ok.inj hfa).symm
    rw [ofPath, ofPath, append_items hFirst, append_items hFirst', ofLogged_items hx,
      ofLogged_items hy, hSame, ih hRest hRest']

theorem ofPaths_items_eq
    (hf : ∀ m a b, a.path = b.path → a.id? = b.id? → f m a = f m b) (es : List (Value × Value))
    (hv : (ofPaths v f es).failure = Option.none) (hw : (ofPaths w f es).failure = Option.none) :
    (ofPaths v f es).items = (ofPaths w f es).items := by
  induction es with
  | nil => rfl
  | cons e rest ih =>
    obtain ⟨key, item⟩ := e
    cases hKey : key.textOrFail with
    | error failure =>
      rw [ofPaths, hKey] at hv
      cases hv
    | ok path =>
      simp only [ofPaths, hKey] at hv hw ⊢
      obtain ⟨hFirst, hRest⟩ := append_failure.mp hv
      obtain ⟨hFirst', hRest'⟩ := append_failure.mp hw
      rw [append_items hFirst, append_items hFirst', ofPath_items_eq hf _ hFirst hFirst',
        ih hRest hRest']

/-- What depends on the paths and the ids of operations only does not depend on the generation that
the document is taken for. -/
theorem collect_items_eq (hf : ∀ m a b, a.path = b.path → a.id? = b.id? → f m a = f m b)
    {document : Value} (hv : (collect document v f).failure = Option.none)
    (hw : (collect document w f).failure = Option.none) :
    (collect document v f).items = (collect document w f).items :=
  ofPaths_items_eq hf _ hv hw

end Generations

end RestRoutes.Api.Listing
