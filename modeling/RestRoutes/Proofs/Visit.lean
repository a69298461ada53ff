import Mathlib.Data.List.Forall2
import RestRoutes.Proofs.Run
import RestRoutes.Visit

/-! What a visit leaves behind.  Every visit of an operation that the filter accepts emits a
passage: the header, the blocks of the parameters up to the first that is refused, the blocks of what
the operation takes besides, and the destination.  The passage has its destination exactly when the
visit ends well. -/

namespace RestRoutes.Visit

open Api

/-- The descriptors up to the first that is refused. -/
def leading : List (Logged Descriptor) → List Descriptor
  | [] => []
  | p :: rest =>
    match p.outcome with
    | .ok d => d :: leading rest
    | .error _ => []

/-- The part of the events that belongs to one operation. Its destination is missing when the visit
failed before it. -/
structure Passage where
  method : String
  op : Operation
  blocks : List Descriptor
  target : Option Argument

namespace Passage

def events (p : Passage) : List Event :=
  header p.method p.op ++ (p.blocks.flatMap block ++ (p.target.map fun t => ⟨"to", t⟩).toList)

/-- The passage of an operation that is emitted. -/
def ofOperation (destination : Destination) (method : String) (op : Operation) : Passage :=
  match (emitParameters (Descriptor.ofOperation op)).outcome with
  | .error _ => ⟨method, op, leading (Descriptor.ofOperation op), none⟩
  | .ok _ =>
    ⟨method, op, leading (Descriptor.ofOperation op) ++ extraDescriptors op,
      (destination op).outcome.toOption⟩

end Passage

/-! ### Parameters -/

theorem emitAll_bind {α : Type} (es : List Event) (f : Unit → Run α) :
    emitAll es >>= f = ⟨es ++ (f ()).events, (f ()).log, (f ()).outcome⟩ := by
  rw [Run.bind_of_ok (a := ()) rfl]
  rfl

theorem emitParameters_cons_of_ok {p : Logged Descriptor} {d : Descriptor}
    (h : p.outcome = .ok d) (rest : List (Logged Descriptor)) :
    emitParameters (p :: rest) =
      ⟨block d ++ (emitParameters rest).events, p.log ++ (emitParameters rest).log,
        (emitParameters rest).outcome⟩ := by
  rw [emitParameters, Run.bind_of_ok (x := Run.ofLogged p) h, emitAll_bind]
  rfl

theorem emitParameters_cons_of_error {p : Logged Descriptor} {e : Failure}
    (h : p.outcome = .error e) (rest : List (Logged Descriptor)) :
    emitParameters (p :: rest) = ⟨[], p.log, .error e⟩ := by
  rw [emitParameters, Run.bind_of_error (x := Run.ofLogged p) h]
  rfl

theorem emitParameters_events (ps : List (Logged Descriptor)) :
    (emitParameters ps).events = (leading ps).flatMap block := by
  induction ps with
  | nil => rfl
  | cons p rest ih =>
    cases h : p.outcome with
    | ok d => simp [emitParameters_cons_of_ok h, leading, h, ih]
    | error e => simp [emitParameters_cons_of_error h, leading, h]

/-- The parameters are emitted to the end exactly when each of them has a descriptor, and these are
then the leading ones. -/
theorem emitParameters_ok_iff (ps : List (Logged Descriptor)) :
    (emitParameters ps).outcome = .ok () ↔
      List.Forall₂ (fun p d => p.outcome = .ok d) ps (leading ps) := by
  induction ps with
  | nil => exact iff_of_true rfl .nil
  | cons p rest ih =>
    cases h : p.outcome with
    | ok d => simp [emitParameters_cons_of_ok h, leading, h, ih]
    | error e => simp [emitParameters_cons_of_error h, leading, h]

/-- As far as parameters have descriptors, these are the leading ones. -/
theorem leading_described (ps : List (Logged Descriptor)) :
    List.Forall₂ (fun p d => p.outcome = .ok d) (ps.take (leading ps).length) (leading ps) := by
  induction ps with
  | nil => exact .nil
  | cons p rest ih =>
    cases h : p.outcome with
    | ok d => simpa [leading, h] using ih
    | error e => simp [leading, h]

theorem emitParameters_ok_iff_forall (ps : List (Logged Descriptor)) :
    (emitParameters ps).outcome = .ok () ↔ ∀ p ∈ ps, ∃ d, p.outcome = .ok d := by
  induction ps with
  | nil => exact iff_of_true rfl (by simp)
  | cons p rest ih =>
    cases h : p.outcome with
    | ok d => simp [emitParameters_cons_of_ok h, h, ih]
    | error e => simp [emitParameters_cons_of_error h, h]

/-- Only the blocks of the descriptors matter. -/
theorem emitParameters_map {f : Descriptor → Descriptor} (h : ∀ d, block (f d) = block d)
    (ps : List (Logged Descriptor)) :
    emitParameters (ps.map (f <$> ·)) = emitParameters ps := by
  induction ps with
  | nil => rfl
  | cons p rest ih =>
    simp only [List.map_cons, emitParameters, Run.ofLogged_map, bind_map_left, h, ih]

theorem emitParameters_append (ps qs : List (Logged Descriptor)) :
    emitParameters (ps ++ qs) = emitParameters ps >>= fun _ => emitParameters qs := by
  induction ps with
  | nil => simp [emitParameters]
  | cons p rest ih => simp only [List.cons_append, emitParameters, ih, bind_assoc]

/-! ### Operations -/

theorem emitOperation_events (destination : Destination) (method : String) (op : Operation) :
    (emitOperation destination method op).events =
      (Passage.ofOperation destination method op).events := by
  unfold emitOperation Passage.ofOperation
  rw [emitAll_bind]
  cases hp : (emitParameters (Descriptor.ofOperation op)).outcome with
  | error e =>
    rw [Run.bind_of_error hp]
    simp [Passage.events, emitParameters_events]
  | ok u =>
    rw [Run.bind_of_ok hp, emitAll_bind]
    cases ht : (destination op).outcome with
    | error e =>
      rw [Run.bind_of_error (x := Run.ofLogged (destination op)) ht]
      simp [Passage.events, emitParameters_events, Except.toOption]
    | ok t =>
      rw [Run.bind_of_ok (x := Run.ofLogged (destination op)) ht]
      simp [Passage.events, emitParameters_events, Except.toOption, Run.emit]

theorem emitOperation_ok_iff (destination : Destination) (method : String) (op : Operation) :
    (emitOperation destination method op).outcome = .ok () ↔
      (emitParameters (Descriptor.ofOperation op)).outcome = .ok () ∧
        ∃ t, (destination op).outcome = .ok t := by
  unfold emitOperation
  rw [emitAll_bind]
  cases hp : (emitParameters (Descriptor.ofOperation op)).outcome with
  | error e => simp [Run.bind_of_error hp]
  | ok u =>
    rw [Run.bind_of_ok hp, emitAll_bind]
    cases ht : (destination op).outcome with
    | error e => simp [Run.bind_of_error (x := Run.ofLogged (destination op)) ht]
    | ok t => simp [Run.bind_of_ok (x := Run.ofLogged (destination op)) ht, Run.emit]

/-! ### Visits -/

theorem methodName_name (m : Method) : methodName m.name = m.name := by
  cases m <;> decide

theorem visit_of_rejected {filter : Filter} {op : Operation} (h : filter.accept op.id? = .ok false)
    (destination : Destination) (method : String) :
    visit filter destination method op =
      ⟨[], [⟨.debug, "Filtered out operation '" ++ idText op.id? ++ "'"⟩], .ok false⟩ := by
  rw [visit, Run.bind_of_ok (x := Run.ofExcept (filter.accept op.id?)) h]
  rfl

theorem visit_of_failedFilter {filter : Filter} {op : Operation} {e : Failure}
    (h : filter.accept op.id? = .error e) (destination : Destination) (method : String) :
    visit filter destination method op = ⟨[], [], .error e⟩ := by
  rw [visit, Run.bind_of_error (x := Run.ofExcept (filter.accept op.id?)) h]
  rfl

theorem visit_of_accepted {filter : Filter} {op : Operation} (h : filter.accept op.id? = .ok true)
    (destination : Destination) (method : String) :
    visit filter destination method op =
      ⟨(emitOperation destination (methodName method) op).events,
        (emitOperation destination (methodName method) op).log,
        (emitOperation destination (methodName method) op).outcome.map fun _ => true⟩ := by
  rw [visit, Run.bind_of_ok (x := Run.ofExcept (filter.accept op.id?)) h]
  simp only [Run.ofExcept_events, Run.ofExcept_log, List.nil_append, if_true]
  cases ho : (emitOperation destination (methodName method) op).outcome with
  | error e => rw [Run.bind_of_error ho]; rfl
  | ok u => simp [Run.bind_of_ok ho, Except.map]

theorem visit_outcome (filter : Filter) (destination : Destination) (method : String)
    (op : Operation) :
    (visit filter destination method op).outcome =
      filter.accept op.id? >>= fun accepted =>
        if accepted then
          (emitOperation destination (methodName method) op).outcome.map fun _ => true
        else .ok false := by
  cases h : filter.accept op.id? with
  | error e =>
    rw [visit_of_failedFilter h]
    rfl
  | ok accepted =>
    cases accepted with
    | false =>
      rw [visit_of_rejected h]
      rfl
    | true =>
      rw [visit_of_accepted h]
      rfl

/-- A visit emits exactly when it says so: the filter accepts the operation, each of its parameters
has a descriptor, and it has a destination. -/
theorem visit_emits_iff (filter : Filter) (destination : Destination) (method : String)
    (op : Operation) :
    (visit filter destination method op).outcome = .ok true ↔
      filter.accept op.id? = .ok true ∧
        (∀ p ∈ Descriptor.ofOperation op, ∃ d, p.outcome = .ok d) ∧
        ∃ t, (destination op).outcome = .ok t := by
  rw [← emitParameters_ok_iff_forall, ← emitOperation_ok_iff destination (methodName method),
    visit_outcome, except_bind_eq_ok]
  simp [except_map_eq_ok, Unique.exists_iff]

/-- A visit leaves an operation out exactly when the filter rejects it. -/
theorem visit_filtered_iff (filter : Filter) (destination : Destination) (method : String)
    (op : Operation) :
    (visit filter destination method op).outcome = .ok false ↔
      filter.accept op.id? = .ok false := by
  rw [visit_outcome, except_bind_eq_ok]
  simp [except_map_eq_ok]

end RestRoutes.Visit
