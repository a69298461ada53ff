import RestRoutes.Proofs.Visit

/-! What a visit logs.  Parameters are described with warnings at most, so that all errors in the
log of a visit come from the destination. -/

namespace RestRoutes

open Api Visit

def Log.errors (log : List Log.Record) : List Log.Record := log.filter (·.level == .error)

theorem Log.errors_append (a b : List Log.Record) :
    Log.errors (a ++ b) = Log.errors a ++ Log.errors b := List.filter_append a b

theorem Log.errors_of_warnings {log : List Log.Record} (h : ∀ r ∈ log, r.level = .warning) :
    Log.errors log = [] := by
  refine List.filter_eq_nil_iff.mpr fun r hr => ?_
  simp [h r hr]

namespace Descriptor

open Logged

theorem formatNamed_warns (name : Option String) (parameter : String) :
    Logs (·.level = .warning) (formatNamed name parameter) := by
  unfold formatNamed
  split
  · exact .pure _
  · split
    · exact .pure _
    · split
      · exact .pure _
      · exact Logs.bind (.record rfl) fun _ => .pure _

theorem ofSwagger_warns (p : Swagger.Parameter) : Logs (·.level = .warning) (ofSwagger p) := by
  refine Logs.bind (.ofExcept _) fun location => ?_
  simp only
  split
  · exact Logs.bind (.pure _) fun _ => .pure _
  · refine Logs.bind ?_ fun _ => .pure _
    exact Logs.bind (.ofExcept _) fun _ => Logs.bind (.ofExcept _) fun _ =>
      (formatNamed_warns _ _).bind fun _ => .pure _

theorem ofOpenApi_warns (p : OpenApi.Parameter) : Logs (·.level = .warning) (ofOpenApi p) := by
  refine Logs.bind (.ofExcept _) fun location => ?_
  simp only
  split
  · exact Logs.bind (.pure _) fun _ => .pure _
  · exact Logs.bind (.ofExcept _) fun _ => .pure _

theorem ofOperation_warns (op : Operation) :
    ∀ p ∈ ofOperation op, Logs (·.level = .warning) p := by
  intro p hp
  cases op with
  | swagger op =>
    obtain ⟨q, -, rfl⟩ := List.mem_map.mp hp
    exact ofSwagger_warns q
  | openApi op =>
    obtain ⟨q, -, rfl⟩ := List.mem_map.mp hp
    exact ofOpenApi_warns q

end Descriptor

theorem emitParameters_warns {ps : List (Logged Descriptor)}
    (h : ∀ p ∈ ps, p.Logs (·.level = .warning)) :
    ∀ r ∈ (emitParameters ps).log, r.level = .warning := by
  induction ps with
  | nil => intro r hr; cases hr
  | cons p rest ih =>
    have hp := h p List.mem_cons_self
    cases ho : p.outcome with
    | error e =>
      rw [emitParameters_cons_of_error ho]
      exact hp
    | ok d =>
      rw [emitParameters_cons_of_ok ho]
      intro r hr
      exact (List.mem_append.mp hr).elim (hp r)
        (ih (fun q hq => h q (List.mem_cons_of_mem p hq)) r)

theorem emitOperation_errors {destination : Destination} {op : Operation}
    (h : Log.errors (destination op).log = []) (method : String) :
    Log.errors (emitOperation destination method op).log = [] := by
  have hParameters := Log.errors_of_warnings
    (emitParameters_warns (Descriptor.ofOperation_warns op))
  unfold emitOperation
  rw [emitAll_bind]
  cases hp : (emitParameters (Descriptor.ofOperation op)).outcome with
  | error e =>
    rw [Run.bind_of_error hp]
    exact hParameters
  | ok u =>
    rw [Run.bind_of_ok hp, emitAll_bind]
    simp only [Log.errors_append, hParameters, List.nil_append]
    cases ht : (destination op).outcome with
    | error e =>
      rw [Run.bind_of_error (x := Run.ofLogged (destination op)) ht]
      exact h
    | ok t =>
      rw [Run.bind_of_ok (x := Run.ofLogged (destination op)) ht]
      simpa [Run.emit] using h

/-- A visit logs no error of its own. -/
theorem visit_errors {destination : Destination} {op : Operation}
    (h : Log.errors (destination op).log = []) (filter : Filter) (method : String) :
    Log.errors (visit filter destination method op).log = [] := by
  cases ha : filter.accept op.id? with
  | error e => rw [visit_of_failedFilter ha]; rfl
  | ok accepted =>
    cases accepted with
    | false => rw [visit_of_rejected ha]; rfl
    | true => rw [visit_of_accepted ha]; exact emitOperation_errors h _

end RestRoutes
