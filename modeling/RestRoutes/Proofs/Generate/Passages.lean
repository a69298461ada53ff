import RestRoutes.Generate
import RestRoutes.Proofs.Visit

/-! The events of a whole run: those of the settings, then the `rest` event unless the base path
could not be made out, then one passage after another.  Only the last passage can lack its
destination, and only in a run that fails. -/

namespace RestRoutes

open Api Visit

/-- What a run emits are the given passages, with destinations that `destination` gives. -/
structure Passages {α : Type} (destination : Destination) (r : Run α) (ps : List Passage) :
    Prop where
  events : r.events = ps.flatMap Passage.events
  method : ∀ p ∈ ps, ∃ m : Method, p.method = m.name
  target : ∀ p ∈ ps, ∀ t, p.target = some t → (destination p.op).outcome = .ok t
  complete : ∀ p ∈ ps.dropLast, p.target.isSome
  ended : ∀ a, r.outcome = .ok a → ∀ p ∈ ps, p.target.isSome

namespace Passages

variable {α β : Type} {destination : Destination} {x : Run α} {ps qs : List Passage}

theorem nil (h : x.events = []) : Passages destination x [] :=
  ⟨h, by simp, by simp, by simp, by simp⟩

theorem of_error {f : α → Run β} {e : Failure} (hx : Passages destination x ps)
    (h : x.outcome = .error e) : Passages destination (x >>= f) ps := by
  rw [Run.bind_of_error h]
  exact ⟨hx.events, hx.method, hx.target, hx.complete, by simp⟩

theorem append {f : α → Run β} {a : α} (hx : Passages destination x ps) (h : x.outcome = .ok a)
    (hf : Passages destination (f a) qs) : Passages destination (x >>= f) (ps ++ qs) := by
  rw [Run.bind_of_ok h]
  refine ⟨?_, ?_, ?_, ?_, ?_⟩
  · simp [hx.events, hf.events]
  · intro p hp
    exact (List.mem_append.mp hp).elim (hx.method p) (hf.method p)
  · intro p hp
    exact (List.mem_append.mp hp).elim (hx.target p) (hf.target p)
  · intro p hp
    cases qs with
    | nil => exact hx.complete p (by simpa using hp)
    | cons q qs =>
      rw [List.dropLast_append_of_ne_nil (by simp)] at hp
      exact (List.mem_append.mp hp).elim (hx.ended a h p) (hf.complete p)
  · intro b hb p hp
    exact (List.mem_append.mp hp).elim (hx.ended a h p) (hf.ended b hb p)

/-- Staging keeps the passages of a run or drops them all. -/
theorem staged (hx : Passages destination x ps) :
    ∃ qs, Passages destination (Generator.staged x) qs := by
  unfold Generator.staged
  split
  · rename_i a h
    exact ⟨ps, hx.events, hx.method, hx.target, hx.complete, fun _ _ => hx.ended a h⟩
  · exact ⟨[], .nil rfl⟩
  · exact ⟨[], .nil rfl⟩

end Passages

/-- A run emits passages and nothing else. -/
def EmitsPassages {α : Type} (destination : Destination) (r : Run α) : Prop :=
  ∃ ps, Passages destination r ps

namespace EmitsPassages

variable {α β : Type} {destination : Destination} {x : Run α}

theorem of_events_eq_nil (h : x.events = []) : EmitsPassages destination x := ⟨[], .nil h⟩

theorem pure (a : α) : EmitsPassages destination (Pure.pure a : Run α) := of_events_eq_nil rfl

theorem bind {f : α → Run β} (hx : EmitsPassages destination x)
    (hf : ∀ a, EmitsPassages destination (f a)) : EmitsPassages destination (x >>= f) := by
  obtain ⟨ps, hps⟩ := hx
  cases h : x.outcome with
  | error e => exact ⟨ps, hps.of_error h⟩
  | ok a =>
    obtain ⟨qs, hqs⟩ := hf a
    exact ⟨ps ++ qs, hps.append h hqs⟩

theorem visit (filter : Filter) (destination : Destination) (m : Method) (op : Operation) :
    EmitsPassages destination (visit filter destination m.name op) := by
  cases h : filter.accept op.id? with
  | error e => exact of_events_eq_nil (by rw [visit_of_failedFilter h])
  | ok accepted =>
    cases accepted with
    | false => exact of_events_eq_nil (by rw [visit_of_rejected h])
    | true =>
      refine ⟨[.ofOperation destination m.name op], ?_, ?_, ?_, by simp, ?_⟩
      · simp [visit_of_accepted h, methodName_name, emitOperation_events]
      · simp only [List.mem_singleton, forall_eq]
        exact ⟨m, by unfold Passage.ofOperation; split <;> rfl⟩
      · simp only [List.mem_singleton, forall_eq]
        intro t ht
        unfold Passage.ofOperation at ht ⊢
        split at ht
        · cases ht
        · simp only at ht ⊢
          cases ho : (destination op).outcome <;> simp_all [Except.toOption]
      · intro a ha
        simp only [List.mem_singleton, forall_eq]
        have hok : (RestRoutes.Visit.visit filter destination m.name op).outcome = .ok true := by
          rw [visit_of_accepted h] at ha ⊢
          cases ho : (emitOperation destination (methodName m.name) op).outcome <;>
            simp_all [Except.map]
        obtain ⟨-, hp, t, ht⟩ := (visit_emits_iff _ _ _ _).mp hok
        rw [← emitParameters_ok_iff_forall] at hp
        simp [Passage.ofOperation, hp, ht, Except.toOption]

end EmitsPassages

namespace Generator

theorem visitOperation_passages (g : Generator) (m : Method) (op : Operation) :
    EmitsPassages g.destination (g.visitOperation m op) := by
  obtain ⟨ps, hps⟩ := EmitsPassages.visit g.filter g.destination m op
  unfold visitOperation
  cases g.continueOnError with
  | false => exact .bind ⟨ps, hps⟩ fun _ => .pure _
  | true =>
    refine .bind hps.staged fun outcome => ?_
    cases outcome with
    | ok emitted => exact .pure _
    | error r => exact .bind (.of_events_eq_nil rfl) fun _ => .pure _

theorem visitOperations_passages (g : Generator) (path : String) (shared : List Value)
    (raws : List (Method × Value)) :
    EmitsPassages g.destination (g.visitOperations path shared raws) := by
  induction raws with
  | nil => exact .pure _
  | cons raw rest ih =>
    refine .bind (.of_events_eq_nil rfl) fun op => ?_
    exact .bind (g.visitOperation_passages raw.1 op) fun _ => .bind ih fun _ => .pure _

theorem visitPaths_passages (g : Generator) (es : List (Value × Value)) :
    EmitsPassages g.destination (g.visitPaths es) := by
  induction es with
  | nil => exact .pure _
  | cons e rest ih =>
    refine .bind (.of_events_eq_nil rfl) fun path => ?_
    exact .bind (g.visitOperations_passages path _ _) fun _ => .bind ih fun _ => .pure _

/-! ### The preamble -/

def settingsEvents (g : Generator) : List Event := (g.rest.map configurationEvents).getD []

theorem generate_of_badBasePath {g : Generator} {e : Failure}
    (h : basePath g.document g.version = .error e) :
    g.generate = ⟨g.settingsEvents, [], .error e⟩ := by
  rw [generate, emitAll_bind, Run.bind_of_error (x := Run.ofExcept (basePath _ _)) h]
  simp [settingsEvents]

theorem generate_of_basePath {g : Generator} {path : Option String}
    (h : basePath g.document g.version = .ok path) :
    g.generate =
      ⟨g.settingsEvents ++ restEvent path :: (g.visitPaths (Builder.paths g.document)).events,
        (g.visitPaths (Builder.paths g.document)).log ++
          match (g.visitPaths (Builder.paths g.document)).outcome with
          | .ok report => [⟨.debug, summary report⟩]
          | .error _ => [],
        (g.visitPaths (Builder.paths g.document)).outcome⟩ := by
  rw [generate, emitAll_bind, Run.bind_of_ok (x := Run.ofExcept (basePath _ _)) h,
    Run.bind_of_ok (x := Run.emit (restEvent path)) rfl]
  cases ho : (g.visitPaths (Builder.paths g.document)).outcome with
  | error e => simp [Run.bind_of_error ho, Run.emit, settingsEvents]
  | ok report =>
    have hEnd : (Run.record .debug (summary report) >>= fun _ => pure report) =
        ⟨[], [⟨.debug, summary report⟩], .ok report⟩ := rfl
    rw [Run.bind_of_ok ho, hEnd]
    simp [Run.emit, settingsEvents]

end Generator

end RestRoutes
