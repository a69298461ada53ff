import RestRoutes.Run

/-! The laws of runs: what one computation after another leaves behind, by how the first ends, and
the properties of logs and outcomes that sequences of computations keep. -/

namespace RestRoutes

attribute [ext] Logged Run

/-! ### Outcomes -/

theorem except_bind_eq_ok {ε α β : Type} {x : Except ε α} {f : α → Except ε β} {b : β} :
    x >>= f = .ok b ↔ ∃ a, x = .ok a ∧ f a = .ok b := by
  cases x with
  | ok a => exact ⟨fun h => ⟨a, rfl, h⟩, by rintro ⟨_, ⟨⟩, h⟩; exact h⟩
  | error e => exact ⟨nofun, by rintro ⟨_, ⟨⟩, -⟩⟩

theorem except_map_eq_ok {ε α β : Type} {x : Except ε α} {f : α → β} {b : β} :
    x.map f = .ok b ↔ ∃ a, x = .ok a ∧ f a = b := by
  cases x with
  | ok a => exact ⟨fun h => ⟨a, rfl, Except.ok.inj h⟩, by rintro ⟨_, ⟨⟩, rfl⟩; rfl⟩
  | error e => exact ⟨nofun, by rintro ⟨_, ⟨⟩, -⟩⟩

theorem except_map_eq_error {ε α β : Type} {x : Except ε α} {f : α → β} {e : ε} :
    x.map f = .error e ↔ x = .error e := by
  cases x with
  | ok a => exact ⟨nofun, nofun⟩
  | error e' => exact ⟨fun h => congrArg Except.error (Except.error.inj h), by rintro ⟨⟩; rfl⟩

theorem except_bind_eq_error {ε α β : Type} {x : Except ε α} {f : α → Except ε β} {e : ε} :
    x >>= f = .error e ↔ x = .error e ∨ ∃ a, x = .ok a ∧ f a = .error e := by
  cases x with
  | ok a => exact ⟨fun h => .inr ⟨a, rfl, h⟩, by rintro (⟨⟨⟩⟩ | ⟨_, ⟨⟩, h⟩); exact h⟩
  | error e' =>
    exact ⟨fun h => .inl (congrArg Except.error (Except.error.inj h)), by
      rintro (⟨⟨⟩⟩ | ⟨_, ⟨⟩, -⟩); rfl⟩

theorem mapError_eq_ok {ε ε' α : Type} {f : ε → ε'} {x : Except ε α} {a : α} :
    x.mapError f = .ok a ↔ x = .ok a := by
  cases x with
  | ok b =>
    change Except.ok b = .ok a ↔ Except.ok b = .ok a
    rw [Except.ok.injEq, Except.ok.injEq]
  | error e => exact ⟨nofun, nofun⟩

/-! ### Outcomes that are no refusals -/

/-- The outcome is a value or a defect. -/
def Unrefused {α : Type} (x : Except Failure α) : Prop := ∀ r, x ≠ .error (.refusal r)

namespace Unrefused

variable {α β : Type}

theorem ok (a : α) : Unrefused (.ok a) := fun _ h => nomatch h

theorem defect (d : Defect) : Unrefused (α := α) (.error (.defect d)) := by
  intro r h
  cases h

theorem bind {x : Except Failure α} {f : α → Except Failure β} (hx : Unrefused x)
    (hf : ∀ a, Unrefused (f a)) : Unrefused (x >>= f) := by
  cases x with
  | ok a => exact hf a
  | error e =>
    intro r h
    exact hx r (congrArg Except.error (Except.error.inj h))

end Unrefused

/-! ### How an outcome may end -/

/-- An outcome is a value with a property, or a refusal of a kind, or a defect of a kind. -/
inductive Ends {α : Type} (value : α → Prop) (refused : Refusal → Prop) (stopped : Defect → Prop) :
    Except Failure α → Prop
  | ok {a : α} (h : value a) : Ends value refused stopped (.ok a)
  | refusal {r : Refusal} (h : refused r) : Ends value refused stopped (.error (.refusal r))
  | defect {d : Defect} (h : stopped d) : Ends value refused stopped (.error (.defect d))

theorem Ends.bind {α β : Type} {value : α → Prop} {value' : β → Prop} {refused : Refusal → Prop}
    {stopped : Defect → Prop} {x : Except Failure α} {f : α → Except Failure β}
    (hx : Ends value refused stopped x)
    (hf : ∀ a, x = .ok a → value a → Ends value' refused stopped (f a)) :
    Ends value' refused stopped (x >>= f) := by
  cases hx with
  | ok h => exact hf _ rfl h
  | refusal h => exact .refusal h
  | defect h => exact .defect h

theorem Ends.of_defects {α : Type} {value : α → Prop} {refused : Refusal → Prop}
    {stopped stopped' : Defect → Prop} {x : Except Failure α} (hx : Ends value refused stopped x)
    (h : ∀ d, stopped d → stopped' d) : Ends value refused stopped' x := by
  cases hx with
  | ok h => exact .ok h
  | refusal h => exact .refusal h
  | defect hd => exact .defect (h _ hd)

/-! ### Computations that log -/

namespace Logged

variable {α β γ : Type}

theorem bind_of_ok {x : Logged α} {a : α} (h : x.outcome = .ok a) (f : α → Logged β) :
    x >>= f = ⟨x.log ++ (f a).log, (f a).outcome⟩ := by
  simp only [Bind.bind, bind, h]

theorem bind_of_error {x : Logged α} {e : Failure} (h : x.outcome = .error e)
    (f : α → Logged β) : x >>= f = ⟨x.log, .error e⟩ := by
  simp only [Bind.bind, bind, h]

theorem ok_bind (a : α) (f : α → Logged β) : pure a >>= f = f a := by
  rw [bind_of_ok (x := pure a) rfl]
  rfl

theorem bind_ok (x : Logged α) : x >>= pure = x := by
  cases h : x.outcome with
  | ok a => rw [bind_of_ok h]; ext1 <;> simp [pure, ok, h]
  | error e => rw [bind_of_error h]; ext1 <;> simp [h]

theorem bind_bind (x : Logged α) (f : α → Logged β) (g : β → Logged γ) :
    x >>= f >>= g = x >>= fun a => f a >>= g := by
  cases hx : x.outcome with
  | error e => rw [bind_of_error hx, bind_of_error hx, bind_of_error rfl]
  | ok a =>
    rw [bind_of_ok hx, bind_of_ok hx]
    cases hf : (f a).outcome with
    | error e => rw [bind_of_error rfl, bind_of_error hf]
    | ok b =>
      rw [bind_of_ok (a := b) rfl, bind_of_ok hf]
      simp only [List.append_assoc]

instance : LawfulMonad Logged := LawfulMonad.mk' Logged bind_ok ok_bind bind_bind

@[simp] theorem pure_log (a : α) : (pure a : Logged α).log = [] := rfl

@[simp] theorem pure_outcome (a : α) : (pure a : Logged α).outcome = .ok a := rfl

@[simp] theorem ofExcept_log (x : Except Failure α) : (ofExcept x).log = [] := rfl

@[simp] theorem ofExcept_outcome (x : Except Failure α) : (ofExcept x).outcome = x := rfl

theorem ofExcept_pure (a : α) : ofExcept (pure a) = pure a := rfl

theorem ofExcept_bind (x : Except Failure α) (f : α → Except Failure β) :
    ofExcept (x >>= f) = ofExcept x >>= fun a => ofExcept (f a) := by
  cases x <;> rfl

theorem bind_outcome (x : Logged α) (f : α → Logged β) :
    (x >>= f).outcome = x.outcome >>= fun a => (f a).outcome := by
  cases h : x.outcome with
  | ok a => rw [bind_of_ok h]; rfl
  | error e => rw [bind_of_error h]; rfl

theorem bind_eq_ok {x : Logged α} {f : α → Logged β} {b : β} :
    (x >>= f).outcome = .ok b ↔ ∃ a, x.outcome = .ok a ∧ (f a).outcome = .ok b := by
  cases h : x.outcome with
  | ok a => simp [bind_of_ok h]
  | error e => simp [bind_of_error h]

/-- What goes well in two steps goes well in both, and logs what they log. -/
theorem bind_eq_mk {x : Logged α} {f : α → Logged β} {log : List Log.Record} {b : β}
    (h : x >>= f = ⟨log, .ok b⟩) :
    ∃ a first second, x = ⟨first, .ok a⟩ ∧ f a = ⟨second, .ok b⟩ ∧ log = first ++ second := by
  cases hx : x.outcome with
  | ok a =>
    rw [bind_of_ok hx] at h
    obtain ⟨hLog, hOutcome⟩ := Logged.mk.inj h
    exact ⟨a, x.log, (f a).log, Logged.ext rfl hx, Logged.ext rfl hOutcome, hLog.symm⟩
  | error e =>
    rw [bind_of_error hx] at h
    cases (Logged.mk.inj h).2

theorem ofExcept_bind_eq_mk {x : Except Failure α} {f : α → Logged β} {log : List Log.Record}
    {b : β} (h : ofExcept x >>= f = ⟨log, .ok b⟩) : ∃ a, x = .ok a ∧ f a = ⟨log, .ok b⟩ := by
  obtain ⟨a, first, second, hx, hf, rfl⟩ := bind_eq_mk h
  obtain ⟨rfl, hOutcome⟩ := Logged.mk.inj hx
  exact ⟨a, hOutcome, hf⟩

def Logs (P : Log.Record → Prop) (x : Logged α) : Prop := ∀ r ∈ x.log, P r

section Logs

variable {P : Log.Record → Prop}

theorem Logs.of_log_eq_nil {x : Logged α} (h : x.log = []) : Logs P x := by
  intro r hr
  rw [h] at hr
  cases hr

theorem Logs.pure (a : α) : Logs P (Pure.pure a : Logged α) := of_log_eq_nil rfl

theorem Logs.ofExcept (x : Except Failure α) : Logs P (Logged.ofExcept x) := of_log_eq_nil rfl

theorem Logs.record {level : Log.Level} {text : String} (h : P ⟨level, text⟩) :
    Logs P (Logged.record level text) := by
  intro r hr
  obtain rfl := List.mem_singleton.mp hr
  exact h

theorem Logs.bind {x : Logged α} {f : α → Logged β} (hx : Logs P x) (hf : ∀ a, Logs P (f a)) :
    Logs P (x >>= f) := by
  cases h : x.outcome with
  | ok a =>
    rw [bind_of_ok h]
    intro r hr
    exact (List.mem_append.mp hr).elim (hx r) (hf a r)
  | error e =>
    rw [bind_of_error h]
    exact hx

end Logs

end Logged

/-! ### Runs -/

namespace Run

variable {α β γ : Type}

theorem bind_of_ok {x : Run α} {a : α} (h : x.outcome = .ok a) (f : α → Run β) :
    x >>= f = ⟨x.events ++ (f a).events, x.log ++ (f a).log, (f a).outcome⟩ := by
  simp only [Bind.bind, bind, h]

theorem bind_of_error {x : Run α} {e : Failure} (h : x.outcome = .error e) (f : α → Run β) :
    x >>= f = ⟨x.events, x.log, .error e⟩ := by
  simp only [Bind.bind, bind, h]

theorem ok_bind (a : α) (f : α → Run β) : pure a >>= f = f a := by
  rw [bind_of_ok (x := pure a) rfl]
  rfl

theorem bind_ok (x : Run α) : x >>= pure = x := by
  cases h : x.outcome with
  | ok a => rw [bind_of_ok h]; ext1 <;> simp [pure, ok, h]
  | error e => rw [bind_of_error h]; ext1 <;> simp [h]

theorem bind_bind (x : Run α) (f : α → Run β) (g : β → Run γ) :
    x >>= f >>= g = x >>= fun a => f a >>= g := by
  cases hx : x.outcome with
  | error e => rw [bind_of_error hx, bind_of_error hx, bind_of_error rfl]
  | ok a =>
    rw [bind_of_ok hx, bind_of_ok hx]
    cases hf : (f a).outcome with
    | error e => rw [bind_of_error rfl, bind_of_error hf]
    | ok b =>
      rw [bind_of_ok (a := b) rfl, bind_of_ok hf]
      simp only [List.append_assoc]

instance : LawfulMonad Run := LawfulMonad.mk' Run bind_ok ok_bind bind_bind

@[simp] theorem pure_events (a : α) : (pure a : Run α).events = [] := rfl

@[simp] theorem pure_log (a : α) : (pure a : Run α).log = [] := rfl

@[simp] theorem pure_outcome (a : α) : (pure a : Run α).outcome = .ok a := rfl

@[simp] theorem ofLogged_events (x : Logged α) : (ofLogged x).events = [] := rfl

@[simp] theorem ofLogged_log (x : Logged α) : (ofLogged x).log = x.log := rfl

@[simp] theorem ofLogged_outcome (x : Logged α) : (ofLogged x).outcome = x.outcome := rfl

@[simp] theorem ofExcept_events (x : Except Failure α) : (ofExcept x).events = [] := rfl

@[simp] theorem ofExcept_log (x : Except Failure α) : (ofExcept x).log = [] := rfl

@[simp] theorem ofExcept_outcome (x : Except Failure α) : (ofExcept x).outcome = x := rfl

theorem bind_outcome (x : Run α) (f : α → Run β) :
    (x >>= f).outcome = x.outcome >>= fun a => (f a).outcome := by
  cases h : x.outcome with
  | ok a => rw [bind_of_ok h]; rfl
  | error e => rw [bind_of_error h]; rfl

theorem ofLogged_map (f : α → β) (x : Logged α) :
    ofLogged (f <$> x) = f <$> ofLogged x := by
  rw [map_eq_pure_bind, map_eq_pure_bind]
  cases h : x.outcome with
  | ok a =>
    rw [Logged.bind_of_ok h, bind_of_ok (x := ofLogged x) h]
    simp [ofLogged]
  | error e =>
    rw [Logged.bind_of_error h, bind_of_error (x := ofLogged x) h]
    rfl

end Run

end RestRoutes
