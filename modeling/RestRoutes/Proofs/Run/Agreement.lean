import Mathlib.Data.List.Forall2
import RestRoutes.Proofs.Run

/-! Two computations side by side.  They agree when they log the same, and either fail alike or have
results that stand in a relation. -/

namespace RestRoutes

variable {α β γ δ : Type}

/-- Outcomes that are the same failure or related values. -/
inductive Agree (R : α → β → Prop) : Except Failure α → Except Failure β → Prop
  | ok {a : α} {b : β} (h : R a b) : Agree R (.ok a) (.ok b)
  | error (e : Failure) : Agree R (.error e) (.error e)

namespace Agree

variable {R : α → β → Prop} {S : γ → δ → Prop} {x : Except Failure α} {y : Except Failure β}

theorem refl {R : α → α → Prop} (h : ∀ a, R a a) (x : Except Failure α) : Agree R x x := by
  cases x with
  | ok a => exact .ok (h a)
  | error e => exact .error e

theorem eq {x y : Except Failure α} (h : Agree Eq x y) : x = y := by
  cases h with
  | ok h => rw [h]
  | error e => rfl

theorem bind {f : α → Except Failure γ} {g : β → Except Failure δ} (h : Agree R x y)
    (hNext : ∀ a b, R a b → Agree S (f a) (g b)) : Agree S (x >>= f) (y >>= g) := by
  cases h with
  | ok hab => exact hNext _ _ hab
  | error e => exact .error e

theorem bind_same {f : α → Except Failure γ} {g : α → Except Failure δ} (x : Except Failure α)
    (hNext : ∀ a, Agree S (f a) (g a)) : Agree S (x >>= f) (x >>= g) := by
  cases x with
  | ok a => exact hNext a
  | error e => exact .error e

theorem map {f : α → γ} {g : β → δ} (h : Agree R x y) (hNext : ∀ a b, R a b → S (f a) (g b)) :
    Agree S (x.map f) (y.map g) := by
  cases h with
  | ok hab => exact .ok (hNext _ _ hab)
  | error e => exact .error e

theorem ok_iff (h : Agree R x y) : (∃ a, x = .ok a) ↔ ∃ b, y = .ok b := by
  cases h with
  | ok hab => exact iff_of_true ⟨_, rfl⟩ ⟨_, rfl⟩
  | error e => exact iff_of_false nofun nofun

/-- More is known of the results of computations that are known. -/
theorem imp {T : α → β → Prop} (h : Agree R x y)
    (hMore : ∀ a b, x = .ok a → y = .ok b → R a b → T a b) : Agree T x y := by
  cases h with
  | ok hab => exact .ok (hMore _ _ rfl rfl hab)
  | error e => exact .error e

end Agree

/-- Computations that log the same and whose outcomes agree. -/
structure Logged.Agree (R : α → β → Prop) (x : Logged α) (y : Logged β) : Prop where
  log : x.log = y.log
  outcome : RestRoutes.Agree R x.outcome y.outcome

namespace Logged.Agree

variable {R : α → β → Prop} {S : γ → δ → Prop} {x : Logged α} {y : Logged β}

theorem refl {R : α → α → Prop} (h : ∀ a, R a a) (x : Logged α) : Agree R x x :=
  ⟨rfl, .refl h x.outcome⟩

theorem pure {a : α} {b : β} (h : R a b) : Agree R (Pure.pure a) (Pure.pure b) := ⟨rfl, .ok h⟩

theorem ofExcept {x : Except Failure α} {y : Except Failure β} (h : RestRoutes.Agree R x y) :
    Agree R (Logged.ofExcept x) (Logged.ofExcept y) := ⟨rfl, h⟩

theorem eq {x y : Logged α} (h : Agree Eq x y) : x = y := Logged.ext h.log h.outcome.eq

theorem bind {f : α → Logged γ} {g : β → Logged δ} (h : Agree R x y)
    (hNext : ∀ a b, R a b → Agree S (f a) (g b)) : Agree S (x >>= f) (y >>= g) := by
  obtain ⟨hLog, hOutcome⟩ := h
  cases hx : x.outcome with
  | error e =>
    rw [hx] at hOutcome
    cases hy : y.outcome with
    | error e' =>
      rw [hy] at hOutcome
      cases hOutcome
      rw [bind_of_error hx, bind_of_error hy]
      exact ⟨hLog, .error e⟩
    | ok b => rw [hy] at hOutcome; cases hOutcome
  | ok a =>
    rw [hx] at hOutcome
    cases hy : y.outcome with
    | error e => rw [hy] at hOutcome; cases hOutcome
    | ok b =>
      rw [hy] at hOutcome
      cases hOutcome with
      | ok hab =>
        obtain ⟨hNextLog, hNextOutcome⟩ := hNext a b hab
        rw [bind_of_ok hx, bind_of_ok hy]
        exact ⟨by simp only [hLog, hNextLog], hNextOutcome⟩

theorem bind_same {f : α → Logged γ} {g : α → Logged δ} (x : Logged α)
    (hNext : ∀ a, Agree S (f a) (g a)) : Agree S (x >>= f) (x >>= g) := by
  refine bind (R := Eq) (refl (fun _ => rfl) x) fun a b hab => ?_
  subst hab
  exact hNext a

end Logged.Agree

/-- Runs that go on alike after computations that agree. -/
theorem Run.ofLogged_bind_congr {R : α → β → Prop} {x : Logged α} {y : Logged β}
    (h : Logged.Agree R x y) {f : α → Run γ} {g : β → Run γ} (hNext : ∀ a b, R a b → f a = g b) :
    Run.ofLogged x >>= f = Run.ofLogged y >>= g := by
  obtain ⟨log, x⟩ := x
  obtain ⟨log', y⟩ := y
  obtain ⟨hLog, hOutcome⟩ := h
  cases hLog
  cases hOutcome with
  | ok hab =>
    rw [bind_of_ok (x := Run.ofLogged ⟨log, .ok _⟩) rfl, hNext _ _ hab]
    rfl
  | error e => rfl

/-- Runs that emit the same after computations that agree, whatever these log. -/
theorem Run.ofLogged_bind_events {R : α → β → Prop} {x : Logged α} {y : Logged β}
    (h : Agree R x.outcome y.outcome) {f : α → Run γ} {g : β → Run γ}
    (hNext : ∀ a b, R a b → (f a).events = (g b).events) :
    (Run.ofLogged x >>= f).events = (Run.ofLogged y >>= g).events := by
  obtain ⟨log, x⟩ := x
  obtain ⟨log', y⟩ := y
  cases h with
  | ok hab =>
    rw [bind_of_ok (x := Run.ofLogged ⟨log, .ok _⟩) rfl,
      bind_of_ok (x := Run.ofLogged ⟨log', .ok _⟩) rfl]
    simp only [ofLogged_events, List.nil_append, hNext _ _ hab]
  | error e => rfl

end RestRoutes
