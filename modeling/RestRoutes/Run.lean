import RestRoutes.Event.Argument
import RestRoutes.Failure
import RestRoutes.Log

/-! Runs: what a computation puts out and how it ends.  Whatever is logged or emitted before a failure
stays. -/

namespace RestRoutes

/-- A computation that logs and may fail. -/
structure Logged (α : Type) where
  log : List Log.Record
  outcome : Except Failure α

namespace Logged

variable {α β : Type}

def ok (a : α) : Logged α := ⟨[], .ok a⟩

def fail (f : Failure) : Logged α := ⟨[], .error f⟩

def bind (x : Logged α) (f : α → Logged β) : Logged β :=
  match x.outcome with
  | .ok a => ⟨x.log ++ (f a).log, (f a).outcome⟩
  | .error e => ⟨x.log, .error e⟩

instance : Monad Logged where
  pure := ok
  bind := bind

def ofExcept (outcome : Except Failure α) : Logged α := ⟨[], outcome⟩

def record (level : Log.Level) (text : String) : Logged Unit := ⟨[⟨level, text⟩], .ok ()⟩

end Logged

/-- A computation that emits events, logs and may fail. -/
structure Run (α : Type) where
  events : List Event
  log : List Log.Record
  outcome : Except Failure α

namespace Run

variable {α β : Type}

def ok (a : α) : Run α := ⟨[], [], .ok a⟩

def fail (f : Failure) : Run α := ⟨[], [], .error f⟩

def bind (x : Run α) (f : α → Run β) : Run β :=
  match x.outcome with
  | .ok a => ⟨x.events ++ (f a).events, x.log ++ (f a).log, (f a).outcome⟩
  | .error e => ⟨x.events, x.log, .error e⟩

instance : Monad Run where
  pure := ok
  bind := bind

def ofLogged (x : Logged α) : Run α := ⟨[], x.log, x.outcome⟩

def ofExcept (outcome : Except Failure α) : Run α := ⟨[], [], outcome⟩

def record (level : Log.Level) (text : String) : Run Unit := ⟨[], [⟨level, text⟩], .ok ()⟩

def emit (e : Event) : Run Unit := ⟨[e], [], .ok ()⟩

end Run

end RestRoutes
