import RestRoutes.Api.Builder

/-! Going through the operations of a document one after the other: paths in the order of the
document, and the operations of a path in the order of the methods. -/

namespace RestRoutes.Api

/-- What was collected, and what stopped the collecting if anything did. -/
structure Listing (α : Type) where
  items : List α
  log : List Log.Record
  failure : Option Failure

namespace Listing

variable {α : Type}

def none : Listing α := ⟨[], [], Option.none⟩

/-- One listing and, unless it was stopped, another after it. -/
def append (a b : Listing α) : Listing α :=
  match a.failure with
  | some f => ⟨a.items, a.log, some f⟩
  | Option.none => ⟨a.items ++ b.items, a.log ++ b.log, b.failure⟩

def ofLogged (x : Logged α) : Listing α :=
  match x.outcome with
  | .ok a => ⟨[a], x.log, Option.none⟩
  | .error f => ⟨[], x.log, some f⟩

def ofPath (version : Document.Version) (f : Method → Operation → Except Failure α) (path : String)
    (shared : List Value) : List (Method × Value) → Listing α
  | [] => none
  | (method, raw) :: rest =>
    let item : Logged α := do
      let op ← Builder.operation version path raw shared
      Logged.ofExcept (f method op)
    (ofLogged item).append (ofPath version f path shared rest)

def ofPaths (version : Document.Version) (f : Method → Operation → Except Failure α) :
    List (Value × Value) → Listing α
  | [] => none
  | (key, item) :: rest =>
    match key.textOrFail with
    | .error failure => ⟨[], [], some failure⟩
    | .ok path =>
      (ofPath version f path (item.get "parameters").items (Builder.rawOperations item)).append
        (ofPaths version f rest)

/-- What `f` makes of the operations of a document. -/
def collect (document : Value) (version : Document.Version)
    (f : Method → Operation → Except Failure α) : Listing α :=
  ofPaths version f (Builder.paths document)

def operations (document : Value) (version : Document.Version) : Listing (Method × Operation) :=
  collect document version fun method op => .ok (method, op)

end Listing

end RestRoutes.Api
