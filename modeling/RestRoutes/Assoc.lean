/-! Association lists that keep the order in which their keys first came. -/

namespace RestRoutes.Assoc

variable {κ α : Type}

/-- Puts `value` under `key`: in the place of the entry whose key is the same, or at the end. The
key of that entry stays. -/
def put (same : κ → κ → Bool) (key : κ) (value : α) : List (κ × α) → List (κ × α)
  | [] => [(key, value)]
  | (k, v) :: rest =>
    if same k key then (k, value) :: rest else (k, v) :: put same key value rest

/-- The value of the first entry whose key is the same as `key`. -/
def get? (same : κ → κ → Bool) (key : κ) : List (κ × α) → Option α
  | [] => none
  | (k, v) :: rest => if same k key then some v else get? same key rest

/-- The association list of a sequence of entries: a key stands where it came first and has the
value that came last. -/
def ofEntries (same : κ → κ → Bool) (entries : List (κ × α)) : List (κ × α) :=
  entries.foldl (fun acc e => put same e.1 e.2 acc) []

/-- The entries of named things, keyed by equality of their names. -/
def ofNamed (entries : List (String × α)) : List (String × α) := ofEntries (· == ·) entries

end RestRoutes.Assoc
