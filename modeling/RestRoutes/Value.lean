import RestRoutes.Assoc
import RestRoutes.Calendar
import RestRoutes.Number.Binary64
import RestRoutes.Text.Blank

/-! The values of a loaded document.  A map is a list of entries in document order; its keys are
distinct under `Value.sameKey` when it comes from a reader. -/

namespace RestRoutes

open Number

/-- A value of a document. -/
inductive Value
  | null
  | bool (b : Bool)
  | int (n : Int)
  | float (x : Binary64)
  | str (s : String)
  | bytes (bs : List UInt8)
  | date (d : Date)
  | timestamp (t : Timestamp)
  | list (xs : List Value)
  | tuple (xs : List Value)
  | set (xs : List Value)
  | map (entries : List (Value × Value))

namespace Value

instance : Inhabited Value := ⟨.null⟩

/-- The number that a scalar is, when it is an integer: booleans count as 0 and 1. -/
def integer? : Value → Option Int
  | .bool b => some (if b then 1 else 0)
  | .int n => some n
  | .float x => x.toInt?
  | _ => none

/-- Two scalars are the same key of a map.  Numbers are compared by value, so that `true`, `1` and
`1.0` are one key. -/
def sameKey (a b : Value) : Bool :=
  match a.integer?, b.integer? with
  | some m, some n => m == n
  | some _, none | none, some _ => false
  | none, none =>
    match a, b with
    | .null, .null => true
    | .float x, .float y => x == y
    | .str s, .str t => s == t
    | .bytes s, .bytes t => s == t
    | .date d, .date e => d == e
    | .timestamp s, .timestamp t => s.sameMoment t
    | _, _ => false

/-- A value that may be a key of a map. -/
def isScalar : Value → Bool
  | .list _ | .set _ | .tuple _ | .map _ => false
  | _ => true

/-- The map with the given entries, of which the last under a key counts. -/
def ofEntries (entries : List (Value × Value)) : Value :=
  .map (Assoc.ofEntries sameKey entries)

def ofNamed (entries : List (String × Value)) : Value :=
  .map (entries.map fun e => (.str e.1, e.2))

/-- The value under a name in a list of entries. -/
def lookup (name : String) : List (Value × Value) → Option Value
  | [] => none
  | (.str s, v) :: rest => if s = name then some v else lookup name rest
  | _ :: rest => lookup name rest

def get? (name : String) : Value → Option Value
  | .map entries => lookup name entries
  | _ => none

/-- The value under a name, where a missing entry counts as null. -/
def get (name : String) (v : Value) : Value := (v.get? name).getD .null

/-- The entries of a map, and of anything else none. -/
def entries : Value → List (Value × Value)
  | .map es => es
  | _ => []

/-- The items of a list, and of anything else none. -/
def items : Value → List Value
  | .list xs => xs
  | _ => []

def isMap : Value → Bool
  | .map _ => true
  | _ => false

/-- A value that counts as nothing: null, a blank text or an empty collection. Numbers and booleans
never do. -/
def isEmpty : Value → Bool
  | .null => true
  | .str s => s.toList.all Text.isSpace
  | .bytes bs => bs.isEmpty
  | .list xs | .tuple xs | .set xs => xs.isEmpty
  | .map es => es.isEmpty
  | _ => false

/-- A value that is neither null, false, zero nor empty. -/
def isTruthy : Value → Bool
  | .null => false
  | .bool b => b
  | .int n => n != 0
  | .float x => !x.isZero
  | .str s => !s.isEmpty
  | .bytes bs => !bs.isEmpty
  | .list xs | .tuple xs | .set xs => !xs.isEmpty
  | .map es => !es.isEmpty
  | .date _ | .timestamp _ => true

def kind : Value → String
  | .null => "NoneType"
  | .bool _ => "bool"
  | .int _ => "int"
  | .float _ => "float"
  | .str _ => "str"
  | .bytes _ => "bytes"
  | .date _ => "date"
  | .timestamp _ => "datetime"
  | .list _ => "list"
  | .tuple _ => "tuple"
  | .set _ => "set"
  | .map _ => "dict"

end Value

end RestRoutes
