import RestRoutes.Api.Method
import RestRoutes.Json.Writer

/-! The arguments of events, and their texts.  As with values, an integer of more than 4300 digits has
no text, and neither has an argument that holds one. -/

namespace RestRoutes

open Number

/-- What an event carries. -/
inductive Argument
  /-- Nothing: the event is a bare mark. -/
  | absent
  | null
  | bool (b : Bool)
  | int (n : Int)
  | float (x : Binary64)
  | text (s : String)
  | location (l : Api.Location)
  | format (f : Api.CollectionFormat)
  | list (xs : List Argument)
  | tuple (xs : List Argument)
  | map (entries : List (Argument × Argument))

namespace Argument

instance : Inhabited Argument := ⟨.absent⟩

def texts (ss : List String) : Argument := .list (ss.map .text)

/-- An argument that counts as nothing: absent or null, a blank text or an empty collection. Numbers
and booleans never do. -/
def isEmpty : Argument → Bool
  | .absent | .null => true
  | .text s => Text.isBlank s
  | .list xs | .tuple xs => xs.isEmpty
  | .map es => es.isEmpty
  | _ => false

mutual

/-- An argument as a literal, in which texts are quoted. -/
def literal? : Argument → Option String
  | .absent => some "MISSING"
  | .null => some "None"
  | .bool b => some (if b then "True" else "False")
  | .int n => integerText? n
  | .float x => some x.text
  | .text s => some (Text.literal s)
  | .location l => some ("<" ++ l.constant ++ ": " ++ Text.literal l.name ++ ">")
  | .format f => some ("<" ++ f.constant ++ ": " ++ Text.literal f.name ++ ">")
  | .list xs => (literals? xs).map (Value.enclosed "[" "]")
  | .tuple xs => (literals? xs).map fun
    | [part] => "(" ++ part ++ ",)"
    | parts => Value.enclosed "(" ")" parts
  | .map es => (entryLiterals? es).map (Value.enclosed "\x7b" "\x7d")

def literals? : List Argument → Option (List String)
  | [] => some []
  | x :: rest => do return (← literal? x) :: (← literals? rest)

def entryLiterals? : List (Argument × Argument) → Option (List String)
  | [] => some []
  | (k, v) :: rest => do
    return ((← literal? k) ++ ": " ++ (← literal? v)) :: (← entryLiterals? rest)

end

def plainText? : Argument → Option String
  | .text s => some s
  | .location l => some l.constant
  | .format f => some f.constant
  | a => a.literal?

mutual

/-- An argument as it stands between the parentheses of a call. -/
def call? : Argument → Option String
  | .absent => some ""
  | .bool b => some (if b then "true" else "false")
  | .location l => some ("RestParamType." ++ l.name)
  | .format f => some ("CollectionFormat." ++ f.name)
  | .list xs => (calls? xs).map (String.intercalate ", ")
  | .tuple xs => (calls? xs).map (String.intercalate ", ")
  | .text s => some (Json.quoted s)
  | a => a.plainText?.map Json.quoted

def calls? : List Argument → Option (List String)
  | [] => some []
  | x :: rest => do return (← call? x) :: (← calls? rest)

end

mutual

/-- An argument as a value of a document: locations and formats become their names, and tuples
lists. -/
def value : Argument → Value
  | .absent | .null => .null
  | .bool b => .bool b
  | .int n => .int n
  | .float x => .float x
  | .text s => .str s
  | .location l => .str l.name
  | .format f => .str f.name
  | .list xs => .list (values xs)
  | .tuple xs => .list (values xs)
  | .map es => .map (entryValues es)

def values : List Argument → List Value
  | [] => []
  | x :: rest => value x :: values rest

def entryValues : List (Argument × Argument) → List (Value × Value)
  | [] => []
  | (k, v) :: rest => (value k, value v) :: entryValues rest

end

end Argument

/-- One statement of a routing description: its name and its argument. -/
structure Event where
  name : String
  argument : Argument

def Event.bare (name : String) : Event := ⟨name, .absent⟩

end RestRoutes
