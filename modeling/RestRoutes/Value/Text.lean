import RestRoutes.Number.Digits
import RestRoutes.Text.Literal
import RestRoutes.Value

/-! The text of a value.  Scalars are written plainly, collections as literals with their texts
quoted.  An integer of more than 4300 digits has no text, and neither has a value that holds one. -/

namespace RestRoutes

namespace Value

/-- The text of a collection: its parts between brackets, with commas. -/
def enclosed (opening closing : String) (parts : List String) : String :=
  opening ++ String.intercalate ", " parts ++ closing

mutual

/-- A value as a literal, in which texts are quoted. -/
def literal? : Value → Option String
  | .null => some "None"
  | .bool b => some (if b then "True" else "False")
  | .int n => integerText? n
  | .float x => some x.text
  | .str s => some (Text.literal s)
  | .bytes bs => some (Text.byteLiteral bs)
  | .date d => some d.literal
  | .timestamp t => some t.literal
  | .list xs => (literals? xs).map (enclosed "[" "]")
  | .tuple xs => (literals? xs).map fun
    | [part] => "(" ++ part ++ ",)"
    | parts => enclosed "(" ")" parts
  | .set xs => (literals? xs).map fun
    | [] => "set()"
    | parts => enclosed "\x7b" "\x7d" parts
  | .map es => (entryLiterals? es).map (enclosed "\x7b" "\x7d")

def literals? : List Value → Option (List String)
  | [] => some []
  | x :: rest => do return (← literal? x) :: (← literals? rest)

def entryLiterals? : List (Value × Value) → Option (List String)
  | [] => some []
  | (k, v) :: rest => do
    return ((← literal? k) ++ ": " ++ (← literal? v)) :: (← entryLiterals? rest)

end

def text? : Value → Option String
  | .str s => some s
  | .date d => some d.text
  | .timestamp t => some t.text
  | v => v.literal?

end Value

end RestRoutes
