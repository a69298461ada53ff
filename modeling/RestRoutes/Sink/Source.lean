import RestRoutes.Event.Argument
import RestRoutes.Failure

/-! Events as source text: one call a line, indented by what it belongs to.  The statements that start
at the margin are ended with a semicolon: when the next one starts, or at the end of the text. -/

namespace RestRoutes.Sink

/-- Source text that is being written: its lines, and whether an operation and a parameter are open. -/
structure Source where
  lines : List String
  inVerb : Bool
  inParam : Bool
deriving DecidableEq, Repr

namespace Source

def start : Source := ⟨[], false, false⟩

/-- The events that start a statement at the margin. -/
def isTopLevel (name : String) : Bool := name == "rest" || name == "restConfiguration"

def isVerb (name : String) : Bool := (Api.Method.ofName? name).isSome

/-- The level of a line that starts neither a statement nor an operation. -/
def fieldLevel (s : Source) : Nat := (if s.inVerb then 2 else 1) + (if s.inParam then 1 else 0)

def push (s : Source) (line : String) : Source := { s with lines := s.lines ++ [line] }

def add (s : Source) (indent : String) (level : Nat) (call : String) : Source :=
  s.push (String.join (List.replicate level indent) ++ "." ++ call)

/-- A semicolon at the end of the last line. -/
def ended : List String → List String
  | [] => []
  | [line] => [line ++ ";"]
  | line :: rest => line :: ended rest

/-- Ends the last line, unless it has its semicolon already. -/
def terminate (s : Source) : Source :=
  match s.lines.getLast? with
  | some line =>
    if line.toList.getLast? = some ';' then s else { s with lines := ended s.lines }
  | none => s

/-- Takes in a call for an event of a name. -/
def take (indent : String) (s : Source) (name call : String) : Source :=
  if isTopLevel name then { s.terminate with inVerb := false, inParam := false }.push call
  else if isVerb name then { s with inVerb := true, inParam := false }.add indent 1 call
  else if name = "param" then { s.add indent s.fieldLevel call with inParam := true }
  else if name = "endParam" then
    let outside := { s with inParam := false }
    outside.add indent outside.fieldLevel call
  else s.add indent s.fieldLevel call

/-- The call that an event stands for. -/
def callOf? (e : Event) : Option String :=
  e.argument.call?.map fun argument => e.name ++ "(" ++ argument ++ ")"

/-- Takes in an event, unless its argument cannot be written. -/
def emit (indent : String) (s : Source) (e : Event) : Except Defect Source :=
  match callOf? e with
  | some call => .ok (s.take indent e.name call)
  | none => .error .longIntegerText

/-- The whole text, with a semicolon at its end. -/
def text (s : Source) : String := String.join ((ended s.lines).map (· ++ "\n"))

/-- The indentation of one level. -/
def standardIndent : String := "    "

def render (indent : String) (events : List Event) : Except Defect String :=
  (events.foldlM (emit indent) start).map text

end Source

end RestRoutes.Sink
