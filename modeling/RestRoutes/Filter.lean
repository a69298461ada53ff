import RestRoutes.Failure
import RestRoutes.Pattern.Glob
import RestRoutes.Text.Literal
import RestRoutes.Text.Split

/-! Choosing operations by their ids. -/

namespace RestRoutes

open Pattern

/-- Patterns, of which one must match the id of an operation, and the characters that they may ask for
by their names. Without patterns every operation is accepted. -/
structure Filter where
  patterns : List String
  charNames : CharNames

namespace Filter

def all : Filter := ⟨[], .none⟩

/-- The filter with the patterns that a text lists with commas. Blanks around a pattern do not count,
and empty patterns are left out. -/
def ofText (charNames : CharNames) (text : String) : Filter where
  patterns :=
    ((Text.splitAll (· == ',') text.toList).map (Text.trimBoth Text.isSpace)).filterMap fun cs =>
      if cs.isEmpty then none else some (String.ofList cs)
  charNames

def ofSetting (charNames : CharNames) (text : Option String) : Filter :=
  ofText charNames (text.getD "")

/-- A pattern matches an id as a regular expression. A malformed one matches nothing. -/
def matchesRegex (charNames : CharNames) (pattern id : String) : Except Failure Bool :=
  match Regex.read charNames pattern with
  | .ok r => .ok (r.matchesAll id)
  | .error .malformed => .ok false
  | .error .hugeBound => .error (.defect .hugeRepetition)
  | .error (.longBound digits) => .error (.defect (.longInteger digits))
  | .error .scripts => .error (.defect .conflictingScripts)

/-- A pattern matches an id: it is the same text, or matches as a wildcard or as a regular
expression. -/
def matchesPattern (charNames : CharNames) (pattern id : String) : Except Failure Bool :=
  if id = pattern || Glob.matchesAll (Glob.read pattern) id then .ok true
  else matchesRegex charNames pattern id

def matchesAny (charNames : CharNames) (id : String) : List String → Except Failure Bool
  | [] => .ok false
  | pattern :: rest => do
    if ← matchesPattern charNames pattern id then return true
    matchesAny charNames id rest

/-- The filter accepts an operation by its id. Without an id it is accepted only where everything
is. -/
def accept (filter : Filter) (id : Option String) : Except Failure Bool :=
  if filter.patterns.isEmpty then .ok true
  else
    match id with
    | none => .ok false
    | some id => matchesAny filter.charNames id filter.patterns

def literal (filter : Filter) : String :=
  "OperationFilter(" ++ Text.literal (String.intercalate "," filter.patterns) ++ ")"

end Filter

end RestRoutes
