import RestRoutes.Destination
import RestRoutes.Document
import RestRoutes.Generate

/-! The settings that routes are generated with, and reading them from a map of values.  A value of a
wrong kind is refused; unknown names are passed over. -/

namespace RestRoutes

structure Settings where
  filter : Option String
  destination : String
  format : String
  continueOnError : Bool
  rest : RestConfiguration
deriving DecidableEq, Repr

namespace Settings

def default : Settings :=
  ⟨none, Destination.Template.direct.text, "dsl", false, .none⟩

/-- The words for yes and for no. Their case does not count. -/
def flagWords : List (String × Bool) :=
  [("0", false), ("off", false), ("f", false), ("false", false), ("n", false), ("no", false),
    ("1", true), ("on", true), ("t", true), ("true", true), ("y", true), ("yes", true)]

def flagOfWord (word : String) : Except SettingKind Bool :=
  match flagWords.lookup (String.ofList (word.toList.map Char.toLower)) with
  | some b => .ok b
  | none => .error .flagWord

def flagOfInt (n : Int) : Except SettingKind Bool :=
  if n = 0 then .ok false else if n = 1 then .ok true else .error .flagWord

def leastShort : Int := -9223372036854775808

def isShort (n : Int) : Bool := decide (leastShort ≤ n) && decide (n < -leastShort)

/-- The flag that a value stands for: a boolean, a word, or a number that is 0 or 1. -/
def flag : Value → Except SettingKind Bool
  | .bool b => .ok b
  | .str word => flagOfWord word
  | .int n => if isShort n then flagOfInt n else .error .flag
  | .float x =>
    match x.toInt? with
    | some n => if isShort n && n != leastShort then flagOfInt n else .error .flag
    | none => .error .flag
  | _ => .error .flag

def text : Value → Except SettingKind String
  | .str s => .ok s
  | _ => .error .text

def optionalText : Value → Except SettingKind (Option String)
  | .null => .ok none
  | v => (text v).map some

/-- The value under a name, read as a setting. A missing one has the default. -/
def field {α : Type} (read : Value → Except SettingKind α) (default : α) (name : String)
    (entries : List (Value × Value)) : Except SettingKind α :=
  match Value.lookup name entries with
  | some v => read v
  | none => .ok default

/-- The fault of a setting at a place, if it has one. -/
def faultOf {α : Type} (place : List String) : Except SettingKind α → List SettingFault
  | .ok _ => []
  | .error expected => [⟨place, expected⟩]

/-- The settings of the service that a map of values holds, or all its faults. -/
def restOf (entries : List (Value × Value)) : Except (List SettingFault) RestConfiguration :=
  let component := field optionalText none "component" entries
  let contextPath := field optionalText none "context_path" entries
  let apiContextPath := field optionalText none "api_context_path" entries
  let host := field optionalText none "host" entries
  match component, contextPath, apiContextPath, host with
  | .ok component, .ok contextPath, .ok apiContextPath, .ok host =>
    .ok { component, contextPath, apiContextPath, host }
  | _, _, _, _ => .error
    (faultOf ["rest", "component"] component ++ faultOf ["rest", "context_path"] contextPath ++
      faultOf ["rest", "api_context_path"] apiContextPath ++ faultOf ["rest", "host"] host)

def restIn (entries : List (Value × Value)) : Except (List SettingFault) RestConfiguration :=
  match Value.lookup "rest" entries with
  | none => .ok .none
  | some (.map es) => restOf es
  | some _ => .error [⟨["rest"], .map⟩]

def faultsOf {α : Type} : Except (List SettingFault) α → List SettingFault
  | .ok _ => []
  | .error faults => faults

/-- The settings that a map of values holds, or all its faults. -/
def ofEntries (entries : List (Value × Value)) : Except (List SettingFault) Settings :=
  let filter := field optionalText default.filter "filter" entries
  let destination := field text default.destination "destination" entries
  let format := field text default.format "format" entries
  let continueOnError := field flag default.continueOnError "continue_on_error" entries
  let rest := restIn entries
  match filter, destination, format, continueOnError, rest with
  | .ok filter, .ok destination, .ok format, .ok continueOnError, .ok rest =>
    .ok { filter, destination, format, continueOnError, rest }
  | _, _, _, _, _ => .error
    (faultOf ["filter"] filter ++ faultOf ["destination"] destination ++
      faultOf ["format"] format ++ faultOf ["continue_on_error"] continueOnError ++ faultsOf rest)

def generator (s : Settings) (charNames : Pattern.CharNames) (document : Value) :
    Except Failure Generator := do
  let version ← Document.version document
  let template ← Destination.Template.ofText s.destination
  return {
    document, version
    filter := .ofSetting charNames s.filter
    destination := template.destination
    rest := some s.rest
    continueOnError := s.continueOnError }

end Settings

end RestRoutes
