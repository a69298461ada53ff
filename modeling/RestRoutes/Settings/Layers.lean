import RestRoutes.Json.Reader
import RestRoutes.Machine
import RestRoutes.Settings

/-! The layers that settings come from.  From the lowest to the highest: the file of the user, the
file of the project, the variables of the environment, and the command line.  A value of a higher layer
hides that of a lower one; null hides nothing, and maps are laid over one another entry by entry. -/

namespace RestRoutes.Settings

open File

/-- One layer: values by their names. -/
abbrev Layer := List (Value × Value)

mutual

/-- What a value makes of the one below it. -/
def overlay : Value → Option Value → Option Value
  | .null, below => below
  | .map es, some (.map bs) => some (.map (overlayLayer es bs))
  | v, _ => some v

def overlayLayer : Layer → Layer → Layer
  | [], below => below
  | (k, v) :: rest, below =>
    match overlay v (Assoc.get? Value.sameKey k below) with
    | some new => overlayLayer rest (Assoc.put Value.sameKey k new below)
    | none => overlayLayer rest below

end

/-- The layers as one, the lowest first. -/
def flatten (layers : List Layer) : Layer := layers.foldl (fun below layer => overlayLayer layer below) []

/-! ### Files -/

def refuse {α : Type} (fault : SettingsFault) : Except Failure α :=
  .error (.refusal (.settings fault))

def layerOfText (file : SettingsFile) (path text : String) : Except Failure Layer :=
  match Json.read text with
  | .ok (.map es) => .ok es
  | .ok _ => refuse (.notMap file path)
  | .error (.fault fault) => refuse (.notJson file path fault)
  | .error (.longInteger digits) => .error (.defect (.longInteger digits))

/-- The layer in a file. A missing file says nothing. -/
def layerOfFile (m : Machine) (file : SettingsFile) (p : Path) : Except Failure Layer := do
  if !(← (m.isFile p).mapError (.defect ∘ .file)) then return []
  else
    match m.tree.read m.directory p with
    | .error fault => refuse (.unreadableFile file p.text fault)
    | .ok bytes => layerOfText file p.text (← (Machine.textOf bytes).mapError (.defect ∘ .encoding))

def userPath (m : Machine) : Except Defect Path := return (← m.configDirectory).child "config.json"

def projectPath (m : Machine) : Path := m.workingPath.child (Machine.programName ++ ".json")

def userLayer (m : Machine) : Except Failure Layer := do
  layerOfFile m .user (← (userPath m).mapError .defect)

def projectLayer (m : Machine) : Except Failure Layer := layerOfFile m .project (projectPath m)

/-! ### Variables -/

/-- The variables of the environment with the names of the settings that they set. -/
def variableNames : List (String × String) :=
  [("RESTDSL_FILTER", "filter"), ("RESTDSL_DESTINATION", "destination"),
    ("RESTDSL_FORMAT", "format")]

/-- The layer of the variables. An empty variable says nothing. -/
def variableLayer (m : Machine) : Layer :=
  variableNames.filterMap fun (key, name) =>
    (m.valueOf? key).map fun text => (.str name, .str text)

/-! ### The command line -/

/-- What the command line says about the settings. -/
structure Overrides where
  filter : Option String
  destination : Option String
  format : Option String
  continueOnError : Option Bool
  rest : RestConfiguration
deriving DecidableEq, Repr

def optionalValue (text : Option String) : Value := (text.map Value.str).getD .null

/-- The layer of the command line, with null for what it says nothing about. -/
def Overrides.layer (o : Overrides) : Layer :=
  [(.str "filter", optionalValue o.filter), (.str "destination", optionalValue o.destination),
    (.str "format", optionalValue o.format),
    (.str "continue_on_error", (o.continueOnError.map Value.bool).getD .null),
    (.str "rest", .map
      [(.str "component", optionalValue o.rest.component),
        (.str "context_path", optionalValue o.rest.contextPath),
        (.str "api_context_path", optionalValue o.rest.apiContextPath),
        (.str "host", optionalValue o.rest.host)])]

/-! ### All together -/

/-- The settings for a run, with a highest layer of its own. -/
def resolve (m : Machine) (own : Layer) : Except Failure Settings := do
  let user ← userLayer m
  let project ← projectLayer m
  match ofEntries (flatten [user, project, variableLayer m, own]) with
  | .ok settings => return settings
  | .error faults => refuse (.invalid faults)

end RestRoutes.Settings
