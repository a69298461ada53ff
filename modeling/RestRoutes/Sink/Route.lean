import RestRoutes.Event.Argument
import RestRoutes.Failure
import RestRoutes.Yaml.Writer

/-! The model of a routing description that events build up: a service with its settings and its
operations, each with its parameters.  Events that belong to nothing that is open are ignored.  An
event whose argument has no text, where a text is needed, stops the building. -/

namespace RestRoutes.Sink

structure Settings where
  component : Argument
  contextPath : Argument
  apiContextPath : Argument
  host : Argument

def Settings.none : Settings := ⟨.null, .null, .null, .null⟩

/-- A parameter of an operation. A field that was not set is null, or an empty list. -/
structure Param where
  name : Argument
  type : Argument
  dataType : Argument
  allowableValues : Argument
  collectionFormat : Argument
  defaultValue : Argument
  arrayType : Argument
  required : Argument
  description : Argument

def Param.none : Param := ⟨.null, .null, .null, .list [], .null, .null, .null, .null, .null⟩

/-- An operation. A field that was not set is null, or an empty list. -/
structure Verb where
  method : Api.Method
  path : String
  id : Argument
  description : Argument
  consumes : Argument
  produces : Argument
  params : List Param
  target : Option String

def Verb.start (method : Api.Method) (path : String) : Verb :=
  ⟨method, path, .null, .null, .list [], .list [], [], none⟩

structure Route where
  path : Option String
  settings : Option Settings
  verbs : List Verb

/-- A service under construction: whether its settings are open, and the parameter that is. -/
structure Building where
  route : Route
  settingsOpen : Bool
  param : Option Param

namespace Building

def start : Building := ⟨⟨none, none, []⟩, false, none⟩

/-- A value without tuples at its top. -/
def plain : Argument → Argument
  | .tuple xs => .list xs
  | a => a

/-- Changes the last operation, which is the open one. -/
def onLastVerb (f : Verb → Verb) : List Verb → List Verb
  | [] => []
  | [v] => [f v]
  | v :: rest => v :: onLastVerb f rest

/-- Changes the open operation. -/
def onVerb (b : Building) (f : Verb → Verb) : Building :=
  { b with route := { b.route with verbs := onLastVerb f b.route.verbs } }

def onSettings (b : Building) (f : Settings → Settings) : Building :=
  { b with route := { b.route with settings := b.route.settings.map f } }

def paramField? (name : String) (value : Argument) : Option (Param → Param) :=
  match name with
  | "name" => some fun p => { p with name := value }
  | "type" => some fun p => { p with type := value }
  | "dataType" => some fun p => { p with dataType := value }
  | "allowableValues" => some fun p => { p with allowableValues := value }
  | "collectionFormat" => some fun p => { p with collectionFormat := value }
  | "defaultValue" => some fun p => { p with defaultValue := value }
  | "arrayType" => some fun p => { p with arrayType := value }
  | "required" => some fun p => { p with required := value }
  | "description" => some fun p => { p with description := value }
  | _ => none

def verbField? (name : String) (value : Argument) : Option (Verb → Verb) :=
  match name with
  | "id" => some fun v => { v with id := value }
  | "description" => some fun v => { v with description := value }
  | "consumes" => some fun v => { v with consumes := value }
  | "produces" => some fun v => { v with produces := value }
  | _ => none

def settingsField? (name : String) (value : Argument) : Option (Settings → Settings) :=
  match name with
  | "component" => some fun s => { s with component := value }
  | "contextPath" => some fun s => { s with contextPath := value }
  | "apiContextPath" => some fun s => { s with apiContextPath := value }
  | "host" => some fun s => { s with host := value }
  | _ => none

/-- Sets a field of what is open: of the parameter, else of the operation, else of the settings. -/
def setField (b : Building) (name : String) (value : Argument) : Building :=
  match b.param, paramField? name value with
  | some param, some change => { b with param := some (change param) }
  | _, _ =>
    match b.route.verbs, verbField? name value with
    | _ :: _, some change => b.onVerb change
    | _, _ =>
      match b.settingsOpen, settingsField? name value with
      | true, some change => b.onSettings change
      | _, _ => b

def endParam (b : Building) : Building :=
  match b.param with
  | some param => { b.onVerb fun v => { v with params := v.params ++ [param] } with param := none }
  | none => b

/-- A building after an event, and what went wrong with the event, if anything did. -/
structure Taken where
  building : Building
  defect : Option Defect

/-- Takes in a text, unless there is none. -/
def withText (b : Building) (text : Option String) (change : String → Building) : Taken :=
  match text with
  | some text => ⟨change text, none⟩
  | none => ⟨b, some .longIntegerText⟩

/-- Takes in one event. What it closes is closed before its argument is looked at. -/
def take (b : Building) (e : Event) : Taken :=
  if e.name = "restConfiguration" then
    ⟨{ b with route := { b.route with settings := some .none }, settingsOpen := true }, none⟩
  else if e.name = "rest" then
    let closed := { b with settingsOpen := false }
    match e.argument with
    | .absent => ⟨{ closed with route := { b.route with path := none } }, none⟩
    | a => closed.withText a.plainText? fun path =>
      { closed with route := { b.route with path := some path } }
  else
    match Api.Method.ofName? e.name with
    | some method =>
      let closed := { b with settingsOpen := false, param := none }
      closed.withText e.argument.plainText? fun path =>
        { closed with route := { b.route with verbs := b.route.verbs ++ [.start method path] } }
    | none =>
      if e.name = "param" then ⟨{ b with param := some .none }, none⟩
      else if e.name = "endParam" then ⟨b.endParam, none⟩
      else if e.name = "to" then
        if b.route.verbs.isEmpty then ⟨b, none⟩
        else b.withText e.argument.plainText? fun target =>
          b.onVerb fun v => { v with target := some target }
      else ⟨b.setField e.name (plain e.argument), none⟩

/-- The building after an event. -/
def step (b : Building) (e : Event) : Building := (b.take e).building

/-- Takes in one event, or stops. -/
def emit (b : Building) (e : Event) : Except Defect Building :=
  match (b.take e).defect with
  | some d => .error d
  | none => .ok (b.step e)

end Building

/-! ### As values -/

/-- A field that is written unless it is null. -/
def scalarField (name : String) (a : Argument) : List (String × Value) :=
  match a.value with
  | .null => []
  | v => [(name, v)]

/-- A field that is written unless it is the empty list. -/
def listField (name : String) (a : Argument) : List (String × Value) :=
  match a.value with
  | .list [] => []
  | v => [(name, v)]

def Settings.value (s : Settings) : Value :=
  .ofNamed (scalarField "component" s.component ++ scalarField "context_path" s.contextPath ++
    scalarField "api_context_path" s.apiContextPath ++ scalarField "host" s.host)

def Param.value (p : Param) : Value :=
  .ofNamed (scalarField "name" p.name ++ scalarField "type" p.type ++
    scalarField "dataType" p.dataType ++ listField "allowableValues" p.allowableValues ++
    scalarField "collectionFormat" p.collectionFormat ++
    scalarField "defaultValue" p.defaultValue ++ scalarField "arrayType" p.arrayType ++
    scalarField "required" p.required ++ scalarField "description" p.description)

def Verb.value (v : Verb) : Value :=
  .ofNamed ([("method", .str v.method.name), ("path", .str v.path)] ++ scalarField "id" v.id ++
    scalarField "description" v.description ++ listField "consumes" v.consumes ++
    listField "produces" v.produces ++
    (if v.params.isEmpty then [] else [("params", .list (v.params.map Param.value))]) ++
    (v.target.map fun target => ("to", .str target)).toList)

def Route.value (r : Route) : Value :=
  .ofNamed ((r.path.map fun path => ("path", .str path)).toList ++
    (r.settings.map fun s => ("configuration", s.value)).toList ++
    (if r.verbs.isEmpty then [] else [("verbs", .list (r.verbs.map Verb.value))]))

/-- The service that events describe, unless one of them stops the building. -/
def Route.build (events : List Event) : Except Defect Route :=
  (events.foldlM Building.emit .start).map Building.route

def Route.document (r : Route) : Value := .ofNamed [("rest", r.value)]

def Route.json (r : Route) : String := Json.render Json.indented r.document ++ "\n"

def Route.yaml (r : Route) : String := Yaml.Writer.render r.document.entries

end RestRoutes.Sink
