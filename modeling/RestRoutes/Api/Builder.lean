import RestRoutes.Api.Operation
import RestRoutes.Run

/-! Building operations from documents.  Only what is of use for routes is read, and nothing is
checked: a part that is missing or malformed counts as absent.  References are not followed; a
referenced parameter is left out with a warning. -/

namespace RestRoutes.Api.Builder

def texts (v : Value) : Except Failure (List String) := v.items.mapM Value.textOrFail

/-! ### Parameters -/

/-- The name and the place of a parameter, by which one overrides another. -/
def key (parameter : Value) : Except Failure (String × String) := do
  let name ← (parameter.get "name").scalarText
  let location ← (parameter.get "in").scalarText
  return (name.getD "", location.getD "")

/-- The parameters of a path that none of the given keys overrides. -/
def notOverridden (keys : List (String × String)) : List Value → Except Failure (List Value)
  | [] => .ok []
  | p :: rest => do
    let kept := !keys.contains (← key p)
    let rest ← notOverridden keys rest
    return if kept then p :: rest else rest

/-- The parameters of a path and of an operation together: those of the path first, without the ones
that the operation has under the same key. Anything but maps is left out. -/
def merge (shared own : List Value) : Except Failure (List Value) := do
  let own := own.filter Value.isMap
  let keys ← own.mapM key
  return (← notOverridden keys (shared.filter Value.isMap)) ++ own

def swaggerParameter (p : Value) : Except Failure Swagger.Parameter := do
  let (name, location) ← key p
  return {
    name, location
    required := (p.get "required").flag
    description := ← (p.get "description").scalarText
    type := ← (p.get "type").scalarText
    enum := (p.get "enum").items
    collectionFormat := ← (p.get "collectionFormat").scalarText
    default := p.get "default"
    items := ← if (p.get "items").isMap then some <$> ((p.get "items").get "type").scalarText
      else pure none }

def openApiParameter (p : Value) : Except Failure OpenApi.Parameter := do
  let (name, location) ← key p
  return {
    name, location
    required := (p.get "required").flag
    description := ← (p.get "description").scalarText
    schema := ← Schema.ofValue (p.get "schema")
    style := ← (p.get "style").scalarText
    explode := (p.get "explode").flag }

/-- The text of a reference in a warning. -/
def referenceText (target : Value) : String := target.text?.getD ""

/-- Builds the parameters that are no references, and warns of those that are. -/
def parameters {α : Type} (build : Value → Except Failure α) (path : String) :
    List Value → Logged (List α)
  | [] => pure []
  | p :: rest =>
    match p.get? "$ref" with
    | some target => do
      Logged.record .warning
        ("Skipping unresolved parameter " ++ referenceText target ++ " on '" ++ path ++ "'")
      parameters build path rest
    | none => do
      let parameter ← Logged.ofExcept (build p)
      return parameter :: (← parameters build path rest)

/-! ### Bodies and responses -/

def mediaTypes : List (Value × Value) → Except Failure OpenApi.Content
  | [] => .ok []
  | (k, v) :: rest => do
    let name ← k.textOrFail
    let schema ← Schema.ofValue (v.get "schema")
    return (name, schema) :: (← mediaTypes rest)

def content (v : Value) : Except Failure OpenApi.Content :=
  (mediaTypes v.entries).map Assoc.ofNamed

/-- The body of a request. A reference counts as a body that says nothing, with a warning. -/
def requestBody (v : Value) : Logged (Option OpenApi.RequestBody) :=
  if v.isMap then
    match v.get? "$ref" with
    | some target => do
      Logged.record .warning
        ("Request body " ++ referenceText target ++ " is not resolved; emitting it as 'body'")
      return some ⟨none, none, []⟩
    | none => Logged.ofExcept do
      return some
        { required := (v.get "required").flag
          description := ← (v.get "description").scalarText
          content := ← content (v.get "content") }
  else pure none

def responseEntries : List (Value × Value) → Except Failure (List (String × OpenApi.Response))
  | [] => .ok []
  | (k, v) :: rest =>
    if v.isMap then do
      let description ← (v.get "description").scalarText
      let content ← content (v.get "content")
      let status ← k.textOrFail
      return (status, ⟨description, content⟩) :: (← responseEntries rest)
    else responseEntries rest

def responses (v : Value) : Except Failure (List (String × OpenApi.Response)) :=
  (responseEntries v.entries).map Assoc.ofNamed

/-! ### Operations -/

def swaggerOperation (path : String) (raw : Value) (params : List Value) :
    Logged Swagger.Operation := do
  let id ← Logged.ofExcept (raw.get "operationId").scalarText
  let description ← Logged.ofExcept (raw.get "description").scalarText
  let parameters ← parameters swaggerParameter path params
  let consumes ← Logged.ofExcept (texts (raw.get "consumes"))
  let produces ← Logged.ofExcept (texts (raw.get "produces"))
  return { path, id, description, parameters, consumes, produces }

def openApiOperation (path : String) (raw : Value) (params : List Value) :
    Logged OpenApi.Operation := do
  let id ← Logged.ofExcept (raw.get "operationId").scalarText
  let description ← Logged.ofExcept (raw.get "description").scalarText
  let parameters ← parameters openApiParameter path params
  let requestBody ← requestBody (raw.get "requestBody")
  let responses ← Logged.ofExcept (responses (raw.get "responses"))
  return { path, id, description, parameters, requestBody, responses }

/-- Builds an operation of a path with the parameters `shared` by all operations of that path. -/
def operation (version : Document.Version) (path : String) (raw : Value) (shared : List Value) :
    Logged Operation := do
  let params ← Logged.ofExcept (merge shared (raw.get "parameters").items)
  match version with
  | .swagger => return .swagger (← swaggerOperation path raw params)
  | .openApi => return .openApi (← openApiOperation path raw params)
  | .unknown n => Logged.fail (.defect (.version n))

def rawOperations (item : Value) : List (Method × Value) :=
  Method.all.filterMap fun method =>
    let raw := item.get method.name
    if raw.isMap then some (method, raw) else none

/-- The paths of a document with what they hold. Paths without a map are left out. -/
def paths (document : Value) : List (Value × Value) :=
  (document.get "paths").entries.filter (·.2.isMap)

end RestRoutes.Api.Builder
