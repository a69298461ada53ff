import RestRoutes.Api.Operation
import RestRoutes.Run

/-! Descriptions of parameters that do not depend on the generation of the format. -/

namespace RestRoutes

open Api

/-- What a route says about a parameter. The location is missing only where the parameter has none;
no values stand for any value. -/
structure Descriptor where
  name : String
  location : Option Location
  dataType : Option String
  allowableValues : List String
  collectionFormat : Option CollectionFormat
  defaultValue : Option String
  arrayType : Option String
  required : Bool
  description : Option String

namespace Descriptor

/-- The type of a parameter and the values it may have. -/
structure Typing where
  dataType : Option String
  allowableValues : List String
  collectionFormat : Option CollectionFormat
  defaultValue : Option String
  arrayType : Option String

def Typing.none : Typing := ⟨Option.none, [], Option.none, Option.none, Option.none⟩

/-- The text of a value of a schema: null and the booleans are written in small letters. -/
def valueText (v : Value) : Except Failure String :=
  match v with
  | .null => .ok "null"
  | .bool b => .ok (if b then "true" else "false")
  | v => v.textOrFail

/-- The text of a default value, unless it is empty. -/
def defaultText (v : Value) : Except Failure (Option String) :=
  if v.isEmpty then .ok none else (valueText v).map some

/-- The location with a name. An empty name stands for none; any other unknown one is refused. -/
def locationNamed (name parameter : String) : Except Failure (Option Location) :=
  if name.isEmpty then .ok none
  else
    match Location.ofName? name with
    | some l => .ok (some l)
    | none => .error (.refusal (.location name parameter))

/-- The collection format with a name. An unknown one is left out with a warning. -/
def formatNamed (name : Option String) (parameter : String) :
    Logged (Option CollectionFormat) :=
  match name with
  | none => pure none
  | some name =>
    if name.isEmpty then pure none
    else
      match CollectionFormat.ofName? name with
      | some f => pure (some f)
      | none => do
        Logged.record .warning
          ("Ignoring unknown collectionFormat '" ++ name ++ "' on parameter '" ++ parameter ++ "'")
        return none

/-- The type of the items, where a parameter is an array. -/
def itemsType (dataType : Option String) (items : Option (Option String)) : Option String :=
  if dataType = some "array" then items.join else none

def swaggerTyping (p : Swagger.Parameter) : Logged Typing := do
  let allowableValues ← Logged.ofExcept (p.enum.mapM valueText)
  let defaultValue ← Logged.ofExcept (defaultText p.default)
  let collectionFormat ← formatNamed p.collectionFormat p.name
  return {
    dataType := p.type
    allowableValues, collectionFormat, defaultValue
    arrayType := itemsType p.type p.items }

/-- The collection format that a style stands for. -/
def styleFormat (style : Option String) (explode : Option Bool) : Option CollectionFormat :=
  if style = some "form" then (if explode = some true then some .multi else some .csv) else none

/-- A text that is neither absent nor empty. -/
def nonEmpty (text : Option String) : Option String := text.filter (!·.isEmpty)

def openApiTyping (p : OpenApi.Parameter) : Except Failure Typing :=
  match p.schema with
  | none => .ok .none
  | some schema => do
    let dataType := nonEmpty schema.type?
    let allowableValues ← schema.enum.mapM valueText
    let defaultValue ← defaultText schema.default
    let items := (schema.items?.filter (!·.isReference)).map Schema.type?
    return {
      dataType, allowableValues, defaultValue
      collectionFormat := styleFormat p.style p.explode
      arrayType := itemsType dataType items }

def ofTyping (typing : Typing) (name : String) (location : Option Location)
    (required : Option Bool) (description : Option String) : Descriptor :=
  { name, location
    dataType := typing.dataType
    allowableValues := typing.allowableValues
    collectionFormat := typing.collectionFormat
    defaultValue := typing.defaultValue
    arrayType := typing.arrayType
    required := required.getD false
    description }

/-- The descriptor of a Swagger 2 parameter. A body has no typing. -/
def ofSwagger (p : Swagger.Parameter) : Logged Descriptor := do
  let location ← Logged.ofExcept (locationNamed p.location p.name)
  let typing ← if location = some .body then pure .none else swaggerTyping p
  return ofTyping typing p.name location p.required p.description

/-- The descriptor of an OpenAPI 3 parameter. A body has no typing. -/
def ofOpenApi (p : OpenApi.Parameter) : Logged Descriptor := do
  let location ← Logged.ofExcept (locationNamed p.location p.name)
  let typing ← if location = some .body then pure .none else Logged.ofExcept (openApiTyping p)
  return ofTyping typing p.name location p.required p.description

/-- The descriptors of the parameters of an operation, each on its own. -/
def ofOperation : Operation → List (Logged Descriptor)
  | .swagger op => op.parameters.map ofSwagger
  | .openApi op => op.parameters.map ofOpenApi

/-- The descriptor of one property of a form. All properties are required when the body is. -/
def ofProperty (name : String) (schema : Schema) (required : Option Bool) : Descriptor :=
  ofTyping { Typing.none with dataType := schema.type? } name (some .formData) required
    schema.description?

/-- The descriptor of a body as a whole. -/
def ofBody (description : Option String) : Descriptor :=
  ofTyping .none "body" (some .body) (some true) description

end Descriptor

end RestRoutes
