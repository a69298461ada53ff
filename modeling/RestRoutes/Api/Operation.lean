import RestRoutes.Api.Method
import RestRoutes.Api.Schema

/-! The operations of an API, as the two generations of the format describe them. -/

namespace RestRoutes.Api

/-- A parameter of a Swagger 2 operation, with its type beside its place. The type of its items is
there when it says anything about them. -/
structure Swagger.Parameter where
  name : String
  location : String
  required : Option Bool
  description : Option String
  type : Option String
  enum : List Value
  collectionFormat : Option String
  default : Value
  items : Option (Option String)

structure Swagger.Operation where
  path : String
  id : Option String
  description : Option String
  parameters : List Swagger.Parameter
  consumes : List String
  produces : List String

namespace OpenApi

/-- A parameter of an OpenAPI 3 operation, with its type in a schema. -/
structure Parameter where
  name : String
  location : String
  required : Option Bool
  description : Option String
  schema : Option Schema
  style : Option String
  explode : Option Bool

abbrev Content := List (String × Option Schema)

structure RequestBody where
  required : Option Bool
  description : Option String
  content : Content

structure Response where
  description : Option String
  content : Content

structure Operation where
  path : String
  id : Option String
  description : Option String
  parameters : List Parameter
  requestBody : Option RequestBody
  /-- By status code. -/
  responses : List (String × Response)

end OpenApi

inductive Operation
  | swagger (op : Swagger.Operation)
  | openApi (op : OpenApi.Operation)

namespace Operation

def path : Operation → String
  | swagger op => op.path
  | openApi op => op.path

def id? : Operation → Option String
  | swagger op => op.id
  | openApi op => op.id

def description? : Operation → Option String
  | swagger op => op.description
  | openApi op => op.description

def consumes : Operation → List String
  | swagger op => op.consumes
  | openApi op =>
    match op.requestBody with
    | none => []
    | some body => body.content.map (·.1)

/-- The media types that an operation answers with, those of every response in turn. -/
def produces : Operation → List String
  | swagger op => op.produces
  | openApi op => op.responses.flatMap fun r => r.2.content.map (·.1)

/-- The name of an operation that is neither absent nor empty. -/
def name? (op : Operation) : Option String :=
  match op.id? with
  | some id => if id.isEmpty then none else some id
  | none => none

/-- What an operation is called in reports: its id, or its method and path. -/
def label (method : Method) (op : Operation) : String :=
  op.name?.getD (method.capitalName ++ " " ++ op.path)

end Operation

end RestRoutes.Api
