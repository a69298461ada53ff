import RestRoutes.Failure
import RestRoutes.Json.Reader
import RestRoutes.Text.Split
import RestRoutes.Yaml.Reader

/-! Reading documents: their text as JSON or YAML, and the generation of the format they are written
for. -/

namespace RestRoutes

/-- The text of a value, which fails for integers of too many digits. -/
def Value.textOrFail (v : Value) : Except Failure String :=
  match v.text? with
  | some text => .ok text
  | none => .error (.defect .longIntegerText)

namespace Document

/-- What is known about the format of a text before it is read. -/
inductive Hint
  | none
  | json
  | yaml
deriving DecidableEq, Repr

def refuse {α : Type} (fault : DocumentFault) : Except Failure α :=
  .error (.refusal (.document fault))

def requireMap (v : Value) : Except Failure Value :=
  if v.isMap then .ok v
  else refuse (.notMap (match v with | .null => .none | _ => some v.kind))

/-- Reads a text as YAML, after it was not taken for JSON. -/
def readYaml (json : Option Json.Fault) (text : String) : Except Failure Value :=
  match Yaml.read text with
  | .ok v => requireMap v
  | .error (.problem what) => refuse (.unreadable json what)
  | .error (.scalar fault) => .error (.defect (.scalar fault))

/-- Reads a text as JSON, and as YAML if it is no JSON.  A hint leaves one of the two out. -/
def read (text : String) (hint : Hint) : Except Failure Value :=
  match hint with
  | .yaml => readYaml .none text
  | _ =>
    match Json.read text with
    | .ok v => requireMap v
    | .error (.longInteger digits) => .error (.defect (.longInteger digits))
    | .error (.fault fault) =>
      if hint = .json then refuse (.notJson fault) else readYaml (some fault) text

/-! ### Generations -/

/-- The generation of the format that a document is written for. -/
inductive Version
  | swagger
  | openApi
  | unknown (n : Int)
deriving DecidableEq, Repr

def Version.ofInt (n : Int) : Version :=
  if n = 2 then .swagger else if n = 3 then .openApi else .unknown n

def Version.number : Version → Int
  | .swagger => 2
  | .openApi => 3
  | .unknown n => n

/-- The generation that a document says it is written for. -/
def version (document : Value) : Except Failure Version :=
  match document.get? "swagger" with
  | some v => do
    let text ← v.textOrFail
    if Text.startsWith "2." text then return .swagger else refuse (.swaggerVersion text)
  | none =>
    match document.get "openapi" with
    | .null => refuse .versionMissing
    | v => do
      let text ← v.textOrFail
      if Text.startsWith "3." text then return .openApi else refuse (.openApiVersion text)

end Document

end RestRoutes
