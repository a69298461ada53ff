import RestRoutes.Document

/-! Schemas: what the description of an API says about the type of a value.  References are not
followed. -/

namespace RestRoutes

/-- The text of a scalar where one is expected. Null, maps and lists count as nothing. -/
def Value.scalarText (v : Value) : Except Failure (Option String) :=
  match v with
  | .null | .map _ | .list _ => .ok none
  | .bool b => .ok (some (if b then "true" else "false"))
  | v => v.textOrFail.map some

/-- A boolean where one is expected. Anything else counts as nothing. -/
def Value.flag : Value → Option Bool
  | .bool b => some b
  | _ => none

namespace Api

inductive Schema
  | reference (target : String)
  | inline (type description : Option String) (enum : List Value) (default : Value)
      (items : Option Schema) (properties : Option (List (String × Schema)))

namespace Schema

/-- The schema that says nothing. -/
def blank : Schema := .inline none none [] .null none none

def isReference : Schema → Bool
  | .reference _ => true
  | .inline .. => false

def type? : Schema → Option String
  | .reference _ => none
  | .inline type .. => type

def description? : Schema → Option String
  | .reference _ => none
  | .inline _ description .. => description

def enum : Schema → List Value
  | .reference _ => []
  | .inline _ _ enum .. => enum

/-- The default value, null where there is none. -/
def default : Schema → Value
  | .reference _ => .null
  | .inline _ _ _ default .. => default

def items? : Schema → Option Schema
  | .reference _ => none
  | .inline _ _ _ _ items _ => items

def properties? : Schema → Option (List (String × Schema))
  | .reference _ => none
  | .inline _ _ _ _ _ properties => properties

/-- A name of a type that stands for nothing among others. -/
def isNullType : Value → Bool
  | .str s => s == "null"
  | _ => false

/-- The name of a type: of a list of names, the first that is not `null`. -/
def typeName : Value → Except Failure (Option String)
  | .null => .ok none
  | .list names =>
    match names.find? (!isNullType ·) with
    | some name => name.textOrFail.map some
    | none => .ok none
  | v => v.textOrFail.map some

mutual

/-- The schema that a value describes. Only maps describe one. -/
def ofValue : Value → Except Failure (Option Schema)
  | .map es => do
    match Value.lookup "$ref" es with
    | some target => return some (.reference (← target.textOrFail))
    | none =>
      let raw := Value.map es
      let type ← typeName (raw.get "type")
      let description ← (raw.get "description").scalarText
      let items ← itemsIn es
      let properties ← propertiesIn es
      return some
        (.inline type description (raw.get "enum").items (raw.get "default") items properties)
  | _ => .ok none

def itemsIn : List (Value × Value) → Except Failure (Option Schema)
  | [] => .ok none
  | (.str name, v) :: rest => if name = "items" then ofValue v else itemsIn rest
  | _ :: rest => itemsIn rest

def propertiesIn : List (Value × Value) → Except Failure (Option (List (String × Schema)))
  | [] => .ok none
  | (.str name, .map ps) :: rest =>
    if name = "properties" then (namedSchemas ps).map (some ∘ Assoc.ofNamed)
    else propertiesIn rest
  | (.str name, _) :: rest => if name = "properties" then .ok none else propertiesIn rest
  | _ :: rest => propertiesIn rest

/-- The schemas under the names of a map. What describes none counts as saying nothing. -/
def namedSchemas : List (Value × Value) → Except Failure (List (String × Schema))
  | [] => .ok []
  | (k, v) :: rest => do
    let name ← k.textOrFail
    let schema ← ofValue v
    return (name, schema.getD blank) :: (← namedSchemas rest)

end

end Schema

end Api

end RestRoutes
