import RestRoutes.Proofs.Api.Builder
import RestRoutes.Proofs.Api.Schema
import RestRoutes.Proofs.Assoc
import RestRoutes.Proofs.Value

/-! Operations that both generations of the format can describe, and their two ways into the model: with
everything beside the name of a parameter in Swagger 2, in schemas, contents and responses in
OpenAPI 3.  Both are built from the same texts. -/

namespace RestRoutes.Bilingual

open Api

/-! ### What both generations can say -/

/-- A parameter. Its texts may be any values; an array may say whether its items come one by one or in
one text with commas. -/
structure Parameter where
  name : Option Value
  location : Option Value
  required : Option Bool
  description : Option Value
  type : Option String
  enum : Option (List Value)
  default : Option Value
  itemType : Option String
  oneByOne : Option Bool

/-- A media type. What OpenAPI 3 says about it besides its name may be anything that has a schema. -/
structure MediaType where
  name : String
  entry : Value
  schema : Option Schema
  read : Schema.ofValue (entry.get "schema") = .ok schema

/-- An operation with a body, the media types that it takes and answers with, and the status of the
answer. -/
structure Operation where
  id : Option Value
  description : Option Value
  parameters : List Parameter
  bodyDescription : Option Value
  consumes : List MediaType
  produces : List MediaType
  status : String

namespace Parameter

/-- The type of the items of an array, as a map. -/
def items (p : Parameter) : Option Value := p.itemType.map fun t => .ofNamed [("type", .str t)]

def swagger (p : Parameter) : Value :=
  .ofFields
    [("name", p.name), ("in", p.location), ("required", p.required.map .bool),
      ("description", p.description), ("type", p.type.map .str), ("enum", p.enum.map .list),
      ("default", p.default), ("items", p.items),
      ("collectionFormat", p.oneByOne.map fun b => .str (if b then "multi" else "csv"))]

def schema (p : Parameter) : Value :=
  .ofFields
    [("type", p.type.map .str), ("enum", p.enum.map .list), ("default", p.default),
      ("items", p.items)]

def openApi (p : Parameter) : Value :=
  .ofFields
    [("name", p.name), ("in", p.location), ("required", p.required.map .bool),
      ("description", p.description), ("schema", some p.schema),
      ("style", p.oneByOne.map fun _ => .str "form"), ("explode", p.oneByOne.map .bool)]

end Parameter

namespace Operation

/-- The body as the last parameter. -/
def bodyParameter (o : Operation) : Value :=
  .ofFields
    [("name", some (.str "body")), ("in", some (.str "body")), ("required", some (.bool true)),
      ("description", o.bodyDescription)]

def swagger (o : Operation) : Value :=
  .ofFields
    [("operationId", o.id), ("description", o.description),
      ("parameters", some (.list (o.parameters.map Parameter.swagger ++ [o.bodyParameter]))),
      ("consumes", some (.list (o.consumes.map fun t => .str t.name))),
      ("produces", some (.list (o.produces.map fun t => .str t.name)))]

def content (types : List MediaType) : Value := .ofNamed (types.map fun t => (t.name, t.entry))

def requestBody (o : Operation) : Value :=
  .ofFields [("description", o.bodyDescription), ("content", some (content o.consumes))]

def openApi (o : Operation) : Value :=
  .ofFields
    [("operationId", o.id), ("description", o.description),
      ("parameters", some (.list (o.parameters.map Parameter.openApi))),
      ("requestBody", some o.requestBody),
      ("responses", some (.ofNamed [(o.status, .ofNamed [("content", content o.produces)])]))]

end Operation

/-! ### What is read -/

/-- A parameter with its texts read. -/
structure ReadParameter where
  name : String
  location : String
  description : Option String
  written : Parameter

/-- The texts of an operation as they are read. -/
structure ReadOperation (o : Operation) where
  id : Option String
  description : Option String
  parameters : List ReadParameter
  bodyDescription : Option String

def textOf (v : Option Value) : Except Failure (Option String) := (v.getD .null).scalarText

def Parameter.key (p : Parameter) : Except Failure (String × String) := do
  let name ← textOf p.name
  let location ← textOf p.location
  return (name.getD "", location.getD "")

def Parameter.read (p : Parameter) : Except Failure ReadParameter := do
  let (name, location) ← p.key
  let description ← textOf p.description
  return ⟨name, location, description, p⟩

/-- Reads the texts of an operation, the keys of its parameters first. -/
def Operation.read (o : Operation) : Except Failure (ReadOperation o) := do
  let _ ← o.parameters.mapM Parameter.key
  let id ← textOf o.id
  let description ← textOf o.description
  let parameters ← o.parameters.mapM Parameter.read
  let bodyDescription ← textOf o.bodyDescription
  return ⟨id, description, parameters, bodyDescription⟩

def Parameter.readSchema (p : Parameter) : Schema :=
  .inline p.type none (p.enum.getD []) (p.default.getD .null)
    (p.itemType.map fun t => .inline (some t) none [] .null none none) none

namespace ReadParameter

def swagger (p : ReadParameter) : Swagger.Parameter where
  name := p.name
  location := p.location
  required := p.written.required
  description := p.description
  type := p.written.type
  enum := p.written.enum.getD []
  collectionFormat := p.written.oneByOne.map fun b => if b then "multi" else "csv"
  default := p.written.default.getD .null
  items := p.written.itemType.map some

def openApi (p : ReadParameter) : OpenApi.Parameter where
  name := p.name
  location := p.location
  required := p.written.required
  description := p.description
  schema := some p.written.readSchema
  style := p.written.oneByOne.map fun _ => "form"
  explode := p.written.oneByOne

end ReadParameter

def MediaType.content (types : List MediaType) : OpenApi.Content :=
  types.map fun t => (t.name, t.schema)

namespace ReadOperation

variable {o : Operation}

def bodyParameter (r : ReadOperation o) : Swagger.Parameter :=
  ⟨"body", "body", some true, r.bodyDescription, none, [], none, .null, none⟩

def swagger (path : String) (r : ReadOperation o) : Api.Operation :=
  .swagger {
    path
    id := r.id
    description := r.description
    parameters := r.parameters.map ReadParameter.swagger ++ [r.bodyParameter]
    consumes := o.consumes.map (·.name)
    produces := o.produces.map (·.name) }

def openApi (path : String) (r : ReadOperation o) : Api.Operation :=
  .openApi {
    path
    id := r.id
    description := r.description
    parameters := r.parameters.map ReadParameter.openApi
    requestBody := some ⟨none, r.bodyDescription, MediaType.content o.consumes⟩
    responses := [(o.status, ⟨none, MediaType.content o.produces⟩)] }

end ReadOperation

/-! ### Both are built from the same texts -/

section Building

open Builder

variable (p : Parameter) (o : Operation)

theorem scalarText_str (s : Option String) :
    ((s.map Value.str).getD .null).scalarText = pure s := by
  cases s <;> rfl

theorem typeName_str (s : Option String) :
    Schema.typeName ((s.map Value.str).getD .null) = pure s := by
  cases s <;> rfl

theorem flag_bool (b : Option Bool) : ((b.map Value.bool).getD .null).flag = b := by
  cases b <;> rfl

theorem items_list (xs : Option (List Value)) :
    ((xs.map Value.list).getD .null).items = xs.getD [] := by
  cases xs <;> rfl

theorem key_swagger : key p.swagger = p.key := by
  simp [key, Parameter.key, textOf, Parameter.swagger, Value.get_ofFields_cons]

theorem key_openApi : key p.openApi = p.key := by
  simp [key, Parameter.key, textOf, Parameter.openApi, Value.get_ofFields_cons]

theorem swaggerParameter_swagger :
    swaggerParameter p.swagger = ReadParameter.swagger <$> p.read := by
  have hFormat : ((p.oneByOne.map fun b => Value.str (if b then "multi" else "csv")).getD
      .null).scalarText = pure (p.oneByOne.map fun b => if b then "multi" else "csv") := by
    cases p.oneByOne <;> rfl
  have hItems {α : Type} (next : Option (Option String) → Except Failure α) :
      (if (p.items.getD .null).isMap then
        some <$> ((p.items.getD .null).get "type").scalarText >>= next else next none) =
          next (p.itemType.map some) := by
    unfold Parameter.items
    cases p.itemType <;> rfl
  rw [swaggerParameter, key_swagger, Parameter.read]
  simp only [Parameter.swagger, Value.get_ofFields_cons, Value.get_ofFields_nil, String.reduceEq,
    reduceIte, scalarText_str, flag_bool, items_list, hFormat, hItems, map_bind, map_pure,
    pure_bind]
  rfl

theorem ofValue_schema : Schema.ofValue p.schema = pure (some p.readSchema) := by
  have hItems : Schema.ofValue (p.items.getD .null) =
      pure (p.itemType.map fun t => .inline (some t) none [] .null none none) := by
    unfold Parameter.items
    cases p.itemType <;> rfl
  have hMap : p.schema.isMap = true := rfl
  have hRef : p.schema.get? "$ref" = none := Value.get?_ofFields_of_notMem (by simp)
  rw [Schema.ofValue_inline hMap hRef]
  simp only [Parameter.schema, Value.get_ofFields_cons, Value.get_ofFields_nil, String.reduceEq,
    reduceIte, typeName_str, hItems, items_list, pure_bind]
  rfl

theorem openApiParameter_openApi :
    openApiParameter p.openApi = ReadParameter.openApi <$> p.read := by
  have hStyle : ((p.oneByOne.map fun _ => Value.str "form").getD .null).scalarText =
      pure (p.oneByOne.map fun _ => "form") := by
    cases p.oneByOne <;> rfl
  rw [openApiParameter, key_openApi, Parameter.read]
  simp only [Parameter.openApi, Value.get_ofFields_cons, Value.get_ofFields_nil, String.reduceEq,
    reduceIte, Option.getD_some, flag_bool, hStyle, ofValue_schema, map_bind, map_pure, pure_bind]
  rfl

theorem mapM_key {write : Parameter → Value} (h : ∀ p, key (write p) = p.key)
    (ps : List Parameter) :
    (ps.map write).mapM key = ps.mapM Parameter.key := by
  rw [List.mapM_map]
  exact congrArg (ps.mapM ·) (funext h)

theorem mapM_build {α : Type} {write : Parameter → Value} {build : Value → Except Failure α}
    {f : ReadParameter → α} (h : ∀ p, build (write p) = f <$> p.read) (ps : List Parameter) :
    (ps.map write).mapM build = List.map f <$> ps.mapM Parameter.read := by
  induction ps with
  | nil => rfl
  | cons p rest ih => simp [List.mapM_cons, ih, h]

theorem swaggerParameter_body :
    swaggerParameter o.bodyParameter = do
      let description ← textOf o.bodyDescription
      return ⟨"body", "body", some true, description, none, [], none, .null, none⟩ := by
  rw [swaggerParameter, textOf]
  simp only [key, Operation.bodyParameter, Value.get_ofFields_cons, Value.get_ofFields_nil,
    String.reduceEq, reduceIte, Option.getD_some]
  cases (o.bodyDescription.getD .null).scalarText <;> rfl

theorem texts_names (types : List MediaType) :
    texts (.list (types.map fun t => .str t.name)) = pure (types.map (·.name)) := by
  rw [texts, Value.items, List.mapM_map]
  induction types with
  | nil => rfl
  | cons t rest ih =>
    rw [List.mapM_cons, ih]
    rfl

theorem isInline_swagger :
    ∀ p ∈ o.parameters.map Parameter.swagger ++ [o.bodyParameter],
      p.isMap = true ∧ p.get? "$ref" = none := by
  intro p hp
  rcases List.mem_append.mp hp with hp | hp
  · obtain ⟨q, -, rfl⟩ := List.mem_map.mp hp
    exact ⟨rfl, Value.get?_ofFields_of_notMem (by simp)⟩
  · obtain rfl := List.mem_singleton.mp hp
    exact ⟨rfl, Value.get?_ofFields_of_notMem (by simp)⟩

theorem isInline_openApi :
    ∀ p ∈ o.parameters.map Parameter.openApi, p.isMap = true ∧ p.get? "$ref" = none := by
  intro p hp
  obtain ⟨q, -, rfl⟩ := List.mem_map.mp hp
  exact ⟨rfl, Value.get?_ofFields_of_notMem (by simp)⟩

theorem operation_swagger (path : String) :
    operation .swagger path o.swagger [] = .ofExcept (ReadOperation.swagger path <$> o.read) := by
  have hParameters : (o.swagger.get "parameters").items =
      o.parameters.map Parameter.swagger ++ [o.bodyParameter] := by
    simp only [Operation.swagger, Value.get_ofFields_cons, String.reduceEq, reduceIte,
      Option.getD_some, Value.items]
  have hKey : key o.bodyParameter = pure ("body", "body") := by
    simp only [key, Operation.bodyParameter, Value.get_ofFields_cons, String.reduceEq, reduceIte,
      Option.getD_some]
    rfl
  have hInline := isInline_swagger o
  rw [operation, hParameters, merge_own fun p hp => (hInline p hp).1]
  simp only [swaggerOperation_inline path _ fun p hp => (hInline p hp).2, Logged.ofExcept_bind,
    bind_assoc, Logged.ofExcept_pure, pure_bind]
  simp only [← Logged.ofExcept_pure, ← Logged.ofExcept_bind]
  refine congrArg Logged.ofExcept ?_
  simp only [Operation.swagger, Value.get_ofFields_cons, Value.get_ofFields_nil, String.reduceEq,
    reduceIte, Option.getD_some, List.mapM_append, mapM_key key_swagger, List.mapM_cons,
    List.mapM_nil, hKey, texts_names, swaggerParameter_body, mapM_build swaggerParameter_swagger,
    Operation.read, map_bind, map_pure, pure_bind, bind_assoc, bind_map_left]
  rfl

theorem mediaTypes_content (types : List MediaType) :
    mediaTypes (Operation.content types).entries = pure (MediaType.content types) := by
  rw [Operation.content, Value.ofNamed, Value.entries]
  induction types with
  | nil => rfl
  | cons t rest ih =>
    simp only [List.map_cons, mediaTypes, t.read, ih]
    rfl

theorem content_content {types : List MediaType} (h : (types.map (·.name)).Nodup) :
    content (Operation.content types) = pure (MediaType.content types) := by
  have hDistinct : ((MediaType.content types).map Prod.fst).Nodup := by
    rwa [MediaType.content, List.map_map]
  rw [content, mediaTypes_content]
  exact congrArg Except.ok (Assoc.ofNamed_of_nodup hDistinct)

theorem requestBody_written (h : (o.consumes.map (·.name)).Nodup) :
    requestBody o.requestBody = .ofExcept do
      let description ← textOf o.bodyDescription
      return some ⟨none, description, MediaType.content o.consumes⟩ := by
  have hMap : o.requestBody.isMap = true := rfl
  have hRef : o.requestBody.get? "$ref" = none := Value.get?_ofFields_of_notMem (by simp)
  rw [requestBody, if_pos hMap, hRef, textOf]
  simp only [Operation.requestBody, Value.get_ofFields_cons, Value.get_ofFields_nil,
    String.reduceEq, reduceIte, Option.getD_some, content_content h]
  rfl

theorem responses_written (h : (o.produces.map (·.name)).Nodup) :
    responses (.ofNamed [(o.status, .ofNamed [("content", Operation.content o.produces)])]) =
      pure [(o.status, ⟨none, MediaType.content o.produces⟩)] := by
  have hContent : (Value.ofNamed [("content", Operation.content o.produces)]).get "content" =
      Operation.content o.produces := rfl
  simp only [responses, Value.ofNamed, Value.entries, List.map_cons, List.map_nil,
    responseEntries] at hContent ⊢
  rw [hContent, content_content h]
  rfl

theorem operation_openApi (hConsumes : (o.consumes.map (·.name)).Nodup)
    (hProduces : (o.produces.map (·.name)).Nodup) (path : String) :
    operation .openApi path o.openApi [] = .ofExcept (ReadOperation.openApi path <$> o.read) := by
  have hParameters : (o.openApi.get "parameters").items = o.parameters.map Parameter.openApi := by
    simp only [Operation.openApi, Value.get_ofFields_cons, String.reduceEq, reduceIte,
      Option.getD_some, Value.items]
  have hBody : o.openApi.get "requestBody" = o.requestBody := by
    simp only [Operation.openApi, Value.get_ofFields_cons, String.reduceEq, reduceIte,
      Option.getD_some]
  have hInline := isInline_openApi o
  rw [operation, hParameters, merge_own fun p hp => (hInline p hp).1]
  simp only [openApiOperation_inline path _ (fun p hp => (hInline p hp).2)
    (hBody ▸ requestBody_written o hConsumes), Logged.ofExcept_bind, bind_assoc,
    Logged.ofExcept_pure, pure_bind]
  simp only [← Logged.ofExcept_pure, ← Logged.ofExcept_bind]
  refine congrArg Logged.ofExcept ?_
  simp only [Operation.openApi, Value.get_ofFields_cons, Value.get_ofFields_nil, String.reduceEq,
    reduceIte, Option.getD_some, mapM_key key_openApi, mapM_build openApiParameter_openApi,
    responses_written o hProduces, Operation.read, map_bind, map_pure, pure_bind, bind_map_left]
  rfl

end Building

end RestRoutes.Bilingual
