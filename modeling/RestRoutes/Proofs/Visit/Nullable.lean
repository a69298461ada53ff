import RestRoutes.Proofs.Visit.Blank
import RestRoutes.Proofs.Visit.Blind

/-! Lists of names of types.  Such a list stands for its first name that is not null, wherever a
schema has it: for a parameter, for its items, for a property of a form.  But only the word `null` is
passed over.  A null value before the name is taken for a name itself, and hides the one that was
meant. -/

namespace RestRoutes

namespace Api.Nullable

open Blank (SameBut Entries Items)

/-! ### Documents with single names for lists of names -/

def isNullValue : Value → Bool
  | .null => true
  | _ => false

/-- A null among names of types: a null value, or the word. -/
def isNull (v : Value) : Bool := isNullValue v || Schema.isNullType v

/-- What a name comes to after some nulls: a null value among them is read as if it were a name. -/
def readAfter (nulls : List Value) (name : Value) : Value :=
  if nulls.any isNullValue then .str "None" else name

/-- A type, and the single name that it stands for: of a list of names the first that is no null, and
nothing where all are nulls. -/
inductive Spelled : Value → Value → Prop
  | same (v : Value) : Spelled v v
  | named {nulls : List Value} (hNulls : ∀ v ∈ nulls, isNull v = true) {name : String}
    (hName : name ≠ "null") (more : List Value) :
    Spelled (.list (nulls ++ .str name :: more)) (readAfter nulls (.str name))
  | unnamed {nulls : List Value} (hNulls : ∀ v ∈ nulls, isNull v = true) :
    Spelled (.list nulls) (readAfter nulls .null)

/-- Schemas with single names for lists of them, down to some depth. -/
def schema : Nat → Value → Value → Prop
  | 0 => Eq
  | depth + 1 =>
    SameBut [("type", Spelled), ("items", schema depth), ("properties", Entries (schema depth))]

def mediaType (depth : Nat) : Value → Value → Prop := SameBut [("schema", schema depth)]

/-- Bodies of requests, or responses, with single names for lists of them. -/
def message (depth : Nat) : Value → Value → Prop := SameBut [("content", Entries (mediaType depth))]

def parameter (depth : Nat) : Value → Value → Prop := SameBut [("schema", schema depth)]

/-- Operations with single names for lists of them. -/
def operation (depth : Nat) : Value → Value → Prop :=
  SameBut [("parameters", Items (parameter depth)), ("requestBody", message depth),
    ("responses", Entries (message depth))]

/-! ### Schemas -/

open Schema (ofValue namedSchemas propertiesOf typeName)

theorem find_nulls {nulls : List Value} (h : ∀ v ∈ nulls, isNull v = true) :
    nulls.find? (!Schema.isNullType ·) = if nulls.any isNullValue then some .null else none := by
  induction nulls with
  | nil => rfl
  | cons v rest ih =>
    obtain ⟨hFirst, hRest⟩ := List.forall_mem_cons.mp h
    cases v with
    | null => rfl
    | str s =>
      have hWord : Schema.isNullType (.str s) = true := hFirst
      rw [List.find?_cons, hWord, List.any_cons, ih hRest]
      rfl
    | _ => cases hFirst

theorem Spelled.typeName {t u : Value} (h : Spelled t u) :
    Schema.typeName t = Schema.typeName u := by
  cases h with
  | same => rfl
  | @named nulls hNulls name hName more =>
    have hWord : Schema.isNullType (.str name) = false := beq_eq_false_iff_ne.mpr hName
    rw [Schema.typeName, List.find?_append, find_nulls hNulls, List.find?_cons, hWord, readAfter]
    cases nulls.any isNullValue <;> rfl
  | @unnamed nulls hNulls =>
    rw [Schema.typeName, find_nulls hNulls, readAfter]
    cases nulls.any isNullValue <;> rfl

theorem propertiesOf_eq (v : Value) :
    propertiesOf v =
      if v.isMap then (namedSchemas v.entries).map (some ∘ Assoc.ofNamed) else .ok none := by
  cases v <;> rfl

theorem namedSchemas_congr {R : Value → Value → Prop} (hR : ∀ v w, R v w → ofValue v = ofValue w)
    {es fs : List (Value × Value)} (h : List.Forall₂ (fun e f => e.1 = f.1 ∧ R e.2 f.2) es fs) :
    namedSchemas es = namedSchemas fs := by
  induction h with
  | nil => rfl
  | @cons e f es fs hHead _ ih =>
    obtain ⟨hKey, hValue⟩ := hHead
    rw [namedSchemas, namedSchemas, hKey, hR _ _ hValue, ih]

theorem ofValue_congr {depth : Nat} {v w : Value} (h : schema depth v w) :
    ofValue v = ofValue w := by
  -- Items and properties are schemas one level further down.
  induction depth generalizing v w with
  | zero => rw [(h : v = w)]
  | succ depth ih =>
    have hFields := h.field
    simp only [List.forall_mem_cons] at hFields
    obtain ⟨hType, hItems, hProperties, -⟩ := hFields
    cases hRef : v.get? "$ref" with
    | some target =>
      rw [Schema.ofValue_reference hRef, Schema.ofValue_reference (h.reference.symm.trans hRef)]
    | none =>
      cases hMap : v.isMap with
      | false =>
        rw [Blank.ofValue_of_not_map hMap, Blank.ofValue_of_not_map (h.isMap.symm.trans hMap)]
      | true =>
        rw [Schema.ofValue_inline hMap hRef, Schema.ofValue_inline (h.isMap.symm.trans hMap)
          (h.reference.symm.trans hRef), h.other "description" (by simp), h.other "enum" (by simp),
          h.other "default" (by simp), hType.typeName, ih hItems, propertiesOf_eq, propertiesOf_eq,
          hProperties.isMap, namedSchemas_congr (fun _ _ => ih) hProperties.entries]

/-! ### Operations -/

section Operations

variable {depth : Nat} {v w : Value}

theorem key_congr (h : parameter depth v w) : Builder.key v = Builder.key w := by
  rw [Builder.key, Builder.key, h.other "name" (by simp), h.other "in" (by simp)]

theorem openApiParameter_congr (h : parameter depth v w) :
    Builder.openApiParameter v = Builder.openApiParameter w := by
  have hSchema : schema depth (v.get "schema") (w.get "schema") := h.field _ List.mem_cons_self
  unfold Builder.openApiParameter
  rw [key_congr h, h.other "required" (by simp), h.other "description" (by simp),
    h.other "style" (by simp), h.other "explode" (by simp), ofValue_congr hSchema]

theorem parameters_congr (path : String) {ps qs : List Value}
    (h : List.Forall₂ (parameter depth) ps qs) :
    Builder.parameters Builder.openApiParameter path ps =
      Builder.parameters Builder.openApiParameter path qs := by
  induction h with
  | nil => rfl
  | cons hHead _ ih =>
    unfold Builder.parameters
    rw [hHead.reference, openApiParameter_congr hHead, ih]

theorem content_congr (h : message depth v w) :
    Builder.content (v.get "content") = Builder.content (w.get "content") := by
  have hTypes {es fs : List (Value × Value)}
      (h : List.Forall₂ (fun e f => e.1 = f.1 ∧ mediaType depth e.2 f.2) es fs) :
      Builder.mediaTypes es = Builder.mediaTypes fs := by
    induction h with
    | nil => rfl
    | @cons e f es fs hHead _ ih =>
      obtain ⟨hKey, hValue⟩ := hHead
      have hSchema : schema depth (e.2.get "schema") (f.2.get "schema") :=
        hValue.field _ List.mem_cons_self
      rw [Builder.mediaTypes, Builder.mediaTypes, hKey, ofValue_congr hSchema, ih]
  have hContent : Entries (mediaType depth) (v.get "content") (w.get "content") :=
    h.field _ List.mem_cons_self
  rw [Builder.content, Builder.content, hTypes hContent.entries]

theorem requestBody_congr (h : message depth v w) :
    Builder.requestBody v = Builder.requestBody w := by
  unfold Builder.requestBody
  rw [h.isMap, h.reference, h.other "required" (by simp), h.other "description" (by simp),
    content_congr h]

theorem responses_congr (h : Entries (message depth) v w) :
    Builder.responses v = Builder.responses w := by
  have hEntries {es fs : List (Value × Value)}
      (h : List.Forall₂ (fun e f => e.1 = f.1 ∧ message depth e.2 f.2) es fs) :
      Builder.responseEntries es = Builder.responseEntries fs := by
    induction h with
    | nil => rfl
    | @cons e f es fs hHead _ ih =>
      obtain ⟨hKey, hValue⟩ := hHead
      rw [Builder.responseEntries, Builder.responseEntries, hKey, hValue.isMap,
        hValue.other "description" (by simp), content_congr hValue, ih]
  rw [Builder.responses, Builder.responses, hEntries h.entries]

theorem operation_congr (path : String) {raw raw' : Value} (h : operation depth raw raw')
    {shared shared' : List Value} (hShared : List.Forall₂ (parameter depth) shared shared') :
    Builder.operation .openApi path raw shared = Builder.operation .openApi path raw' shared' := by
  have hFields := h.field
  simp only [List.forall_mem_cons] at hFields
  obtain ⟨hOwn, hBody, hResponses, -⟩ := hFields
  have hMerged := Builder.merge_agree (fun _ _ => key_congr) (fun _ _ hpq => hpq.isMap) hShared hOwn
  refine Logged.Agree.eq ((Logged.Agree.ofExcept hMerged).bind fun ps qs hps => ?_)
  have hSame : Builder.openApiOperation path raw ps = Builder.openApiOperation path raw' qs := by
    unfold Builder.openApiOperation
    rw [h.other "operationId" (by simp), h.other "description" (by simp), parameters_congr path hps,
      requestBody_congr hBody, responses_congr hResponses]
  rw [hSame]
  exact .refl (fun _ => rfl) _

end Operations

/-- An upload with what stands for the types of a parameter, of its items and of a field of the form. -/
def tagForm (tags items photo : Value) : Value :=
  .ofNamed
    [("operationId", .str "addPhoto"),
      ("parameters", .list
        [.ofNamed
          [("name", .str "tags"), ("in", .str "query"),
            ("schema", .ofNamed [("type", tags), ("items", .ofNamed [("type", items)])])]]),
      ("requestBody", .ofNamed
        [("content", .ofNamed
          [("multipart/form-data", .ofNamed
            [("schema", .ofNamed
              [("properties", .ofNamed [("photo", .ofNamed [("type", photo)])])])])])])]

theorem schema_refl (depth : Nat) (v : Value) : schema depth v v := by
  induction depth generalizing v with
  | zero => exact (rfl : v = v)
  | succ depth ih =>
    refine ⟨rfl, rfl, ?_, fun _ _ => rfl⟩
    simp only [List.forall_mem_cons]
    exact ⟨.same _, ih _, ⟨rfl, List.forall₂_same.mpr fun e _ => ⟨rfl, ih e.2⟩⟩, nofun⟩

theorem schema_typed {depth : Nat} {t u : Value} (h : Spelled t u) :
    schema (depth + 1) (.ofNamed [("type", t)]) (.ofNamed [("type", u)]) := by
  refine .ofNamed (by simp) (by simp) ?_
  simp only [List.forall_mem_cons]
  exact ⟨h, schema_refl depth _, ⟨rfl, .nil⟩, nofun⟩

theorem tagForm_related {tags tags' items items' photo photo' : Value} (hTags : Spelled tags tags')
    (hItems : Spelled items items') (hPhoto : Spelled photo photo') :
    operation 2 (tagForm tags items photo) (tagForm tags' items' photo') := by
  have hSchema : schema 2 (.ofNamed [("type", tags), ("items", .ofNamed [("type", items)])])
      (.ofNamed [("type", tags'), ("items", .ofNamed [("type", items')])]) := by
    refine .ofNamed (by simp) (by simp) ?_
    simp only [List.forall_mem_cons]
    exact ⟨hTags, schema_typed hItems, ⟨rfl, .nil⟩, nofun⟩
  have hForm : schema 2
      (.ofNamed [("properties", .ofNamed [("photo", .ofNamed [("type", photo)])])])
      (.ofNamed [("properties", .ofNamed [("photo", .ofNamed [("type", photo')])])]) := by
    refine .ofNamed (by simp) (by simp) ?_
    simp only [List.forall_mem_cons]
    exact ⟨.same _, schema_refl 1 _, ⟨rfl, .cons ⟨rfl, schema_typed hPhoto⟩ .nil⟩, nofun⟩
  refine .ofNamed (by simp) (by simp) ?_
  simp only [List.forall_mem_cons]
  refine ⟨.cons (.ofNamed (by simp) (by simp) ?_) .nil, .ofNamed (by simp) (by simp) ?_,
    ⟨rfl, .nil⟩, nofun⟩
  · simp only [List.forall_mem_cons]
    exact ⟨hSchema, nofun⟩
  · simp only [List.forall_mem_cons]
    refine ⟨⟨rfl, .cons ⟨rfl, .ofNamed (by simp) (by simp) ?_⟩ .nil⟩, nofun⟩
    simp only [List.forall_mem_cons]
    exact ⟨hForm, nofun⟩

end Api.Nullable

namespace Visit

open Api Api.Nullable

/-- A list of names of types, wherever a schema has it, gives the same schema and the same run as the
single name that it stands for, and a list of nulls the same as no type; but a null value that comes
first is read as the name `None`. -/
theorem ofRaw_nullable (filter : Filter) (destination : Destination) (method path : String)
    {depth : Nat} {raw raw' : Value} (h : Nullable.operation depth raw raw')
    {shared shared' : List Value} (hShared : List.Forall₂ (Nullable.parameter depth) shared shared') :
    (∀ v w, Nullable.schema depth v w → Schema.ofValue v = Schema.ofValue w) ∧
      Builder.operation .openApi path raw shared = Builder.operation .openApi path raw' shared' ∧
      ofRaw filter destination method path shared raw =
        ofRaw filter destination method path shared' raw' := by
  have hBuilt := Nullable.operation_congr path h hShared
  refine ⟨fun _ _ => ofValue_congr, hBuilt, ?_⟩
  rw [ofRaw, ofRaw, hBuilt]

theorem ofRaw_nullable_tagForm :
    let run := ofRaw .all Destination.Template.direct.destination "post" "/photos" [] (tagForm
      (.list [.str "null", .str "array"]) (.list [.str "string", .null]) (.list [.str "null"]))
    let run' := ofRaw .all Destination.Template.direct.destination "post" "/photos" []
      (tagForm (.str "array") (.str "string") .null)
    run = run' ∧
      (run.events.filter fun e => e.name == "dataType" || e.name == "arrayType").map
        (·.argument.plainText?) = [some "array", some "string"] := by
  intro run run'
  have hWord : ∀ v ∈ [Value.str "null"], isNull v = true := by simp [isNull, Schema.isNullType]
  have hTags : Spelled (.list [.str "null", .str "array"]) (.str "array") :=
    .named hWord (by decide) []
  have hItems : Spelled (.list [.str "string", .null]) (.str "string") :=
    .named (List.forall_mem_nil _) (by decide) [.null]
  have hPhoto : Spelled (.list [.str "null"]) .null := .unnamed hWord
  obtain ⟨-, -, hSame⟩ := ofRaw_nullable .all Destination.Template.direct.destination "post"
    "/photos" (tagForm_related hTags hItems hPhoto) .nil
  exact ⟨hSame, by decide +kernel⟩

/-- A null value before the name of a type hides it. -/
theorem ofRaw_nullFirst :
    let typed (type : Value) : Value := .ofNamed
      [("operationId", .str "findPets"),
        ("parameters", .list
          [.ofNamed
            [("name", .str "tag"), ("in", .str "query"), ("schema", .ofNamed [("type", type)])]])]
    let types (type : Value) : List (Option String) :=
      ((ofRaw .all Destination.Template.direct.destination "get" "/pets" [] (typed type)).events.filter
        (·.name == "dataType")).map (·.argument.plainText?)
    types (.list [.null, .str "string"]) = [some "None"] ∧ types (.str "string") = [some "string"] ∧
      types (.list [.null]) = [some "None"] ∧ types .null = [] := by
  intro typed types
  exact ⟨by decide +kernel, by decide +kernel, by decide +kernel, by decide +kernel⟩

end Visit

end RestRoutes
