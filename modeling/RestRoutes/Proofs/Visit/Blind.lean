import RestRoutes.Proofs.Api.Agreement
import RestRoutes.Proofs.Descriptor
import RestRoutes.Proofs.Destination
import RestRoutes.Proofs.Visit.Grammar

/-! References to schemas say nothing about an operation: wherever a schema may stand, a reference may be
left out, with whatever stands beside it.  There is one exception, the format of a parameter that is
styled as a form, which shows whether the parameter has a schema at all. -/

namespace RestRoutes

open Api

namespace Api.Schema

/-! ### What is shown of a schema -/

/-- What an operation can show of a schema that it may not have. -/
structure Face where
  type : Option String
  description : Option String
  enum : List Value
  default : Value
  itemType : Option String
  properties : Option (List (String × Option String × Option String))

def property (p : String × Schema) : String × Option String × Option String :=
  (p.1, p.2.type?, p.2.description?)

def face (s : Option Schema) : Face where
  type := s.bind type?
  description := s.bind description?
  enum := (s.map enum).getD []
  default := (s.map default).getD .null
  itemType := (s.bind items?).bind type?
  properties := (s.bind properties?).map (·.map property)

theorem map_property_eq {ps qs : List (String × Schema)}
    (h : PropertiesMatch (fun a b => face a = face b) ps qs) :
    ps.map property = qs.map property := by
  induction h with
  | nil => rfl
  | @cons p q ps qs hHead _ ih =>
    have hType : p.2.type? = q.2.type? := congrArg Face.type hHead.2
    have hDescription : p.2.description? = q.2.description? := congrArg Face.description hHead.2
    rw [List.map_cons, List.map_cons, ih, property, property, hHead.1, hType, hDescription]

theorem respected_face : Respected true fun a b => face a = face b where
  refl _ := rfl
  named {a b} h := by
    have hNamed (s : Option Schema) : face (some (s.getD blank)) = face s := by cases s <;> rfl
    rw [hNamed, hNamed, h]
  inline type description enum default i j ps qs hItems hProperties := by
    have hType : i.bind type? = j.bind type? := congrArg Face.type hItems
    have hShown : ps.map (·.map property) = qs.map (·.map property) := by
      cases hProperties with
      | none => rfl
      | some hMatch => rw [Option.map_some, Option.map_some, map_property_eq hMatch]
    show Face.mk type description enum default (i.bind type?) (ps.map (·.map property)) =
      Face.mk type description enum default (j.bind type?) (qs.map (·.map property))
    rw [hType, hShown]
  reference _ s _ h := by
    rcases h with rfl | rfl <;> rfl

end Api.Schema

/-! ### Parameters -/

namespace Descriptor

open Schema (Face face)

/-- The typing that shows in a face, with a format. -/
def typingOf (f : Face) (format : Option CollectionFormat) : Except Failure Typing := do
  let allowableValues ← f.enum.mapM valueText
  let defaultValue ← defaultText f.default
  return {
    dataType := nonEmpty f.type
    allowableValues, defaultValue
    collectionFormat := format
    arrayType := if nonEmpty f.type = some "array" then f.itemType else none }

/-- The format of a parameter. It is the one thing that shows whether there is a schema. -/
def formatOf (p : OpenApi.Parameter) : Option CollectionFormat :=
  if p.schema.isSome then styleFormat p.style p.explode else none

theorem openApiTyping_eq (p : OpenApi.Parameter) :
    openApiTyping p = typingOf (face p.schema) (formatOf p) := by
  have hItems (s : Schema) :
      ((s.items?.filter (!·.isReference)).map Schema.type?).join = s.items?.bind Schema.type? := by
    cases s.items? with
    | none => rfl
    | some i => cases i <;> rfl
  unfold openApiTyping formatOf
  cases p.schema with
  | none => rfl
  | some s =>
    simp only [itemsType, hItems]
    rfl

def unformatted (d : Descriptor) : Descriptor := { d with collectionFormat := none }

theorem ofOpenApi_congr {p q : OpenApi.Parameter}
    (h : p.Like (fun a b => face a = face b) q) (hFormat : formatOf p = formatOf q) :
    ofOpenApi p = ofOpenApi q := by
  rw [ofOpenApi_eq, ofOpenApi_eq, openApiTyping_eq, openApiTyping_eq, h.location, h.name,
    h.schema, hFormat, h.required, h.description]

theorem unformatted_placed (location name : String) (typing : Logged Typing)
    (required : Option Bool) (description : Option String) :
    unformatted <$> placed location name typing required description =
      placed location name ((fun t : Typing => { t with collectionFormat := none }) <$> typing)
        required description := by
  simp only [placed, map_bind]
  refine bind_congr fun l => ?_
  split
  · rfl
  · simp only [map_bind, map_pure, bind_map_left]
    rfl

theorem unformatted_typingOf (f : Face) (format : Option CollectionFormat) :
    (fun t : Typing => { t with collectionFormat := none }) <$>
      Logged.ofExcept (typingOf f format) = Logged.ofExcept (typingOf f none) := by
  simp only [typingOf, Logged.ofExcept_bind, map_bind]
  rfl

theorem unformatted_ofOpenApi {p q : OpenApi.Parameter}
    (h : p.Like (fun a b => face a = face b) q) :
    unformatted <$> ofOpenApi p = unformatted <$> ofOpenApi q := by
  simp only [ofOpenApi_eq, unformatted_placed, openApiTyping_eq, unformatted_typingOf,
    h.location, h.name, h.schema, h.required, h.description]

end Descriptor

/-! ### Operations -/

namespace Visit

open Schema (face property)
open Assoc (Matches)

/-- Schemas that show the same. -/
abbrev SameFace (a b : Option Schema) : Prop := face a = face b

theorem map_property_formProperties (content : OpenApi.Content) :
    (formProperties content).map property =
      content.flatMap fun m => if isForm m.1 then (face m.2).properties.getD [] else [] := by
  rw [formProperties, List.map_flatMap]
  refine congrArg (content.flatMap ·) (funext fun m => ?_)
  simp only
  split
  · show ((m.2.bind Schema.properties?).getD []).map property =
      ((m.2.bind Schema.properties?).map (·.map property)).getD []
    cases m.2.bind Schema.properties? <;> rfl
  · rfl

theorem map_formProperties_eq {c d : OpenApi.Content} (h : Matches SameFace c d) :
    (formProperties c).map property = (formProperties d).map property := by
  rw [map_property_formProperties, map_property_formProperties]
  induction h with
  | nil => rfl
  | cons hHead _ ih => rw [List.flatMap_cons, List.flatMap_cons, ih, hHead.1, hHead.2]

/-- A body is described by what its properties show. -/
theorem bodyDescriptors_eq (body : OpenApi.RequestBody) :
    bodyDescriptors body =
      match (formProperties body.content).map property with
      | [] => [.ofBody body.description]
      | shown => shown.map fun p =>
        .ofTyping { Descriptor.Typing.none with dataType := p.2.1 } p.1 (some .formData)
          body.required p.2.2 := by
  unfold bodyDescriptors
  cases formProperties body.content with
  | nil => rfl
  | cons p ps =>
    simp only [List.map_cons, List.map_map]
    rfl

variable {P : OpenApi.Parameter → OpenApi.Parameter → Prop} {a b : Operation}

theorem consumes_congr (h : Operation.Like SameFace P a b) : a.consumes = b.consumes := by
  cases h with
  | swagger => rfl
  | @openApi a b _ _ _ _ requestBody =>
    simp only [Operation.consumes]
    generalize a.requestBody = x, b.requestBody = y at requestBody
    cases requestBody with
    | none => rfl
    | some hBody => exact hBody.content.keys

theorem produces_congr (h : Operation.Like SameFace P a b) : a.produces = b.produces := by
  cases h with
  | swagger => rfl
  | @openApi a b _ _ _ _ _ responses =>
    simp only [Operation.produces]
    generalize a.responses = rs, b.responses = ts at responses
    induction responses with
    | nil => rfl
    | cons hHead _ ih => rw [List.flatMap_cons, List.flatMap_cons, ih, hHead.2.content.keys]

theorem path_congr (h : Operation.Like SameFace P a b) : a.path = b.path := by
  cases h with
  | swagger => rfl
  | openApi path => exact path

theorem id_congr (h : Operation.Like SameFace P a b) : a.id? = b.id? := by
  cases h with
  | swagger => rfl
  | openApi _ id => exact id

theorem header_congr (h : Operation.Like SameFace P a b) (method : String) :
    header method a = header method b := by
  have hDescription : a.description? = b.description? := by
    cases h with
    | swagger => rfl
    | openApi _ _ description => exact description
  rw [header, header, path_congr h, id_congr h, hDescription, consumes_congr h, produces_congr h]

theorem extraDescriptors_congr (h : Operation.Like SameFace P a b) :
    extraDescriptors a = extraDescriptors b := by
  cases h with
  | swagger => rfl
  | @openApi a b _ _ _ _ requestBody =>
    simp only [extraDescriptors]
    generalize a.requestBody = x, b.requestBody = y at requestBody
    cases requestBody with
    | none => rfl
    | @some x y hBody =>
      have hSame : bodyDescriptors x = bodyDescriptors y := by
        rw [bodyDescriptors_eq, bodyDescriptors_eq, map_formProperties_eq hBody.content,
          hBody.required, hBody.description]
      rw [Option.map_some, Option.map_some, hSame]

end Visit

/-! ### Runs without some events -/

namespace Run

variable {α β : Type}

/-- A run without the events of one name. -/
def dropping (name : String) (x : Run α) : Run α :=
  { x with events := x.events.filter (·.name != name) }

theorem dropping_bind (name : String) (x : Run α) (f : α → Run β) :
    (x >>= f).dropping name = x.dropping name >>= fun a => (f a).dropping name := by
  cases h : x.outcome with
  | ok a =>
    rw [bind_of_ok h, bind_of_ok (x := x.dropping name) h, dropping, dropping, dropping,
      List.filter_append]
  | error e => rw [bind_of_error h, bind_of_error (x := x.dropping name) h, dropping, dropping]

theorem dropping_of_events_eq_nil (name : String) {x : Run α} (h : x.events = []) :
    x.dropping name = x := by
  rw [dropping, h]
  exact Run.ext h.symm rfl rfl

end Run

namespace Visit

open Descriptor (unformatted)

abbrev formatEvent : String := "collectionFormat"

theorem filter_field_ne {name other : String} (h : name ≠ other) (a : Argument) :
    (field name a).filter (·.name != other) = field name a := by
  refine List.filter_eq_self.mpr fun e he => ?_
  rw [(mem_field.mp he).1]
  exact bne_iff_ne.mpr h

theorem block_unformatted (d : Descriptor) :
    (block d).filter (·.name != formatEvent) = block (unformatted d) := by
  have hFormat (a : Argument) : (field formatEvent a).filter (·.name != formatEvent) = [] := by
    refine List.filter_eq_nil_iff.mpr fun e he => ?_
    rw [(mem_field.mp he).1]
    simp
  have hFields : (blockFields d).filter (·.name != formatEvent) = blockFields (unformatted d) := by
    have hNone : field formatEvent .null = [] := rfl
    have hRequired : "required" ≠ formatEvent := by decide
    simp (disch := decide) [blockFields, unformatted, filter_field_ne, hFormat, hNone,
      List.filter_cons, hRequired]
  have hEnds : Event.name (.bare "param") ≠ formatEvent ∧
      Event.name (.bare "endParam") ≠ formatEvent := by decide
  simp [block, hFields, hEnds]

theorem emitParameters_dropping (ps : List (Logged Descriptor)) :
    (emitParameters ps).dropping formatEvent = emitParameters (ps.map (unformatted <$> ·)) := by
  induction ps with
  | nil => rfl
  | cons p rest ih =>
    have hBlock (d : Descriptor) :
        (emitAll (block d)).dropping formatEvent = emitAll (block (unformatted d)) := by
      rw [Run.dropping, emitAll, block_unformatted, emitAll]
    rw [emitParameters, Run.dropping_bind, Run.dropping_of_events_eq_nil formatEvent rfl,
      List.map_cons, emitParameters, Run.ofLogged_map, bind_map_left]
    refine bind_congr fun d => ?_
    rw [Run.dropping_bind, hBlock, ih]

/-! ### Operations that show the same -/

variable {filter : Filter} {destination : Destination} {a b : Operation}

theorem visit_congr {P : OpenApi.Parameter → OpenApi.Parameter → Prop}
    (h : Operation.Like SameFace P a b)
    (hDescribed : Descriptor.ofOperation a = Descriptor.ofOperation b)
    (hDestination : destination a = destination b) (method : String) :
    visit filter destination method a = visit filter destination method b := by
  have hEmit (method : String) :
      emitOperation destination method a = emitOperation destination method b := by
    simp only [emitOperation, header_congr h, hDescribed, extraDescriptors_congr h, hDestination]
  simp only [visit, hEmit, id_congr h]

/-- Two visits differ in formats only when the parameters are described alike up to them. -/
theorem visit_dropping_congr {P : OpenApi.Parameter → OpenApi.Parameter → Prop}
    (h : Operation.Like SameFace P a b)
    (hDescribed : (Descriptor.ofOperation a).map (unformatted <$> ·) =
      (Descriptor.ofOperation b).map (unformatted <$> ·))
    (hDestination : destination a = destination b) (method : String) :
    (visit filter destination method a).dropping formatEvent =
      (visit filter destination method b).dropping formatEvent := by
  have hEmit (method : String) :
      (emitOperation destination method a).dropping formatEvent =
        (emitOperation destination method b).dropping formatEvent := by
    simp only [emitOperation, Run.dropping_bind, header_congr h, emitParameters_dropping,
      hDescribed, extraDescriptors_congr h, hDestination]
  unfold visit
  rw [id_congr h, Run.dropping_bind, Run.dropping_bind]
  refine bind_congr fun accepted => ?_
  split
  · rw [Run.dropping_bind, Run.dropping_bind, hEmit]
  · rfl

theorem forall₂_map_eq {α β : Type} {P : α → α → Prop} {f : α → β}
    (hf : ∀ p q, P p q → f p = f q) {ps qs : List α} (h : List.Forall₂ P ps qs) :
    ps.map f = qs.map f := by
  rw [← List.forall₂_eq_eq_eq, List.forall₂_map_left_iff, List.forall₂_map_right_iff]
  exact h.imp hf

/-! ### From documents -/

/-- Builds an operation of a path with the parameters shared by that path, and visits it. -/
def ofRaw (filter : Filter) (destination : Destination) (method path : String)
    (shared : List Value) (raw : Value) : Run Bool := do
  let op ← Run.ofLogged (Builder.operation .openApi path raw shared)
  visit filter destination method op

/-- A parameter that is styled as a form has a schema in both of two documents or in none. -/
def KeepsFormat (p q : Value) : Prop :=
  (p.get "style").scalarText = .ok (some "form") →
    (p.get "schema").isMap = (q.get "schema").isMap

theorem isSome_ofValue {v : Value} {s : Option Schema} (h : Schema.ofValue v = .ok s) :
    s.isSome = v.isMap := by
  cases v with
  | map es =>
    cases hRef : (Value.map es).get? "$ref" with
    | some target =>
      rw [Schema.ofValue_reference hRef] at h
      obtain ⟨text, -, h⟩ := except_bind_eq_ok.mp h
      obtain rfl := Except.ok.inj h
      rfl
    | none =>
      rw [Schema.ofValue_inline rfl hRef] at h
      obtain ⟨type, -, h⟩ := except_bind_eq_ok.mp h
      obtain ⟨description, -, h⟩ := except_bind_eq_ok.mp h
      obtain ⟨items, -, h⟩ := except_bind_eq_ok.mp h
      obtain ⟨properties, -, h⟩ := except_bind_eq_ok.mp h
      obtain rfl := Except.ok.inj h
      rfl
  | _ =>
    obtain rfl := Except.ok.inj h
    rfl

theorem openApiParameter_format {p : Value} {a : OpenApi.Parameter}
    (h : Builder.openApiParameter p = .ok a) :
    (p.get "style").scalarText = .ok a.style ∧ a.schema.isSome = (p.get "schema").isMap := by
  obtain ⟨k, -, h⟩ := except_bind_eq_ok.mp h
  obtain ⟨description, -, h⟩ := except_bind_eq_ok.mp h
  obtain ⟨schema, hSchema, h⟩ := except_bind_eq_ok.mp h
  obtain ⟨style, hStyle, h⟩ := except_bind_eq_ok.mp h
  obtain rfl := Except.ok.inj h
  exact ⟨hStyle, isSome_ofValue hSchema⟩

theorem formatOf_eq {p q : Value} (hKeeps : KeepsFormat p q) {a b : OpenApi.Parameter}
    (ha : Builder.openApiParameter p = .ok a) (hb : Builder.openApiParameter q = .ok b)
    (h : a.Like SameFace b) : Descriptor.formatOf a = Descriptor.formatOf b := by
  obtain ⟨hStyle, hSome⟩ := openApiParameter_format ha
  obtain ⟨-, hSome'⟩ := openApiParameter_format hb
  rw [Descriptor.formatOf, Descriptor.formatOf, ← h.style, ← h.explode]
  by_cases hForm : a.style = some "form"
  · rw [hForm] at hStyle
    rw [hSome, hSome', hKeeps hStyle]
  · have hNone : Descriptor.styleFormat a.style a.explode = none := if_neg hForm
    rw [hNone, ite_self, ite_self]

theorem operation_agree_of {P : Value → Value → Prop}
    {Q : OpenApi.Parameter → OpenApi.Parameter → Prop}
    (hAlike : ∀ p q, P p q → Alike .openApi true (.object .parameter) p q)
    (hBuild : ∀ p q a b, P p q → Builder.openApiParameter p = .ok a →
      Builder.openApiParameter q = .ok b → a.Like SameFace b → Q a b) (path : String)
    {raw raw' : Value} (h : Alike .openApi true (.object .operation) raw raw')
    (hOwn : List.Forall₂ P (raw.get "parameters").items (raw'.get "parameters").items)
    {shared shared' : List Value} (hShared : List.Forall₂ P shared shared') :
    Logged.Agree (Operation.Like SameFace Q) (Builder.operation .openApi path raw shared)
      (Builder.operation .openApi path raw' shared') := by
  refine Builder.operation_agree Schema.respected_face hAlike (fun _ p q hpq hRef => ?_) path h
    hOwn hShared
  have hLike := Builder.openApiParameter_agree Schema.respected_face (hAlike p q hpq) hRef
  exact hLike.imp fun a b ha hb hab => hBuild p q a b hpq ha hb hab

/-- Whether a schema is a reference, and where it stands, does not show in a visit, except in formats:
with references left out, a run logs the same, ends alike and emits the same events but for formats.
It is the same run if every parameter that is styled as a form still has a schema, or still has
none.  The destinations must not tell operations of one path and id apart. -/
theorem ofRaw_blind (filter : Filter) (destination : Destination) (method path : String)
    (hDestination : ∀ a b : Operation, a.path = b.path → a.id? = b.id? →
      destination a = destination b)
    {raw raw' : Value} (h : Alike .openApi true (.object .operation) raw raw')
    {shared shared' : List Value}
    (hShared : List.Forall₂ (Alike .openApi true (.object .parameter)) shared shared') :
    let run := ofRaw filter destination method path shared raw
    let run' := ofRaw filter destination method path shared' raw'
    run.dropping formatEvent = run'.dropping formatEvent ∧
      (List.Forall₂ KeepsFormat shared shared' →
        List.Forall₂ KeepsFormat (raw.get "parameters").items (raw'.get "parameters").items →
          run = run') := by
  intro run run'
  have hParameters : Alike .openApi true (.list .parameter) (raw.get "parameters")
      (raw'.get "parameters") := h.get (by decide) (by simp [Role.fields])
  have hOwn := hParameters.items
  constructor
  -- The built parameters show the same but for their formats, which the events then leave out.
  · have hBuilt := operation_agree_of (Q := OpenApi.Parameter.Like SameFace) (fun _ _ hpq => hpq)
      (fun _ _ _ _ _ _ _ hab => hab) path h hOwn hShared
    have hVisits : ∀ a b, Operation.Like SameFace (OpenApi.Parameter.Like SameFace) a b →
        (visit filter destination method a).dropping formatEvent =
          (visit filter destination method b).dropping formatEvent := by
      intro a b hab
      refine visit_dropping_congr hab ?_ (hDestination a b (path_congr hab) (id_congr hab)) method
      cases hab with
      | swagger => rfl
      | openApi _ _ _ parameters =>
        simp only [Descriptor.ofOperation, List.map_map]
        exact forall₂_map_eq (fun p q hpq => Descriptor.unformatted_ofOpenApi hpq) parameters
    simp only [run, run', ofRaw, Run.dropping_bind,
      Run.dropping_of_events_eq_nil formatEvent (Run.ofLogged_events _)]
    exact Run.ofLogged_bind_congr hBuilt hVisits
  -- With the formats kept, the parameters are described alike as they stand.
  · intro hSharedKeep hOwnKeep
    have hBoth {ps qs : List Value}
        (hAlike : List.Forall₂ (Alike .openApi true (.object .parameter)) ps qs)
        (hKeep : List.Forall₂ KeepsFormat ps qs) :
        List.Forall₂ (fun p q => Alike .openApi true (.object .parameter) p q ∧ KeepsFormat p q)
          ps qs := hAlike.mp (fun _ _ hpq hKeeps => ⟨hpq, hKeeps⟩) hKeep
    have hBuilt := operation_agree_of
      (Q := fun a b => a.Like SameFace b ∧ Descriptor.formatOf a = Descriptor.formatOf b)
      (fun _ _ hpq => hpq.1)
      (fun p q a b hpq ha hb hab => ⟨hab, formatOf_eq hpq.2 ha hb hab⟩)
      path h (hBoth hOwn hOwnKeep) (hBoth hShared hSharedKeep)
    refine Run.ofLogged_bind_congr hBuilt fun a b hab => ?_
    refine visit_congr hab ?_ (hDestination a b (path_congr hab) (id_congr hab)) method
    cases hab with
    | swagger => rfl
    | openApi _ _ _ parameters =>
      simp only [Descriptor.ofOperation]
      exact forall₂_map_eq (fun p q hpq => Descriptor.ofOpenApi_congr hpq.1 hpq.2) parameters

/-- The upload of an album with whatever stands for its schemas: the owner of the album, the items of its
tags, its cover, and the album as a whole. -/
def albumUpload (owner tag album : List (String × Value)) (cover : Value) : Value :=
  .ofNamed
    [("operationId", .str "addAlbum"),
      ("parameters", .list
        [.ofNamed ([("name", .str "owner"), ("in", .str "query")] ++ owner),
          .ofNamed
            [("name", .str "tags"), ("in", .str "query"), ("style", .str "form"),
              ("schema", .ofNamed ([("type", .str "array")] ++ tag))]]),
      ("requestBody", .ofNamed
        [("content", .ofNamed
          [("multipart/form-data", .ofNamed
              [("schema", .ofNamed [("properties", .ofNamed [("cover", cover)])])]),
            ("application/json", .ofNamed album)])])]

def albumReference : Value :=
  .ofNamed [("$ref", .str "#/components/schemas/Album"), ("type", .str "string")]

def referringUpload : Value :=
  albumUpload [("schema", albumReference)] [("items", albumReference)] [("schema", albumReference)]
    albumReference

def silentUpload : Value := albumUpload [] [] [] (.ofNamed [])

theorem albumReference_alike {w : Value} (h : w = .null ∨ w = .map []) :
    Alike .openApi true (.object .schema) albumReference w :=
  .reference rfl (show _ = some (.str "#/components/schemas/Album") from rfl) rfl h

theorem upload_parameters_alike :
    Alike .openApi true (.list .parameter) (referringUpload.get "parameters")
      (silentUpload.get "parameters") := by
  have hTags : Alike .openApi true (.object .schema)
      (.ofNamed [("type", .str "array"), ("items", albumReference)])
      (.ofNamed [("type", .str "array")]) := by
    refine .of_fields (by simp [Role.marks, Value.lookup]) rfl ?_
    simp only [Role.fields, Bool.false_eq_true, if_false, List.forall_mem_cons]
    exact ⟨.same _ _, .same _ _, .same _ _, .same _ _, albumReference_alike (.inl rfl),
      .same _ _, by simp⟩
  refine .item ?_ (.item ?_ (.same _ _))
  · refine .of_fields (by simp [Role.marks, Value.lookup]) rfl ?_
    simp only [Role.fields, List.cons_append, List.nil_append, Bool.false_eq_true, if_false,
      List.forall_mem_cons]
    exact ⟨.same _ _, .same _ _, .same _ _, .same _ _, albumReference_alike (.inl rfl),
      .same _ _, .same _ _, by simp⟩
  · refine .of_fields (by simp [Role.marks, Value.lookup]) rfl ?_
    simp only [Role.fields, List.cons_append, List.nil_append, Bool.false_eq_true, if_false,
      List.forall_mem_cons]
    exact ⟨.same _ _, .same _ _, .same _ _, .same _ _, hTags, .same _ _, .same _ _, by simp⟩

theorem upload_body_alike :
    Alike .openApi true (.object .requestBody) (referringUpload.get "requestBody")
      (silentUpload.get "requestBody") := by
  have hForm : Alike .openApi true (.object .schema)
      (.ofNamed [("properties", .ofNamed [("cover", albumReference)])])
      (.ofNamed [("properties", .ofNamed [("cover", .ofNamed [])])]) := by
    refine .of_fields (by simp [Role.marks, Value.lookup]) rfl ?_
    simp only [Role.fields, Bool.false_eq_true, if_false, List.forall_mem_cons]
    exact ⟨.same _ _, .same _ _, .same _ _, .same _ _, .same _ _,
      .entry (albumReference_alike (.inr rfl)) (.same _ _), by simp⟩
  have hMedia {s t : Value} (h : Alike .openApi true (.object .schema) s t)
      {es fs : List (Value × Value)} (hs : (Value.map es).get "schema" = s)
      (ht : (Value.map fs).get "schema" = t) (hRef : Value.lookup "$ref" es = none) :
      Alike .openApi true (.object .mediaType) (.map es) (.map fs) := by
    refine .of_fields (by simp [Role.marks]) hRef ?_
    simp only [Role.fields, List.forall_mem_cons]
    exact ⟨hs ▸ ht ▸ h, by simp⟩
  refine .of_fields (by simp [Role.marks, Value.lookup]) rfl ?_
  simp only [Role.fields, Bool.false_eq_true, if_false, List.forall_mem_cons]
  refine ⟨.same _ _, .same _ _, ?_, by simp⟩
  exact .entry (hMedia hForm rfl rfl rfl)
    (.entry (hMedia (albumReference_alike (.inl rfl)) rfl rfl rfl) (.same _ _))

theorem ofRaw_blind_album :
    let run := ofRaw .all Destination.Template.direct.destination "post" "/albums" []
      referringUpload
    let run' := ofRaw .all Destination.Template.direct.destination "post" "/albums" []
      silentUpload
    Alike .openApi true (.object .operation) referringUpload silentUpload ∧ run = run' ∧
      run.events.map (·.name) =
        ["post", "id", "consumes", "param", "name", "type", "required", "endParam",
          "param", "name", "type", "dataType", "collectionFormat", "required", "endParam",
          "param", "name", "type", "required", "endParam", "to"] := by
  intro run run'
  have hAlike : Alike .openApi true (.object .operation) referringUpload silentUpload := by
    refine .of_fields (by simp [Role.marks]) rfl ?_
    simp only [Role.fields, List.cons_append, List.nil_append, List.forall_mem_cons]
    exact ⟨.same _ _, .same _ _, upload_parameters_alike, upload_body_alike, .same _ _, by simp⟩
  have hKeep : List.Forall₂ KeepsFormat (referringUpload.get "parameters").items
      (silentUpload.get "parameters").items := by
    refine .cons ?_ (.cons (fun _ => rfl) .nil)
    intro hStyle
    cases hStyle
  obtain ⟨-, hSame⟩ := ofRaw_blind .all Destination.Template.direct.destination "post" "/albums"
    (fun _ _ => Destination.Template.direct.destination_congr) hAlike .nil
  exact ⟨hAlike, hSame .nil hKeep, by decide +kernel⟩

/-- A search by tags that are listed one by one, with whatever stands for their schema. -/
def styledSearch (schema : List (String × Value)) : Value :=
  .ofNamed
    [("operationId", .str "findPets"),
      ("parameters", .list
        [.ofNamed
          ([("name", .str "tags"), ("in", .str "query"), ("style", .str "form"),
            ("explode", .bool true)] ++ schema)])]

/-- A reference does show where a parameter is styled as a form. -/
theorem ofRaw_styledSearch :
    let run := ofRaw .all Destination.Template.direct.destination "get" "/pets" []
      (styledSearch [("schema", .ofNamed [("$ref", .str "#/components/schemas/Tags")])])
    let run' := ofRaw .all Destination.Template.direct.destination "get" "/pets" []
      (styledSearch [])
    run.events.map (·.name) =
        ["get", "id", "param", "name", "type", "collectionFormat", "required", "endParam", "to"] ∧
      run'.events.map (·.name) =
        ["get", "id", "param", "name", "type", "required", "endParam", "to"] ∧
      run.events ≠ run'.events := by
  intro run run'
  have hReferring : run.events.map (·.name) =
      ["get", "id", "param", "name", "type", "collectionFormat", "required", "endParam", "to"] := by
    decide +kernel
  have hSilent : run'.events.map (·.name) =
      ["get", "id", "param", "name", "type", "required", "endParam", "to"] := by
    decide +kernel
  refine ⟨hReferring, hSilent, fun hSame => ?_⟩
  rw [hSame, hSilent] at hReferring
  exact absurd hReferring (by decide)

end Visit

end RestRoutes
