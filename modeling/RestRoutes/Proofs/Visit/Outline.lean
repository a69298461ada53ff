import RestRoutes.Proofs.Visit.Blind

/-! What shows of an operation.  Texts that are absent or blank show nothing, so that operations with
one outline are visited with the same events.  Only the destination can tell them apart, by their
ids. -/

namespace RestRoutes

open Api

/-- A text that shows: one that is neither absent nor blank. -/
def shown (text : Option String) : Option String := text.filter (!Text.isBlank ·)

theorem shown_of_blank {s : String} (h : Text.isBlank s = true) : shown (some s) = none := by
  simp [shown, h]

theorem shown_of_not_blank {s : String} (h : Text.isBlank s = false) : shown (some s) = some s := by
  simp [shown, h]

theorem shown_shown (text : Option String) : shown (shown text) = shown text := by
  rw [shown, shown, Option.filter_filter]
  simp only [Bool.and_self]

theorem shown_getD (s : String) : shown (some ((shown (some s)).getD "")) = shown (some s) := by
  cases hBlank : Text.isBlank s with
  | true =>
    rw [shown_of_blank hBlank]
    rfl
  | false => rw [shown_of_not_blank hBlank, Option.getD_some, shown_of_not_blank hBlank]

theorem shown_eq_some_iff {text : Option String} {s : String} (h : Text.isBlank s = false) :
    shown text = some s ↔ text = some s := by
  rw [shown, Option.filter_eq_some_iff, h]
  simp

/-- A value, or null where it counts as nothing. -/
def Value.shown (v : Value) : Value := if v.isEmpty then .null else v

namespace Api.Schema

/-- A property with what shows of its type and description. -/
def shownProperty (p : String × Option String × Option String) :
    String × Option String × Option String := (p.1, shown p.2.1, shown p.2.2)

def Face.shown (f : Face) : Face where
  type := RestRoutes.shown f.type
  description := RestRoutes.shown f.description
  enum := f.enum
  default := f.default.shown
  itemType := RestRoutes.shown f.itemType
  properties := f.properties.map (·.map shownProperty)

end Api.Schema

/-! ### Descriptors -/

namespace Visit

theorem field_shown (name : String) (text : Option String) :
    field name (optional (shown text)) = field name (optional text) := by
  cases text with
  | none => rfl
  | some s =>
    cases hBlank : Text.isBlank s with
    | true =>
      have hEmpty : (optional (some s)).isEmpty = true := hBlank
      rw [shown_of_blank hBlank, field, field, hEmpty]
      rfl
    | false => rw [shown_of_not_blank hBlank]

theorem field_congr (name : String) {text text' : Option String} (h : shown text = shown text') :
    field name (optional text) = field name (optional text') := by
  rw [← field_shown, h, field_shown]

end Visit

namespace Descriptor

open Visit

def Typing.shown (t : Typing) : Typing :=
  { t with
    dataType := RestRoutes.shown t.dataType
    defaultValue := RestRoutes.shown t.defaultValue
    arrayType := RestRoutes.shown t.arrayType }

theorem block_congr {t t' : Typing} {name name' : String} {description description' : Option String}
    (hTyping : t.shown = t'.shown) (hName : shown (some name) = shown (some name'))
    (hDescription : shown description = shown description') (l : Option Location)
    (required : Option Bool) :
    block (ofTyping t name l required description) =
      block (ofTyping t' name' l required description') := by
  have hText (event : String) : field event (.text name) = field event (.text name') :=
    field_congr event hName
  simp only [Typing.shown, Typing.mk.injEq] at hTyping
  obtain ⟨hData, hValues, hFormat, hDefault, hArray⟩ := hTyping
  simp only [block, blockFields, ofTyping, hText, hValues, hFormat, field_congr _ hData,
    field_congr _ hDefault, field_congr _ hArray, field_congr _ hDescription]

/-! ### Typings -/

open Schema (Face face)

theorem defaultText_shown (v : Value) : defaultText v.shown = defaultText v := by
  unfold Value.shown
  split
  · rename_i hEmpty
    rw [defaultText, defaultText, if_pos hEmpty]
    rfl
  · rfl

theorem shown_nonEmpty (text : Option String) : shown (nonEmpty text) = shown text := by
  rw [shown, nonEmpty, Option.filter_filter, shown]
  congr
  funext s
  -- The empty text is blank, so that nothing that shows is empty.
  cases hEmpty : s.isEmpty with
  | true =>
    rw [String.isEmpty_iff] at hEmpty
    subst hEmpty
    rfl
  | false => simp

theorem nonEmpty_eq_array_iff (text : Option String) :
    nonEmpty text = some "array" ↔ text = some "array" := by
  have hArray : "array".isEmpty = false := by decide +kernel
  rw [nonEmpty, Option.filter_eq_some_iff, hArray]
  simp

theorem shown_eq_array_iff (text : Option String) :
    shown text = some "array" ↔ text = some "array" := shown_eq_some_iff (by decide +kernel)

/-- What shows of the typing in a face depends on what shows of the face only. -/
theorem typingOf_shown (f : Face) (format : Option CollectionFormat) :
    (typingOf f format).map Typing.shown = (typingOf f.shown format).map Typing.shown := by
  simp only [typingOf, Face.shown, defaultText_shown, nonEmpty_eq_array_iff, shown_eq_array_iff]
  cases f.enum.mapM valueText with
  | error e => rfl
  | ok values =>
    cases defaultText f.default with
    | error e => rfl
    | ok text =>
      show Except.ok (Typing.shown _) = Except.ok (Typing.shown _)
      simp only [Typing.shown, shown_nonEmpty, shown_shown]
      split <;> simp [shown_shown]

/-- The format that a name stands for. -/
def namedFormat (name : Option String) : Option CollectionFormat :=
  (nonEmpty name).bind CollectionFormat.ofName?

theorem formatNamed_outcome (name : Option String) (parameter : String) :
    (formatNamed name parameter).outcome = .ok (namedFormat name) := by
  cases name with
  | none => rfl
  | some name =>
    rw [formatNamed, namedFormat, nonEmpty, Option.filter_some]
    cases hEmpty : name.isEmpty with
    | true => rfl
    | false =>
      simp only [Bool.not_false, if_true, Option.bind_some]
      cases CollectionFormat.ofName? name <;> rfl

theorem swaggerTyping_shown (p : Swagger.Parameter) :
    (swaggerTyping p).outcome.map Typing.shown =
      (typingOf ⟨p.type, none, p.enum, p.default, p.items.join, none⟩
        (namedFormat p.collectionFormat)).map Typing.shown := by
  rw [swaggerTyping, typingOf]
  simp only [Logged.bind_outcome, Logged.ofExcept_outcome, formatNamed_outcome]
  cases p.enum.mapM valueText with
  | error e => rfl
  | ok values =>
    cases defaultText p.default with
    | error e => rfl
    | ok text =>
      show Except.ok (Typing.shown _) = Except.ok (Typing.shown _)
      simp only [Typing.shown, shown_nonEmpty, itemsType, nonEmpty_eq_array_iff]

/-! ### Outlines of parameters -/

/-- What shows of a parameter, however it is declared. -/
structure Outline where
  name : Option String
  location : String
  required : Option Bool
  description : Option String
  face : Face
  format : Option CollectionFormat

/-- The block of a parameter, unless its descriptor is in the way. -/
def block? (p : Logged Descriptor) : Option (List Event) := p.outcome.toOption.map block

/-- The block that a parameter with an outline has. -/
def Outline.block? (o : Outline) : Option (List Event) := do
  let location ← (locationNamed o.location "").toOption
  let typing ← if location = some .body then some .none else (typingOf o.face o.format).toOption
  return block (ofTyping typing (o.name.getD "") location o.required o.description)

theorem locationNamed_toOption (name parameter parameter' : String) :
    (locationNamed name parameter).toOption = (locationNamed name parameter').toOption := by
  unfold locationNamed
  split
  · rfl
  · split <;> rfl

theorem block?_placed {typing : Logged Typing} {f : Face} {format : Option CollectionFormat}
    (hTyping : typing.outcome.map Typing.shown = (typingOf f format).map Typing.shown)
    (location name : String) (required : Option Bool) (description : Option String) :
    block? (placed location name typing required description) =
      Outline.block? ⟨shown (some name), location, required, shown description, f.shown, format⟩ := by
  have hBlock {t t' : Typing} (h : t.shown = t'.shown) (l : Option Location) :
      block (ofTyping t name l required description) =
        block (ofTyping t' ((shown (some name)).getD "") l required (shown description)) :=
    block_congr h (shown_getD name).symm (shown_shown description).symm l required
  rw [typingOf_shown] at hTyping
  unfold block? Outline.block?
  simp only [locationNamed_toOption location "" name]
  cases hPlace : locationNamed location name with
  | error e =>
    rw [placed_of_error hPlace]
    rfl
  | ok l =>
    rw [placed_outcome hPlace]
    by_cases hBody : l = some .body
    · rw [if_pos hBody]
      show _ = ite (l = some .body) _ _
      rw [if_pos hBody]
      exact congrArg some (hBlock rfl l)
    · rw [if_neg hBody]
      show _ = ite (l = some .body) _ _
      rw [if_neg hBody]
      cases hRead : typing.outcome with
      | error e =>
        cases hFace : typingOf f.shown format with
        | error e' => rfl
        | ok t' => rw [hRead, hFace] at hTyping; cases hTyping
      | ok t =>
        cases hFace : typingOf f.shown format with
        | error e' => rw [hRead, hFace] at hTyping; cases hTyping
        | ok t' =>
          rw [hRead, hFace] at hTyping
          exact congrArg some (hBlock (Except.ok.inj hTyping) l)

def swaggerOutline (p : Swagger.Parameter) : Outline where
  name := shown (some p.name)
  location := p.location
  required := p.required
  description := shown p.description
  face := Face.shown ⟨p.type, none, p.enum, p.default, p.items.join, none⟩
  format := namedFormat p.collectionFormat

def openApiOutline (p : OpenApi.Parameter) : Outline where
  name := shown (some p.name)
  location := p.location
  required := p.required
  description := shown p.description
  face := (face p.schema).shown
  format := formatOf p

theorem block?_ofSwagger (p : Swagger.Parameter) :
    block? (ofSwagger p) = (swaggerOutline p).block? :=
  block?_placed (swaggerTyping_shown p) p.location p.name p.required p.description

theorem block?_ofOpenApi (p : OpenApi.Parameter) :
    block? (ofOpenApi p) = (openApiOutline p).block? := by
  rw [ofOpenApi_eq, openApiTyping_eq]
  exact block?_placed rfl p.location p.name p.required p.description

def outlines : Operation → List Outline
  | .swagger op => op.parameters.map swaggerOutline
  | .openApi op => op.parameters.map openApiOutline

theorem map_block?_ofOperation (op : Operation) :
    (ofOperation op).map block? = (outlines op).map Outline.block? := by
  cases op with
  | swagger op =>
    simp only [ofOperation, outlines, List.map_map]
    exact List.map_congr_left fun p _ => block?_ofSwagger p
  | openApi op =>
    simp only [ofOperation, outlines, List.map_map]
    exact List.map_congr_left fun p _ => block?_ofOpenApi p

end Descriptor

/-! ### Outlines of operations -/

namespace Visit

open Descriptor (block?)
open Schema (face property shownProperty)
open Assoc (Matches)

/-- The blocks up to the first that is missing. -/
def leadingBlocks : List (Option (List Event)) → List Event
  | some block :: rest => block ++ leadingBlocks rest
  | _ => []

theorem leading_blocks (ps : List (Logged Descriptor)) :
    (leading ps).flatMap block = leadingBlocks (ps.map block?) := by
  induction ps with
  | nil => rfl
  | cons p rest ih =>
    cases h : p.outcome with
    | error e => simp [leading, leadingBlocks, block?, h, Except.toOption]
    | ok d => simp [leading, leadingBlocks, block?, h, Except.toOption, ih]

theorem isSome_block? (p : Logged Descriptor) :
    (block? p).isSome = true ↔ ∃ d, p.outcome = .ok d := by
  rw [block?]
  cases p.outcome <;> simp [Except.toOption]

/-! ### Bodies -/

/-- Schemas of which the same shows. -/
def SameShown (a b : Option Schema) : Prop := a.isSome = b.isSome ∧ (face a).shown = (face b).shown

theorem map_shownProperty_eq {c d : OpenApi.Content} (h : Matches SameShown c d) :
    ((formProperties c).map property).map shownProperty =
      ((formProperties d).map property).map shownProperty := by
  have hShown (m : String × Option Schema) :
      (if isForm m.1 then (face m.2).properties.getD [] else []).map shownProperty =
        if isForm m.1 then (face m.2).shown.properties.getD [] else [] := by
    split
    · show ((face m.2).properties.getD []).map shownProperty =
        ((face m.2).properties.map (·.map shownProperty)).getD []
      cases (face m.2).properties <;> rfl
    · rfl
  simp only [map_property_formProperties, List.map_flatMap, hShown]
  induction h with
  | nil => rfl
  | cons hHead _ ih => rw [List.flatMap_cons, List.flatMap_cons, ih, hHead.1, hHead.2.2]

def propertyBlock (required : Option Bool) (p : String × Option String × Option String) :
    List Event :=
  block (.ofTyping { Descriptor.Typing.none with dataType := p.2.1 } p.1 (some .formData) required
    p.2.2)

theorem propertyBlock_shown (required : Option Bool) (p : String × Option String × Option String) :
    propertyBlock required (shownProperty p) = propertyBlock required p :=
  Descriptor.block_congr (by simp [Descriptor.Typing.shown, shownProperty, shown_shown]) rfl
    (shown_shown p.2.2) _ required

/-- The blocks of a body are made from what shows of its properties and of its description. -/
theorem flatMap_bodyDescriptors (body : OpenApi.RequestBody) :
    (bodyDescriptors body).flatMap block =
      match ((formProperties body.content).map property).map shownProperty with
      | [] => block (.ofBody (shown body.description))
      | ps => ps.flatMap (propertyBlock body.required) := by
  rw [bodyDescriptors_eq]
  cases (formProperties body.content).map property with
  | nil =>
    have hBody : block (.ofBody body.description) = block (.ofBody (shown body.description)) :=
      Descriptor.block_congr rfl rfl (shown_shown body.description).symm _ _
    simpa using hBody
  | cons p ps =>
    simp only [List.map_cons, List.flatMap_cons, List.flatMap_map, propertyBlock_shown]
    rfl

/-- Operations of which the same shows, whatever their ids are. -/
structure SameOutline (a b : Operation) : Prop where
  path : a.path = b.path
  id : shown a.id? = shown b.id?
  description : shown a.description? = shown b.description?
  consumes : a.consumes = b.consumes
  produces : a.produces = b.produces
  parameters : Descriptor.outlines a = Descriptor.outlines b
  extra : (extraDescriptors a).flatMap block = (extraDescriptors b).flatMap block

namespace SameOutline

variable {a b : Operation}

theorem header_eq (h : SameOutline a b) (method : String) : header method a = header method b := by
  simp only [header, h.path, field_congr _ h.id, field_congr _ h.description, h.consumes, h.produces]

theorem blocks_eq (h : SameOutline a b) :
    (leading (Descriptor.ofOperation a)).flatMap block =
      (leading (Descriptor.ofOperation b)).flatMap block := by
  simp only [leading_blocks, Descriptor.map_block?_ofOperation, h.parameters]

theorem described_iff (h : SameOutline a b) :
    (emitParameters (Descriptor.ofOperation a)).outcome = .ok () ↔
      (emitParameters (Descriptor.ofOperation b)).outcome = .ok () := by
  have hBlocks : (Descriptor.ofOperation a).map block? = (Descriptor.ofOperation b).map block? := by
    simp only [Descriptor.map_block?_ofOperation, h.parameters]
  have hAll (op : Operation) : (emitParameters (Descriptor.ofOperation op)).outcome = .ok () ↔
      ∀ block ∈ (Descriptor.ofOperation op).map block?, block.isSome = true := by
    simp only [emitParameters_ok_iff_forall, List.forall_mem_map, isSome_block?]
  rw [hAll, hAll, hBlocks]

/-- The events but for the destination depend on the outline only, and the destination besides on the
name. -/
theorem emitOperation_events (h : SameOutline a b) (t : Destination.Template) (method : String) :
    let run := emitOperation t.destination method a
    let run' := emitOperation t.destination method b
    (run.dropping "to").events = (run'.dropping "to").events ∧
      (a.name? = b.name? → run.events = run'.events) := by
  have hEvents (target : Option Argument) :
      Passage.events ⟨method, a, leading (Descriptor.ofOperation a) ++ extraDescriptors a, target⟩ =
        Passage.events ⟨method, b, leading (Descriptor.ofOperation b) ++ extraDescriptors b,
          target⟩ := by
    simp only [Passage.events, h.header_eq, List.flatMap_append, h.blocks_eq, h.extra]
  have hDropped (op : Operation) (blocks : List Descriptor) (target : Option Argument) :
      (Passage.events ⟨method, op, blocks, target⟩).filter (·.name != "to") =
        (Passage.events ⟨method, op, blocks, none⟩).filter (·.name != "to") := by
    cases target <;> simp [Passage.events]
  simp only [Run.dropping, Visit.emitOperation_events, Passage.ofOperation]
  cases ha : (emitParameters (Descriptor.ofOperation a)).outcome with
  | ok u =>
    rw [h.described_iff.mp ha]
    refine ⟨by simp only [hDropped, hEvents], fun hName => ?_⟩
    rw [hEvents, Destination.Template.destination_congr_name t h.path hName]
  | error e =>
    cases hb : (emitParameters (Descriptor.ofOperation b)).outcome with
    | ok u =>
      have hOk := h.described_iff.mpr hb
      rw [ha] at hOk
      cases hOk
    | error e' => simp only [Passage.events, h.header_eq, h.blocks_eq, implies_true, and_self]

end SameOutline

end Visit

end RestRoutes
