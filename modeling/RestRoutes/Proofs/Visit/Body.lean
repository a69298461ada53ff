import Mathlib.Data.List.Infix
import RestRoutes.Proofs.Text.Split
import RestRoutes.Proofs.Visit.Stopping

/-! The blocks that stand for the body of a request.  After the blocks of the declared parameters a visit
emits one block for each property of the forms that the body may be, or one for the body as a whole
if there are no properties, and never both. -/

namespace RestRoutes.Visit

open Api

/-! ### Forms -/

def propertyCount (schema : Option Schema) : Nat :=
  match schema.bind Schema.properties? with
  | some properties => properties.length
  | none => 0

/-- The number of properties that the forms of a body declare. -/
def formCount : OpenApi.Content → Nat
  | [] => 0
  | (mediaType, schema) :: rest =>
    (if "form".toList <:+: mediaType.toList then propertyCount schema else 0) + formCount rest

/-- The properties that the forms of a body declare, one form after another. -/
def formEntries : OpenApi.Content → List (String × Schema)
  | [] => []
  | (mediaType, schema) :: rest =>
    (if "form".toList <:+: mediaType.toList then (schema.bind Schema.properties?).getD []
      else []) ++ formEntries rest

theorem length_formEntries (content : OpenApi.Content) :
    (formEntries content).length = formCount content := by
  induction content with
  | nil => rfl
  | cons m rest ih =>
    obtain ⟨mediaType, schema⟩ := m
    have hCount : ((schema.bind Schema.properties?).getD []).length = propertyCount schema := by
      unfold propertyCount
      cases schema.bind Schema.properties? <;> rfl
    rw [formEntries, formCount, List.length_append, ih]
    by_cases hForm : "form".toList <:+: mediaType.toList
    · rw [if_pos hForm, if_pos hForm, hCount]
    · rw [if_neg hForm, if_neg hForm, List.length_nil]

theorem formProperties_eq (content : OpenApi.Content) :
    formProperties content = formEntries content := by
  induction content with
  | nil => rfl
  | cons m rest ih =>
    obtain ⟨mediaType, schema⟩ := m
    have hForm : isForm mediaType = true ↔ "form".toList <:+: mediaType.toList :=
      Text.mentions_iff
    have hHead : formProperties ((mediaType, schema) :: rest) =
        (if isForm mediaType then (schema.bind Schema.properties?).getD [] else []) ++
          formProperties rest := rfl
    rw [hHead, ih, formEntries]
    by_cases h : isForm mediaType = true
    · rw [if_pos h, if_pos (hForm.mp h)]
    · rw [if_neg h, if_neg fun hInfix => h (hForm.mpr hInfix)]

/-! ### Blocks -/

/-- Fields that stand for a property of a form. -/
structure OfProperty (required : Option Bool) (property : String × Schema) (fields : List Event) :
    Prop where
  order : (fields.map Event.name).Sublist ["name", "type", "dataType", "required", "description"]
  name : fields.filter (·.name == "name") = field "name" (.text property.1)
  type : fields.filter (·.name == "type") = [⟨"type", .location .formData⟩]
  dataType : fields.filter (·.name == "dataType") = field "dataType" (optional property.2.type?)
  required : fields.filter (·.name == "required") = [⟨"required", .bool (required.getD false)⟩]
  description : fields.filter (·.name == "description") =
    field "description" (optional property.2.description?)

/-- Fields that stand for a body as a whole. -/
structure OfBody (description : Option String) (fields : List Event) : Prop where
  order : (fields.map Event.name).Sublist ["name", "type", "required", "description"]
  name : fields.filter (·.name == "name") = [⟨"name", .text "body"⟩]
  type : fields.filter (·.name == "type") = [⟨"type", .location .body⟩]
  required : fields.filter (·.name == "required") = [⟨"required", .bool true⟩]
  description : fields.filter (·.name == "description") =
    field "description" (optional description)

/-- The blocks that an operation is to have besides those of its parameters. -/
inductive Represents : Operation → List (List Event) → Prop where
  | swagger (op : Swagger.Operation) : Represents (.swagger op) []
  | bodiless {op : OpenApi.Operation} : op.requestBody = none → Represents (.openApi op) []
  | forms {op : OpenApi.Operation} {body : OpenApi.RequestBody} {blocks : List (List Event)} :
    op.requestBody = some body → 0 < formCount body.content →
      blocks.length = formCount body.content →
      List.Forall₂ (OfProperty body.required) (formEntries body.content) blocks →
      Represents (.openApi op) blocks
  | whole {op : OpenApi.Operation} {body : OpenApi.RequestBody} {fields : List Event} :
    op.requestBody = some body → formCount body.content = 0 → OfBody body.description fields →
      Represents (.openApi op) [fields]

theorem field_names (name : String) (a : Argument) :
    ((field name a).map Event.name).Sublist [name] := by
  unfold field
  split <;> simp

theorem ofProperty_blockFields (required : Option Bool) (property : String × Schema) :
    OfProperty required property (blockFields (.ofProperty property.1 property.2 required)) := by
  have hFields : blockFields (.ofProperty property.1 property.2 required) =
      field "name" (.text property.1) ++ ([⟨"type", .location .formData⟩] ++
        (field "dataType" (optional property.2.type?) ++
          ([⟨"required", .bool (required.getD false)⟩] ++
            field "description" (optional property.2.description?)))) := by
    simp only [blockFields, Descriptor.ofProperty, Descriptor.ofTyping, Descriptor.Typing.none,
      List.append_assoc]
    rfl
  rw [hFields]
  refine ⟨?_, ?_, ?_, ?_, ?_, ?_⟩
  · simp only [List.map_append]
    have hName := field_names "name" (.text property.1)
    have hType := field_names "dataType" (optional property.2.type?)
    have hDescription := field_names "description" (optional property.2.description?)
    exact hName.append ((List.Sublist.refl _).append
      (hType.append ((List.Sublist.refl _).append hDescription)))
  all_goals simp [filter_field]

theorem ofBody_blockFields (description : Option String) :
    OfBody description (blockFields (.ofBody description)) := by
  have hFields : blockFields (.ofBody description) =
      [⟨"name", .text "body"⟩, ⟨"type", .location .body⟩, ⟨"required", .bool true⟩] ++
        field "description" (optional description) := by
    have hName : (Argument.text "body").isEmpty = false := by decide
    simp only [blockFields, field, Descriptor.ofBody, Descriptor.ofTyping, hName]
    rfl
  rw [hFields]
  refine ⟨?_, ?_, ?_, ?_, ?_⟩
  · rw [List.map_append]
    exact (List.Sublist.refl ["name", "type", "required"]).append
      (field_names "description" (optional description))
  all_goals simp [filter_field]

theorem represents_extra (op : Operation) :
    Represents op ((extraDescriptors op).map blockFields) := by
  cases op with
  | swagger op => exact .swagger op
  | openApi op =>
    cases hBody : op.requestBody with
    | none =>
      have hNone : extraDescriptors (.openApi op) = [] := by simp [extraDescriptors, hBody]
      rw [hNone]
      exact .bodiless hBody
    | some body =>
      have hExtra : extraDescriptors (.openApi op) = bodyDescriptors body := by
        simp [extraDescriptors, hBody]
      have hCount := length_formEntries body.content
      rw [hExtra, bodyDescriptors, formProperties_eq]
      -- The properties decide, not the forms: a form without properties is no form.
      cases hEntries : formEntries body.content with
      | nil =>
        rw [hEntries] at hCount
        exact .whole hBody hCount.symm (ofBody_blockFields body.description)
      | cons entry rest =>
        rw [hEntries, List.length_cons] at hCount
        refine .forms hBody (by omega) (by simpa using hCount) ?_
        rw [hEntries, List.map_map, List.forall₂_map_right_iff, List.forall₂_same]
        intro property hProperty
        exact ofProperty_blockFields body.required property

theorem Represents.ofProperties {op : OpenApi.Operation} {body : OpenApi.RequestBody}
    {blocks : List (List Event)} (h : Represents (.openApi op) blocks)
    (hBody : op.requestBody = some body) (hForms : 0 < formCount body.content) :
    blocks.length = formCount body.content ∧
      List.Forall₂ (OfProperty body.required) (formEntries body.content) blocks := by
  cases h with
  | bodiless hNone => rw [hBody] at hNone; cases hNone
  | forms hSome _ hLength hBlocks =>
    obtain rfl : body = _ := Option.some.inj (hBody.symm.trans hSome)
    exact ⟨hLength, hBlocks⟩
  | whole hSome hZero _ =>
    obtain rfl : body = _ := Option.some.inj (hBody.symm.trans hSome)
    omega

/-! ### Whole visits -/

/-- The visit of an accepted operation emits the method and the path, the header, the blocks of the
declared parameters as far as they are described, and then, if they all are, just the blocks that
stand for the body: none in Swagger 2 or without a body; one for each property that a form declares,
in order, if there are any; and one for the body as a whole if there are none.  Where a parameter is
not described the visit fails before the body. -/
theorem visit_represents (filter : Filter) (destination : Destination) (m : Method)
    (op : Operation) (hAccepted : filter.accept op.id? = .ok true) :
    let run := visit filter destination m.name op
    ∃ declared synthesized ending,
      run.events = ⟨m.name, .text op.path⟩ ::
        (headerFields op ++ ((declared ++ synthesized).flatMap framed ++ ending)) ∧
      (∀ fields ∈ declared ++ synthesized, IsBlock fields) ∧
      List.Forall₂ Declares ((declarations op).take declared.length) declared ∧
      ((∀ p ∈ Descriptor.ofOperation op, ∃ d, p.outcome = .ok d) →
        declared.length = (declarations op).length ∧ Represents op synthesized ∧
          ending = ((destination op).outcome.toOption.map (Event.mk "to")).toList) ∧
      ((∃ p ∈ Descriptor.ofOperation op, ∀ d, p.outcome ≠ .ok d) →
        synthesized = [] ∧ ending = [] ∧ ∃ e, run.outcome = .error e) := by
  intro run
  have hBlocks := isBlock_of_mem_blocks op
  have hDeclares : List.Forall₂ Declares
      ((declarations op).take (leading (Descriptor.ofOperation op)).length)
      ((leading (Descriptor.ofOperation op)).map blockFields) := by
    rw [List.forall₂_map_right_iff]
    exact (holds_leading_take op).imp fun _ _ hHolds => hHolds.declares
  have hFramed (ds : List Descriptor) : ds.flatMap block = (ds.map blockFields).flatMap framed := by
    rw [List.flatMap_map]
    rfl
  -- The body is reached only if no declared parameter stops the visit.
  cases hParameters : (emitParameters (Descriptor.ofOperation op)).outcome with
  | ok u =>
    have hDescribed := (emitParameters_ok_iff_forall _).mp hParameters
    obtain ⟨-, hEvents⟩ := visit_of_described destination (m := m) hAccepted hParameters
    have hAll : (leading (Descriptor.ofOperation op)).length = (declarations op).length :=
      (holds_leading hDescribed).length_eq.symm
    refine ⟨(leading (Descriptor.ofOperation op)).map blockFields,
      (extraDescriptors op).map blockFields,
      ((destination op).outcome.toOption.map (Event.mk "to")).toList, ?_, hBlocks, ?_, ?_, ?_⟩
    · rw [hEvents, header_eq, hFramed, List.map_append]
      rfl
    · rwa [List.length_map]
    · intro _
      exact ⟨by rw [List.length_map, hAll], represents_extra op, rfl⟩
    · rintro ⟨p, hp, hNot⟩
      obtain ⟨d, hd⟩ := hDescribed p hp
      exact absurd hd (hNot d)
  | error e =>
    obtain ⟨hOutcome, hEvents⟩ := visit_of_undescribed destination (m := m) hAccepted hParameters
    refine ⟨(leading (Descriptor.ofOperation op)).map blockFields, [], [], ?_, ?_, ?_, ?_, ?_⟩
    · rw [hEvents, header_eq, hFramed, List.append_nil, List.append_nil]
      rfl
    · intro fields hFields
      rw [List.append_nil] at hFields
      exact hBlocks fields (List.mem_append_left _ hFields)
    · rwa [List.length_map]
    · intro hDescribed
      rw [(emitParameters_ok_iff_forall _).mpr hDescribed] at hParameters
      cases hParameters
    · intro _
      exact ⟨rfl, rfl, e, hOutcome⟩

def pictureProperties : List (String × Schema) :=
  [("caption", .inline (some "string") none [] .null none none), ("picture", .reference "Picture")]

/-- The body of an upload: a form with properties, a form without a schema, and no form. -/
def pictureBody : OpenApi.RequestBody where
  required := none
  description := some "the picture"
  content := [
    ("multipart/form-data", some (.inline none none [] .null none (some pictureProperties))),
    ("application/x-www-form-urlencoded", none),
    ("application/json", some (.inline none none [] .null none (some [("id", .blank)])))]

def pictureUpload : Operation :=
  .openApi {
    path := "/pets/pictures"
    id := some "addPicture"
    description := none
    parameters := [⟨"dry", "query", none, none, none, none, none⟩]
    requestBody := some pictureBody
    responses := [] }

theorem formEntries_pictureBody : formEntries pictureBody.content = pictureProperties := by
  have hMultipart : isForm "multipart/form-data" = true := by decide +kernel
  have hUrl : isForm "application/x-www-form-urlencoded" = true := by decide +kernel
  have hJson : isForm "application/json" = false := by decide +kernel
  rw [← formProperties_eq, formProperties, pictureBody]
  simp only [List.flatMap_cons, hMultipart, hUrl, hJson, if_true, Bool.false_eq_true, if_false]
  rfl

theorem visit_represents_pictureUpload :
    let run := visit .all Destination.Template.direct.destination "post" pictureUpload
    run.outcome = .ok true ∧
      ∃ declared synthesized ending,
        run.events = ⟨"post", .text "/pets/pictures"⟩ ::
          (headerFields pictureUpload ++ ((declared ++ synthesized).flatMap framed ++ ending)) ∧
        declared.length = 1 ∧ synthesized.length = 2 ∧
        List.Forall₂ (OfProperty none) pictureProperties synthesized := by
  intro run
  have hOk : run.outcome = .ok true := by decide +kernel
  have hDescribed := ((visit_emits_iff _ _ _ _).mp hOk).2.1
  have hCount : formCount pictureBody.content = 2 := by
    rw [← length_formEntries, formEntries_pictureBody]
    decide
  obtain ⟨declared, synthesized, ending, hEvents, -, -, hAll, -⟩ :=
    visit_represents .all Destination.Template.direct.destination .post pictureUpload rfl
  obtain ⟨hDeclared, hRepresents, -⟩ := hAll hDescribed
  obtain ⟨hLength, hForms⟩ := hRepresents.ofProperties rfl (by rw [hCount]; decide)
  rw [hCount] at hLength
  rw [formEntries_pictureBody] at hForms
  exact ⟨hOk, declared, synthesized, ending, hEvents, hDeclared, hLength, hForms⟩

end RestRoutes.Visit
