import RestRoutes.Proofs.Api.Bilingual
import RestRoutes.Proofs.Destination
import RestRoutes.Proofs.Text.Split
import RestRoutes.Proofs.Visit

/-! An operation that is written down in both generations of the format is visited alike.  The built
operations differ: an empty type is kept by one and dropped by the other, and the body is a declared
parameter of one and put in by the visit of the other.  None of this shows in the events. -/

namespace RestRoutes.Bilingual

open Api Visit

variable (p : ReadParameter) {o : Operation} (r : ReadOperation o)

theorem field_nonEmpty (name : String) (text : Option String) :
    field name (optional (Descriptor.nonEmpty text)) = field name (optional text) := by
  cases text with
  | none => rfl
  | some s =>
    by_cases hEmpty : s = ""
    · subst hEmpty
      rfl
    · have hKept : Descriptor.nonEmpty (some s) = some s := by
        simp [Descriptor.nonEmpty, Option.filter, hEmpty]
      rw [hKept]

theorem nonEmpty_eq_array (text : Option String) :
    Descriptor.nonEmpty text = some "array" ↔ text = some "array" := by
  simp only [Descriptor.nonEmpty, Option.filter_eq_some_iff, and_iff_left_iff_imp]
  rintro rfl
  decide

/-- A descriptor whose type counts as missing when it is empty. -/
def withType (d : Descriptor) : Descriptor :=
  { d with dataType := Descriptor.nonEmpty d.dataType }

theorem block_withType (d : Descriptor) : block (withType d) = block d := by
  simp only [block, blockFields, withType, field_nonEmpty]

theorem openApiTyping_openApi :
    Logged.ofExcept (Descriptor.openApiTyping p.openApi) = do
      let typing ← Descriptor.swaggerTyping p.swagger
      return { typing with dataType := Descriptor.nonEmpty typing.dataType } := by
  have hFormat : Descriptor.formatNamed p.swagger.collectionFormat p.swagger.name =
      pure (Descriptor.styleFormat p.openApi.style p.openApi.explode) := by
    unfold ReadParameter.swagger ReadParameter.openApi
    cases p.written.oneByOne with
    | none => rfl
    | some b => cases b <;> rfl
  have hItems : Descriptor.itemsType p.swagger.type p.swagger.items =
      Descriptor.itemsType (Descriptor.nonEmpty p.written.type)
        ((p.written.readSchema.items?.filter (!·.isReference)).map Schema.type?) := by
    unfold Descriptor.itemsType ReadParameter.swagger Parameter.readSchema
    simp only [nonEmpty_eq_array]
    cases p.written.itemType <;> rfl
  rw [Descriptor.swaggerTyping, hFormat, hItems]
  simp only [Descriptor.openApiTyping, ReadParameter.openApi, Logged.ofExcept_bind, bind_assoc,
    pure_bind]
  rfl

theorem ofOpenApi_openApi :
    Descriptor.ofOpenApi p.openApi = withType <$> Descriptor.ofSwagger p.swagger := by
  rw [Descriptor.ofOpenApi, Descriptor.ofSwagger, map_bind]
  refine bind_congr fun location => ?_
  split
  · rfl
  · rw [openApiTyping_openApi]
    simp only [map_bind, bind_assoc, pure_bind, map_pure]
    rfl

theorem ofSwagger_body :
    Descriptor.ofSwagger r.bodyParameter = pure (.ofBody r.bodyDescription) := rfl

theorem emitParameters_swagger (path : String) :
    emitParameters (Descriptor.ofOperation (r.swagger path)) =
      emitParameters (Descriptor.ofOperation (r.openApi path)) >>= fun _ =>
        emitAll (block (.ofBody r.bodyDescription)) := by
  have hDeclared : Descriptor.ofOperation (r.openApi path) =
      (r.parameters.map fun p => Descriptor.ofSwagger p.swagger).map (withType <$> ·) := by
    simp only [ReadOperation.openApi, Descriptor.ofOperation, List.map_map, Function.comp_def,
      ofOpenApi_openApi]
  have hAll : Descriptor.ofOperation (r.swagger path) =
      (r.parameters.map fun p => Descriptor.ofSwagger p.swagger) ++
        [pure (.ofBody r.bodyDescription)] := by
    simp only [ReadOperation.swagger, Descriptor.ofOperation, List.map_append, List.map_map,
      Function.comp_def, List.map_cons, List.map_nil, ofSwagger_body]
  have hBody : emitParameters [pure (.ofBody r.bodyDescription)] =
      emitAll (block (.ofBody r.bodyDescription)) := by
    simp only [emitParameters, bind_pure_unit]
    exact pure_bind _ _
  rw [hAll, hDeclared, emitParameters_append, emitParameters_map block_withType, hBody]

theorem extraDescriptors_openApi (h : ∀ t ∈ o.consumes, isForm t.name = false)
    (path : String) : extraDescriptors (r.openApi path) = [.ofBody r.bodyDescription] := by
  have hForms : formProperties (MediaType.content o.consumes) = [] := by
    rw [formProperties, MediaType.content, List.flatMap_map]
    refine List.flatMap_eq_nil_iff.mpr fun t ht => ?_
    simp only [h t ht]
    rfl
  simp only [extraDescriptors, ReadOperation.openApi, Option.map_some, Option.getD_some,
    bodyDescriptors, hForms]

theorem header_openApi (method path : String) :
    header method (r.openApi path) = header method (r.swagger path) := by
  have hConsumes : (r.openApi path).consumes = (r.swagger path).consumes := by
    simp [ReadOperation.openApi, ReadOperation.swagger, Api.Operation.consumes, MediaType.content]
  have hProduces : (r.openApi path).produces = (r.swagger path).produces := by
    simp [ReadOperation.openApi, ReadOperation.swagger, Api.Operation.produces, MediaType.content]
  rw [header, hConsumes, hProduces]
  rfl

theorem ReadOperation.visit_openApi (h : ∀ t ∈ o.consumes, isForm t.name = false)
    {destination : Destination} (path : String)
    (hDestination : destination (r.swagger path) = destination (r.openApi path)) (filter : Filter)
    (method : String) :
    visit filter destination method (r.swagger path) =
      visit filter destination method (r.openApi path) := by
  have hEmit (method : String) : emitOperation destination method (r.swagger path) =
      emitOperation destination method (r.openApi path) := by
    have hNone : emitAll ((extraDescriptors (r.swagger path)).flatMap block) = pure () := rfl
    have hBody : (extraDescriptors (r.openApi path)).flatMap block =
        block (.ofBody r.bodyDescription) := by
      rw [extraDescriptors_openApi r h, List.flatMap_singleton]
    simp only [emitOperation, header_openApi, emitParameters_swagger, hDestination, hNone, hBody,
      bind_assoc, pure_bind]
  have hId : (r.swagger path).id? = (r.openApi path).id? := rfl
  simp only [visit, hEmit, hId]

/-- Builds an operation of a path without shared parameters, and visits it. -/
def buildAndVisit (version : Document.Version) (filter : Filter) (destination : Destination)
    (method path : String) (raw : Value) : Run Bool := do
  let op ← Run.ofLogged (Builder.operation version path raw [])
  visit filter destination method op

/-- An operation that is written down in Swagger 2 and in OpenAPI 3 is built and visited alike, to the
end or up to the same failure: the same events, records and answer.  The destinations must not tell
operations of one path and id apart, the media types of each kind must be distinct, and none that the
operation takes may be for forms. -/
theorem visit_swagger_eq_visit_openApi (o : Operation) (path method : String) (filter : Filter)
    (destination : Destination)
    (hDestination : ∀ a b : Api.Operation, a.path = b.path → a.id? = b.id? →
      destination a = destination b)
    (hConsumes : (o.consumes.map (·.name)).Nodup) (hProduces : (o.produces.map (·.name)).Nodup)
    (hForms : ∀ t ∈ o.consumes, ¬"form".toList <:+: t.name.toList) :
    buildAndVisit .swagger filter destination method path o.swagger =
      buildAndVisit .openApi filter destination method path o.openApi := by
  have hNoForm : ∀ t ∈ o.consumes, isForm t.name = false := by
    intro t ht
    rw [isForm, ← Bool.not_eq_true, Text.mentions_iff]
    exact hForms t ht
  rw [buildAndVisit, buildAndVisit, operation_swagger, operation_openApi o hConsumes hProduces]
  cases hRead : o.read with
  | error e => rfl
  | ok r =>
    exact r.visit_openApi hNoForm path (hDestination _ _ rfl rfl) filter method

/-- A search by tags, which are listed one by one, for a page whose number has an empty type.  Its last
parameter is in a place that there is none for. -/
def tagSearch : Operation where
  id := some (.str "searchTags")
  description := none
  parameters :=
    [{ name := some (.str "tag")
       location := some (.str "query")
       required := none
       description := some (.str "all of them")
       type := some "array"
       enum := some [.str "cat", .bool true]
       default := some (.str "cat")
       itemType := some "string"
       oneByOne := some true },
     { name := some (.str "page")
       location := some (.str "query")
       required := some true
       description := none
       type := some ""
       enum := none
       default := none
       itemType := none
       oneByOne := some false },
     { name := some (.str "session")
       location := some (.str "cookie")
       required := none
       description := none
       type := none
       enum := none
       default := none
       itemType := none
       oneByOne := none }]
  bodyDescription := some (.str "more tags")
  consumes := [⟨"application/json", .ofNamed [("schema", .ofNamed [])], some .blank, rfl⟩]
  produces := [⟨"application/json", .null, none, rfl⟩, ⟨"text/plain", .null, none, rfl⟩]
  status := "200"

theorem visit_swagger_eq_visit_openApi_tagSearch :
    let swagger := buildAndVisit .swagger .all Destination.Template.direct.destination "GET"
      "/tags" tagSearch.swagger
    let openApi := buildAndVisit .openApi .all Destination.Template.direct.destination "GET"
      "/tags" tagSearch.openApi
    swagger = openApi ∧
      openApi.outcome = .error (.refusal (.location "cookie" "session")) ∧
      openApi.events.map (·.name) =
        ["get", "id", "consumes", "produces",
          "param", "name", "type", "dataType", "allowableValues", "collectionFormat",
          "defaultValue", "arrayType", "required", "description", "endParam",
          "param", "name", "type", "collectionFormat", "required", "endParam"] :=
  ⟨visit_swagger_eq_visit_openApi tagSearch "/tags" "GET" .all _
      (fun _ _ => Destination.Template.direct.destination_congr) (by decide +kernel)
      (by decide +kernel) (by decide +kernel),
    by decide +kernel, by decide +kernel⟩

end RestRoutes.Bilingual
