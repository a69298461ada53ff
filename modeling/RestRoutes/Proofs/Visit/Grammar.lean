import RestRoutes.Proofs.Visit

/-! The language of the events of one operation: the method, the fields of the header, the blocks of
the parameters, the destination.  Every visit that ends well speaks it, whatever the operation says
and however little of it. -/

namespace RestRoutes.Visit

open Api

/-! ### Fields -/

theorem mem_field {name : String} {a : Argument} {e : Event} :
    e ∈ field name a ↔ e = ⟨name, a⟩ ∧ a.isEmpty = false := by
  unfold field
  split <;> simp_all

theorem filter_field (name other : String) (a : Argument) :
    (field name a).filter (·.name == other) = if name == other then field name a else [] := by
  unfold field
  split <;> split <;> simp_all

/-- The events of a list that say something. -/
def filled (events : List Event) : List Event := events.filter fun e => !e.argument.isEmpty

theorem filled_nil : filled [] = [] := rfl

theorem filled_cons (name : String) (a : Argument) (rest : List Event) :
    filled (⟨name, a⟩ :: rest) = field name a ++ filled rest := by
  unfold filled field
  cases h : a.isEmpty <;> simp [h]

theorem isEmpty_of_mem_filled {events : List Event} {e : Event} (h : e ∈ filled events) :
    e.argument.isEmpty = false := by
  simpa using (List.mem_filter.mp h).2

/-! ### Blocks -/

/-- What a block says, be it empty or not. -/
def blockValues (d : Descriptor) : List Event :=
  [⟨"name", .text d.name⟩, ⟨"type", (d.location.map Argument.location).getD .null⟩,
    ⟨"dataType", optional d.dataType⟩, ⟨"allowableValues", .texts d.allowableValues⟩,
    ⟨"collectionFormat", (d.collectionFormat.map Argument.format).getD .null⟩,
    ⟨"defaultValue", optional d.defaultValue⟩, ⟨"arrayType", optional d.arrayType⟩,
    ⟨"required", .bool d.required⟩, ⟨"description", optional d.description⟩]

theorem blockFields_eq (d : Descriptor) : blockFields d = filled (blockValues d) := by
  have hRequired : field "required" (.bool d.required) = [⟨"required", .bool d.required⟩] := rfl
  simp only [blockFields, blockValues, filled_cons, filled_nil, hRequired, List.append_assoc,
    List.append_nil, List.singleton_append]

def blockNames : List String :=
  ["name", "type", "dataType", "allowableValues", "collectionFormat", "defaultValue", "arrayType",
    "required", "description"]

def typingNames : List String :=
  ["dataType", "allowableValues", "collectionFormat", "defaultValue", "arrayType"]

/-- Fields that make up a block: each at most once and in order, none but `required` empty, and none
about the type of a body. -/
structure IsBlock (fields : List Event) : Prop where
  order : (fields.map Event.name).Sublist blockNames
  required : ∃ b, fields.filter (·.name == "required") = [⟨"required", .bool b⟩]
  filled : ∀ e ∈ fields, e.name ≠ "required" → e.argument.isEmpty = false
  body : ⟨"type", .location .body⟩ ∈ fields → ∀ e ∈ fields, e.name ∉ typingNames

/-- Fields between the marks of a block. -/
def framed (fields : List Event) : List Event := .bare "param" :: (fields ++ [.bare "endParam"])

/-- What parameters of both generations are declared with. -/
structure Declaration where
  name : String
  location : String
  required : Option Bool
  description : Option String

/-- The declarations of the parameters of an operation. -/
def declarations : Operation → List Declaration
  | .swagger op => op.parameters.map fun p => ⟨p.name, p.location, p.required, p.description⟩
  | .openApi op => op.parameters.map fun p => ⟨p.name, p.location, p.required, p.description⟩

/-- Fields that say what a parameter is declared with. -/
structure Declares (d : Declaration) (fields : List Event) : Prop where
  name : fields.filter (·.name == "name") = field "name" (.text d.name)
  type : fields.filter (·.name == "type") =
    field "type" (((Location.ofName? d.location).map Argument.location).getD .null)
  required : fields.filter (·.name == "required") =
    [⟨"required", .bool (d.required.getD false)⟩]
  description : fields.filter (·.name == "description") =
    field "description" (optional d.description)

theorem blockFields_names (d : Descriptor) :
    ((blockFields d).map Event.name).Sublist blockNames := by
  rw [blockFields_eq]
  exact List.filter_sublist.map Event.name

theorem blockFields_required (d : Descriptor) :
    (blockFields d).filter (·.name == "required") = [⟨"required", .bool d.required⟩] := by
  simp [blockFields, filter_field]

theorem blockFields_filled (d : Descriptor) :
    ∀ e ∈ blockFields d, e.argument.isEmpty = false := by
  intro e he
  rw [blockFields_eq] at he
  exact isEmpty_of_mem_filled he

/-- A descriptor of a body says nothing about its type. -/
def UntypedBody (d : Descriptor) : Prop :=
  d.location = some .body → d.dataType = none ∧ d.allowableValues = [] ∧
    d.collectionFormat = none ∧ d.defaultValue = none ∧ d.arrayType = none

theorem blockFields_type {d : Descriptor} (h : ⟨"type", .location .body⟩ ∈ blockFields d) :
    d.location = some .body := by
  cases hl : d.location with
  | none => simp [blockFields, mem_field, hl, Argument.isEmpty] at h
  | some l =>
    have hl' : Location.body = l := by simpa [blockFields, mem_field, hl, Argument.isEmpty] using h
    rw [hl']

theorem blockFields_untyped {d : Descriptor} (hd : UntypedBody d)
    (hBody : d.location = some .body) : ∀ e ∈ blockFields d, e.name ∉ typingNames := by
  obtain ⟨h1, h2, h3, h4, h5⟩ := hd hBody
  have hEmpty : ∀ name : String, field name .null = [] := fun _ => rfl
  have hNone : ∀ name : String, field name (.texts []) = [] := fun _ => rfl
  intro e he
  simp only [blockFields, h1, h2, h3, h4, h5, optional, Option.map_none, Option.getD_none, hEmpty,
    hNone, List.append_nil, List.mem_append, List.mem_cons, mem_field] at he
  rcases he with (⟨rfl, -⟩ | ⟨rfl, -⟩) | rfl | ⟨rfl, -⟩ <;> simp [typingNames]

theorem isBlock_blockFields {d : Descriptor} (hd : UntypedBody d) : IsBlock (blockFields d) :=
  ⟨blockFields_names d, ⟨_, blockFields_required d⟩, fun e he _ => blockFields_filled d e he,
    fun h => blockFields_untyped hd (blockFields_type h)⟩

/-! ### The blocks of declared parameters -/

theorem locationNamed_eq_ok {name parameter : String} {l : Option Location}
    (h : Descriptor.locationNamed name parameter = .ok l) : l = Location.ofName? name := by
  unfold Descriptor.locationNamed at h
  split at h
  · rename_i hEmpty
    have hName : name = "" := by simpa [String.isEmpty_iff] using hEmpty
    cases h
    rw [hName]
    decide
  · split at h
    · rename_i hl
      cases h
      exact hl.symm
    · cases h

/-- A descriptor that holds a declaration, with some typing, or none for a body. -/
def Holds (d : Declaration) (descriptor : Descriptor) : Prop :=
  ∃ typing : Descriptor.Typing, (Location.ofName? d.location = some .body → typing = .none) ∧
    descriptor = .ofTyping typing d.name (Location.ofName? d.location) d.required d.description

/-- A parameter is described by its declaration and its typing, of which a body has none. -/
theorem holds_of_typing {declaration : Declaration} {typing : Logged Descriptor.Typing}
    {d : Descriptor}
    (h : (do
      let location ← Logged.ofExcept (Descriptor.locationNamed declaration.location declaration.name)
      let typing ← if location = some .body then pure .none else typing
      return Descriptor.ofTyping typing declaration.name location declaration.required
        declaration.description : Logged Descriptor).outcome = .ok d) :
    Holds declaration d := by
  obtain ⟨l, hl, h⟩ := Logged.bind_eq_ok.mp h
  obtain rfl := locationNamed_eq_ok hl
  simp only at h
  split at h
  · obtain ⟨typing, ht, h⟩ := Logged.bind_eq_ok.mp h
    exact ⟨typing, fun _ => (Except.ok.inj ht).symm, (Except.ok.inj h).symm⟩
  · rename_i hBody
    obtain ⟨typing, -, h⟩ := Logged.bind_eq_ok.mp h
    exact ⟨typing, fun hIs => absurd hIs hBody, (Except.ok.inj h).symm⟩

theorem holds_ofSwagger {p : Swagger.Parameter} {d : Descriptor}
    (h : (Descriptor.ofSwagger p).outcome = .ok d) :
    Holds ⟨p.name, p.location, p.required, p.description⟩ d := by
  apply holds_of_typing
  exact h

theorem holds_ofOpenApi {p : OpenApi.Parameter} {d : Descriptor}
    (h : (Descriptor.ofOpenApi p).outcome = .ok d) :
    Holds ⟨p.name, p.location, p.required, p.description⟩ d := by
  apply holds_of_typing
  exact h

theorem Holds.untypedBody {d : Declaration} {descriptor : Descriptor} (h : Holds d descriptor) :
    UntypedBody descriptor := by
  obtain ⟨typing, hBody, rfl⟩ := h
  intro hl
  rw [hBody hl]
  exact ⟨rfl, rfl, rfl, rfl, rfl⟩

theorem Holds.declares {d : Declaration} {descriptor : Descriptor} (h : Holds d descriptor) :
    Declares d (blockFields descriptor) := by
  obtain ⟨typing, -, rfl⟩ := h
  refine ⟨?_, ?_, blockFields_required _, ?_⟩ <;>
  simp [blockFields, filter_field, Descriptor.ofTyping]

/-- As far as the parameters of an operation have descriptors, these hold their declarations. -/
theorem holds_leading_take (op : Operation) :
    List.Forall₂ Holds ((declarations op).take (leading (Descriptor.ofOperation op)).length)
      (leading (Descriptor.ofOperation op)) := by
  have hAll := leading_described (Descriptor.ofOperation op)
  cases op with
  | swagger op =>
    rw [declarations, ← List.map_take, List.forall₂_map_left_iff]
    simp only [Descriptor.ofOperation, ← List.map_take, List.forall₂_map_left_iff] at hAll ⊢
    exact hAll.imp fun _ _ => holds_ofSwagger
  | openApi op =>
    rw [declarations, ← List.map_take, List.forall₂_map_left_iff]
    simp only [Descriptor.ofOperation, ← List.map_take, List.forall₂_map_left_iff] at hAll ⊢
    exact hAll.imp fun _ _ => holds_ofOpenApi

/-- The descriptors of the parameters of an operation hold their declarations, one after another. -/
theorem holds_leading {op : Operation}
    (h : ∀ p ∈ Descriptor.ofOperation op, ∃ d, p.outcome = .ok d) :
    List.Forall₂ Holds (declarations op) (leading (Descriptor.ofOperation op)) := by
  have hHolds := holds_leading_take op
  have hLength : (declarations op).length ≤ (leading (Descriptor.ofOperation op)).length := by
    rw [← ((emitParameters_ok_iff _).mp ((emitParameters_ok_iff_forall _).mpr h)).length_eq]
    cases op <;> simp [declarations, Descriptor.ofOperation]
  rwa [List.take_of_length_le hLength] at hHolds

theorem untypedBody_leading (op : Operation) :
    ∀ d ∈ leading (Descriptor.ofOperation op), UntypedBody d := by
  have hBoth : List.Forall₂ (fun d declaration => UntypedBody d ∧ Holds declaration d)
      (leading (Descriptor.ofOperation op))
      ((declarations op).take (leading (Descriptor.ofOperation op)).length) :=
    (holds_leading_take op).flip.imp fun _ _ hHolds => ⟨Holds.untypedBody hHolds, hHolds⟩
  exact ((List.forall₂_and_left _ _).mp hBoth).1

theorem untypedBody_extra (op : Operation) : ∀ d ∈ extraDescriptors op, UntypedBody d := by
  intro d hd
  cases op with
  | swagger op => cases hd
  | openApi op =>
    cases hb : op.requestBody with
    | none => simp [extraDescriptors, hb] at hd
    | some body =>
      simp only [extraDescriptors, hb, Option.map_some, Option.getD_some, bodyDescriptors] at hd
      split at hd
      · obtain rfl := List.mem_singleton.mp hd
        exact fun _ => ⟨rfl, rfl, rfl, rfl, rfl⟩
      · obtain ⟨property, -, rfl⟩ := List.mem_map.mp hd
        intro hBody
        simp [Descriptor.ofProperty, Descriptor.ofTyping] at hBody

/-! ### Whole visits -/

/-- What a header says besides the method and the path, be it empty or not. -/
def headerValues (op : Operation) : List Event :=
  [⟨"id", optional op.id?⟩, ⟨"description", optional op.description?⟩,
    ⟨"consumes", .texts op.consumes⟩, ⟨"produces", .texts op.produces⟩]

/-- The fields of a header: those of its values that are not empty. -/
def headerFields (op : Operation) : List Event := filled (headerValues op)

theorem header_eq (method : String) (op : Operation) :
    header method op = ⟨method, .text op.path⟩ :: headerFields op := by
  simp only [headerFields, headerValues, filled_cons, filled_nil, List.append_nil, header,
    List.append_assoc]

theorem IsBlock.not_to {fields : List Event} (h : IsBlock fields) :
    ∀ e ∈ framed fields, e.name ≠ "to" := by
  intro e he
  simp only [framed, List.mem_cons, List.mem_append, List.not_mem_nil, or_false] at he
  rcases he with rfl | he | rfl
  · simp [Event.bare]
  · have hName : e.name ∈ blockNames := h.order.subset (List.mem_map_of_mem he)
    intro hTo
    simp [hTo, blockNames] at hName
  · simp [Event.bare]

/-- After the method, `to` comes once and last. -/
theorem countP_to {op : Operation} {blocks : List (List Event)}
    (h : ∀ fields ∈ blocks, IsBlock fields) (target : Argument) :
    List.countP (fun e : Event => e.name == "to")
      (headerFields op ++ (blocks.flatMap framed ++ [⟨"to", target⟩])) = 1 := by
  have hHeader : (headerFields op).countP (·.name == "to") = 0 := by
    refine List.countP_eq_zero.mpr fun e he => ?_
    have hMem := (List.mem_filter.mp he).1
    simp only [headerValues, List.mem_cons, List.not_mem_nil, or_false] at hMem
    rcases hMem with rfl | rfl | rfl | rfl <;> simp
  have hBlocks : (blocks.flatMap framed).countP (·.name == "to") = 0 := by
    refine List.countP_eq_zero.mpr fun e he => ?_
    obtain ⟨fields, hFields, hMem⟩ := List.mem_flatMap.mp he
    simpa using (h fields hFields).not_to e hMem
  simp [hHeader, hBlocks]

theorem isBlock_of_mem_blocks (op : Operation) :
    ∀ fields ∈ (leading (Descriptor.ofOperation op)).map blockFields ++
      (extraDescriptors op).map blockFields, IsBlock fields := by
  intro fields hFields
  rcases List.mem_append.mp hFields with hMem | hMem
  · obtain ⟨d, hd, rfl⟩ := List.mem_map.mp hMem
    exact isBlock_blockFields (untypedBody_leading op d hd)
  · obtain ⟨d, hd, rfl⟩ := List.mem_map.mp hMem
    exact isBlock_blockFields (untypedBody_extra op d hd)

/-- The events of a visit that comes to its end. -/
theorem visit_events {filter : Filter} {destination : Destination} {op : Operation}
    {target : Argument} (method : String) (hAccepted : filter.accept op.id? = .ok true)
    (hDescribed : ∀ p ∈ Descriptor.ofOperation op, ∃ d, p.outcome = .ok d)
    (hTarget : (destination op).outcome = .ok target) :
    (visit filter destination method op).events =
      ⟨methodName method, .text op.path⟩ ::
        (headerFields op ++
          (((leading (Descriptor.ofOperation op)).map blockFields ++
            (extraDescriptors op).map blockFields).flatMap framed ++ [⟨"to", target⟩])) := by
  have hFramed : block = framed ∘ blockFields := rfl
  rw [visit_of_accepted hAccepted, emitOperation_events, Passage.ofOperation,
    (emitParameters_ok_iff_forall _).mpr hDescribed, hTarget, ← List.map_append,
    List.flatMap_map]
  simp only [Passage.events, header_eq, hFramed]
  rfl

/-- A visit emits exactly when the filter accepts the operation, each of its parameters has a
descriptor and it has a destination.  What it emits then are the method in small letters with the
path, the fields of the header that are not empty, the blocks of the declared parameters one after
another, further blocks, and the destination, which comes once and last.  When the filter rejects
the operation, nothing is emitted. -/
theorem visit_grammar (filter : Filter) (destination : Destination) (method : String)
    (op : Operation) :
    ((visit filter destination method op).outcome = .ok true ↔
      filter.accept op.id? = .ok true ∧
        (∀ p ∈ Descriptor.ofOperation op, ∃ d, p.outcome = .ok d) ∧
        ∃ t, (destination op).outcome = .ok t) ∧
    ((visit filter destination method op).outcome = .ok true →
      ∃ declared further target,
        (visit filter destination method op).events = ⟨methodName method, .text op.path⟩ ::
          (headerFields op ++
            ((declared ++ further).flatMap framed ++ [⟨"to", target⟩])) ∧
        List.Forall₂ Declares (declarations op) declared ∧
        (∀ fields ∈ declared ++ further, IsBlock fields) ∧
        (destination op).outcome = .ok target ∧
        (visit filter destination method op).events.tail.countP (·.name == "to") = 1) ∧
    (filter.accept op.id? = .ok false →
      (visit filter destination method op).outcome = .ok false ∧
        (visit filter destination method op).events = []) := by
  refine ⟨visit_emits_iff filter destination method op, fun h => ?_, fun h => ?_⟩
  · obtain ⟨hAccepted, hDescribed, target, hTarget⟩ := (visit_emits_iff _ _ _ _).mp h
    have hEvents := visit_events method hAccepted hDescribed hTarget
    have hBlocks := isBlock_of_mem_blocks op
    refine ⟨_, _, target, hEvents, ?_, hBlocks, hTarget, ?_⟩
    · rw [List.forall₂_map_right_iff]
      exact (holds_leading hDescribed).imp fun _ _ hHolds => hHolds.declares
    · rw [hEvents, List.tail_cons]
      exact countP_to hBlocks target
  · rw [visit_of_rejected h]
    exact ⟨rfl, rfl⟩

def photoUpload : Operation :=
  .openApi {
    path := "/pets/photo"
    id := some "addPhoto"
    description := some " "
    parameters := [{
      name := "pet"
      location := "query"
      required := some true
      description := none
      schema := some Schema.blank
      style := some "form"
      explode := none }]
    requestBody := some { required := none, description := none, content := [("image/png", none)] }
    responses := [] }

theorem visit_grammar_photoUpload :
    let run := visit .all Destination.Template.direct.destination "POST" photoUpload
    run.outcome = .ok true ∧
      (∃ declared further target, run.events = ⟨"post", .text "/pets/photo"⟩ ::
        (headerFields photoUpload ++
          ((declared ++ further).flatMap framed ++ [⟨"to", target⟩])) ∧
        List.Forall₂ Declares (declarations photoUpload) declared) ∧
      List.countP (fun e : Event => e.name == "to") run.events.tail = 1 := by
  intro run
  have hOk : run.outcome = .ok true := by decide +kernel
  have hMethod : methodName "POST" = "post" := by decide +kernel
  obtain ⟨declared, further, target, hEvents, hDeclared, -, -, hOnce⟩ :=
    (visit_grammar .all Destination.Template.direct.destination "POST" photoUpload).2.1 hOk
  rw [hMethod] at hEvents
  exact ⟨hOk, ⟨declared, further, target, hEvents, hDeclared⟩, hOnce⟩

end RestRoutes.Visit
