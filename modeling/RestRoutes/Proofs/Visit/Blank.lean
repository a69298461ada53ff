import RestRoutes.Proofs.Api.Listing
import RestRoutes.Proofs.Api.Merge
import RestRoutes.Proofs.Visit.Outline

/-! Blank texts in documents.  A text that is empty or white space shows no more than an absent one, in
all places that are read for events but one: an id of white space is still a name, and the operation
is routed to it. -/

namespace RestRoutes

namespace Api.Blank

open Assoc (Matches)

/-! ### Documents without some blank texts -/

def isBlankText : Value → Bool
  | .str s => Text.isBlank s
  | _ => false

/-- The same value, or none where there was a blank text. -/
def Clears (v w : Value) : Prop := v = w ∨ isBlankText v = true ∧ w = .null

/-- Values that are the same object but for some fields, which are related each in its way. -/
structure SameBut (fields : List (String × (Value → Value → Prop))) (v w : Value) : Prop where
  isMap : v.isMap = w.isMap
  reference : v.get? "$ref" = w.get? "$ref"
  field : ∀ f ∈ fields, f.2 (v.get f.1) (w.get f.1)
  other : ∀ name, name ∉ fields.map Prod.fst → v.get name = w.get name

/-- Values that have related entries under the same keys. -/
structure Entries (R : Value → Value → Prop) (v w : Value) : Prop where
  isMap : v.isMap = w.isMap
  entries : List.Forall₂ (fun e f => e.1 = f.1 ∧ R e.2 f.2) v.entries w.entries

def Items (R : Value → Value → Prop) (v w : Value) : Prop := List.Forall₂ R v.items w.items

/-- Schemas without some blank texts, down to some depth. -/
def schema : Nat → Value → Value → Prop
  | 0 => Eq
  | depth + 1 =>
    SameBut [("type", Clears), ("description", Clears), ("default", Clears),
      ("items", schema depth), ("properties", Entries (schema depth))]

def mediaType (depth : Nat) : Value → Value → Prop := SameBut [("schema", schema depth)]

def requestBody (depth : Nat) : Value → Value → Prop :=
  SameBut [("description", Clears), ("content", Entries (mediaType depth))]

/-- The fields that tell the type of a parameter. -/
def typeFields (depth : Nat) : Document.Version → List (String × (Value → Value → Prop))
  | .swagger => [("type", Clears), ("default", Clears), ("items", SameBut [("type", Clears)])]
  | _ => [("schema", schema depth)]

/-- Parameters without some blank texts. -/
def parameter (depth : Nat) (version : Document.Version) : Value → Value → Prop :=
  SameBut ([("name", Clears), ("description", Clears)] ++ typeFields depth version)

/-- Operations without some blank texts. -/
def operation (depth : Nat) (version : Document.Version) : Value → Value → Prop :=
  SameBut [("operationId", Clears), ("description", Clears),
    ("parameters", Items (parameter depth version)), ("requestBody", requestBody depth)]

theorem Clears.refl (v : Value) : Clears v v := .inl rfl

theorem schema_refl (depth : Nat) (v : Value) : schema depth v v := by
  induction depth generalizing v with
  | zero => exact (rfl : v = v)
  | succ depth ih =>
    refine ⟨rfl, rfl, ?_, fun _ _ => rfl⟩
    simp only [List.forall_mem_cons]
    exact ⟨.refl _, .refl _, .refl _, ih _, ⟨rfl, List.forall₂_same.mpr fun e _ => ⟨rfl, ih e.2⟩⟩,
      nofun⟩

theorem SameBut.ofNamed {fields : List (String × (Value → Value → Prop))}
    {es fs : List (String × Value)}
    (h : List.Forall₂ (fun e f => e.1 = f.1 ∧ (e.1 ∈ fields.map Prod.fst ∨ e.2 = f.2)) es fs)
    (hRef : "$ref" ∉ fields.map Prod.fst)
    (hFields : ∀ f ∈ fields, f.2 ((Value.ofNamed es).get f.1) ((Value.ofNamed fs).get f.1)) :
    SameBut fields (.ofNamed es) (.ofNamed fs) := by
  have hOther (name : String) (hName : name ∉ fields.map Prod.fst) :
      (Value.ofNamed es).get? name = (Value.ofNamed fs).get? name := by
    clear hFields
    induction h with
    | nil => rfl
    | @cons e f es fs hHead _ ih =>
      obtain ⟨hKey, hValue⟩ := hHead
      show Value.lookup name ((Value.str e.1, e.2) :: _) = Value.lookup name ((.str f.1, f.2) :: _)
      rw [Value.lookup, Value.lookup, hKey]
      split
      · rename_i hFound
        rw [hValue.resolve_left (by rwa [hKey, hFound])]
      · exact ih
  exact ⟨rfl, hOther "$ref" hRef, hFields,
    fun name hName => by rw [Value.get, Value.get, hOther name hName]⟩

/-! ### Texts -/

/-- Texts of which the same shows. -/
def SameText (s t : Option String) : Prop := shown s = shown t

theorem Clears.shown {v w : Value} (h : Clears v w) : v.shown = w.shown := by
  rcases h with rfl | ⟨hBlank, rfl⟩
  · rfl
  · cases v with
    | str s =>
      have hEmpty : (Value.str s).isEmpty = true := hBlank
      rw [Value.shown, if_pos hEmpty]
      rfl
    | _ => cases hBlank

/-- A reader of texts that takes a text as it is and null as none reads the same. -/
theorem Clears.read {read : Value → Except Failure (Option String)} {v w : Value} (h : Clears v w)
    (hText : ∀ s, read (.str s) = .ok (some s)) (hNull : read .null = .ok none) :
    Agree SameText (read v) (read w) := by
  rcases h with rfl | ⟨hBlank, rfl⟩
  · exact .refl (R := SameText) (fun _ => rfl) _
  · cases v with
    | str s =>
      rw [hText, hNull]
      exact .ok (shown_of_blank hBlank)
    | _ => cases hBlank

theorem Clears.scalarText {v w : Value} (h : Clears v w) :
    Agree SameText v.scalarText w.scalarText := h.read (fun _ => rfl) rfl

theorem Clears.typeName {v w : Value} (h : Clears v w) :
    Agree SameText (Schema.typeName v) (Schema.typeName w) := h.read (fun _ => rfl) rfl

/-! ### Schemas -/

open Schema (face PropertiesMatch ofValue namedSchemas propertiesOf property shownProperty)
open Visit (SameShown)

theorem map_shownProperty {ps qs : List (String × Schema)} (h : PropertiesMatch SameShown ps qs) :
    (ps.map property).map shownProperty = (qs.map property).map shownProperty := by
  induction h with
  | nil => rfl
  | @cons p q ps qs hHead _ ih =>
    have hType : shown p.2.type? = shown q.2.type? := congrArg Schema.Face.type hHead.2.2
    have hDescription : shown p.2.description? = shown q.2.description? :=
      congrArg Schema.Face.description hHead.2.2
    simp only [List.map_cons, ih, property, shownProperty, hHead.1, hType, hDescription]

theorem sameShown_inline {type type' description description' : Option String} (enum : List Value)
    {default default' : Value} {i j : Option Schema} {ps qs : Option (List (String × Schema))}
    (hType : SameText type type') (hDescription : SameText description description')
    (hDefault : default.shown = default'.shown) (hItems : SameShown i j)
    (hProperties : Option.Rel (PropertiesMatch SameShown) ps qs) :
    SameShown (some (.inline type description enum default i ps))
      (some (.inline type' description' enum default' j qs)) := by
  have hShown : (ps.map (·.map property)).map (·.map shownProperty) =
      (qs.map (·.map property)).map (·.map shownProperty) := by
    cases hProperties with
    | none => rfl
    | some hMatch => simp only [Option.map_some, map_shownProperty hMatch]
  have hItemType : shown (i.bind Schema.type?) = shown (j.bind Schema.type?) :=
    congrArg Schema.Face.type hItems.2
  refine ⟨rfl, ?_⟩
  show Schema.Face.mk (shown type) (shown description) enum default.shown
      (shown (i.bind Schema.type?)) ((ps.map (·.map property)).map (·.map shownProperty)) =
    Schema.Face.mk (shown type') (shown description') enum default'.shown
      (shown (j.bind Schema.type?)) ((qs.map (·.map property)).map (·.map shownProperty))
  rw [hType, hDescription, hDefault, hItemType, hShown]

theorem sameShown_named {a b : Option Schema} (h : SameShown a b) :
    SameShown (some (a.getD .blank)) (some (b.getD .blank)) := by
  have hFace (s : Option Schema) : face (some (s.getD .blank)) = face s := by cases s <;> rfl
  exact ⟨rfl, by rw [hFace, hFace, h.2]⟩

theorem namedSchemas_agree {R : Value → Value → Prop}
    (hR : ∀ v w, R v w → Agree SameShown (ofValue v) (ofValue w)) {es fs : List (Value × Value)}
    (h : List.Forall₂ (fun e f => e.1 = f.1 ∧ R e.2 f.2) es fs) :
    Agree (PropertiesMatch SameShown) (namedSchemas es) (namedSchemas fs) := by
  induction h with
  | nil => exact .ok .nil
  | @cons e f es fs hHead _ ih =>
    obtain ⟨k, v⟩ := e
    obtain ⟨l, w⟩ := f
    obtain ⟨hKey, hValue⟩ := hHead
    cases hKey
    refine .bind_same _ fun name => (hR v w hValue).bind fun a b hab => ?_
    exact ih.bind fun ps qs hMatch => .ok (.cons ⟨rfl, sameShown_named hab⟩ hMatch)

theorem ofValue_of_not_map {v : Value} (h : v.isMap = false) : ofValue v = .ok none := by
  cases v with
  | map es => cases h
  | _ => rfl

theorem schema_agree {depth : Nat} {v w : Value} (h : schema depth v w) :
    Agree SameShown (ofValue v) (ofValue w) := by
  induction depth generalizing v w with
  | zero =>
    obtain rfl : v = w := h
    exact .refl (fun _ => ⟨rfl, rfl⟩) _
  | succ depth ih =>
    have hFields := h.field
    simp only [List.forall_mem_cons] at hFields
    obtain ⟨hType, hDescription, hDefault, hItems, hProperties, -⟩ := hFields
    cases hRef : v.get? "$ref" with
    | some target =>
      rw [Schema.ofValue_reference hRef, Schema.ofValue_reference (h.reference.symm.trans hRef)]
      exact .refl (fun _ => ⟨rfl, rfl⟩) _
    | none =>
      cases hMap : v.isMap with
      | false =>
        rw [ofValue_of_not_map hMap, ofValue_of_not_map (h.isMap.symm.trans hMap)]
        exact .ok ⟨rfl, rfl⟩
      | true =>
        rw [Schema.ofValue_inline hMap hRef, Schema.ofValue_inline (h.isMap.symm.trans hMap)
          (h.reference.symm.trans hRef), h.other "enum" (by simp)]
        refine hType.typeName.bind fun s s' hs => hDescription.scalarText.bind fun d d' hd => ?_
        refine (ih hItems).bind fun i j hij => ?_
        have hNamed := namedSchemas_agree (fun _ _ => ih) hProperties.entries
        refine (Schema.propertiesOf_agree hProperties.isMap hNamed).bind fun ps qs hMatch => ?_
        exact .ok (sameShown_inline _ hs hd hDefault.shown hij hMatch)

/-! ### Parameters -/

open Builder (key overrides objects Keyed merged)
open Descriptor (swaggerOutline openApiOutline)

theorem shown_some_getD (text : Option String) : shown (some (text.getD "")) = shown text := by
  cases text <;> rfl

theorem SameText.getD {s t : Option String} (h : SameText s t) :
    SameText (some (s.getD "")) (some (t.getD "")) := by
  rw [SameText, shown_some_getD, shown_some_getD, h]

/-- Parameters of one place whose names show the same. -/
def SameKey (k l : String × String) : Prop := SameText (some k.1) (some l.1) ∧ k.2 = l.2

theorem key_agree {p q : Value} (hName : Clears (p.get "name") (q.get "name"))
    (hIn : p.get "in" = q.get "in") : Agree SameKey (key p) (key q) := by
  unfold key
  rw [hIn]
  refine hName.scalarText.bind fun s t hst => .bind_same _ fun location => ?_
  exact .ok ⟨hst.getD, rfl⟩

theorem swaggerOutline_eq {a b : Swagger.Parameter} (hKey : SameKey (a.name, a.location)
    (b.name, b.location)) (hRequired : a.required = b.required)
    (hDescription : SameText a.description b.description) (hType : SameText a.type b.type)
    (hEnum : a.enum = b.enum) (hFormat : a.collectionFormat = b.collectionFormat)
    (hDefault : a.default.shown = b.default.shown) (hItems : SameText a.items.join b.items.join) :
    swaggerOutline a = swaggerOutline b := by
  have hName : shown (some a.name) = shown (some b.name) := hKey.1
  have hLocation : a.location = b.location := hKey.2
  unfold SameText at hDescription hType hItems
  simp only [swaggerOutline, Schema.Face.shown, hName, hLocation, hRequired, hDescription, hType,
    hEnum, hFormat, hDefault, hItems]

theorem openApiOutline_eq {a b : OpenApi.Parameter} (hKey : SameKey (a.name, a.location)
    (b.name, b.location)) (hRequired : a.required = b.required)
    (hDescription : SameText a.description b.description) (hSchema : SameShown a.schema b.schema)
    (hStyle : a.style = b.style) (hExplode : a.explode = b.explode) :
    openApiOutline a = openApiOutline b := by
  have hName : shown (some a.name) = shown (some b.name) := hKey.1
  have hLocation : a.location = b.location := hKey.2
  unfold SameText at hDescription
  simp only [openApiOutline, Descriptor.formatOf, hName, hLocation, hRequired, hDescription,
    hSchema.1, hSchema.2, hStyle, hExplode]

theorem swaggerParameter_agree {depth : Nat} {p q : Value} (h : parameter depth .swagger p q) :
    Agree (fun a b => swaggerOutline a = swaggerOutline b) (Builder.swaggerParameter p)
      (Builder.swaggerParameter q) := by
  have hFields := h.field
  simp only [typeFields, List.cons_append, List.nil_append, List.forall_mem_cons] at hFields
  obtain ⟨hName, hDescription, hType, hDefault, hItems, -⟩ := hFields
  have hItemType : Clears ((p.get "items").get "type") ((q.get "items").get "type") :=
    hItems.field _ List.mem_cons_self
  unfold Builder.swaggerParameter
  rw [h.other "required" (by simp [typeFields]), h.other "enum" (by simp [typeFields]),
    h.other "collectionFormat" (by simp [typeFields])]
  refine (key_agree hName (h.other "in" (by simp [typeFields]))).bind fun k l hkl => ?_
  refine hDescription.scalarText.bind fun d d' hd => hType.scalarText.bind fun s t hst => ?_
  refine .bind_same _ fun format => ?_
  simp only [hItems.isMap]
  split
  · have hRead : Agree (fun i j : Option (Option String) => SameText i.join j.join)
        (some <$> ((p.get "items").get "type").scalarText)
        (some <$> ((q.get "items").get "type").scalarText) :=
      hItemType.scalarText.map fun _ _ hst => hst
    exact hRead.bind fun i j hij =>
      .ok (swaggerOutline_eq hkl rfl hd hst rfl rfl hDefault.shown hij)
  · exact .ok (swaggerOutline_eq hkl rfl hd hst rfl rfl hDefault.shown rfl)

theorem openApiParameter_agree {depth : Nat} {p q : Value} (h : parameter depth .openApi p q) :
    Agree (fun a b => openApiOutline a = openApiOutline b) (Builder.openApiParameter p)
      (Builder.openApiParameter q) := by
  have hFields := h.field
  simp only [typeFields, List.cons_append, List.nil_append, List.forall_mem_cons] at hFields
  obtain ⟨hName, hDescription, hSchema, -⟩ := hFields
  unfold Builder.openApiParameter
  rw [h.other "required" (by simp [typeFields]), h.other "style" (by simp [typeFields]),
    h.other "explode" (by simp [typeFields])]
  refine (key_agree hName (h.other "in" (by simp [typeFields]))).bind fun k l hkl => ?_
  refine hDescription.scalarText.bind fun d d' hd => (schema_agree hSchema).bind fun s t hst => ?_
  exact .bind_same _ fun style => .ok (openApiOutline_eq hkl rfl hd hst rfl rfl)

section Merging

variable {depth : Nat} {version : Document.Version}

theorem parameter_key {p q : Value} (h : parameter depth version p q) :
    Agree SameKey (key p) (key q) := by
  refine key_agree (h.field _ List.mem_cons_self) (h.other "in" ?_)
  cases version <;> simp [typeFields]

theorem objects_related {ps qs : List Value} (h : List.Forall₂ (parameter depth version) ps qs) :
    List.Forall₂ (parameter depth version) (objects ps) (objects qs) :=
  List.rel_filter (fun _ _ hpq => iff_of_eq (congrArg (· = true) hpq.isMap)) h

theorem keyed_iff {ps qs : List Value} (h : List.Forall₂ (parameter depth version) ps qs) :
    Keyed ps ↔ Keyed qs := by
  have hAll {ps qs : List Value} (h : List.Forall₂ (parameter depth version) ps qs) :
      (∀ p ∈ ps, ∃ k, key p = .ok k) ↔ ∀ q ∈ qs, ∃ k, key q = .ok k := by
    induction h with
    | nil => exact iff_of_true nofun nofun
    | cons hHead _ ih =>
      rw [List.forall_mem_cons, List.forall_mem_cons, ih, (parameter_key hHead).ok_iff]
  exact hAll (objects_related h)

/-- What is merged differs in blank texts only, if the same parameters of a path are overridden. -/
theorem merge_agree {shared shared' own own' : List Value}
    (hShared : List.Forall₂ (parameter depth version) shared shared')
    (hOwn : List.Forall₂ (parameter depth version) own own')
    (hOverrides : List.Forall₂ (fun p q => overrides own p = overrides own' q) (objects shared)
      (objects shared')) :
    Agree (List.Forall₂ (parameter depth version)) (Builder.merge shared own)
      (Builder.merge shared' own') := by
  by_cases hKeyed : Keyed shared ∧ Keyed own
  · have hKeyed' : Keyed shared' ∧ Keyed own' :=
      ⟨(keyed_iff hShared).mp hKeyed.1, (keyed_iff hOwn).mp hKeyed.2⟩
    rw [Builder.merge_of_keyed hKeyed.1 hKeyed.2, Builder.merge_of_keyed hKeyed'.1 hKeyed'.2]
    have hBoth := (objects_related hShared).mp
      (S := fun p q => parameter depth version p q ∧ overrides own p = overrides own' q)
      (fun _ _ hpq hSame => ⟨hpq, hSame⟩) hOverrides
    have hKept := List.rel_filter (p := (!overrides own ·)) (q := (!overrides own' ·))
      (fun _ _ hpq => by simp only [hpq.2]) hBoth
    exact .ok (List.rel_append (hKept.imp fun _ _ => And.left) (objects_related hOwn))
  · have hKeyed' : ¬(Keyed shared' ∧ Keyed own') := by
      rwa [← keyed_iff hShared, ← keyed_iff hOwn]
    rw [Builder.merge_eq_error_iff.mpr ⟨rfl, hKeyed⟩, Builder.merge_eq_error_iff.mpr ⟨rfl, hKeyed'⟩]
    exact .error _

end Merging

/-! ### Bodies -/

/-- Bodies of which the same shows. -/
structure SameBody (x y : OpenApi.RequestBody) : Prop where
  required : x.required = y.required
  description : SameText x.description y.description
  content : Matches SameShown x.content y.content

theorem SameBody.blocks_eq {x y : OpenApi.RequestBody} (h : SameBody x y) :
    (Visit.bodyDescriptors x).flatMap Visit.block =
      (Visit.bodyDescriptors y).flatMap Visit.block := by
  have hDescription : shown x.description = shown y.description := h.description
  rw [Visit.flatMap_bodyDescriptors, Visit.flatMap_bodyDescriptors,
    Visit.map_shownProperty_eq h.content, h.required, hDescription]

theorem content_agree {depth : Nat} {v w : Value} (h : Entries (mediaType depth) v w) :
    Agree (Matches SameShown) (Builder.content v) (Builder.content w) :=
  Builder.content_agree_of <| h.entries.imp fun _ _ hEntry =>
    ⟨hEntry.1, schema_agree (hEntry.2.field _ List.mem_cons_self)⟩

theorem requestBody_agree {depth : Nat} {v w : Value} (h : requestBody depth v w) :
    Logged.Agree (Option.Rel SameBody) (Builder.requestBody v) (Builder.requestBody w) := by
  have hFields := h.field
  simp only [List.forall_mem_cons] at hFields
  obtain ⟨hDescription, hContent, -⟩ := hFields
  unfold Builder.requestBody
  rw [← h.isMap, ← h.reference]
  split
  · split
    · exact .bind_same _ fun _ => .pure (.some ⟨rfl, rfl, .nil⟩)
    · rw [h.other "required" (by simp)]
      refine .ofExcept (hDescription.scalarText.bind fun d d' hd => ?_)
      exact (content_agree hContent).bind fun c c' hc => .ok (.some ⟨rfl, hd, hc⟩)
  · exact .pure .none

/-! ### Operations -/

open Visit (SameOutline)

section Operations

variable {depth : Nat} {raw raw' : Value} {ps qs : List Value}

theorem swaggerOperation_agree (path : String) (h : operation depth .swagger raw raw')
    (hParameters : List.Forall₂ (parameter depth .swagger) ps qs) :
    Logged.Agree (fun a b => SameOutline (.swagger a) (.swagger b))
      (Builder.swaggerOperation path raw ps) (Builder.swaggerOperation path raw' qs) := by
  have hFields := h.field
  simp only [List.forall_mem_cons] at hFields
  obtain ⟨hId, hDescription, -⟩ := hFields
  unfold Builder.swaggerOperation
  rw [h.other "consumes" (by simp), h.other "produces" (by simp)]
  refine (Logged.Agree.ofExcept hId.scalarText).bind fun i i' hi => ?_
  refine (Logged.Agree.ofExcept hDescription.scalarText).bind fun d d' hd => ?_
  refine (Builder.parameters_agree (fun _ _ hpq => hpq.reference)
    (fun _ _ hpq _ => swaggerParameter_agree hpq) path hParameters).bind fun as bs hab => ?_
  refine .bind_same _ fun consumes => .bind_same _ fun produces => .pure ?_
  exact ⟨rfl, hi, hd, rfl, rfl, Visit.forall₂_map_eq (fun _ _ hpq => hpq) hab, rfl⟩

theorem openApiOperation_agree (path : String) (h : operation depth .openApi raw raw')
    (hParameters : List.Forall₂ (parameter depth .openApi) ps qs) :
    Logged.Agree (fun a b => SameOutline (.openApi a) (.openApi b))
      (Builder.openApiOperation path raw ps) (Builder.openApiOperation path raw' qs) := by
  have hFields := h.field
  simp only [List.forall_mem_cons] at hFields
  obtain ⟨hId, hDescription, -, hBody, -⟩ := hFields
  unfold Builder.openApiOperation
  rw [h.other "responses" (by simp)]
  refine (Logged.Agree.ofExcept hId.scalarText).bind fun i i' hi => ?_
  refine (Logged.Agree.ofExcept hDescription.scalarText).bind fun d d' hd => ?_
  refine (Builder.parameters_agree (fun _ _ hpq => hpq.reference)
    (fun _ _ hpq _ => openApiParameter_agree hpq) path hParameters).bind fun as bs hab => ?_
  refine (requestBody_agree hBody).bind fun x y hxy => .bind_same _ fun responses => .pure ?_
  have hOutlines := Visit.forall₂_map_eq (fun _ _ hpq => hpq) hab
  cases hxy with
  | none => exact ⟨rfl, hi, hd, rfl, rfl, hOutlines, rfl⟩
  | some hSame => exact ⟨rfl, hi, hd, hSame.content.keys, rfl, hOutlines, hSame.blocks_eq⟩

/-- Of operations that are built of documents without some blank texts the same shows. -/
theorem operation_agree {version : Document.Version} (path : String)
    (h : operation depth version raw raw') {shared shared' : List Value}
    (hShared : List.Forall₂ (parameter depth version) shared shared')
    (hOverrides : List.Forall₂
      (fun p q => overrides (raw.get "parameters").items p =
        overrides (raw'.get "parameters").items q) (objects shared) (objects shared')) :
    Logged.Agree SameOutline (Builder.operation version path raw shared)
      (Builder.operation version path raw' shared') := by
  have hOwn : Items (parameter depth version) (raw.get "parameters") (raw'.get "parameters") :=
    h.field ("parameters", Items (parameter depth version)) (by simp)
  unfold Builder.operation
  refine (Logged.Agree.ofExcept (merge_agree hShared hOwn hOverrides)).bind fun ps qs hps => ?_
  cases version with
  | swagger => exact (swaggerOperation_agree path h hps).bind fun a b hab => .pure hab
  | openApi => exact (openApiOperation_agree path h hps).bind fun a b hab => .pure hab
  | unknown n => exact ⟨rfl, .error _⟩

end Operations

end Api.Blank

namespace Visit

open Api Api.Blank
open Builder (overrides objects)

/-- Builds an operation of a path with the parameters shared by that path, and visits it without a
filter. -/
def ofDocument (version : Document.Version) (t : Destination.Template) (method path : String)
    (shared : List Value) (raw : Value) : Run Bool := do
  let op ← Run.ofLogged (Builder.operation version path raw shared)
  visit .all t.destination method op

theorem visit_all_events (t : Destination.Template) (method : String) (op : Operation) :
    (visit .all t.destination method op).events =
      (emitOperation t.destination (methodName method) op).events := by
  rw [visit_of_accepted rfl]

/-- An id that stays, or was empty and may be absent, gives the same name. -/
theorem name?_eq {v w : Value} {a b : Operation} (ha : v.scalarText = .ok a.id?)
    (hb : w.scalarText = .ok b.id?) (h : Clears v w) (hEmpty : v = w ∨ v = .str "") :
    a.name? = b.name? := by
  unfold Operation.name?
  rcases h with rfl | ⟨-, rfl⟩
  · rw [Except.ok.inj (ha.symm.trans hb)]
  · rcases hEmpty with rfl | rfl
    · rw [Except.ok.inj (ha.symm.trans hb)]
    · rw [← Except.ok.inj ha, ← Except.ok.inj hb]
      rfl

/-- Without some of its blank texts a document gives the same events, but for the destination, and the same
destination if the id is not one of these texts, or is the empty one.  The names of parameters are such texts
only as long as the same parameters of the path are overridden. -/
theorem ofDocument_blank (version : Document.Version) (t : Destination.Template)
    (method path : String) {depth : Nat} {raw raw' : Value} (h : operation depth version raw raw')
    {shared shared' : List Value} (hShared : List.Forall₂ (parameter depth version) shared shared')
    (hOverrides : List.Forall₂
      (fun p q => overrides (raw.get "parameters").items p =
        overrides (raw'.get "parameters").items q) (objects shared) (objects shared')) :
    let run := ofDocument version t method path shared raw
    let run' := ofDocument version t method path shared' raw'
    (run.dropping "to").events = (run'.dropping "to").events ∧
      (raw.get "operationId" = raw'.get "operationId" ∨ raw.get "operationId" = .str "" →
        run.events = run'.events) := by
  intro run run'
  have hBuilt := (operation_agree path h hShared hOverrides).outcome
  have hId : Clears (raw.get "operationId") (raw'.get "operationId") :=
    h.field _ List.mem_cons_self
  constructor
  · simp only [run, run', ofDocument, Run.dropping_bind,
      Run.dropping_of_events_eq_nil "to" (Run.ofLogged_events _)]
    refine Run.ofLogged_bind_events hBuilt fun a b hab => ?_
    have hEvents := (hab.emitOperation_events t (methodName method)).1
    simp only [Run.dropping, visit_all_events] at hEvents ⊢
    exact hEvents
  · intro hEmpty
    have hKnown := hBuilt.imp (T := fun a b => SameOutline a b ∧ a.name? = b.name?)
      fun a b ha hb hab =>
        ⟨hab, name?_eq (Listing.operation_id ha).2 (Listing.operation_id hb).2 hId hEmpty⟩
    refine Run.ofLogged_bind_events hKnown fun a b hab => ?_
    rw [visit_all_events, visit_all_events]
    exact (hab.1.emitOperation_events t (methodName method)).2 hab.2

/-- The upload of a photo with whatever stands for its id and in its texts. -/
def photoForm (id text : Value) : Value :=
  .ofNamed
    [("operationId", id), ("description", text),
      ("parameters", .list
        [.ofNamed
          [("name", .str "tags"), ("in", .str "query"), ("description", text),
            ("schema", .ofNamed
              [("type", .str "array"), ("default", text),
                ("items", .ofNamed [("type", text)])])]]),
      ("requestBody", .ofNamed
        [("description", text),
          ("content", .ofNamed
            [("multipart/form-data", .ofNamed
              [("schema", .ofNamed
                [("properties", .ofNamed
                  [("photo", .ofNamed [("type", text), ("description", text)])])])])])])]

theorem photoForm_related {id id' text text' : Value} (hId : Clears id id')
    (hText : Clears text text') :
    operation 2 .openApi (photoForm id text) (photoForm id' text') := by
  have hItems : schema 1 (.ofNamed [("type", text)]) (.ofNamed [("type", text')]) := by
    refine .ofNamed (by simp) (by simp) ?_
    simp only [List.forall_mem_cons]
    exact ⟨hText, .refl _, .refl _, schema_refl 0 _, ⟨rfl, .nil⟩, nofun⟩
  have hTags : schema 2
      (.ofNamed [("type", .str "array"), ("default", text), ("items", .ofNamed [("type", text)])])
      (.ofNamed [("type", .str "array"), ("default", text'),
        ("items", .ofNamed [("type", text')])]) := by
    refine .ofNamed (by simp) (by simp) ?_
    simp only [List.forall_mem_cons]
    exact ⟨.refl _, .refl _, hText, hItems, ⟨rfl, .nil⟩, nofun⟩
  have hPhoto : schema 1 (.ofNamed [("type", text), ("description", text)])
      (.ofNamed [("type", text'), ("description", text')]) := by
    refine .ofNamed (by simp) (by simp) ?_
    simp only [List.forall_mem_cons]
    exact ⟨hText, hText, .refl _, schema_refl 0 _, ⟨rfl, .nil⟩, nofun⟩
  have hForm : schema 2
      (.ofNamed [("properties", .ofNamed
        [("photo", .ofNamed [("type", text), ("description", text)])])])
      (.ofNamed [("properties", .ofNamed
        [("photo", .ofNamed [("type", text'), ("description", text')])])]) := by
    refine .ofNamed (by simp) (by simp) ?_
    simp only [List.forall_mem_cons]
    exact ⟨.refl _, .refl _, .refl _, schema_refl 1 _, ⟨rfl, .cons ⟨rfl, hPhoto⟩ .nil⟩, nofun⟩
  refine .ofNamed (by simp) (by simp) ?_
  simp only [List.forall_mem_cons]
  refine ⟨hId, hText, .cons (.ofNamed (by simp [typeFields]) (by simp [typeFields]) ?_) .nil,
    .ofNamed (by simp) (by simp) ?_, nofun⟩
  · simp only [typeFields, List.cons_append, List.nil_append, List.forall_mem_cons]
    exact ⟨.refl _, hText, hTags, nofun⟩
  · simp only [List.forall_mem_cons]
    refine ⟨hText, ⟨rfl, .cons ⟨rfl, .ofNamed (by simp) (by simp) ?_⟩ .nil⟩, nofun⟩
    simp only [List.forall_mem_cons]
    exact ⟨hForm, nofun⟩

theorem ofDocument_blank_photoForm :
    let run := ofDocument .openApi .direct "post" "/photos/" [] (photoForm (.str "") (.str " \t"))
    let run' := ofDocument .openApi .direct "post" "/photos/" [] (photoForm .null .null)
    run.events = run'.events ∧
      run.events.map (·.name) =
        ["post", "consumes", "param", "name", "type", "dataType", "required", "endParam",
          "param", "name", "type", "required", "endParam", "to"] := by
  intro run run'
  have hRelated : operation 2 .openApi (photoForm (.str "") (.str " \t")) (photoForm .null .null) :=
    photoForm_related (.inr ⟨by decide +kernel, rfl⟩) (.inr ⟨by decide +kernel, rfl⟩)
  obtain ⟨-, hSame⟩ := ofDocument_blank .openApi .direct "post" "/photos/" hRelated .nil .nil
  exact ⟨hSame (.inr rfl), by decide +kernel⟩

/-- An id of white space names the operation, so that it is routed elsewhere than without one. -/
theorem ofDocument_whiteId :
    let raw : Value := .ofNamed [("operationId", .str "  ")]
    let raw' : Value := .ofNamed []
    operation 0 .swagger raw raw' ∧
      (ofDocument .swagger .direct "get" "/pets" [] raw).events =
        [⟨"get", .text "/pets"⟩, ⟨"to", .text "direct:  "⟩] ∧
      (ofDocument .swagger .direct "get" "/pets" [] raw').events =
        [⟨"get", .text "/pets"⟩, ⟨"to", .text "direct:pets"⟩] := by
  intro raw raw'
  have hId : Clears (raw.get "operationId") (raw'.get "operationId") :=
    .inr ⟨by decide +kernel, rfl⟩
  have hBody : requestBody 0 .null .null := by
    refine ⟨rfl, rfl, ?_, fun _ _ => rfl⟩
    simp only [List.forall_mem_cons]
    exact ⟨.refl _, ⟨rfl, .nil⟩, nofun⟩
  refine ⟨⟨rfl, rfl, ?_, fun name hName => ?_⟩, rfl, rfl⟩
  · simp only [List.forall_mem_cons]
    exact ⟨hId, .refl _, .nil, hBody, nofun⟩
  · have hOther : "operationId" ≠ name := by
      rintro rfl
      exact hName List.mem_cons_self
    show (if "operationId" = name then some (Value.str "  ") else none).getD .null = .null
    rw [if_neg hOther]
    rfl

end Visit

end RestRoutes
