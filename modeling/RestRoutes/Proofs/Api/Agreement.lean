import RestRoutes.Proofs.Api.Alike
import RestRoutes.Proofs.Api.Schema
import RestRoutes.Proofs.Assoc
import RestRoutes.Proofs.Run.Agreement

/-! What is built from alike values agrees, for any relation of schemas that the building respects: the
builders look names up, and go through maps only where the order of the entries counts. -/

namespace RestRoutes.Api

open Assoc (Matches)

theorem eq_of_optionRel {α : Type} {R : α → α → Prop} (hR : ∀ a b, R a b → a = b)
    {a b : Option α} (h : Option.Rel R a b) : a = b := by
  cases h with
  | none => rfl
  | some hab => rw [hR _ _ hab]

/-! ### Schemas -/

namespace Schema

/-- Properties under the same names with related schemas. -/
def PropertiesMatch (R : Option Schema → Option Schema → Prop) :
    List (String × Schema) → List (String × Schema) → Prop :=
  Matches fun a b => R (some a) (some b)

/-- A relation of schemas that comes from the parts of a schema to the whole. -/
structure Respected (blind : Bool) (R : Option Schema → Option Schema → Prop) : Prop where
  refl (s : Option Schema) : R s s
  named {a b : Option Schema} : R a b → R (some (a.getD blank)) (some (b.getD blank))
  inline (type description : Option String) (enum : List Value) (default : Value)
    {i j : Option Schema} {ps qs : Option (List (String × Schema))} :
    R i j → Option.Rel (PropertiesMatch R) ps qs →
      R (some (.inline type description enum default i ps))
        (some (.inline type description enum default j qs))
  reference (target : String) {s : Option Schema} :
    blind = true → s = none ∨ s = some blank → R (some (.reference target)) s

variable {version : Document.Version} {blind : Bool} {R : Option Schema → Option Schema → Prop}

theorem respected_eq : Respected false Eq where
  refl _ := rfl
  named h := by rw [h]
  inline type description enum default i j ps qs hItems hProperties := by
    subst hItems
    have hSame := eq_of_optionRel (fun _ _ hMatch => hMatch.eq fun _ _ => Option.some.inj)
      hProperties
    rw [hSame]
  reference _ _ h := nomatch h

theorem ofValue_reference {v target : Value} (hFound : v.get? "$ref" = some target) :
    ofValue v = do return some (.reference (← target.textOrFail)) := by
  cases v with
  | map es =>
    have hLookup : Value.lookup "$ref" es = some target := hFound
    rw [ofValue, hLookup]
  | _ => cases hFound

theorem propertiesOf_agree {v w : Value} (hMap : v.isMap = w.isMap)
    (h : Agree (PropertiesMatch R) (namedSchemas v.entries) (namedSchemas w.entries)) :
    Agree (Option.Rel (PropertiesMatch R)) (propertiesOf v) (propertiesOf w) := by
  cases v with
  | map es =>
    cases w with
    | map fs => exact h.map fun _ _ hMatch => .some hMatch.ofNamed
    | _ => cases hMap
  | _ =>
    cases w with
    | map fs => cases hMap
    | _ => exact .ok .none

theorem alike_agree (hR : Respected blind R) {form : Form} {v w : Value}
    (h : Alike version blind form v w) :
    (form = .object .schema → Agree R (ofValue v) (ofValue w)) ∧
      (form = .entries .schema → v.isMap = w.isMap ∧
        Agree (PropertiesMatch R) (namedSchemas v.entries) (namedSchemas w.entries)) := by
  -- A schema holds schemas as its items and under the names of its properties, so that the two halves
  -- need each other; in all other forms there is nothing to prove.
  induction h with
  | same form v =>
    exact ⟨fun _ => .refl hR.refl _, fun _ => ⟨rfl, .refl (.refl fun s => hR.refl s) _⟩⟩
  | @object r es fs marks fields ih =>
    refine ⟨fun hForm => ?_, nofun⟩
    cases hForm
    have hRef : (Value.map es).get? "$ref" = (Value.map fs).get? "$ref" := marks "$ref" (by decide)
    cases hTarget : (Value.map es).get? "$ref" with
    | some target =>
      -- Both refer to the same target, whatever stands beside it.
      rw [ofValue_reference hTarget, ofValue_reference (hRef.symm.trans hTarget)]
      exact .refl hR.refl _
    | none =>
      have hField (name : String) (form : Form)
          (h : (name, form) ∈ Role.schema.fields version false) :
          (name, form) ∈ Role.schema.fields version (Value.lookup "$ref" es).isSome := by
        have hLookup : Value.lookup "$ref" es = none := hTarget
        rwa [hLookup]
      have hSame (name : String) (h : (name, .whole) ∈ Role.schema.fields version false) :
          (Value.map es).get name = (Value.map fs).get name :=
        (fields name .whole (hField name .whole h)).eq
      obtain ⟨hItems, -⟩ := ih "items" (.object .schema) (hField _ _ (by simp [Role.fields]))
      obtain ⟨-, hProperties⟩ :=
        ih "properties" (.entries .schema) (hField _ _ (by simp [Role.fields]))
      rw [ofValue_inline (v := .map es) rfl hTarget,
        ofValue_inline (v := .map fs) rfl (hRef.symm.trans hTarget), hSame "type" (by simp [Role.fields]),
        hSame "description" (by simp [Role.fields]), hSame "enum" (by simp [Role.fields]),
        hSame "default" (by simp [Role.fields])]
      refine .bind_same _ fun type => .bind_same _ fun description => ?_
      refine (hItems rfl).bind fun i j hij => ?_
      obtain ⟨hMap, hNamed⟩ := hProperties rfl
      refine (propertiesOf_agree hMap hNamed).bind fun ps qs hMatch => ?_
      exact .ok (hR.inline type description _ _ hij hMatch)
  | item => exact ⟨nofun, nofun⟩
  | entry head tail ihHead ihTail =>
    refine ⟨nofun, fun hForm => ⟨rfl, ?_⟩⟩
    cases hForm
    refine .bind_same _ fun name => ?_
    refine (ihHead.1 rfl).bind fun a b hab => ?_
    exact (ihTail.2 rfl).2.bind fun ps qs hMatch => .ok (.cons ⟨rfl, hR.named hab⟩ hMatch)
  | reference taken found readable nothing =>
    refine ⟨fun _ => ?_, nofun⟩
    rw [ofValue_reference found, readable]
    rcases nothing with rfl | rfl
    · exact .ok (hR.reference _ taken (.inl rfl))
    · exact .ok (hR.reference _ taken (.inr rfl))

end Schema

variable {version : Document.Version} {blind : Bool} {R : Option Schema → Option Schema → Prop}

theorem Alike.ofValue (hR : Schema.Respected blind R) {v w : Value}
    (h : Alike version blind (.object .schema) v w) :
    Agree R (Schema.ofValue v) (Schema.ofValue w) :=
  (Schema.alike_agree hR h).1 rfl

/-! ### Operations with related schemas -/

structure OpenApi.Parameter.Like (R : Option Schema → Option Schema → Prop)
    (p q : OpenApi.Parameter) : Prop where
  name : p.name = q.name
  location : p.location = q.location
  required : p.required = q.required
  description : p.description = q.description
  schema : R p.schema q.schema
  style : p.style = q.style
  explode : p.explode = q.explode

structure OpenApi.RequestBody.Like (R : Option Schema → Option Schema → Prop)
    (a b : OpenApi.RequestBody) : Prop where
  required : a.required = b.required
  description : a.description = b.description
  content : Matches R a.content b.content

structure OpenApi.Response.Like (R : Option Schema → Option Schema → Prop)
    (a b : OpenApi.Response) : Prop where
  description : a.description = b.description
  content : Matches R a.content b.content

/-- Operations whose parameters are related in one way and all other schemas in another. -/
inductive Operation.Like (R : Option Schema → Option Schema → Prop)
    (P : OpenApi.Parameter → OpenApi.Parameter → Prop) : Operation → Operation → Prop
  | swagger (op : Swagger.Operation) : Like R P (.swagger op) (.swagger op)
  | openApi {a b : OpenApi.Operation} (path : a.path = b.path) (id : a.id = b.id)
    (description : a.description = b.description)
    (parameters : List.Forall₂ P a.parameters b.parameters)
    (requestBody : Option.Rel (OpenApi.RequestBody.Like R) a.requestBody b.requestBody)
    (responses : Matches (OpenApi.Response.Like R) a.responses b.responses) :
    Like R P (.openApi a) (.openApi b)

theorem OpenApi.Parameter.Like.eq {p q : OpenApi.Parameter} (h : p.Like Eq q) : p = q := by
  obtain ⟨hName, hLocation, hRequired, hDescription, hSchema, hStyle, hExplode⟩ := h
  cases p
  cases q
  congr

theorem OpenApi.RequestBody.Like.eq {a b : OpenApi.RequestBody} (h : a.Like Eq b) : a = b := by
  obtain ⟨hRequired, hDescription, hContent⟩ := h
  have hSame := hContent.eq fun _ _ => id
  cases a
  cases b
  congr

theorem OpenApi.Response.Like.eq {a b : OpenApi.Response} (h : a.Like Eq b) : a = b := by
  obtain ⟨hDescription, hContent⟩ := h
  have hSame := hContent.eq fun _ _ => id
  cases a
  cases b
  congr

theorem Operation.Like.eq {a b : Operation}
    (h : Operation.Like Eq (OpenApi.Parameter.Like Eq) a b) : a = b := by
  cases h with
  | swagger op => rfl
  | @openApi a b path id description parameters requestBody responses =>
    have hParameters : a.parameters = b.parameters := by
      rw [← List.forall₂_eq_eq_eq]
      exact parameters.imp fun _ _ h => h.eq
    have hBody : a.requestBody = b.requestBody := eq_of_optionRel (fun _ _ h => h.eq) requestBody
    have hResponses : a.responses = b.responses := responses.eq fun _ _ h => h.eq
    cases a
    cases b
    congr

namespace Builder

/-! ### Parameters -/

theorem key_congr {p q : Value} (h : Alike version blind (.object .parameter) p q) :
    key p = key q := by
  have hName : p.get "name" = q.get "name" := h.get_eq (by decide) (by simp [Role.fields])
  have hIn : p.get "in" = q.get "in" := h.get_eq (by decide) (by simp [Role.fields])
  rw [key, key, hName, hIn]

section Merging

/- Parameters as they are written, in pairs that have the same key and of which more may be known. -/
variable {P : Value → Value → Prop} (hKey : ∀ p q, P p q → key p = key q)
include hKey

theorem notOverridden_agree (keys : List (String × String)) {ps qs : List Value}
    (h : List.Forall₂ P ps qs) :
    Agree (List.Forall₂ P) (notOverridden keys ps) (notOverridden keys qs) := by
  induction h with
  | nil => exact .ok .nil
  | cons hHead _ ih =>
    unfold notOverridden
    rw [hKey _ _ hHead]
    refine .bind_same _ fun k => ih.bind fun kept kept' hKept => .ok ?_
    split
    · exact .cons hHead hKept
    · exact hKept

theorem mapM_key_congr {ps qs : List Value} (h : List.Forall₂ P ps qs) :
    ps.mapM key = qs.mapM key := by
  induction h with
  | nil => rfl
  | cons hHead _ ih => rw [List.mapM_cons, List.mapM_cons, hKey _ _ hHead, ih]

theorem merge_agree (hMap : ∀ p q, P p q → p.isMap = q.isMap) {shared shared' own own' : List Value}
    (hShared : List.Forall₂ P shared shared') (hOwn : List.Forall₂ P own own') :
    Agree (List.Forall₂ P) (merge shared own) (merge shared' own') := by
  have hMaps {ps qs : List Value} (h : List.Forall₂ P ps qs) :
      List.Forall₂ P (ps.filter Value.isMap) (qs.filter Value.isMap) :=
    List.rel_filter (fun p q hpq => iff_of_eq (congrArg (· = true) (hMap p q hpq))) h
  unfold merge
  simp only [mapM_key_congr hKey (hMaps hOwn)]
  refine .bind_same _ fun keys => ?_
  refine (notOverridden_agree hKey keys (hMaps hShared)).bind fun kept kept' hKept => ?_
  exact .ok (List.rel_append hKept (hMaps hOwn))

end Merging

theorem parameters_agree {α : Type} {build : Value → Except Failure α} {P : Value → Value → Prop}
    {Q : α → α → Prop} (hRef : ∀ p q, P p q → p.get? "$ref" = q.get? "$ref")
    (hBuild : ∀ p q, P p q → p.get? "$ref" = none → Agree Q (build p) (build q)) (path : String)
    {ps qs : List Value} (h : List.Forall₂ P ps qs) :
    Logged.Agree (List.Forall₂ Q) (parameters build path ps) (parameters build path qs) := by
  induction h with
  | nil => exact .pure .nil
  | @cons p q ps qs hHead _ ih =>
    unfold parameters
    rw [← hRef p q hHead]
    cases hTarget : p.get? "$ref" with
    | some target => exact .bind_same _ fun _ => ih
    | none =>
      refine (Logged.Agree.ofExcept (hBuild p q hHead hTarget)).bind fun a b hab => ?_
      exact ih.bind fun as bs hRest => .pure (.cons hab hRest)

theorem get_eq_of_inline {r : Role} {v w : Value} (h : Alike version blind (.object r) v w)
    (hRole : r ≠ .schema) (hRef : v.get? "$ref" = none) (name : String)
    (hName : (name, .whole) ∈ r.fields version false) : v.get name = w.get name := by
  refine h.get_eq hRole ?_
  rw [hRef]
  exact hName

theorem swaggerParameter_congr {p q : Value} (h : Alike .swagger blind (.object .parameter) p q)
    (hRef : p.get? "$ref" = none) : swaggerParameter p = swaggerParameter q := by
  have hSame := get_eq_of_inline h (by decide) hRef
  have hItems : Alike .swagger blind (.object .itemType) (p.get "items") (q.get "items") := by
    refine h.get (by decide) ?_
    rw [hRef]
    decide
  have hType : (p.get "items").get "type" = (q.get "items").get "type" :=
    hItems.get_eq (by decide) (by simp [Role.fields])
  unfold swaggerParameter
  rw [key_congr h, hSame "required" (by decide), hSame "description" (by decide),
    hSame "type" (by decide), hSame "enum" (by decide), hSame "collectionFormat" (by decide),
    hSame "default" (by decide), hItems.isMap_eq (by decide), hType]

theorem openApiParameter_agree (hR : Schema.Respected blind R) {p q : Value}
    (h : Alike .openApi blind (.object .parameter) p q) (hRef : p.get? "$ref" = none) :
    Agree (OpenApi.Parameter.Like R) (openApiParameter p) (openApiParameter q) := by
  have hSame := get_eq_of_inline h (by decide) hRef
  have hSchema : Alike .openApi blind (.object .schema) (p.get "schema") (q.get "schema") := by
    refine h.get (by decide) ?_
    rw [hRef]
    decide
  unfold openApiParameter
  rw [key_congr h, hSame "required" (by decide), hSame "description" (by decide),
    hSame "style" (by decide), hSame "explode" (by decide)]
  refine .bind_same _ fun k => .bind_same _ fun description => ?_
  refine (hSchema.ofValue hR).bind fun s t hst => .bind_same _ fun style => ?_
  exact .ok ⟨rfl, rfl, rfl, rfl, hst, rfl, rfl⟩

/-! ### Bodies and responses -/

/-- Content is built alike when it has schemas that are, under the same keys. -/
theorem content_agree_of {v w : Value}
    (h : List.Forall₂ (fun e f => e.1 = f.1 ∧
      Agree R (Schema.ofValue (e.2.get "schema")) (Schema.ofValue (f.2.get "schema")))
      v.entries w.entries) : Agree (Matches R) (content v) (content w) := by
  have hTypes {es fs : List (Value × Value)} (h : List.Forall₂ (fun e f => e.1 = f.1 ∧
      Agree R (Schema.ofValue (e.2.get "schema")) (Schema.ofValue (f.2.get "schema"))) es fs) :
      Agree (Matches R) (mediaTypes es) (mediaTypes fs) := by
    induction h with
    | nil => exact .ok .nil
    | @cons e f es fs hHead _ ih =>
      obtain ⟨k, v⟩ := e
      obtain ⟨l, w⟩ := f
      obtain ⟨hKey, hSchema⟩ := hHead
      cases hKey
      refine .bind_same _ fun name => hSchema.bind fun s t hst => ?_
      exact ih.bind fun as bs hRest => .ok (.cons ⟨rfl, hst⟩ hRest)
  exact (hTypes h).map fun _ _ hMatch => hMatch.ofNamed

theorem content_agree (hR : Schema.Respected blind R) {v w : Value}
    (h : Alike version blind (.entries .mediaType) v w) :
    Agree (Matches R) (content v) (content w) := by
  refine content_agree_of (h.entries.imp fun e f hef => ⟨hef.1, ?_⟩)
  have hSchema : Alike version blind (.object .schema) (e.2.get "schema") (f.2.get "schema") :=
    hef.2.get (by decide) (by simp [Role.fields])
  exact hSchema.ofValue hR

theorem requestBody_agree (hR : Schema.Respected blind R) {v w : Value}
    (h : Alike version blind (.object .requestBody) v w) :
    Logged.Agree (Option.Rel (OpenApi.RequestBody.Like R)) (requestBody v) (requestBody w) := by
  unfold requestBody
  have hMark : v.get? "$ref" = w.get? "$ref" := h.mark (by decide) (by decide)
  rw [← h.isMap_eq (by decide), ← hMark]
  split
  · cases hRef : v.get? "$ref" with
    | some target =>
      refine .bind_same _ fun _ => .pure (.some ⟨rfl, rfl, ?_⟩)
      exact Matches.refl hR.refl []
    | none =>
      have hSame := get_eq_of_inline h (by decide) hRef
      have hContent : Alike version blind (.entries .mediaType) (v.get "content")
          (w.get "content") := by
        refine h.get (by decide) ?_
        rw [hRef]
        simp [Role.fields]
      simp only [hSame "required" (by simp [Role.fields]),
        hSame "description" (by simp [Role.fields])]
      refine .ofExcept (.bind_same _ fun description => ?_)
      exact (content_agree hR hContent).bind fun c d hcd => .ok (.some ⟨rfl, rfl, hcd⟩)
  · exact .pure .none

theorem responseEntries_agree (hR : Schema.Respected blind R) {es fs : List (Value × Value)}
    (h : Alike.Entries version blind .response es fs) :
    Agree (Matches (OpenApi.Response.Like R)) (responseEntries es) (responseEntries fs) := by
  induction h with
  | nil => exact .ok .nil
  | @cons e f es fs hHead _ ih =>
    obtain ⟨k, v⟩ := e
    obtain ⟨l, w⟩ := f
    obtain ⟨hKey, hValue⟩ := hHead
    cases hKey
    have hDescription : v.get "description" = w.get "description" :=
      hValue.get_eq (by decide) (by simp [Role.fields])
    have hContent : Alike version blind (.entries .mediaType) (v.get "content")
        (w.get "content") := hValue.get (by decide) (by simp [Role.fields])
    unfold responseEntries
    rw [← hValue.isMap_eq (by decide), hDescription]
    split
    · refine .bind_same _ fun description => (content_agree hR hContent).bind fun c d hcd => ?_
      refine .bind_same _ fun status => ih.bind fun as bs hRest => ?_
      exact .ok (.cons ⟨rfl, rfl, hcd⟩ hRest)
    · exact ih

theorem responses_agree (hR : Schema.Respected blind R) {v w : Value}
    (h : Alike version blind (.entries .response) v w) :
    Agree (Matches (OpenApi.Response.Like R)) (responses v) (responses w) :=
  (responseEntries_agree hR h.entries).map fun _ _ hMatch => hMatch.ofNamed

/-! ### Operations -/

theorem swaggerOperation_congr {raw raw' : Value} (path : String)
    (h : Alike .swagger blind (.object .operation) raw raw') {ps qs : List Value}
    (hParameters : parameters swaggerParameter path ps = parameters swaggerParameter path qs) :
    swaggerOperation path raw ps = swaggerOperation path raw' qs := by
  have hSame (name : String) (hName : (name, .whole) ∈ Role.operation.fields .swagger false) :
      raw.get name = raw'.get name := h.get_eq (by decide) hName
  unfold swaggerOperation
  rw [hSame "operationId" (by decide), hSame "description" (by decide),
    hSame "consumes" (by decide), hSame "produces" (by decide), hParameters]

theorem openApiOperation_agree (hR : Schema.Respected blind R)
    {Q : OpenApi.Parameter → OpenApi.Parameter → Prop} {raw raw' : Value} (path : String)
    (h : Alike .openApi blind (.object .operation) raw raw') {ps qs : List Value}
    (hParameters : Logged.Agree (List.Forall₂ Q) (parameters openApiParameter path ps)
      (parameters openApiParameter path qs)) :
    Logged.Agree (fun a b => Operation.Like R Q (.openApi a) (.openApi b))
      (openApiOperation path raw ps) (openApiOperation path raw' qs) := by
  have hId : raw.get "operationId" = raw'.get "operationId" :=
    h.get_eq (by decide) (by simp [Role.fields])
  have hDescription : raw.get "description" = raw'.get "description" :=
    h.get_eq (by decide) (by simp [Role.fields])
  have hBody : Alike .openApi blind (.object .requestBody) (raw.get "requestBody")
      (raw'.get "requestBody") := h.get (by decide) (by simp [Role.fields])
  have hResponses : Alike .openApi blind (.entries .response) (raw.get "responses")
      (raw'.get "responses") := h.get (by decide) (by simp [Role.fields])
  unfold openApiOperation
  rw [hId, hDescription]
  refine .bind_same _ fun id => .bind_same _ fun description => ?_
  refine hParameters.bind fun as bs hab => ?_
  refine (requestBody_agree hR hBody).bind fun body body' hBodies => ?_
  refine (Logged.Agree.ofExcept (responses_agree hR hResponses)).bind fun rs rs' hrs => ?_
  exact .pure (.openApi rfl rfl rfl hab hBodies hrs)

/-- Operations are built alike from alike values and parameters. -/
theorem operation_agree (hR : Schema.Respected blind R) {P : Value → Value → Prop}
    {Q : OpenApi.Parameter → OpenApi.Parameter → Prop}
    (hAlike : ∀ p q, P p q → Alike version blind (.object .parameter) p q)
    (hBuild : version = .openApi → ∀ p q, P p q → p.get? "$ref" = none →
      Agree Q (openApiParameter p) (openApiParameter q)) (path : String) {raw raw' : Value}
    (h : Alike version blind (.object .operation) raw raw')
    (hOwn : List.Forall₂ P (raw.get "parameters").items (raw'.get "parameters").items)
    {shared shared' : List Value} (hShared : List.Forall₂ P shared shared') :
    Logged.Agree (Operation.Like R Q) (operation version path raw shared)
      (operation version path raw' shared') := by
  have hMark (p q : Value) (hpq : P p q) : p.get? "$ref" = q.get? "$ref" :=
    (hAlike p q hpq).mark (by decide) (by decide)
  have hMerged := merge_agree (fun p q hpq => key_congr (hAlike p q hpq))
    (fun p q hpq => (hAlike p q hpq).isMap_eq (by decide)) hShared hOwn
  unfold operation
  refine (Logged.Agree.ofExcept hMerged).bind fun ps qs hps => ?_
  cases version with
  | swagger =>
    have hBuilt : Logged.Agree (List.Forall₂ Eq) (parameters swaggerParameter path ps)
        (parameters swaggerParameter path qs) := by
      refine parameters_agree hMark (fun p q hpq hRef => ?_) path hps
      rw [swaggerParameter_congr (hAlike p q hpq) hRef]
      exact .refl (fun _ => rfl) _
    have hParameters : parameters swaggerParameter path ps = parameters swaggerParameter path qs := by
      rw [List.forall₂_eq_eq_eq] at hBuilt
      exact hBuilt.eq
    rw [swaggerOperation_congr path h hParameters]
    exact .bind_same _ fun op => .pure (.swagger op)
  | openApi =>
    have hBuilt := parameters_agree hMark (hBuild rfl) path hps
    exact (openApiOperation_agree hR path h hBuilt).bind fun a b hab => .pure hab
  | unknown n => exact ⟨rfl, .error _⟩

end Builder

end RestRoutes.Api
