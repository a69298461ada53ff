import RestRoutes.Api.Builder
import RestRoutes.Proofs.Value.Text

/-! Building an operation is lenient: whatever the document holds, nothing in it is refused, and all
that is logged are warnings.  Only an integer of too many digits stops the building, and the values
that an operation keeps are parts of the document. -/

namespace RestRoutes

open Api

namespace Value

theorem textOrFail_unrefused (v : Value) : Unrefused v.textOrFail := v.textOrFail_reads.unrefused

theorem scalarText_reads (v : Value) : Readable v.Textual v.scalarText := by
  unfold scalarText
  split
  · exact .ok fun _ => trivial
  · exact .ok fun _ => trivial
  · exact .ok fun _ => trivial
  · exact .ok fun _ => trivial
  · exact v.textOrFail_reads.map fun _ _ => trivial

theorem get_scalarText_reads (v : Value) (name : String) :
    Readable v.Textual (v.get name).scalarText :=
  (scalarText_reads _).mono fun h => h.get name

end Value

namespace Api

/-! ### Schemas -/

namespace Schema

/-- The values that a schema keeps have texts. -/
def Textual (s : Schema) : Prop := (∀ v ∈ s.enum, v.Textual) ∧ s.default.Textual

theorem typeName_reads (v : Value) : Readable v.Textual (typeName v) := by
  unfold typeName
  split
  · exact .ok fun _ => trivial
  · split
    · rename_i name hFound
      refine (name.textOrFail_reads.mono fun h => ?_).map fun _ _ => trivial
      exact Value.textual_list.mp h name (List.mem_of_find?_eq_some hFound)
    · exact .ok fun _ => trivial
  · exact v.textOrFail_reads.map fun _ _ => trivial

mutual

theorem ofValue_reads : ∀ v : Value, Reads v.Textual (ofValue v) fun s => ∀ t ∈ s, t.Textual
  | .map es => by
    rw [ofValue]
    split
    · rename_i target hTarget
      refine (target.textOrFail_reads.mono fun h => h.get? hTarget).bind fun _ _ => .ok fun _ => ?_
      rintro t ⟨⟩
      exact ⟨nofun, Value.textual_null⟩
    · refine ((typeName_reads _).mono fun h => h.get "type").bind fun _ _ => ?_
      refine (Value.get_scalarText_reads _ _).bind fun _ _ => ?_
      refine ((itemsIn_reads es).mono Value.textual_map.mp).bind fun _ _ => ?_
      refine ((propertiesIn_reads es).mono Value.textual_map.mp).bind fun _ _ => .ok fun h => ?_
      rintro t ⟨⟩
      exact ⟨(h.get "enum").items, h.get "default"⟩
  | .null | .bool _ | .int _ | .float _ | .str _ | .bytes _ | .date _ | .timestamp _ | .list _
  | .tuple _ | .set _ => .ok fun _ => nofun

theorem itemsIn_reads : ∀ es : List (Value × Value),
    Readable (Value.TextualEntries es) (itemsIn es)
  | [] => .ok fun _ => trivial
  | (k, v) :: rest => by
    rw [itemsIn.eq_def]
    split
    · exact .ok fun _ => trivial
    · rename_i h
      cases h
      split
      · exact (ofValue_reads v).readable.mono fun h => (h _ (.head _)).2
      · exact (itemsIn_reads rest).mono fun h e he => h e (.tail _ he)
    · rename_i h
      cases h
      exact (itemsIn_reads rest).mono fun h e he => h e (.tail _ he)

theorem propertiesIn_reads : ∀ es : List (Value × Value),
    Readable (Value.TextualEntries es) (propertiesIn es)
  | [] => .ok fun _ => trivial
  | (k, v) :: rest => by
    rw [propertiesIn.eq_def]
    split
    · exact .ok fun _ => trivial
    · rename_i ps _ h
      cases h
      split
      · refine ((namedSchemas_reads ps).mono fun h => ?_).map fun _ _ => trivial
        exact Value.textual_map.mp (h _ (.head _)).2
      · exact (propertiesIn_reads rest).mono fun h e he => h e (.tail _ he)
    · rename_i h
      cases h
      split
      · exact .ok fun _ => trivial
      · exact (propertiesIn_reads rest).mono fun h e he => h e (.tail _ he)
    · rename_i h
      cases h
      exact (propertiesIn_reads rest).mono fun h e he => h e (.tail _ he)

theorem namedSchemas_reads : ∀ es : List (Value × Value),
    Readable (Value.TextualEntries es) (namedSchemas es)
  | [] => .ok fun _ => trivial
  | (k, v) :: rest => by
    refine (k.textOrFail_reads.mono fun h => (h _ (.head _)).1).bind fun _ _ => ?_
    refine ((ofValue_reads v).mono fun h => (h _ (.head _)).2).bind fun _ _ => ?_
    refine ((namedSchemas_reads rest).mono fun h e he => h e (.tail _ he)).bind fun _ _ => ?_
    exact .ok fun _ => trivial

end

end Schema

def Swagger.Parameter.Textual (p : Swagger.Parameter) : Prop :=
  (∀ v ∈ p.enum, v.Textual) ∧ p.default.Textual

def OpenApi.Parameter.Textual (p : OpenApi.Parameter) : Prop := ∀ s ∈ p.schema, s.Textual

/-- The values that the parameters of an operation keep have texts. -/
def Operation.Textual : Operation → Prop
  | .swagger op => ∀ p ∈ op.parameters, p.Textual
  | .openApi op => ∀ p ∈ op.parameters, p.Textual

end Api

namespace Logged

variable {α β : Type}

/-- A computation that logs warnings only and is not refused. -/
structure Lenient (x : Logged α) : Prop where
  log : Logs (·.level = .warning) x
  outcome : Unrefused x.outcome

/-- A reading that logs warnings only. -/
structure Reading (p : Prop) (x : Logged α) (Q : α → Prop) : Prop where
  log : Logs (·.level = .warning) x
  outcome : Reads p x.outcome Q

namespace Reading

variable {p : Prop} {x : Logged α} {Q : α → Prop} {R : β → Prop}

theorem pure {a : α} (h : p → Q a) : Reading p (Pure.pure a : Logged α) Q := ⟨.pure a, .ok h⟩

theorem ofExcept {x : Except Failure α} (h : Reads p x Q) : Reading p (Logged.ofExcept x) Q :=
  ⟨.ofExcept x, h⟩

theorem warning (text : String) : Reading p (Logged.record .warning text) fun _ => True :=
  ⟨.record rfl, .ok fun _ => trivial⟩

theorem bind {f : α → Logged β} (hx : Reading p x Q) (hf : ∀ a, (p → Q a) → Reading p (f a) R) :
    Reading p (x >>= f) R := by
  cases h : x.outcome with
  | error e =>
    rw [bind_of_error h]
    exact ⟨hx.log, .error (hx.outcome.failure e h)⟩
  | ok a =>
    have hNext := hf a (hx.outcome.result a h)
    rw [bind_of_ok h]
    exact ⟨fun r hr => (List.mem_append.mp hr).elim (hx.log r) (hNext.log r), hNext.outcome⟩

theorem lenient (h : Reading p x Q) : Lenient x := ⟨h.log, h.outcome.unrefused⟩

end Reading

end Logged

namespace Api.Builder

open Logged

theorem texts_reads (v : Value) : Readable v.Textual (texts v) :=
  .mapM fun x hx => x.textOrFail_reads.mono fun h => h.items x hx

theorem get_texts_reads (v : Value) (name : String) : Readable v.Textual (texts (v.get name)) :=
  (texts_reads _).mono fun h => h.get name

/-! ### Parameters -/

theorem key_reads (p : Value) : Readable p.Textual (key p) := by
  refine (p.get_scalarText_reads _).bind fun _ _ => ?_
  exact (p.get_scalarText_reads _).bind fun _ _ => .ok fun _ => trivial

theorem notOverridden_reads (keys : List (String × String)) (ps : List Value) :
    Reads (∀ p ∈ ps, p.Textual) (notOverridden keys ps) fun kept => ∀ p ∈ kept, p.Textual := by
  induction ps with
  | nil => exact .ok fun h => h
  | cons p rest ih =>
    refine ((key_reads p).mono fun h => h p (.head _)).bind fun k _ => ?_
    refine (ih.mono fun h q hq => h q (.tail _ hq)).bind fun kept hKept => .ok fun h => ?_
    split
    · exact List.forall_mem_cons.mpr ⟨h p (.head _), hKept h⟩
    · exact hKept h

theorem merge_reads (shared own : List Value) :
    Reads ((∀ p ∈ shared, p.Textual) ∧ ∀ p ∈ own, p.Textual) (merge shared own) fun merged =>
      ∀ p ∈ merged, p.Textual := by
  have hMaps : ∀ ps : List Value, (∀ p ∈ ps, p.Textual) → ∀ p ∈ ps.filter Value.isMap, p.Textual :=
    fun ps h p hp => h p (List.mem_filter.mp hp).1
  refine (Reads.mapM fun p hp => (key_reads p).mono fun h => hMaps own h.2 p hp).bind
    fun keys _ => ?_
  refine ((notOverridden_reads keys _).mono fun h => hMaps shared h.1).bind
    fun kept hKept => .ok fun h p hp => ?_
  exact (List.mem_append.mp hp).elim (hKept h p) (hMaps own h.2 p)

theorem merge_own {own : List Value} (h : ∀ p ∈ own, p.isMap = true) :
    merge [] own = do
      let _ ← own.mapM key
      return own := by
  have hOwn : own.filter Value.isMap = own := List.filter_eq_self.mpr h
  rw [merge, hOwn]
  rfl

theorem swaggerParameter_reads (p : Value) :
    Reads p.Textual (swaggerParameter p) Swagger.Parameter.Textual := by
  have hKept : p.Textual →
      (∀ v ∈ (p.get "enum").items, v.Textual) ∧ (p.get "default").Textual :=
    fun h => ⟨(h.get "enum").items, h.get "default"⟩
  refine (key_reads p).bind fun _ _ => ?_
  refine (p.get_scalarText_reads _).bind fun _ _ => ?_
  refine (p.get_scalarText_reads _).bind fun _ _ => ?_
  refine (p.get_scalarText_reads _).bind fun _ _ => ?_
  split
  · have hItems : Readable p.Textual (some <$> ((p.get "items").get "type").scalarText) :=
      (((p.get "items").get_scalarText_reads "type").mono fun h => h.get "items").map
        fun _ _ => trivial
    exact hItems.bind fun _ _ => .ok hKept
  · exact .ok hKept

theorem openApiParameter_reads (p : Value) :
    Reads p.Textual (openApiParameter p) OpenApi.Parameter.Textual := by
  refine (key_reads p).bind fun _ _ => ?_
  refine (p.get_scalarText_reads _).bind fun _ _ => ?_
  refine ((Schema.ofValue_reads _).mono fun h => h.get "schema").bind fun schema hSchema => ?_
  exact (p.get_scalarText_reads _).bind fun _ _ => .ok hSchema

theorem parameters_reading {α : Type} {build : Value → Except Failure α} {Q : α → Prop}
    (hBuild : ∀ p, Reads p.Textual (build p) Q) (path : String) (ps : List Value) :
    Reading (∀ p ∈ ps, p.Textual) (parameters build path ps) fun built => ∀ b ∈ built, Q b := by
  induction ps with
  | nil => exact .pure fun _ => nofun
  | cons p rest ih =>
    have hRest : Reading (∀ q ∈ p :: rest, q.Textual) (parameters build path rest) fun built =>
        ∀ b ∈ built, Q b := ⟨ih.log, ih.outcome.mono fun h q hq => h q (.tail _ hq)⟩
    rw [parameters]
    split
    · exact (Reading.warning _).bind fun _ _ => hRest
    · refine (Reading.ofExcept ((hBuild p).mono fun h => h p (.head _))).bind fun b hb => ?_
      refine hRest.bind fun built hBuilt => .pure fun h => ?_
      exact List.forall_mem_cons.mpr ⟨hb h, hBuilt h⟩

/-- Parameters that are no references are built one after the other. -/
theorem parameters_inline {α : Type} (build : Value → Except Failure α) (path : String)
    {ps : List Value} (h : ∀ p ∈ ps, p.get? "$ref" = none) :
    parameters build path ps = .ofExcept (ps.mapM build) := by
  induction ps with
  | nil => rfl
  | cons p rest ih =>
    have hRest := ih fun q hq => h q (List.mem_cons_of_mem p hq)
    rw [parameters, h p List.mem_cons_self]
    simp only [hRest, List.mapM_cons, ofExcept_bind]
    rfl

/-! ### Bodies and responses -/

theorem mediaTypes_reads (es : List (Value × Value)) :
    Readable (Value.TextualEntries es) (mediaTypes es) := by
  induction es with
  | nil => exact .ok fun _ => trivial
  | cons e rest ih =>
    refine (e.1.textOrFail_reads.mono fun h => (h e (.head _)).1).bind fun _ _ => ?_
    refine ((Schema.ofValue_reads _).mono fun h => (h e (.head _)).2.get "schema").bind
      fun _ _ => ?_
    refine (ih.mono fun h e he => h e (.tail _ he)).bind fun _ _ => ?_
    exact .ok fun _ => trivial

theorem content_reads (v : Value) : Readable v.Textual (content (v.get "content")) :=
  ((mediaTypes_reads _).mono fun h => (h.get "content").entries).map fun _ _ => trivial

theorem requestBody_reading (v : Value) : Reading v.Textual (requestBody v) fun _ => True := by
  unfold requestBody
  split
  · split
    · exact (Reading.warning _).bind fun _ _ => .pure fun _ => trivial
    · refine .ofExcept ((v.get_scalarText_reads _).bind fun _ _ => ?_)
      exact (content_reads v).bind fun _ _ => .ok fun _ => trivial
  · exact .pure fun _ => trivial

theorem responseEntries_reads (es : List (Value × Value)) :
    Readable (Value.TextualEntries es) (responseEntries es) := by
  induction es with
  | nil => exact .ok fun _ => trivial
  | cons e rest ih =>
    have hRest : Readable (Value.TextualEntries (e :: rest)) (responseEntries rest) :=
      ih.mono fun h e he => h e (.tail _ he)
    rw [responseEntries]
    split
    · refine ((e.2.get_scalarText_reads _).mono fun h => (h e (.head _)).2).bind fun _ _ => ?_
      refine ((content_reads e.2).mono fun h => (h e (.head _)).2).bind fun _ _ => ?_
      refine (e.1.textOrFail_reads.mono fun h => (h e (.head _)).1).bind fun _ _ => ?_
      exact hRest.bind fun _ _ => .ok fun _ => trivial
    · exact hRest

theorem responses_reads (v : Value) : Readable v.Textual (responses v) :=
  ((responseEntries_reads _).mono fun h => h.entries).map fun _ _ => trivial

/-! ### Operations -/

section Operations

variable (path : String) (raw : Value) (params : List Value)

theorem swaggerOperation_reading :
    Reading (raw.Textual ∧ ∀ p ∈ params, p.Textual) (swaggerOperation path raw params) fun op =>
      ∀ p ∈ op.parameters, p.Textual := by
  have hText (name : String) := (raw.get_scalarText_reads name).mono
    fun h : raw.Textual ∧ ∀ p ∈ params, p.Textual => h.1
  have hTexts (name : String) := (get_texts_reads raw name).mono
    fun h : raw.Textual ∧ ∀ p ∈ params, p.Textual => h.1
  have hParameters := parameters_reading swaggerParameter_reads path params
  refine (Reading.ofExcept (hText "operationId")).bind fun _ _ => ?_
  refine (Reading.ofExcept (hText "description")).bind fun _ _ => ?_
  refine Reading.bind ⟨hParameters.log, hParameters.outcome.mono And.right⟩
    fun parameters hBuilt => ?_
  refine (Reading.ofExcept (hTexts "consumes")).bind fun _ _ => ?_
  exact (Reading.ofExcept (hTexts "produces")).bind fun _ _ => .pure hBuilt

theorem openApiOperation_reading :
    Reading (raw.Textual ∧ ∀ p ∈ params, p.Textual) (openApiOperation path raw params) fun op =>
      ∀ p ∈ op.parameters, p.Textual := by
  have hText (name : String) := (raw.get_scalarText_reads name).mono
    fun h : raw.Textual ∧ ∀ p ∈ params, p.Textual => h.1
  have hParameters := parameters_reading openApiParameter_reads path params
  have hBody := requestBody_reading (raw.get "requestBody")
  have hResponses := (responses_reads (raw.get "responses")).mono
    fun h : raw.Textual ∧ ∀ p ∈ params, p.Textual => h.1.get "responses"
  refine (Reading.ofExcept (hText "operationId")).bind fun _ _ => ?_
  refine (Reading.ofExcept (hText "description")).bind fun _ _ => ?_
  refine Reading.bind ⟨hParameters.log, hParameters.outcome.mono And.right⟩
    fun parameters hBuilt => ?_
  refine Reading.bind ⟨hBody.log, hBody.outcome.mono fun h => h.1.get "requestBody"⟩ fun _ _ => ?_
  exact (Reading.ofExcept hResponses).bind fun _ _ => .pure hBuilt

end Operations

theorem swaggerOperation_inline (path : String) (raw : Value) {params : List Value}
    (h : ∀ p ∈ params, p.get? "$ref" = none) :
    swaggerOperation path raw params = .ofExcept do
      let id ← (raw.get "operationId").scalarText
      let description ← (raw.get "description").scalarText
      let parameters ← params.mapM swaggerParameter
      let consumes ← texts (raw.get "consumes")
      let produces ← texts (raw.get "produces")
      return { path, id, description, parameters, consumes, produces } := by
  rw [swaggerOperation, parameters_inline _ _ h]
  simp only [ofExcept_bind]
  rfl

theorem openApiOperation_inline (path : String) (raw : Value) {params : List Value}
    (h : ∀ p ∈ params, p.get? "$ref" = none) {body : Except Failure (Option OpenApi.RequestBody)}
    (hBody : requestBody (raw.get "requestBody") = .ofExcept body) :
    openApiOperation path raw params = .ofExcept do
      let id ← (raw.get "operationId").scalarText
      let description ← (raw.get "description").scalarText
      let parameters ← params.mapM openApiParameter
      let requestBody ← body
      let responses ← responses (raw.get "responses")
      return { path, id, description, parameters, requestBody, responses } := by
  rw [openApiOperation, parameters_inline _ _ h, hBody]
  simp only [ofExcept_bind]
  rfl

/-- An operation of a known generation is built unless an integer of too many digits is in the way. -/
theorem operation_reading {version : Document.Version}
    (hVersion : version = .swagger ∨ version = .openApi) (path : String) (raw : Value)
    (shared : List Value) :
    Reading (raw.Textual ∧ ∀ p ∈ shared, p.Textual) (operation version path raw shared)
      Operation.Textual := by
  have hMerge := (merge_reads shared (raw.get "parameters").items).mono
    fun h : raw.Textual ∧ ∀ p ∈ shared, p.Textual => ⟨h.2, (h.1.get "parameters").items⟩
  refine (Reading.ofExcept hMerge).bind fun params hParams => ?_
  rcases hVersion with rfl | rfl
  · have hOperation := swaggerOperation_reading path raw params
    exact Reading.bind ⟨hOperation.log, hOperation.outcome.mono fun h => ⟨h.1, hParams h⟩⟩
      fun _ hBuilt => .pure hBuilt
  · have hOperation := openApiOperation_reading path raw params
    exact Reading.bind ⟨hOperation.log, hOperation.outcome.mono fun h => ⟨h.1, hParams h⟩⟩
      fun _ hBuilt => .pure hBuilt

theorem operation_lenient (version : Document.Version) (path : String) (raw : Value)
    (shared : List Value) : Lenient (operation version path raw shared) := by
  cases version with
  | swagger => exact (operation_reading (.inl rfl) path raw shared).lenient
  | openApi => exact (operation_reading (.inr rfl) path raw shared).lenient
  | unknown n =>
    refine ⟨Logs.bind (.ofExcept _) fun _ => .of_log_eq_nil rfl, ?_⟩
    rw [operation, bind_outcome]
    exact (merge_reads _ _).unrefused.bind fun _ => .defect _

end Api.Builder

end RestRoutes
