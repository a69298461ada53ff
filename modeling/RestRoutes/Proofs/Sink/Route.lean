import RestRoutes.Proofs.Event.Vocabulary
import RestRoutes.Proofs.Sink.Building
import RestRoutes.Proofs.Value

/-! The model of a routing description is read back to the events that built it.  Fields that were
left out and fields that are written never fall together, so no event of a run is lost in it, and
none is taken for another. -/

namespace RestRoutes.Sink

open Api Visit Building

/-! ### Reading -/

def string? : Value → Option String
  | .str s => some s
  | _ => none

/-- The argument of a shape that a value was written for. -/
def argument? : Shape → Value → Option Argument
  | .text, .str s => some (.text s)
  | .texts, .list xs => (xs.mapM string?).map .texts
  | .flag, .bool b => some (.bool b)
  | .location, .str s => (Location.ofName? s).map .location
  | .format, .str s => (CollectionFormat.ofName? s).map .format
  | _, _ => none

/-- Reads a field with a name from under a key. -/
def readField (v : Value) (key name : String) : List Event :=
  (((v.get? key).bind (argument? (Shape.ofName name))).map (Event.mk name)).toList

def readParam (v : Value) : List Event :=
  framed (blockNames.flatMap fun name => readField v name name)

def readVerb (v : Value) : List Event :=
  (((v.get? "method").bind string?).toList.flatMap fun method => readField v "path" method) ++
    verbNames.flatMap (fun name => readField v name name) ++
    (v.get "params").items.flatMap readParam ++ readField v "to" "to"

def settingsKey : String → String
  | "contextPath" => "context_path"
  | "apiContextPath" => "api_context_path"
  | name => name

def readSettings (v : Value) : List Event :=
  .bare "restConfiguration" :: settingsNames.flatMap fun name => readField v (settingsKey name) name

/-- Reads the events of a service. -/
def readRoute (v : Value) : List Event :=
  (v.get? "configuration").toList.flatMap readSettings ++
    Generator.restEvent ((v.get? "path").bind string?) ::
    (v.get "verbs").items.flatMap readVerb

/-! ### Fields -/

/-- The value that a field is written with, unless it is left out. -/
def written (a : Argument) : Option Value := if a.isEmpty then none else some a.value

theorem value_texts (ss : List String) : (Argument.texts ss).value = .list (ss.map .str) := by
  have hValues : ∀ ss : List String, Argument.values (ss.map .text) = ss.map .str := by
    intro ss
    induction ss with
    | nil => rfl
    | cons s rest ih =>
      have hFirst : Argument.values ((s :: rest).map .text) =
          .str s :: Argument.values (rest.map .text) := rfl
      rw [hFirst, ih, List.map_cons]
  rw [← hValues]
  rfl

theorem argument?_value {shape : Shape} {a : Argument} (h : shape.Fits a)
    (hFull : a.isEmpty = false) : argument? shape a.value = some a := by
  cases h with
  | absent => cases hFull
  | text s => rfl
  | @texts ss hNonempty =>
    have hStrings : (ss.map Value.str).mapM string? = some ss := by
      clear hFull hNonempty
      induction ss with
      | nil => rfl
      | cons s rest ih =>
        rw [List.map_cons, List.mapM_cons, ih]
        rfl
    rw [value_texts, argument?, hStrings, Option.map_some]
  | flag b => rfl
  | location l => cases l <;> rfl
  | format f => cases f <;> rfl

theorem readField_written {v : Value} {key name : String} {a : Argument}
    (hGet : v.get? key = written a) (hSpoken : ∀ e ∈ field name a, e.Spoken) :
    readField v key name = field name a := by
  unfold field at hSpoken ⊢
  cases hEmpty : a.isEmpty with
  | true => simp [readField, hGet, written, hEmpty]
  | false =>
    have hFits := (hSpoken ⟨name, a⟩ (by simp [hEmpty])).fits
    simp [readField, hGet, written, hEmpty, argument?_value hFits hEmpty]

theorem readField_text {v : Value} {key name s : String} (hGet : v.get? key = some (.str s))
    (hShape : Shape.ofName name = .text) : readField v key name = [⟨name, .text s⟩] := by
  simp [readField, hGet, hShape, argument?]

/-- A form is read back from a map with its values. -/
theorem readFields_written {form : List Event} {key : String → String} {v : Value}
    (hGet : ∀ e ∈ form, v.get? (key e.name) = written e.argument)
    (hSpoken : ∀ e ∈ filled form, e.Spoken) :
    (form.map Event.name).flatMap (fun name => readField v (key name) name) = filled form := by
  induction form with
  | nil => rfl
  | cons e rest ih =>
    obtain ⟨name, a⟩ := e
    rw [filled_cons] at hSpoken ⊢
    rw [List.forall_mem_append] at hSpoken
    rw [List.map_cons, List.flatMap_cons, readField_written (hGet _ (by simp)) hSpoken.1,
      ih (fun e he => hGet e (by simp [he])) hSpoken.2]

theorem scalarField_stored {shape : Shape} (name : String) {a : Argument}
    (h : a.isEmpty = false → shape.Fits a) :
    scalarField name (stored .null a) = ((written a).map (Prod.mk name)).toList := by
  unfold stored written
  cases hEmpty : a.isEmpty with
  | true => rfl
  | false => cases h hEmpty <;> first | rfl | cases hEmpty

theorem listField_stored (name : String) (ss : List String) :
    listField name (stored (.list []) (.texts ss)) =
      ((written (.texts ss)).map (Prod.mk name)).toList := by
  cases ss <;> rfl

/-! ### Definitions -/

def fieldsOf (key : String → String) (form : List Event) : List (String × Option Value) :=
  form.map fun e => (key e.name, written e.argument)

theorem value_paramOf (d : Descriptor) :
    (paramOf d).value = .ofFields (fieldsOf id (blockValues d)) := by
  have hRequired : scalarField "required" (.bool d.required) =
      ((written (.bool d.required)).map (Prod.mk "required")).toList := rfl
  simp only [Param.value, paramOf, Value.ofFields, fieldsOf, blockValues, List.map_cons,
    List.map_nil, List.flatMap_cons, List.flatMap_nil, List.append_nil, List.append_assoc, id,
    scalarField_stored _ fun _ => Shape.Fits.text d.name,
    scalarField_stored _ Shape.fits_location, scalarField_stored _ Shape.fits_format,
    scalarField_stored _ Shape.fits_optional, listField_stored, hRequired]

theorem readParam_value (d : Descriptor) : readParam (paramOf d).value = block d := by
  have hDistinct : ((fieldsOf id (blockValues d)).map Prod.fst).Nodup := by
    have hNames : (fieldsOf id (blockValues d)).map Prod.fst = blockNames := rfl
    rw [hNames]
    decide
  have hGet : ∀ e ∈ blockValues d, (paramOf d).value.get? (id e.name) = written e.argument := by
    intro e he
    rw [value_paramOf]
    exact Value.get?_ofFields hDistinct (List.mem_map.mpr ⟨e, he, rfl⟩)
  have hSpoken : ∀ e ∈ filled (blockValues d), e.Spoken := by
    rw [← blockFields_eq]
    exact blockFields_spoken d
  have hFields := readFields_written hGet hSpoken
  rw [← blockFields_eq] at hFields
  exact congrArg framed hFields

theorem value_settingsOf (c : RestConfiguration) :
    (settingsOf c).value = .ofFields (fieldsOf settingsKey (settingsValues c)) := by
  have hComponent : settingsKey "component" = "component" := rfl
  have hContextPath : settingsKey "contextPath" = "context_path" := rfl
  have hApiContextPath : settingsKey "apiContextPath" = "api_context_path" := rfl
  have hHost : settingsKey "host" = "host" := rfl
  simp only [Settings.value, settingsOf, Value.ofFields, fieldsOf, settingsValues, List.map_cons,
    List.map_nil, List.flatMap_cons, List.flatMap_nil, List.append_nil, List.append_assoc,
    hComponent, hContextPath, hApiContextPath, hHost, scalarField_stored _ Shape.fits_optional]

theorem readSettings_value {c : RestConfiguration} (h : c.isBlank = false) :
    readSettings (settingsOf c).value = Generator.configurationEvents c := by
  have hDistinct : ((fieldsOf settingsKey (settingsValues c)).map Prod.fst).Nodup := by
    have hNames : (fieldsOf settingsKey (settingsValues c)).map Prod.fst =
        settingsNames.map settingsKey := rfl
    rw [hNames]
    decide
  have hGet : ∀ e ∈ settingsValues c,
      (settingsOf c).value.get? (settingsKey e.name) = written e.argument := by
    intro e he
    rw [value_settingsOf]
    exact Value.get?_ofFields hDistinct (List.mem_map.mpr ⟨e, he, rfl⟩)
  have hEvents := configurationEvents_of_not_isBlank h
  have hSpoken : ∀ e ∈ filled (settingsValues c), e.Spoken := by
    intro e he
    refine Generator.configurationEvents_spoken c e ?_
    rw [hEvents]
    exact List.mem_cons_of_mem _ he
  rw [hEvents]
  exact congrArg (Event.bare "restConfiguration" :: ·) (readFields_written hGet hSpoken)

def verbFields (p : Passage) : List (String × Option Value) :=
  [("method", some (.str p.method)), ("path", some (.str p.op.path))] ++
    fieldsOf id (headerValues p.op) ++
    [("params", if p.blocks.isEmpty then none
      else some (.list (p.blocks.map fun d => (paramOf d).value))),
    ("to", (p.target.bind Argument.plainText?).map .str)]

theorem value_verbOf {p : Passage} {m : Method} (hMethod : p.method = m.name) :
    (verbOf p).value = .ofFields (verbFields p) := by
  have hName : Method.ofName? m.name = some m := by cases m <;> decide
  have hParams : ∀ ds : List Descriptor,
      (if (ds.map paramOf).isEmpty then []
        else [("params", Value.list ((ds.map paramOf).map Param.value))]) =
      ((if ds.isEmpty then none else some (.list (ds.map fun d => (paramOf d).value))).map
        (Prod.mk "params")).toList := by
    intro ds
    cases ds <;> simp
  simp only [Verb.value, verbOf, hMethod, hName, Option.getD_some, Value.ofFields, verbFields,
    fieldsOf, headerValues, List.map_cons, List.map_nil, List.flatMap_cons, List.flatMap_nil,
    List.append_nil, List.append_assoc, List.cons_append, List.nil_append, id,
    scalarField_stored _ Shape.fits_optional, listField_stored, hParams, Option.map_map,
    Option.map_some, Option.toList_some]
  rfl

theorem get?_verbOf {p : Passage} {m : Method} (hMethod : p.method = m.name) {name : String}
    {v : Option Value} (h : (name, v) ∈ verbFields p) : (verbOf p).value.get? name = v := by
  have hDistinct : ((verbFields p).map Prod.fst).Nodup := by
    have hNames : (verbFields p).map Prod.fst =
        ["method", "path", "id", "description", "consumes", "produces", "params", "to"] := rfl
    rw [hNames]
    decide
  rw [value_verbOf hMethod]
  exact Value.get?_ofFields hDistinct h

theorem readHeader_value {p : Passage} {m : Method} (hMethod : p.method = m.name) :
    verbNames.flatMap (fun name => readField (verbOf p).value name name) = headerFields p.op := by
  have hGet : ∀ e ∈ headerValues p.op,
      (verbOf p).value.get? (id e.name) = written e.argument := by
    intro e he
    have hMem : (id e.name, written e.argument) ∈ fieldsOf id (headerValues p.op) :=
      List.mem_map.mpr ⟨e, he, rfl⟩
    refine get?_verbOf hMethod ?_
    simp only [verbFields, List.mem_append]
    exact .inl (.inr hMem)
  have hSpoken : ∀ e ∈ filled (headerValues p.op), e.Spoken := by
    intro e he
    refine header_spoken m p.op e ?_
    rw [header_eq]
    exact List.mem_cons_of_mem _ he
  exact readFields_written hGet hSpoken

theorem readParams_value {p : Passage} {m : Method} (hMethod : p.method = m.name) :
    ((verbOf p).value.get "params").items.flatMap readParam = p.blocks.flatMap block := by
  have hParams : (verbOf p).value.get? "params" = if p.blocks.isEmpty then none
      else some (.list (p.blocks.map fun d => (paramOf d).value)) :=
    get?_verbOf hMethod (by simp [verbFields])
  have hItems : ((verbOf p).value.get "params").items =
      p.blocks.map fun d => (paramOf d).value := by
    rw [Value.get, hParams]
    cases p.blocks <;> rfl
  rw [hItems, List.flatMap_map]
  exact List.flatMap_congr fun d _ => readParam_value d

/-- An operation is read back to the passage that describes it. -/
theorem readVerb_value {p : Passage} {m : Method} (hMethod : p.method = m.name)
    (hTarget : ∀ t, p.target = some t → ∃ s, t = .text s) :
    readVerb (verbOf p).value = p.events := by
  have hName : (verbOf p).value.get? "method" = some (.str m.name) :=
    get?_verbOf hMethod (by simp [verbFields, hMethod])
  have hPath : (verbOf p).value.get? "path" = some (.str p.op.path) :=
    get?_verbOf hMethod (by simp [verbFields])
  have hTo : (verbOf p).value.get? "to" = (p.target.bind Argument.plainText?).map .str :=
    get?_verbOf hMethod (by simp [verbFields])
  have hShape : Shape.ofName m.name = .text := by cases m <;> rfl
  -- The path is kept even where it is blank, unlike the fields of the header.
  have hStart : readField (verbOf p).value "path" m.name = [⟨m.name, .text p.op.path⟩] :=
    readField_text hPath hShape
  have hEnd : readField (verbOf p).value "to" "to" =
      (p.target.map fun t => ⟨"to", t⟩).toList := by
    cases ht : p.target with
    | none => simp [readField, hTo, ht]
    | some t =>
      obtain ⟨s, rfl⟩ := hTarget t ht
      rw [ht] at hTo
      exact readField_text hTo rfl
  rw [readVerb, hName, readHeader_value hMethod, readParams_value hMethod, hEnd, Passage.events,
    hMethod, header_eq]
  simp [string?, hStart]

/-! ### Services -/

def routeFields (r : Route) : List (String × Option Value) :=
  [("path", r.path.map .str), ("configuration", r.settings.map Settings.value),
    ("verbs", if r.verbs.isEmpty then none else some (.list (r.verbs.map Verb.value)))]

theorem value_eq (r : Route) : r.value = .ofFields (routeFields r) := by
  have hVerbs : (if r.verbs.isEmpty then []
        else [("verbs", Value.list (r.verbs.map Verb.value))]) =
      ((if r.verbs.isEmpty then none else some (.list (r.verbs.map Verb.value))).map
        (Prod.mk "verbs")).toList := by
    cases r.verbs <;> rfl
  simp only [Route.value, Value.ofFields, routeFields, hVerbs, List.flatMap_cons,
    List.flatMap_nil, List.append_nil, List.append_assoc, Option.map_map]
  rfl

theorem get?_value (r : Route) {name : String} {v : Option Value}
    (h : (name, v) ∈ routeFields r) : r.value.get? name = v := by
  have hDistinct : ((routeFields r).map Prod.fst).Nodup := by
    have hNames : (routeFields r).map Prod.fst = ["path", "configuration", "verbs"] := rfl
    rw [hNames]
    decide
  rw [value_eq]
  exact Value.get?_ofFields hDistinct h

theorem items_verbs (r : Route) : (r.value.get "verbs").items = r.verbs.map Verb.value := by
  have hVerbs : r.value.get? "verbs" =
      if r.verbs.isEmpty then none else some (.list (r.verbs.map Verb.value)) :=
    get?_value r (by simp [routeFields])
  rw [Value.get, hVerbs]
  cases r.verbs <;> rfl

/-- A service is read back to the events of its settings, its path and its operations. -/
theorem readRoute_value (rest : Option RestConfiguration) (path : Option String)
    {ps : List Passage} (hMethod : ∀ p ∈ ps, ∃ m : Method, p.method = m.name)
    (hTarget : ∀ p ∈ ps, ∀ t, p.target = some t → ∃ s, t = .text s) :
    readRoute (Route.value ⟨path, settings? rest, ps.map verbOf⟩) =
      (rest.map Generator.configurationEvents).getD [] ++
        Generator.restEvent path :: ps.flatMap Passage.events := by
  have hPath : (Route.value ⟨path, settings? rest, ps.map verbOf⟩).get? "path" =
      path.map .str := get?_value _ (by simp [routeFields])
  have hSettings : (Route.value ⟨path, settings? rest, ps.map verbOf⟩).get? "configuration" =
      (settings? rest).map Settings.value := get?_value _ (by simp [routeFields])
  have hPreamble : ((settings? rest).map Settings.value).toList.flatMap readSettings =
      (rest.map Generator.configurationEvents).getD [] := by
    cases rest with
    | none => rfl
    | some c =>
      cases hBlank : c.isBlank with
      | true => simp [settings?, Option.filter, hBlank, Generator.configurationEvents]
      | false => simp [settings?, Option.filter, hBlank, readSettings_value]
  have hString : (path.map Value.str).bind string? = path := by cases path <;> rfl
  have hVerbs : (ps.map verbOf |>.map Verb.value).flatMap readVerb =
      ps.flatMap Passage.events := by
    rw [List.map_map, List.flatMap_map]
    refine List.flatMap_congr fun p hp => ?_
    obtain ⟨m, hName⟩ := hMethod p hp
    exact readVerb_value hName (hTarget p hp)
  rw [readRoute, hPath, hSettings, hPreamble, hString, items_verbs, hVerbs]

/-! ### Runs -/

/-- A run that emits `rest` has made out the base path. -/
theorem basePath_of_rest {g : Generator} (h : ∃ e ∈ g.generate.events, e.name = "rest") :
    ∃ path, Generator.basePath g.document g.version = .ok path := by
  cases hPath : Generator.basePath g.document g.version with
  | ok path => exact ⟨path, rfl⟩
  | error error =>
    obtain ⟨e, he, hName⟩ := h
    rw [Generator.generate_of_badBasePath hPath] at he
    have hKnown := name_of_mem_settingsEvents he
    rw [hName] at hKnown
    exact absurd hKnown (by decide)

theorem isSome_to {p : Passage} {m : Method} (hMethod : p.method = m.name)
    (hTarget : ∀ t, p.target = some t → ∃ s, t = .text s) (h : p.target.isSome = true) :
    ((verbOf p).value.get? "to").isSome = true := by
  have hTo : (verbOf p).value.get? "to" = (p.target.bind Argument.plainText?).map .str :=
    get?_verbOf hMethod (by simp [verbFields])
  obtain ⟨t, ht⟩ := Option.isSome_iff_exists.mp h
  obtain ⟨s, rfl⟩ := hTarget t ht
  rw [hTo, ht]
  rfl

/-- No event of a run is refused. -/
theorem build_generate (g : Generator) (t : Destination.Template) :
    Route.build (g.routedTo t).generate.events =
      .ok (Route.ofEvents (g.routedTo t).generate.events) :=
  build_of_not_hasLong fun e he => (Generator.generate_spoken g t e he).not_hasLong

/-- Every event of a run is taken in.  Once a run has come to `rest`, all that it emits is read back
from the model, whether it ends well or fails.  Only the last operation can be without its
destination, and only in a run that fails. -/
theorem readRoute_generate (g : Generator) (t : Destination.Template)
    (h : ∃ e ∈ (g.routedTo t).generate.events, e.name = "rest") :
    Route.build (g.routedTo t).generate.events =
      .ok (Route.ofEvents (g.routedTo t).generate.events) ∧
    readRoute (Route.ofEvents (g.routedTo t).generate.events).value =
      (g.routedTo t).generate.events ∧
    (∀ v ∈ ((Route.ofEvents (g.routedTo t).generate.events).value.get "verbs").items.dropLast,
      (v.get? "to").isSome = true) ∧
    ∀ report, (g.routedTo t).generate.outcome = .ok report →
      ∀ v ∈ ((Route.ofEvents (g.routedTo t).generate.events).value.get "verbs").items,
        (v.get? "to").isSome = true := by
  obtain ⟨path, hPath⟩ := basePath_of_rest h
  obtain ⟨ps, hps⟩ := (g.routedTo t).visitPaths_passages (Builder.paths (g.routedTo t).document)
  have hVerbs : ((Route.ofEvents (g.routedTo t).generate.events).value.get "verbs").items =
      ps.map fun p => (verbOf p).value := by
    rw [ofEvents_of_basePath hPath hps, items_verbs, List.map_map]
    rfl
  have hText : ∀ p ∈ ps, ∀ a, p.target = some a → ∃ s, a = .text s := fun p hp a ha =>
    Destination.Template.destination_text (hps.target p hp a ha)
  have hTo : ∀ p ∈ ps, p.target.isSome = true → ((verbOf p).value.get? "to").isSome = true := by
    intro p hp hTarget
    obtain ⟨m, hMethod⟩ := hps.method p hp
    exact isSome_to hMethod (hText p hp) hTarget
  refine ⟨build_generate g t, ?_, ?_, ?_⟩
  · rw [ofEvents_of_basePath hPath hps, Generator.generate_of_basePath hPath, hps.events]
    exact readRoute_value (g.routedTo t).rest path hps.method hText
  · rw [hVerbs, ← List.map_dropLast]
    intro v hv
    obtain ⟨p, hp, rfl⟩ := List.mem_map.mp hv
    exact hTo p ((List.dropLast_sublist ps).subset hp) (hps.complete p hp)
  · rw [hVerbs, Generator.generate_of_basePath hPath]
    intro report hReport v hv
    obtain ⟨p, hp, rfl⟩ := List.mem_map.mp hv
    exact hTo p hp (hps.ended report hReport p hp)

/-- A service whose second operation is refused for its parameter. -/
def halfStore : Value :=
  .ofNamed [("swagger", .str "2.0"), ("basePath", .str "/v1/"), ("paths", .ofNamed [
    ("/pets", .ofNamed [
      ("get", .ofNamed [("operationId", .str "listPets"),
        ("parameters", .list [.ofNamed [("name", .str "tag"), ("in", .str "query")]])]),
      ("post", .ofNamed [("operationId", .str "addPet"),
        ("parameters", .list [.ofNamed [("name", .str "sid"), ("in", .str "cookie")]])])])])]

theorem readRoute_generate_halfStore :
    let run := ((Generator.ofDocument halfStore .swagger).routedTo .direct).generate
    run.outcome.isOk = false ∧ (∃ e ∈ run.events, e.name = "rest") ∧
      readRoute (Route.ofEvents run.events).value = run.events := by
  intro run
  have hRest : ∃ e ∈ run.events, e.name = "rest" := by decide +kernel
  exact ⟨by decide +kernel, hRest, (readRoute_generate _ .direct hRest).2.1⟩

end RestRoutes.Sink
