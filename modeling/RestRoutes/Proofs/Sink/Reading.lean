import RestRoutes.Document
import RestRoutes.Proofs.Json.ReadBack
import RestRoutes.Proofs.Sink.Growth
import RestRoutes.Proofs.Sink.Route

/-! The JSON document of a service is read back to the service.  Whatever events build a service up,
in any order, its fields hold nothing but their arguments; so if JSON keeps the arguments as values,
it keeps the service. -/

namespace RestRoutes.Sink

open Json Building

/-! ### Fields -/

/-- Fields that JSON keeps, with distinct names among some names. -/
structure KeptFields (names : List String) (fields : List (String × Value)) : Prop where
  distinct : (fields.map Prod.fst).Sublist names
  values : ∀ e ∈ fields, Faithful e.2

namespace KeptFields

variable {names more : List String} {fields others : List (String × Value)}

theorem append (h : KeptFields names fields) (hMore : KeptFields more others) :
    KeptFields (names ++ more) (fields ++ others) where
  distinct := by
    rw [List.map_append]
    exact h.distinct.append hMore.distinct
  values := List.forall_mem_append.mpr ⟨h.values, hMore.values⟩

theorem absent (name : String) : KeptFields [name] [] :=
  ⟨List.nil_sublist _, fun _ he => nomatch he⟩

theorem present (name : String) {v : Value} (h : Faithful v) : KeptFields [name] [(name, v)] :=
  ⟨List.Sublist.refl _, List.forall_mem_singleton.mpr h⟩

theorem optional {α : Type} (name : String) {x : Option α} {value : α → Value}
    (h : ∀ y ∈ x, Faithful (value y)) :
    KeptFields [name] (x.map fun y => (name, value y)).toList := by
  cases x with
  | none => exact absent name
  | some y => exact present name (h y rfl)

theorem scalar (name : String) {a : Argument} (h : Faithful a.value) :
    KeptFields [name] (scalarField name a) := by
  unfold scalarField
  split
  · exact absent name
  · exact present name h

theorem list (name : String) {a : Argument} (h : Faithful a.value) :
    KeptFields [name] (listField name a) := by
  unfold listField
  split
  · exact absent name
  · exact present name h

/-- The field of a list that is left out if it is empty. -/
theorem items {α : Type} (name : String) {xs : List α} {value : α → Value}
    (h : ∀ x ∈ xs, Faithful (value x)) :
    KeptFields [name] (if xs.isEmpty then [] else [(name, .list (xs.map value))]) := by
  split
  · exact absent name
  · exact present name (.list (List.forall_mem_map.mpr h))

theorem faithful (h : KeptFields names fields) (hNames : names.Nodup) :
    Faithful (.ofNamed fields) :=
  .named (hNames.sublist h.distinct) h.values

end KeptFields

/-! ### Definitions -/

def Settings.Kept (s : Settings) : Prop :=
  ∀ a ∈ [s.component, s.contextPath, s.apiContextPath, s.host], Faithful a.value

def Param.Kept (p : Param) : Prop :=
  ∀ a ∈ [p.name, p.type, p.dataType, p.allowableValues, p.collectionFormat, p.defaultValue,
    p.arrayType, p.required, p.description], Faithful a.value

/-- An operation whose fields and parameters JSON keeps. -/
structure Verb.Kept (v : Verb) : Prop where
  fields : ∀ a ∈ [v.id, v.description, v.consumes, v.produces], Faithful a.value
  params : ∀ p ∈ v.params, p.Kept

/-- A service whose settings and operations JSON keeps. -/
structure Route.Kept (r : Route) : Prop where
  settings : ∀ s ∈ r.settings, s.Kept
  verbs : ∀ v ∈ r.verbs, v.Kept

theorem Settings.Kept.faithful {s : Settings} (h : s.Kept) : Faithful s.value := by
  simp only [Settings.Kept, List.forall_mem_cons] at h
  obtain ⟨hComponent, hContextPath, hApiContextPath, hHost, -⟩ := h
  exact ((((KeptFields.scalar _ hComponent).append (.scalar _ hContextPath)).append
    (.scalar _ hApiContextPath)).append (.scalar _ hHost)).faithful (by decide)

theorem Param.Kept.faithful {p : Param} (h : p.Kept) : Faithful p.value := by
  simp only [Param.Kept, List.forall_mem_cons] at h
  obtain ⟨hName, hType, hDataType, hAllowable, hFormat, hDefault, hArrayType, hRequired,
    hDescription, -⟩ := h
  exact (((((((((KeptFields.scalar _ hName).append (.scalar _ hType)).append
    (.scalar _ hDataType)).append (.list _ hAllowable)).append (.scalar _ hFormat)).append
    (.scalar _ hDefault)).append (.scalar _ hArrayType)).append (.scalar _ hRequired)).append
    (.scalar _ hDescription)).faithful (by decide)

theorem Verb.Kept.faithful {v : Verb} (h : v.Kept) : Faithful v.value := by
  have hFields := h.fields
  simp only [List.forall_mem_cons] at hFields
  obtain ⟨hId, hDescription, hConsumes, hProduces, -⟩ := hFields
  have hStart := (KeptFields.present "method" (.str v.method.name)).append
    (.present "path" (.str v.path))
  exact ((((((hStart.append (.scalar _ hId)).append (.scalar _ hDescription)).append
    (.list _ hConsumes)).append (.list _ hProduces)).append
    (.items _ fun p hp => (h.params p hp).faithful)).append
    (.optional _ fun target _ => .str target)).faithful (by decide)

theorem Route.Kept.faithful {r : Route} (h : r.Kept) : Faithful r.value :=
  (((KeptFields.optional "path" fun path _ => .str path).append
    (.optional _ fun s hs => (h.settings s hs).faithful)).append
    (.items _ fun v hv => (h.verbs v hv).faithful)).faithful (by decide)

/-! ### Building -/

namespace Building

/-- A building whose service and open parameter JSON keeps. -/
structure Kept (b : Building) : Prop where
  route : b.route.Kept
  param : ∀ p ∈ b.param, p.Kept

theorem value_plain (a : Argument) : (plain a).value = a.value := by
  cases a <;> rfl

theorem kept_null : Faithful Argument.null.value := .null

theorem kept_nil : Faithful (Argument.list []).value := .list fun _ hx => nomatch hx

theorem settings_none_kept : Settings.none.Kept := by
  simp [Settings.Kept, Settings.none, kept_null]

theorem param_none_kept : Param.none.Kept := by
  simp [Param.Kept, Param.none, kept_null, kept_nil]

theorem verb_start_kept (m : Api.Method) (path : String) : (Verb.start m path).Kept where
  fields := by simp [Verb.start, kept_null, kept_nil]
  params _ hp := nomatch hp

theorem start_kept : start.Kept where
  route := ⟨fun _ hs => (nomatch hs), fun _ hv => nomatch hv⟩
  param _ hp := nomatch hp

section Changes

variable {name : String} {a : Argument}

theorem settingsField?_kept {change : Settings → Settings} (h : settingsField? name a = some change)
    (ha : Faithful a.value) {s : Settings} (hs : s.Kept) : (change s).Kept := by
  unfold settingsField? at h
  split at h <;> cases h <;> simp_all [Settings.Kept]

theorem paramField?_kept {change : Param → Param} (h : paramField? name a = some change)
    (ha : Faithful a.value) {p : Param} (hp : p.Kept) : (change p).Kept := by
  unfold paramField? at h
  split at h <;> cases h <;> simp_all [Param.Kept]

theorem verbField?_kept {change : Verb → Verb} (h : verbField? name a = some change)
    (ha : Faithful a.value) {v : Verb} (hv : v.Kept) : (change v).Kept := by
  have hFields := hv.fields
  refine ⟨?_, (verbField?_keeps h v).2.2 ▸ hv.params⟩
  unfold verbField? at h
  split at h <;> cases h <;> simp_all

end Changes

theorem mem_onLastVerb {f : Verb → Verb} {vs : List Verb} {v : Verb} (h : v ∈ onLastVerb f vs) :
    v ∈ vs ∨ ∃ w ∈ vs, v = f w := by
  cases vs using List.reverseRecOn with
  | nil => cases h
  | append_singleton vs w =>
    rw [onLastVerb_append] at h
    obtain h | h := List.mem_append.mp h
    · exact .inl (List.mem_append_left _ h)
    · exact .inr ⟨w, by simp, List.mem_singleton.mp h⟩

theorem Kept.onVerb {b : Building} (h : b.Kept) {f : Verb → Verb} (hf : ∀ v, v.Kept → (f v).Kept) :
    (b.onVerb f).Kept where
  route := by
    refine ⟨h.route.settings, fun v hv => ?_⟩
    obtain hv | ⟨w, hw, rfl⟩ := mem_onLastVerb hv
    · exact h.route.verbs v hv
    · exact hf w (h.route.verbs w hw)
  param := h.param

/-- An event whose argument JSON keeps builds up what JSON keeps. -/
theorem Kept.step {b : Building} (h : b.Kept) {e : Event} (he : Faithful e.argument.value) :
    (b.step e).Kept := by
  have ha : Faithful (plain e.argument).value := by rwa [value_plain]
  -- Nothing is stored but the argument, and what was kept before is only moved.
  generalize hStep : b.step e = b'
  have hMoved := step_moved b e
  rw [hStep] at hMoved
  cases hMoved with
  | settings =>
    exact ⟨⟨fun s hs => Option.some.inj hs ▸ settings_none_kept, h.route.verbs⟩, h.param⟩
  | rest => exact ⟨⟨h.route.settings, h.route.verbs⟩, h.param⟩
  | @verb m path =>
    have hStarted := List.forall_mem_singleton.mpr (verb_start_kept m path)
    exact ⟨⟨h.route.settings, List.forall_mem_append.mpr ⟨h.route.verbs, hStarted⟩⟩,
      fun _ hp => nomatch hp⟩
  | param => exact ⟨h.route, fun p hp => Option.some.inj hp ▸ param_none_kept⟩
  | @closed p _ hOpen =>
    have hClosed : (b.onVerb fun v => { v with params := v.params ++ [p] }).Kept :=
      h.onVerb fun v hv => ⟨hv.fields, List.forall_mem_append.mpr
        ⟨hv.params, List.forall_mem_singleton.mpr (h.param p hOpen)⟩⟩
    exact ⟨hClosed.route, fun _ hp => nomatch hp⟩
  | target => exact h.onVerb fun v hv => ⟨hv.fields, hv.params⟩
  | @paramField p _ hOpen hField =>
    obtain ⟨change, hChange⟩ := Option.isSome_iff_exists.mp hField
    have hKept := paramField?_kept hChange ha (h.param p hOpen)
    refine ⟨h.route, fun q hq => ?_⟩
    rw [← Option.some.inj hq, set, hChange]
    exact hKept
  | verbField _ _ hField => exact h.onVerb fun v hv => verbField?_kept hField ha hv
  | settingsField _ _ hField =>
    refine ⟨⟨fun s hs => ?_, h.route.verbs⟩, h.param⟩
    obtain ⟨r, hr, rfl⟩ := Option.map_eq_some_iff.mp hs
    exact settingsField?_kept hField ha (h.route.settings r hr)
  | ignored => exact h
  | refused =>
    refine ⟨by rw [route_closing]; exact h.route, fun p hp => h.param p ?_⟩
    rw [param_closing] at hp
    split at hp
    · cases hp
    · exact hp

theorem Kept.foldl {es : List Event} (hes : ∀ e ∈ es, Faithful e.argument.value) {b : Building}
    (h : b.Kept) : (es.foldl Building.step b).Kept := by
  induction es generalizing b with
  | nil => exact h
  | cons e rest ih =>
    obtain ⟨he, hRest⟩ := List.forall_mem_cons.mp hes
    exact ih hRest (h.step he)

end Building

/-! ### Documents -/

/-- Events whose arguments JSON keeps describe a service that is read back from its JSON text, with or
without a word on its format. -/
theorem read_json {es : List Event} (h : ∀ e ∈ es, Faithful e.argument.value) {hint : Document.Hint}
    (hHint : hint ≠ .yaml) :
    Document.read (Route.ofEvents es).json hint = .ok (Route.ofEvents es).document := by
  have hRoute : Faithful (Route.ofEvents es).value := (start_kept.foldl h).route.faithful
  have hDocument : Faithful (Route.ofEvents es).document :=
    (KeptFields.present "rest" hRoute).faithful (by decide)
  have hRead : Json.read (Route.ofEvents es).json = .ok (Route.ofEvents es).document :=
    read_render indented_spaced hDocument (by simp [Blank, isSpace])
  unfold Document.read
  cases hint with
  | yaml => exact absurd rfl hHint
  | none | json =>
    rw [hRead]
    rfl

theorem faithful_of_fits {shape : Shape} {a : Argument} (h : shape.Fits a) : Faithful a.value := by
  cases h with
  | absent => exact .null
  | text s => exact .str s
  | texts =>
    rw [value_texts]
    exact .list (List.forall_mem_map.mpr fun s _ => .str s)
  | flag b => exact .bool b
  | location l => exact .str l.name
  | format f => exact .str f.name

/-- A run has a JSON text, which is read back to the service that the run describes, whether it ends well
or fails, and wherever it fails. -/
theorem read_json_generate (g : Generator) (t : Destination.Template) :
    let route := Route.ofEvents (g.routedTo t).generate.events
    Route.build (g.routedTo t).generate.events = .ok route ∧
    Document.read route.json .json = .ok (.ofNamed [("rest", route.value)]) ∧
      Document.read route.json .none = .ok (.ofNamed [("rest", route.value)]) := by
  have hKept : ∀ e ∈ (g.routedTo t).generate.events, Faithful e.argument.value := by
    intro e he
    obtain ⟨shape, -, hFits⟩ := Generator.generate_spoken g t e he
    exact faithful_of_fits hFits
  exact ⟨build_generate g t, read_json hKept nofun, read_json hKept nofun⟩

end RestRoutes.Sink
