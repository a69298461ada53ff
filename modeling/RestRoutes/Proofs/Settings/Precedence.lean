import Mathlib.Data.List.Induction
import Mathlib.Tactic.MkIffOfInductiveProp
import RestRoutes.Proofs.Json.Reader
import RestRoutes.Proofs.Value
import RestRoutes.Settings.Layers

/-! Which layer a setting comes from.  Layers are laid over one another map by map, and the outcome is that
of looking at each setting on its own: the highest layer that has it counts, and null is no value.
Nothing else of the layers can be seen in the settings or in their faults. -/

namespace RestRoutes

/-! ### Names as keys -/

namespace Value

theorem sameKey_str (k : Value) (name : String) :
    sameKey k (.str name) = k.isOneOf [name] ∧ sameKey (.str name) k = k.isOneOf [name] := by
  have hNone : (Value.str name).integer? = none := rfl
  unfold sameKey
  rw [hNone]
  cases hNumber : k.integer? with
  | some n =>
    cases k with
    | bool | int | float => exact ⟨rfl, rfl⟩
    | _ => cases hNumber
  | none =>
    cases k with
    | str s =>
      have hOne : isOneOf [name] (str s) = (s == name) := by
        rw [Bool.eq_iff_iff, isOneOf_singleton, beq_iff_eq, str.injEq]
      exact ⟨hOne.symm, by rw [hOne]; exact Bool.beq_comm⟩
    | _ => exact ⟨rfl, rfl⟩

theorem get?_sameKey_str (name : String) (es : List (Value × Value)) :
    Assoc.get? sameKey (.str name) es = lookup name es := by
  induction es with
  | nil => rfl
  | cons e rest ih => rw [Assoc.get?, lookup_cons, (sameKey_str e.1 name).1, ih]

theorem lookup_put (name : String) (k v : Value) (es : List (Value × Value)) :
    lookup name (Assoc.put sameKey k v es) =
      if k.isOneOf [name] then some v else lookup name es := by
  induction es with
  | nil => rw [Assoc.put, lookup_cons]
  | cons e rest ih =>
    rw [Assoc.put]
    split
    · rename_i hSame
      have hName : e.1.isOneOf [name] = k.isOneOf [name] := by
        rw [Bool.eq_iff_iff, isOneOf_singleton, isOneOf_singleton]
        constructor
        · intro hKey
          rwa [hKey, (sameKey_str k name).2, isOneOf_singleton] at hSame
        · intro hKey
          rwa [hKey, (sameKey_str e.1 name).1, isOneOf_singleton] at hSame
      rw [lookup_cons, lookup_cons, hName]
      split <;> rfl
    · rename_i hOther
      rw [lookup_cons, lookup_cons, ih]
      split
      · rename_i hKey
        have hNew : k.isOneOf [name] = false := by
          rw [isOneOf_singleton.mp hKey, (sameKey_str k name).2] at hOther
          simpa using hOther
        rw [hNew]
        rfl
      · rfl

theorem lookup_of_notMem {name : String} {es : List (Value × Value)}
    (h : Value.str name ∉ es.map Prod.fst) : lookup name es = none := by
  cases hFound : lookup name es with
  | none => rfl
  | some v => exact absurd (List.mem_map_of_mem (mem_of_lookup hFound)) h

end Value

namespace Settings

open Value (lookup)

/-! ### One layer over another -/

/-- What is found above another value, if anything is. -/
def laid : Option Value → Option Value → Option Value
  | none, below => below
  | some v, below => overlay v below

theorem of_overlay_eq_none {v : Value} {below : Option Value} (h : overlay v below = none) :
    below = none := by
  unfold overlay at h
  split at h
  · exact h
  · cases h
  · cases h

/-- Under each name one finds what the upper layer makes of the lower one. -/
theorem lookup_overlayLayer {upper : Layer} (h : (upper.map Prod.fst).Nodup) (below : Layer)
    (name : String) :
    lookup name (overlayLayer upper below) = laid (lookup name upper) (lookup name below) := by
  induction upper generalizing below with
  | nil => rfl
  | cons e rest ih =>
    obtain ⟨k, v⟩ := e
    obtain ⟨hFirst, hRest⟩ := List.nodup_cons.mp h
    rw [overlayLayer, Value.lookup_cons]
    cases hKey : k.isOneOf [name] with
    | true =>
      -- The name does not come again, so what is put here stays.
      obtain rfl := Value.isOneOf_singleton.mp hKey
      have hNone : lookup name rest = none := Value.lookup_of_notMem hFirst
      rw [Value.get?_sameKey_str]
      cases hNew : overlay v (lookup name below) with
      | some new =>
        simp only [ih hRest, hNone, laid, Value.lookup_put, hKey, if_true, hNew]
      | none =>
        simp only [ih hRest, hNone, laid, if_true, hNew]
        exact of_overlay_eq_none hNew
    | false =>
      cases overlay v (Assoc.get? Value.sameKey k below) with
      | some new => simp [ih hRest, Value.lookup_put, hKey]
      | none => simp [ih hRest]

/-! ### Single settings -/

def isNull : Value → Bool
  | .null => true
  | _ => false

/-- A value that is there and is not null. -/
def present (v : Option Value) : Option Value := v.filter (!isNull ·)

/-- The value at a place of a layer, where null is none. -/
def at? : List String → Layer → Option Value
  | [], _ => none
  | [name], layer => present (lookup name layer)
  | name :: place, layer =>
    match lookup name layer with
    | some (.map es) => at? place es
    | _ => none

/-- The value at a place in the highest layer that has one, the lowest first. -/
def effective (place : List String) (layers : List Layer) : Option Value :=
  layers.reverse.findSome? (at? place)

theorem effective_append (place : List String) (layers : List Layer) (layer : Layer) :
    effective place (layers ++ [layer]) = (at? place layer).or (effective place layers) := by
  rw [effective, List.reverse_append, List.reverse_singleton, List.singleton_append,
    List.findSome?_cons, effective]
  cases at? place layer <;> rfl

theorem flatten_append (layers : List Layer) (layer : Layer) :
    flatten (layers ++ [layer]) = overlayLayer layer (flatten layers) := by
  rw [flatten, List.foldl_append]
  rfl

/-- A value that is found stands for another: it is the same, or both are maps, or it is null and there
is no other. -/
inductive Stands : Option Value → Option Value → Prop
  | same (v : Option Value) : Stands v v
  | maps (es fs : Layer) : Stands (some (.map es)) (some (.map fs))
  | null : Stands (some .null) none

namespace Stands

variable {a b : Option Value}

theorem present (v : Option Value) : Stands v (Settings.present v) := by
  cases v with
  | none => exact .same none
  | some v =>
    cases v with
    | null => exact .null
    | _ => exact .same _

theorem eq_none (h : Stands none b) : b = none := by
  cases h
  rfl

/-- Laying a value over another is to prefer it, unless it is null. -/
theorem laid (h : Stands a b) (v : Option Value) :
    Stands (Settings.laid v a) ((Settings.present v).or b) := by
  cases v with
  | none => exact h
  | some v =>
    cases v with
    | null => exact h
    | map es =>
      cases a with
      | none => exact .same _
      | some below =>
        cases below with
        | map fs => exact .maps _ es
        | _ => exact .same _
    | _ => exact .same _

end Stands

/-! ### All layers -/

def restLayer (layer : Layer) : Layer := ((Value.map layer).get "rest").entries

/-- What a layer says about the service, if anything, is a map or null. -/
def RestIsMap (layer : Layer) : Prop :=
  ∀ v, lookup "rest" layer = some v → isNull v = true ∨ v.isMap = true

theorem restIsMap_iff {layer : Layer} :
    RestIsMap layer ↔ (lookup "rest" layer).all (fun v => isNull v || v.isMap) = true := by
  rw [RestIsMap]
  cases lookup "rest" layer <;> simp

instance (layer : Layer) : Decidable (RestIsMap layer) := decidable_of_iff _ restIsMap_iff.symm

/-- One layer that stands for many: what is found in it stands for what each setting is on its own. -/
structure Flat (layers : List Layer) (flat : Layer) : Prop where
  leaf : ∀ name, Stands (lookup name flat) (effective [name] layers)
  nonNull : ∀ name, lookup name flat ≠ some .null
  rest : ∀ v, lookup "rest" flat = some v → v.isMap = true
  restLeaf : ∀ name, Stands (lookup name (restLayer flat)) (effective ["rest", name] layers)

theorem laid_ne_null {below : Option Value} (h : below ≠ some .null) (v : Option Value) :
    laid v below ≠ some .null := by
  cases v with
  | none => exact h
  | some v =>
    cases v with
    | null => exact h
    | map es =>
      cases below with
      | none => nofun
      | some b => cases b <;> nofun
    | _ => nofun

theorem restLayer_of_map {layer es : Layer} (h : lookup "rest" layer = some (.map es)) :
    restLayer layer = es := by
  rw [restLayer, Value.get, Value.get?, h]
  rfl

theorem restLayer_of_none {layer : Layer} (h : lookup "rest" layer = none) :
    restLayer layer = [] := by
  rw [restLayer, Value.get, Value.get?, h]
  rfl

theorem at?_rest_of_map {layer es : Layer} (h : lookup "rest" layer = some (.map es)) (name : String) :
    at? ["rest", name] layer = present (lookup name es) := by
  rw [at?, h]
  · rfl
  · nofun

/-- One more layer decides each setting on its own. -/
theorem stands_overlayLayer {layers : List Layer} {flat layer : Layer} {name : String}
    (h : Stands (lookup name flat) (effective [name] layers))
    (hDistinct : (Value.map layer).Distinct) :
    Stands (lookup name (overlayLayer layer flat)) (effective [name] (layers ++ [layer])) := by
  rw [lookup_overlayLayer hDistinct.keys, effective_append]
  exact h.laid _

theorem lookup_overlayLayer_ne_null {flat layer : Layer} {name : String}
    (h : lookup name flat ≠ some .null) (hDistinct : (Value.map layer).Distinct) :
    lookup name (overlayLayer layer flat) ≠ some .null := by
  rw [lookup_overlayLayer hDistinct.keys]
  exact laid_ne_null h _

/-- A layer without a map for the service says nothing about it. -/
theorem RestIsMap.map_or_silent {layer : Layer} (h : RestIsMap layer) :
    (∃ es, lookup "rest" layer = some (.map es)) ∨
      (∀ below, laid (lookup "rest" layer) below = below) ∧
        ∀ name, at? ["rest", name] layer = none := by
  cases hFound : lookup "rest" layer with
  | none =>
    refine .inr ⟨fun _ => rfl, fun name => ?_⟩
    rw [at?, hFound]
    nofun
  | some v =>
    cases v with
    | map es => exact .inl ⟨es, rfl⟩
    | null =>
      refine .inr ⟨fun _ => rfl, fun name => ?_⟩
      rw [at?, hFound]
      nofun
    | _ => rcases h _ hFound with hNull | hMap <;> contradiction

/-- The service of one layer over that of the layers below. -/
theorem Flat.rest_overlayLayer {layers : List Layer} {flat layer es : Layer} (h : Flat layers flat)
    (hDistinct : (Value.map layer).Distinct) (hMap : lookup "rest" layer = some (.map es)) :
    ∃ fs, lookup "rest" (overlayLayer layer flat) = some (.map fs) ∧
      ∀ name, Stands (lookup name fs) (effective ["rest", name] (layers ++ [layer])) := by
  have hLookup := lookup_overlayLayer hDistinct.keys flat "rest"
  have hEs : (Value.map es).Distinct := hDistinct.lookup hMap
  cases hBelow : lookup "rest" flat with
  | none =>
    rw [hMap, hBelow] at hLookup
    refine ⟨es, hLookup, fun name => ?_⟩
    have hNone : effective ["rest", name] layers = none := by
      have hLeaf := h.restLeaf name
      rw [restLayer_of_none hBelow] at hLeaf
      exact hLeaf.eq_none
    rw [effective_append, hNone, Option.or_none, at?_rest_of_map hMap]
    exact .present _
  | some below =>
    cases below with
    | map bs =>
      rw [hMap, hBelow] at hLookup
      refine ⟨overlayLayer es bs, hLookup, fun name => ?_⟩
      have hLeaf := h.restLeaf name
      rw [restLayer_of_map hBelow] at hLeaf
      rw [effective_append, at?_rest_of_map hMap, lookup_overlayLayer hEs.keys]
      exact hLeaf.laid _
    | _ => cases h.rest _ hBelow

theorem flat_overlayLayer {layers : List Layer} {flat layer : Layer} (h : Flat layers flat)
    (hDistinct : (Value.map layer).Distinct) (hRest : RestIsMap layer) :
    Flat (layers ++ [layer]) (overlayLayer layer flat) := by
  have hLeaf (name) := stands_overlayLayer (h.leaf name) hDistinct
  have hNonNull (name) := lookup_overlayLayer_ne_null (h.nonNull name) hDistinct
  rcases hRest.map_or_silent with ⟨es, hMap⟩ | ⟨hSame, hNone⟩
  · obtain ⟨fs, hFs, hRestLeaf⟩ := h.rest_overlayLayer hDistinct hMap
    refine ⟨hLeaf, hNonNull, fun v hFound => ?_, fun name => ?_⟩
    · cases hFs.symm.trans hFound
      rfl
    · rw [restLayer_of_map hFs]
      exact hRestLeaf name
  · have hFlat : lookup "rest" (overlayLayer layer flat) = lookup "rest" flat :=
      (lookup_overlayLayer hDistinct.keys flat "rest").trans (hSame _)
    refine ⟨hLeaf, hNonNull, fun v hFound => h.rest v (hFlat ▸ hFound), fun name => ?_⟩
    rw [restLayer, Value.get, Value.get?, hFlat, effective_append, hNone, Option.none_or]
    exact h.restLeaf name

theorem stands_flatten {layers : List Layer} (h : ∀ layer ∈ layers, (Value.map layer).Distinct)
    (name : String) :
    Stands (lookup name (flatten layers)) (effective [name] layers) ∧
      lookup name (flatten layers) ≠ some .null := by
  induction layers using List.reverseRecOn with
  | nil => exact ⟨.same _, nofun⟩
  | append_singleton layers layer ih =>
    obtain ⟨hStands, hNonNull⟩ := ih fun l hl => h l (List.mem_append_left _ hl)
    have hDistinct := h layer (by simp)
    rw [flatten_append]
    exact ⟨stands_overlayLayer hStands hDistinct, lookup_overlayLayer_ne_null hNonNull hDistinct⟩

theorem flat_flatten {layers : List Layer}
    (h : ∀ layer ∈ layers, (Value.map layer).Distinct ∧ RestIsMap layer) :
    Flat layers (flatten layers) := by
  induction layers using List.reverseRecOn with
  | nil => exact ⟨fun _ => .same _, nofun, nofun, fun _ => .same _⟩
  | append_singleton layers layer ih =>
    obtain ⟨hDistinct, hRest⟩ := h layer (by simp)
    rw [flatten_append]
    exact flat_overlayLayer (ih fun l hl => h l (List.mem_append_left _ hl)) hDistinct hRest

/-! ### Settings and faults -/

/-- A setting that is read of a value, or its default where there is none. -/
def setting {α : Type} (read : Value → Except SettingKind α) (default : α) :
    Option Value → Except SettingKind α
  | none => .ok default
  | some v => read v

theorem field_eq_setting {α : Type} {read : Value → Except SettingKind α} {default : α}
    {name : String} {entries : Layer} {v : Option Value} (h : Stands (lookup name entries) v)
    (hMaps : ∀ es fs, read (.map es) = read (.map fs))
    (hNull : lookup name entries ≠ some .null ∨ read .null = .ok default) :
    field read default name entries = setting read default v := by
  unfold field
  generalize lookup name entries = found at h hNull ⊢
  cases h with
  | same => cases v <;> rfl
  | maps es fs => exact hMaps es fs
  | null => exact hNull.resolve_left fun hNe => hNe rfl

/-- A text that may be missing, as the layers have it. -/
def optionalAt (layers : List Layer) (place : List String) : Except SettingKind (Option String) :=
  setting optionalText none (effective place layers)

/-- The settings of the service are what each one is on its own in the layers. -/
@[mk_iff]
structure HoldsRest (layers : List Layer) (r : RestConfiguration) : Prop where
  component : optionalAt layers ["rest", "component"] = .ok r.component
  contextPath : optionalAt layers ["rest", "context_path"] = .ok r.contextPath
  apiContextPath : optionalAt layers ["rest", "api_context_path"] = .ok r.apiContextPath
  host : optionalAt layers ["rest", "host"] = .ok r.host

/-- The settings are what each one is on its own in the layers. -/
@[mk_iff]
structure Holds (layers : List Layer) (s : Settings) : Prop where
  filter : optionalAt layers ["filter"] = .ok s.filter
  destination :
    setting text default.destination (effective ["destination"] layers) = .ok s.destination
  format : setting text default.format (effective ["format"] layers) = .ok s.format
  continueOnError :
    setting flag default.continueOnError (effective ["continue_on_error"] layers) =
      .ok s.continueOnError
  rest : HoldsRest layers s.rest

instance (layers : List Layer) (r : RestConfiguration) : Decidable (HoldsRest layers r) :=
  decidable_of_iff _ (holdsRest_iff layers r).symm

instance (layers : List Layer) (s : Settings) : Decidable (Holds layers s) :=
  decidable_of_iff _ (holds_iff layers s).symm

def restFaults (layers : List Layer) : List SettingFault :=
  [["rest", "component"], ["rest", "context_path"], ["rest", "api_context_path"], ["rest", "host"]].flatMap
    fun place => faultOf place (optionalAt layers place)

/-- The faults of all settings, each on its own. -/
def faults (layers : List Layer) : List SettingFault :=
  faultOf ["filter"] (optionalAt layers ["filter"]) ++
    faultOf ["destination"] (setting text default.destination (effective ["destination"] layers)) ++
    faultOf ["format"] (setting text default.format (effective ["format"] layers)) ++
    faultOf ["continue_on_error"]
      (setting flag default.continueOnError (effective ["continue_on_error"] layers)) ++
    restFaults layers

section Flat

variable {layers : List Layer} {flat : Layer}

theorem Flat.field {α : Type} (h : Flat layers flat) (read : Value → Except SettingKind α)
    (hMaps : ∀ es fs, read (.map es) = read (.map fs)) (default : α) (name : String) :
    Settings.field read default name flat = setting read default (effective [name] layers) :=
  field_eq_setting (h.leaf name) hMaps (.inl (h.nonNull name))

theorem Flat.restField (h : Flat layers flat) (name : String) :
    Settings.field optionalText none name (restLayer flat) = optionalAt layers ["rest", name] :=
  field_eq_setting (h.restLeaf name) (fun _ _ => rfl) (.inr rfl)

theorem Flat.restIn (h : Flat layers flat) : Settings.restIn flat = restOf (restLayer flat) := by
  rw [Settings.restIn]
  cases hRest : lookup "rest" flat with
  | none =>
    rw [restLayer_of_none hRest]
    rfl
  | some v =>
    cases v with
    | map es => rw [restLayer_of_map hRest]
    | _ => cases h.rest _ hRest

theorem Flat.restOf_cases (h : Flat layers flat) :
    (∃ r, restOf (restLayer flat) = .ok r ∧ HoldsRest layers r) ∨
      restOf (restLayer flat) = .error (restFaults layers) ∧ restFaults layers ≠ [] := by
  simp only [restOf, h.restField, restFaults, List.flatMap_cons, List.flatMap_nil, List.append_nil]
  cases hComponent : optionalAt layers ["rest", "component"] <;>
    cases hContextPath : optionalAt layers ["rest", "context_path"] <;>
    cases hApiContextPath : optionalAt layers ["rest", "api_context_path"] <;>
    cases hHost : optionalAt layers ["rest", "host"]
  case ok.ok.ok.ok => exact .inl ⟨_, rfl, hComponent, hContextPath, hApiContextPath, hHost⟩
  all_goals exact .inr (by simp [faultOf])

theorem HoldsRest.restFaults_eq_nil {r : RestConfiguration} (h : HoldsRest layers r) :
    restFaults layers = [] := by
  simp only [restFaults, List.flatMap_cons, List.flatMap_nil, h.component, h.contextPath,
    h.apiContextPath, h.host, faultOf, List.append_nil]

theorem Flat.ofEntries_cases (h : Flat layers flat) :
    (∃ s, ofEntries flat = .ok s ∧ Holds layers s) ∨
      ofEntries flat = .error (faults layers) ∧ faults layers ≠ [] := by
  have hFilter : Settings.field optionalText default.filter "filter" flat =
      optionalAt layers ["filter"] := h.field _ (fun _ _ => rfl) _ _
  have hDestination := h.field text (fun _ _ => rfl) default.destination "destination"
  have hFormat := h.field text (fun _ _ => rfl) default.format "format"
  have hFlag := h.field flag (fun _ _ => rfl) default.continueOnError "continue_on_error"
  simp only [ofEntries, hFilter, hDestination, hFormat, hFlag, h.restIn, faults]
  rcases h.restOf_cases with ⟨r, hRest, hHolds⟩ | ⟨hRest, hFaults⟩
  · rw [hRest, hHolds.restFaults_eq_nil]
    cases hFilter' : optionalAt layers ["filter"] <;>
      cases hDestination' :
        setting text default.destination (effective ["destination"] layers) <;>
      cases hFormat' : setting text default.format (effective ["format"] layers) <;>
      cases hFlag' :
        setting flag default.continueOnError (effective ["continue_on_error"] layers)
    case ok.ok.ok.ok => exact .inl ⟨_, rfl, hFilter', hDestination', hFormat', hFlag', hHolds⟩
    all_goals exact .inr (by simp [faultOf, faultsOf])
  · rw [hRest]
    exact .inr ⟨by simp [faultsOf], by simp [hFaults]⟩

theorem Holds.faults_eq_nil {s : Settings} (h : Holds layers s) : faults layers = [] := by
  simp only [faults, h.rest.restFaults_eq_nil, h.filter, h.destination, h.format,
    h.continueOnError, faultOf, List.append_nil]

theorem HoldsRest.unique {r t : RestConfiguration} (hr : HoldsRest layers r)
    (ht : HoldsRest layers t) : r = t := by
  obtain ⟨_, _, _, _⟩ := r
  obtain ⟨_, _, _, _⟩ := t
  rw [RestConfiguration.mk.injEq]
  exact ⟨Except.ok.inj (hr.component.symm.trans ht.component),
    Except.ok.inj (hr.contextPath.symm.trans ht.contextPath),
    Except.ok.inj (hr.apiContextPath.symm.trans ht.apiContextPath),
    Except.ok.inj (hr.host.symm.trans ht.host)⟩

theorem Holds.unique {s t : Settings} (hs : Holds layers s) (ht : Holds layers t) : s = t := by
  obtain ⟨_, _, _, _, _⟩ := s
  obtain ⟨_, _, _, _, _⟩ := t
  rw [mk.injEq]
  exact ⟨Except.ok.inj (hs.filter.symm.trans ht.filter),
    Except.ok.inj (hs.destination.symm.trans ht.destination),
    Except.ok.inj (hs.format.symm.trans ht.format),
    Except.ok.inj (hs.continueOnError.symm.trans ht.continueOnError), hs.rest.unique ht.rest⟩

end Flat

/-! ### The layers of a run -/

theorem layerOfText_eq_ok {file : SettingsFile} {path text : String} {layer : Layer} :
    layerOfText file path text = .ok layer ↔ Json.read text = .ok (.map layer) := by
  unfold layerOfText
  split <;> simp_all [refuse]

/-- A layer of a file is a map that the file holds, or nothing where there is no file. -/
theorem layerOfFile_eq_ok {m : Machine} {file : SettingsFile} {p : File.Path} {layer : Layer} :
    layerOfFile m file p = .ok layer ↔
      (m.isFile p = .ok false ∧ layer = []) ∨
        m.isFile p = .ok true ∧ ∃ bytes text, m.tree.read m.directory p = .ok bytes ∧
          Machine.textOf bytes = .ok text ∧ Json.read text = .ok (.map layer) := by
  unfold layerOfFile
  simp only [except_bind_eq_ok, mapError_eq_ok]
  constructor
  · rintro ⟨present, hFile, hLayer⟩
    cases present with
    | false =>
      cases hLayer
      exact .inl ⟨hFile, rfl⟩
    | true =>
      refine .inr ⟨hFile, ?_⟩
      cases hBytes : m.tree.read m.directory p with
      | error fault => simp [hBytes, refuse] at hLayer
      | ok bytes =>
        simp only [hBytes, Bool.not_true, Bool.false_eq_true, if_false, except_bind_eq_ok,
          mapError_eq_ok, layerOfText_eq_ok] at hLayer
        obtain ⟨text, hText, hRead⟩ := hLayer
        exact ⟨bytes, text, rfl, hText, hRead⟩
  · rintro (⟨hFile, rfl⟩ | ⟨hFile, bytes, text, hBytes, hText, hRead⟩)
    · exact ⟨false, hFile, rfl⟩
    · refine ⟨true, hFile, ?_⟩
      simp only [hBytes, Bool.not_true, Bool.false_eq_true, if_false, except_bind_eq_ok,
        mapError_eq_ok, layerOfText_eq_ok]
      exact ⟨text, hText, hRead⟩

theorem distinct_nil : (Value.map []).Distinct := .map .nil nofun

theorem distinct_of_layerOfFile {m : Machine} {file : SettingsFile} {p : File.Path} {layer : Layer}
    (h : layerOfFile m file p = .ok layer) : (Value.map layer).Distinct := by
  rcases layerOfFile_eq_ok.mp h with ⟨-, rfl⟩ | ⟨-, bytes, text, -, -, hRead⟩
  · exact distinct_nil
  · exact Json.distinct_of_read hRead

theorem userLayer_eq_ok {m : Machine} {layer : Layer} :
    userLayer m = .ok layer ↔ ∃ p, userPath m = .ok p ∧ layerOfFile m .user p = .ok layer := by
  simp only [userLayer, except_bind_eq_ok, mapError_eq_ok]

theorem distinct_of_userLayer {m : Machine} {layer : Layer} (h : userLayer m = .ok layer) :
    (Value.map layer).Distinct := by
  obtain ⟨p, -, hLayer⟩ := userLayer_eq_ok.mp h
  exact distinct_of_layerOfFile hLayer

/-- An entry of the layer of the variables is for a variable with a name of its own. -/
theorem mem_variableLayer {m : Machine} {e : Value × Value} (h : e ∈ variableLayer m) :
    ∃ v ∈ variableNames, ∃ text, m.valueOf? v.1 = some text ∧ e = (.str v.2, .str text) := by
  obtain ⟨v, hMem, hEntry⟩ := List.mem_filterMap.mp h
  obtain ⟨text, hText, rfl⟩ := Option.map_eq_some_iff.mp hEntry
  exact ⟨v, hMem, text, hText, rfl⟩

theorem distinct_of_leaves {layer : Layer} (hKeys : (layer.map Prod.fst).Nodup)
    (hLeaves : ∀ e ∈ layer, e.2.isMap = false) : (Value.map layer).Distinct :=
  .map hKeys fun e he => .other (hLeaves e he)

theorem variableLayer_distinct (m : Machine) : (Value.map (variableLayer m)).Distinct := by
  have hNames : variableNames.Pairwise (·.2 ≠ ·.2) := by decide
  refine distinct_of_leaves (List.pairwise_map.mpr (List.pairwise_filterMap.mpr ?_)) fun e he => ?_
  · refine hNames.imp fun {v w} hNe e hv f hw hSame => hNe ?_
    obtain ⟨_, -, rfl⟩ := Option.map_eq_some_iff.mp hv
    obtain ⟨_, -, rfl⟩ := Option.map_eq_some_iff.mp hw
    exact Value.str.inj hSame
  · obtain ⟨v, -, text, -, rfl⟩ := mem_variableLayer he
    rfl

theorem variableLayer_restIsMap (m : Machine) : RestIsMap (variableLayer m) := by
  have hNames : ∀ v ∈ variableNames, v.2 ≠ "rest" := by decide
  intro value hFound
  obtain ⟨v, hMem, text, -, hEntry⟩ := mem_variableLayer (Value.mem_of_lookup hFound)
  exact absurd (Value.str.inj (Prod.mk.inj hEntry).1).symm (hNames v hMem)

theorem isMap_optionalValue (text : Option String) : (optionalValue text).isMap = false := by
  cases text <;> rfl

theorem Overrides.layer_distinct (o : Overrides) : (Value.map o.layer).Distinct := by
  have hFlag : ((o.continueOnError.map Value.bool).getD .null).isMap = false := by
    cases o.continueOnError <;> rfl
  refine .map (by simp [layer]) ?_
  simp only [layer, List.forall_mem_cons, List.not_mem_nil, false_implies, implies_true, and_true]
  refine ⟨.other (isMap_optionalValue _), .other (isMap_optionalValue _),
    .other (isMap_optionalValue _), .other hFlag, distinct_of_leaves (by simp) ?_⟩
  simp [isMap_optionalValue]

theorem Overrides.layer_restIsMap (o : Overrides) : RestIsMap o.layer := by
  intro v h
  cases h
  exact .inr rfl

section Resolve

variable {m : Machine} {user project own : Layer}
  (hUser : userLayer m = .ok user) (hProject : projectLayer m = .ok project)

include hUser hProject

theorem resolve_of_ok {s : Settings}
    (h : ofEntries (flatten [user, project, variableLayer m, own]) = .ok s) :
    resolve m own = .ok s := by
  simp only [resolve, hUser, hProject, h, bind, Except.bind, pure, Except.pure]

theorem resolve_of_error {faults : List SettingFault}
    (h : ofEntries (flatten [user, project, variableLayer m, own]) = .error faults) :
    resolve m own = refuse (.invalid faults) := by
  simp only [resolve, hUser, hProject, h, bind, Except.bind]

end Resolve

/-- Where the files of the user and of the project have layers, each setting of a run is that of the
highest layer that has one which is not null, or the default, and the run is refused for just the
faults that these have. -/
theorem resolve_precedence {m : Machine} {user project own : Layer}
    (hUser : userLayer m = .ok user) (hProject : projectLayer m = .ok project)
    (hOwn : (Value.map own).Distinct)
    (hUserRest : RestIsMap user) (hProjectRest : RestIsMap project) (hOwnRest : RestIsMap own) :
    let layers := [user, project, variableLayer m, own]
    (∀ s, resolve m own = .ok s ↔ Holds layers s) ∧
      ∀ e, resolve m own = .error e ↔
        faults layers ≠ [] ∧ e = .refusal (.settings (.invalid (faults layers))) := by
  intro layers
  have hFlat : Flat layers (flatten layers) := flat_flatten <| by
    simp only [layers, List.forall_mem_cons, List.not_mem_nil, false_implies, implies_true, and_true]
    exact ⟨⟨distinct_of_userLayer hUser, hUserRest⟩, ⟨distinct_of_layerOfFile hProject, hProjectRest⟩,
      ⟨variableLayer_distinct m, variableLayer_restIsMap m⟩, hOwn, hOwnRest⟩
  rcases hFlat.ofEntries_cases with ⟨s, hOk, hHolds⟩ | ⟨hError, hFaults⟩
  · rw [resolve_of_ok hUser hProject hOk]
    refine ⟨fun t => ⟨fun h => ?_, fun h => ?_⟩, fun e => ⟨nofun, fun h => ?_⟩⟩
    · cases h
      exact hHolds
    · rw [hHolds.unique h]
    · exact absurd hHolds.faults_eq_nil h.1
  · rw [resolve_of_error hUser hProject hError]
    refine ⟨fun t => ⟨nofun, fun h => ?_⟩, fun e => ⟨fun h => ?_, fun h => ?_⟩⟩
    · exact absurd h.faults_eq_nil hFaults
    · cases h
      exact ⟨hFaults, rfl⟩
    · rw [h.2]
      rfl

/-- A machine whose user and project have settings, and a variable one more. -/
def settledMachine : Machine where
  system := "Linux"
  environment := [("HOME", "/home"), ("RESTDSL_FORMAT", "yaml"), ("RESTDSL_FILTER", "")]
  accountHome := some "/home"
  directory := ["work"]
  tree := ⟨[
    (["home"], .directory), (["home", ".config"], .directory),
    (["home", ".config", "restdsl"], .directory),
    (["home", ".config", "restdsl", "config.json"], .file (Text.Utf8.encode
      ("\x7b\"filter\":\"find*\"," ++
        "\"rest\":\x7b\"host\":7,\"component\":\"jetty\"\x7d\x7d"))),
    (["work"], .directory),
    (["work", "restdsl.json"], .file (Text.Utf8.encode
      ("\x7b\"filter\":null," ++
        "\"rest\":\x7b\"context_path\":\"/api\",\"component\":null\x7d\x7d")))]⟩
  input := ""
  fetch := fun _ => .unreachable "no network"
  moment := "20240101-120000"
  charNames := fun _ => none

theorem eq_ok_of_isSome {x : Except Failure Layer} (h : x.toOption.isSome = true) :
    x = .ok (x.toOption.getD []) := by
  cases x with
  | ok layer => rfl
  | error e => cases h

/-- The user has a component, which nothing hides, and a host that is no text.  The run is refused for
that host unless the command line has one of its own. -/
theorem resolve_precedence_settledMachine :
    let o : Overrides := ⟨none, none, none, some true, ⟨none, none, none, some "example.org"⟩⟩
    resolve settledMachine o.layer = .ok ⟨some "find*", "direct:\x7boperation_id\x7d", "yaml", true,
        ⟨some "jetty", some "/api", none, some "example.org"⟩⟩ ∧
      resolve settledMachine [] =
        .error (.refusal (.settings (.invalid [⟨["rest", "host"], .text⟩]))) := by
  intro o
  let m := settledMachine
  let user := (userLayer m).toOption.getD []
  let project := (projectLayer m).toOption.getD []
  -- Each reading of a file takes long, so everything about them is evaluated together.
  have hRuns : ((userLayer m).toOption.isSome = true ∧ (projectLayer m).toOption.isSome = true) ∧
      (RestIsMap user ∧ RestIsMap project) ∧
      Holds [user, project, variableLayer m, o.layer] ⟨some "find*", "direct:\x7boperation_id\x7d",
        "yaml", true, ⟨some "jetty", some "/api", none, some "example.org"⟩⟩ ∧
      faults [user, project, variableLayer m, []] = [⟨["rest", "host"], .text⟩] := by
    decide +kernel
  obtain ⟨⟨hUser, hProject⟩, ⟨hUserRest, hProjectRest⟩, hHolds, hFaults⟩ := hRuns
  have hUserLayer := eq_ok_of_isSome hUser
  have hProjectLayer := eq_ok_of_isSome hProject
  constructor
  · exact ((resolve_precedence hUserLayer hProjectLayer o.layer_distinct hUserRest hProjectRest
      o.layer_restIsMap).1 _).mpr hHolds
  · refine ((resolve_precedence hUserLayer hProjectLayer distinct_nil hUserRest hProjectRest
      nofun).2 _).mpr ?_
    rw [hFaults]
    exact ⟨List.cons_ne_nil _ _, rfl⟩

/-- A machine without files, whose home begins with a tilde. -/
def tildeMachine : Machine where
  system := "Linux"
  environment := [("HOME", "~")]
  accountHome := some "/home"
  directory := ["work"]
  tree := ⟨[(["work"], .directory)]⟩
  input := ""
  fetch := fun _ => .unreachable "no network"
  moment := "20240101-120000"
  charNames := fun _ => none

/-- The place for the user's file cannot be told.  So there are no settings, although no layer has
anything to be refused for. -/
theorem resolve_tildeMachine :
    resolve tildeMachine [] = .error (.defect .noHome) ∧
      projectLayer tildeMachine = .ok [] ∧ variableLayer tildeMachine = [] ∧
      faults [[], [], [], []] = [] ∧
      (¬∃ s, resolve tildeMachine [] = .ok s) ∧
      ¬∃ r, resolve tildeMachine [] = .error (.refusal r) := by
  have hDefect : resolve tildeMachine [] = .error (.defect .noHome) := by decide +kernel
  have hProject : projectLayer tildeMachine = .ok [] :=
    layerOfFile_eq_ok.mpr (.inl ⟨by decide +kernel, rfl⟩)
  rw [hDefect]
  exact ⟨rfl, hProject, rfl, by decide +kernel, nofun, nofun⟩

end Settings

end RestRoutes
