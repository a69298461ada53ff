import RestRoutes.CommandLine.Invocation
import RestRoutes.Proofs.Machine
import RestRoutes.Proofs.Settings.Precedence

/-! What the command line says when no option is given.  Its layer then has a map for the service whose
values are all null, and null for everything else.  It changes nothing as long as the layers below have a
map for the service or are silent about it.  Anything else that stands there is a fault, which the map
takes the place of. -/

namespace RestRoutes.Settings

open CommandLine (GenerateOptions)
open Value (lookup)

/-! ### What is read of a layer -/

theorem field_congr {α : Type} {read : Value → Except SettingKind α} {default : α} {name : String}
    {a b : Layer} (h : lookup name a = lookup name b) :
    field read default name a = field read default name b := by
  rw [field, field, h]

theorem restOf_congr {a b : Layer} (h : ∀ name, lookup name a = lookup name b) :
    restOf a = restOf b := by
  simp only [restOf, field_congr (h _)]

/-- The layers have the same under all names of settings but that of the service. -/
def SameOthers (a b : Layer) : Prop :=
  ∀ name, name ≠ "rest" → lookup name a = lookup name b

theorem ofEntries_congr {a b : Layer} (h : SameOthers a b) (hRest : restIn a = restIn b) :
    ofEntries a = ofEntries b := by
  simp only [ofEntries, field_congr (h "filter" (by decide)),
    field_congr (h "destination" (by decide)), field_congr (h "format" (by decide)),
    field_congr (h "continue_on_error" (by decide)), hRest]

/-- A fault of the service comes behind those of the other settings, which are the same without it. -/
theorem ofEntries_of_restIn {a b : Layer} (h : SameOthers a b) {fault : SettingFault}
    (hFault : restIn a = .error [fault]) {r : RestConfiguration} (hRest : restIn b = .ok r) :
    ∃ others, ofEntries a = .error (others ++ [fault]) ∧
      (others ≠ [] ∧ ofEntries b = .error others ∨
        others = [] ∧ ∃ s, ofEntries b = .ok s ∧ s.rest = r) := by
  simp only [ofEntries, field_congr (h "filter" (by decide)),
    field_congr (h "destination" (by decide)), field_congr (h "format" (by decide)),
    field_congr (h "continue_on_error" (by decide)), hFault, hRest, faultsOf, List.append_nil]
  generalize field optionalText default.filter "filter" b = filter
  generalize field text default.destination "destination" b = destination
  generalize field text default.format "format" b = format
  generalize field flag default.continueOnError "continue_on_error" b = continueOnError
  cases filter <;> cases destination <;> cases format <;> cases continueOnError
  case ok.ok.ok.ok => exact ⟨[], rfl, .inr ⟨rfl, _, rfl, rfl⟩⟩
  all_goals exact ⟨_, rfl, .inl ⟨by simp [faultOf], rfl⟩⟩

/-! ### Nothing given -/

def nullRest : Layer :=
  [(.str "component", .null), (.str "context_path", .null), (.str "api_context_path", .null),
    (.str "host", .null)]

def ungiven : Layer :=
  [(.str "filter", .null), (.str "destination", .null), (.str "format", .null),
    (.str "continue_on_error", .null), (.str "rest", .map nullRest)]

theorem layer_ofSource (source : String) :
    (GenerateOptions.ofSource source).overrides.layer = ungiven := rfl

theorem nullRest_keys : (nullRest.map Prod.fst).Nodup := by simp [nullRest]

theorem ungiven_keys : (ungiven.map Prod.fst).Nodup := by simp [ungiven]

/-- What is null is not seen over another layer. -/
theorem lookup_overlayLayer_of_null {upper : Layer} (hKeys : (upper.map Prod.fst).Nodup)
    {name : String} (h : ∀ e ∈ upper, e.1 = .str name → e.2 = .null) (below : Layer) :
    lookup name (overlayLayer upper below) = lookup name below := by
  rw [lookup_overlayLayer hKeys]
  cases hFound : lookup name upper with
  | none => rfl
  | some v =>
    obtain rfl : v = .null := h _ (Value.mem_of_lookup hFound) rfl
    rfl

theorem sameOthers_ungiven (below : Layer) : SameOthers below (overlayLayer ungiven below) := by
  intro name hName
  refine (lookup_overlayLayer_of_null ungiven_keys ?_ below).symm
  intro e he hKey
  simp only [ungiven, List.mem_cons, List.not_mem_nil, or_false] at he
  rcases he with rfl | rfl | rfl | rfl | rfl
  case inr.inr.inr.inr => exact absurd (Value.str.inj hKey).symm hName
  all_goals rfl

theorem restOf_overlayLayer_nullRest (below : Layer) :
    restOf (overlayLayer nullRest below) = restOf below := by
  refine restOf_congr fun name => lookup_overlayLayer_of_null nullRest_keys ?_ below
  intro e he _
  simp only [nullRest, List.mem_cons, List.not_mem_nil, or_false] at he
  rcases he with rfl | rfl | rfl | rfl <;> rfl

theorem lookup_rest_ungiven (below : Layer) :
    lookup "rest" (overlayLayer ungiven below) = overlay (.map nullRest) (lookup "rest" below) :=
  lookup_overlayLayer ungiven_keys below "rest"

/-- Over a map for the service, or over nothing, the nulls are not seen. -/
theorem restIn_ungiven {below : Layer} (h : ∀ v, lookup "rest" below = some v → v.isMap = true) :
    restIn (overlayLayer ungiven below) = restIn below := by
  rw [restIn, restIn, lookup_rest_ungiven]
  cases hBelow : lookup "rest" below with
  | none => rfl
  | some v =>
    cases v with
    | map es => exact restOf_overlayLayer_nullRest es
    | _ => cases h _ hBelow

/-- Anything but a map is a fault, which the nulls hide. -/
theorem restIn_of_noMap {below : Layer} {v : Value} (hBelow : lookup "rest" below = some v)
    (hNoMap : v.isMap = false) :
    restIn below = .error [⟨["rest"], .map⟩] ∧ restIn (overlayLayer ungiven below) = .ok .none := by
  rw [restIn, restIn, lookup_rest_ungiven, hBelow]
  cases v with
  | map es => cases hNoMap
  | _ => exact ⟨rfl, rfl⟩

/-! ### Runs -/

/-- What the files of a machine say about the service, in the highest of them that says anything, is no
map. -/
def RestIsNoMap (m : Machine) : Prop :=
  ∃ user project v, userLayer m = .ok user ∧
    projectLayer m = .ok project ∧
    effective ["rest"] [user, project] = some v ∧ v.isMap = false

theorem restIsNoMap_iff {m : Machine} :
    RestIsNoMap m ↔
      (match userLayer m, projectLayer m with
      | .ok user, .ok project => (effective ["rest"] [user, project]).any fun v => !v.isMap
      | _, _ => false) = true := by
  constructor
  · rintro ⟨user, project, v, hUser, hProject, hHighest, hNoMap⟩
    simp [hUser, hProject, hHighest, hNoMap]
  · intro h
    split at h
    · rename_i user project hUser hProject
      obtain ⟨v, hHighest, hNoMap⟩ := (Option.any_eq_true _ _).mp h
      exact ⟨user, project, v, hUser, hProject, hHighest, by simpa using hNoMap⟩
    · cases h

instance (m : Machine) : Decidable (RestIsNoMap m) := decidable_of_iff _ restIsNoMap_iff.symm

def lowerLayers (m : Machine) (user project : Layer) : List Layer := [user, project, variableLayer m]

theorem effective_rest_lowerLayers (m : Machine) (user project : Layer) :
    effective ["rest"] (lowerLayers m user project) = effective ["rest"] [user, project] := by
  have hNone : lookup "rest" (variableLayer m) = none := by
    refine Value.lookup_of_notMem fun hMem => ?_
    obtain ⟨e, he, hKey⟩ := List.mem_map.mp hMem
    obtain ⟨v, hv, text, -, rfl⟩ := mem_variableLayer he
    have hNames : ∀ v ∈ variableNames, v.2 ≠ "rest" := by decide
    exact hNames v hv (Value.str.inj hKey)
  change effective ["rest"] ([user, project] ++ [variableLayer m]) = _
  rw [effective_append, at?, hNone]
  rfl

section Files

variable {m : Machine} {user project : Layer}
  (hUser : userLayer m = .ok user)
  (hProject : projectLayer m = .ok project)

include hUser hProject

theorem lookup_rest_flatten :
    Stands (lookup "rest" (flatten (lowerLayers m user project)))
        (effective ["rest"] [user, project]) ∧
      lookup "rest" (flatten (lowerLayers m user project)) ≠ some .null := by
  rw [← effective_rest_lowerLayers m]
  refine stands_flatten (fun layer hLayer => ?_) "rest"
  simp only [lowerLayers, List.mem_cons, List.not_mem_nil, or_false] at hLayer
  rcases hLayer with rfl | rfl | rfl
  · exact distinct_of_userLayer hUser
  · exact distinct_of_layerOfFile hProject
  · exact variableLayer_distinct m

theorem isMap_of_lookup_rest (h : ¬RestIsNoMap m) {v : Value}
    (hFound : lookup "rest" (flatten (lowerLayers m user project)) = some v) : v.isMap = true := by
  obtain ⟨hStands, hNonNull⟩ := lookup_rest_flatten hUser hProject
  rw [hFound] at hStands hNonNull
  generalize hHighest : effective ["rest"] [user, project] = highest at hStands
  cases hStands with
  | same =>
    by_contra hNoMap
    exact h ⟨user, project, v, hUser, hProject, hHighest, by simpa using hNoMap⟩
  | maps es fs => rfl
  | null => exact absurd rfl hNonNull

theorem resolve_eq (own : Layer) :
    resolve m own =
      match ofEntries (overlayLayer own (flatten (lowerLayers m user project))) with
      | .ok s => .ok s
      | .error faults => refuse (.invalid faults) := by
  change resolve m own = match ofEntries (flatten [user, project, variableLayer m, own]) with
    | .ok s => .ok s
    | .error faults => refuse (.invalid faults)
  cases hRead : ofEntries (flatten [user, project, variableLayer m, own]) with
  | ok s => exact resolve_of_ok hUser hProject hRead
  | error faults => exact resolve_of_error hUser hProject hRead

end Files

/-- Where a file has no layer, the command line does not matter. -/
theorem resolve_of_no_layers {m : Machine}
    (h : ¬∃ user project, userLayer m = .ok user ∧
      projectLayer m = .ok project) (own other : Layer) :
    resolve m own = resolve m other := by
  unfold resolve
  cases hUser : userLayer m with
  | error e => rfl
  | ok user =>
    cases hProject : projectLayer m with
    | error e => rfl
    | ok project => exact absurd ⟨user, project, hUser, hProject⟩ h

/-- A command line without options changes nothing, unless what the files say about the service is no
map.  Then the run is refused for that, and a command line without options takes just this fault away:
the other faults stay, and without them the run has settings in which the service has none. -/
theorem resolve_ungiven (m : Machine) (source : String) :
    let given := (GenerateOptions.ofSource source).overrides.layer
    (¬RestIsNoMap m → resolve m given = resolve m []) ∧
      (RestIsNoMap m → ∃ others, resolve m [] = refuse (.invalid (others ++ [⟨["rest"], .map⟩])) ∧
        (others ≠ [] ∧ resolve m given = refuse (.invalid others) ∨
          others = [] ∧ ∃ s, resolve m given = .ok s ∧ s.rest = .none)) := by
  rw [layer_ofSource]
  constructor
  · intro hRest
    by_cases hFiles : ∃ user project, userLayer m = .ok user ∧
        projectLayer m = .ok project
    · obtain ⟨user, project, hUser, hProject⟩ := hFiles
      have hSame := ofEntries_congr (sameOthers_ungiven (flatten (lowerLayers m user project)))
        (restIn_ungiven fun v => isMap_of_lookup_rest hUser hProject hRest).symm
      rw [resolve_eq hUser hProject, resolve_eq hUser hProject, ← hSame]
      rfl
    · exact resolve_of_no_layers hFiles _ _
  · rintro ⟨user, project, v, hUser, hProject, hHighest, hNoMap⟩
    have hFound : lookup "rest" (flatten (lowerLayers m user project)) = some v := by
      obtain ⟨hStands, -⟩ := lookup_rest_flatten hUser hProject
      rw [hHighest] at hStands
      generalize lookup "rest" (flatten (lowerLayers m user project)) = found at hStands
      cases hStands with
      | same => rfl
      | maps es fs => cases hNoMap
    obtain ⟨hFault, hNone⟩ := restIn_of_noMap hFound hNoMap
    obtain ⟨others, hBelow, hGiven⟩ := ofEntries_of_restIn (sameOthers_ungiven _) hFault hNone
    refine ⟨others, ?_, ?_⟩
    · rw [resolve_eq hUser hProject, overlayLayer, hBelow]
    · rw [resolve_eq hUser hProject]
      rcases hGiven with ⟨hOthers, hGiven⟩ | ⟨hOthers, s, hGiven, hRest⟩
      · rw [hGiven]
        exact .inl ⟨hOthers, rfl⟩
      · rw [hGiven]
        exact .inr ⟨hOthers, s, rfl, hRest⟩

/-- A machine whose project has settings with the given text. -/
def projectMachine (text : String) : Machine :=
  .holding [("restdsl.json", Text.Utf8.encode text)]

/-- A host is left alone. Of two faults the one that is not of the service stays. -/
theorem resolve_ungiven_projects :
    let given := (GenerateOptions.ofSource "-").overrides.layer
    let hosted := projectMachine "\x7b\"rest\":\x7b\"host\":\"a\"\x7d\x7d"
    let numbered := projectMachine "\x7b\"filter\":1,\"rest\":5\x7d"
    resolve hosted given = .ok { default with rest := ⟨none, none, none, some "a"⟩ } ∧
      resolve numbered [] = refuse (.invalid [⟨["filter"], .text⟩, ⟨["rest"], .map⟩]) ∧
      resolve numbered given = refuse (.invalid [⟨["filter"], .text⟩]) := by
  intro given hosted numbered
  have hHosted : ¬RestIsNoMap hosted := by decide +kernel
  have hNumbered : RestIsNoMap numbered := by decide +kernel
  have hBelow : resolve hosted [] = .ok { default with rest := ⟨none, none, none, some "a"⟩ } := by
    decide +kernel
  have hFaults : resolve numbered [] =
      refuse (.invalid ([⟨["filter"], .text⟩] ++ [⟨["rest"], .map⟩])) := by decide +kernel
  refine ⟨((resolve_ungiven hosted "-").1 hHosted).trans hBelow, hFaults, ?_⟩
  obtain ⟨others, hOthers, hGiven⟩ := (resolve_ungiven numbered "-").2 hNumbered
  rw [hFaults] at hOthers
  simp only [refuse, Except.error.injEq, Failure.refusal.injEq, Refusal.settings.injEq,
    SettingsFault.invalid.injEq, List.append_left_inj] at hOthers
  subst hOthers
  rcases hGiven with ⟨-, hGiven⟩ | ⟨hEmpty, -⟩
  · exact hGiven
  · cases hEmpty

/-- A number for the service is refused, but not when a command line without options hides it. -/
theorem resolve_hiddenNumber :
    let m := projectMachine "\x7b\"rest\": 5\x7d"
    resolve m [] = refuse (.invalid [⟨["rest"], .map⟩]) ∧
      resolve m (GenerateOptions.ofSource "-").overrides.layer = .ok default := by
  decide +kernel

end RestRoutes.Settings
