import Mathlib.Data.List.Forall2
import RestRoutes.Proofs.Api.Builder

/-! Merging the parameters of a path with those of an operation.  The key that a parameter is merged by is
the name and the place that it is built with, and merging prefers the right: it is associative,
and under each key there are the parameters of the operation, or those of the path where the
operation has none. -/

namespace RestRoutes.Api.Builder

/-! ### The keys of parameters -/

/-- What may describe a parameter: the maps of a list. -/
def objects (ps : List Value) : List Value := ps.filter Value.isMap

/-- The keys of all that may describe a parameter can be read. -/
def Keyed (ps : List Value) : Prop := ∀ p ∈ objects ps, ∃ k, key p = .ok k

/-- An operation has a parameter under the key of a given one. -/
def overrides (own : List Value) (p : Value) : Bool := (objects own).any fun q => key q = key p

/-- The parameters of a path without those that the operation has under the same key, and after them
those of the operation. -/
def merged (shared own : List Value) : List Value :=
  (objects shared).filter (!overrides own ·) ++ objects own

theorem mem_objects {ps : List Value} {p : Value} : p ∈ objects ps ↔ p ∈ ps ∧ p.isMap = true :=
  List.mem_filter

theorem objects_eq_self {ps : List Value} (h : ∀ p ∈ ps, p.isMap = true) : objects ps = ps :=
  List.filter_eq_self.mpr h

theorem overrides_iff {own : List Value} {p : Value} :
    overrides own p = true ↔ ∃ q ∈ objects own, key q = key p := by
  simp [overrides]

theorem mem_merged {shared own : List Value} {p : Value} :
    p ∈ merged shared own ↔ p ∈ objects shared ∧ overrides own p = false ∨ p ∈ objects own := by
  simp [merged]

theorem objects_merged (shared own : List Value) :
    objects (merged shared own) = merged shared own := by
  refine objects_eq_self fun p hp => ?_
  rcases mem_merged.mp hp with ⟨hShared, -⟩ | hOwn
  · exact (mem_objects.mp hShared).2
  · exact (mem_objects.mp hOwn).2

/-- Overriding what is merged is overriding one or the other. -/
theorem overrides_merged (b c : List Value) (p : Value) :
    overrides (merged b c) p = (overrides b p || overrides c p) := by
  rw [Bool.eq_iff_iff, Bool.or_eq_true, overrides_iff, overrides_iff, overrides_iff, objects_merged]
  constructor
  · rintro ⟨q, hq, hKey⟩
    rcases mem_merged.mp hq with ⟨hb, -⟩ | hc
    · exact .inl ⟨q, hb, hKey⟩
    · exact .inr ⟨q, hc, hKey⟩
  · rintro (⟨q, hb, hKey⟩ | ⟨q, hc, hKey⟩)
    · -- A parameter that is overridden itself leaves its key to the one that overrides it.
      by_cases hq : overrides c q = true
      · obtain ⟨r, hr, hSame⟩ := overrides_iff.mp hq
        exact ⟨r, mem_merged.mpr (.inr hr), hSame.trans hKey⟩
      · exact ⟨q, mem_merged.mpr (.inl ⟨hb, by simpa using hq⟩), hKey⟩
    · exact ⟨q, mem_merged.mpr (.inr hc), hKey⟩

/-! ### Merging as it is done -/

theorem mapM_key_of_keyed {ps : List Value} (h : ∀ p ∈ ps, ∃ k, key p = .ok k) :
    ∃ keys, ps.mapM key = .ok keys ∧ ps.map key = keys.map .ok := by
  induction ps with
  | nil => exact ⟨[], rfl, rfl⟩
  | cons p rest ih =>
    obtain ⟨k, hk⟩ := h p List.mem_cons_self
    obtain ⟨keys, hKeys, hMap⟩ := ih fun q hq => h q (List.mem_cons_of_mem p hq)
    refine ⟨k :: keys, ?_, by rw [List.map_cons, List.map_cons, hk, hMap]⟩
    rw [List.mapM_cons, hk, hKeys]
    rfl

theorem keyed_of_mapM_key {ps : List Value} {keys : List (String × String)}
    (h : ps.mapM key = .ok keys) : ∀ p ∈ ps, ∃ k, key p = .ok k := by
  induction ps generalizing keys with
  | nil => simp
  | cons p rest ih =>
    rw [List.mapM_cons] at h
    obtain ⟨k, hk, h⟩ := except_bind_eq_ok.mp h
    obtain ⟨ks, hks, -⟩ := except_bind_eq_ok.mp h
    exact List.forall_mem_cons.mpr ⟨⟨k, hk⟩, ih hks⟩

theorem notOverridden_of_keyed (keys : List (String × String)) {ps : List Value}
    (h : ∀ p ∈ ps, ∃ k, key p = .ok k) :
    notOverridden keys ps = .ok (ps.filter fun p => !(keys.map Except.ok).contains (key p)) := by
  induction ps with
  | nil => rfl
  | cons p rest ih =>
    obtain ⟨k, hk⟩ := h p List.mem_cons_self
    have hContains : (keys.map (Except.ok (ε := Failure))).contains (.ok k) = keys.contains k := by
      rw [Bool.eq_iff_iff]
      simp
    rw [notOverridden, hk, ih fun q hq => h q (List.mem_cons_of_mem p hq), List.filter_cons, hk,
      hContains]
    rfl

theorem keyed_of_notOverridden {keys : List (String × String)} {ps kept : List Value}
    (h : notOverridden keys ps = .ok kept) : ∀ p ∈ ps, ∃ k, key p = .ok k := by
  induction ps generalizing kept with
  | nil => simp
  | cons p rest ih =>
    obtain ⟨k, hk, h⟩ := except_bind_eq_ok.mp h
    obtain ⟨kept, hKept, -⟩ := except_bind_eq_ok.mp h
    exact List.forall_mem_cons.mpr ⟨⟨k, hk⟩, ih hKept⟩

theorem merge_of_keyed {shared own : List Value} (hShared : Keyed shared) (hOwn : Keyed own) :
    merge shared own = .ok (merged shared own) := by
  obtain ⟨keys, hKeys, hMap⟩ := mapM_key_of_keyed hOwn
  have hOverrides (p : Value) : overrides own p = (keys.map Except.ok).contains (key p) := by
    rw [← hMap, Bool.eq_iff_iff, overrides_iff]
    simp
  have hKept : (objects shared).filter (fun p => !(keys.map Except.ok).contains (key p)) =
      (objects shared).filter (!overrides own ·) := by
    simp only [hOverrides]
  show (objects own).mapM key >>= _ = _
  rw [hKeys]
  show notOverridden keys (objects shared) >>= _ = _
  rw [notOverridden_of_keyed keys hShared, hKept]
  rfl

theorem keyed_of_merge {shared own ps : List Value} (h : merge shared own = .ok ps) :
    Keyed shared ∧ Keyed own := by
  obtain ⟨keys, hKeys, h⟩ := except_bind_eq_ok.mp h
  obtain ⟨kept, hKept, -⟩ := except_bind_eq_ok.mp h
  exact ⟨keyed_of_notOverridden hKept, keyed_of_mapM_key hKeys⟩

theorem merge_eq_ok_iff {shared own ps : List Value} :
    merge shared own = .ok ps ↔ (Keyed shared ∧ Keyed own) ∧ ps = merged shared own := by
  constructor
  · intro h
    have hKeyed := keyed_of_merge h
    rw [merge_of_keyed hKeyed.1 hKeyed.2] at h
    exact ⟨hKeyed, (Except.ok.inj h).symm⟩
  · rintro ⟨⟨hShared, hOwn⟩, rfl⟩
    exact merge_of_keyed hShared hOwn

/-- A key that cannot be read has an integer of too many digits, so that merging fails in one way. -/
theorem merge_eq_error_iff {shared own : List Value} {e : Failure} :
    merge shared own = .error e ↔
      e = .defect .longIntegerText ∧ ¬(Keyed shared ∧ Keyed own) := by
  constructor
  · intro h
    refine ⟨((merge_reads shared own).failure e h).1, fun hKeyed => ?_⟩
    rw [merge_of_keyed hKeyed.1 hKeyed.2] at h
    cases h
  · rintro ⟨rfl, hNot⟩
    cases h : merge shared own with
    | ok ps => exact absurd (keyed_of_merge h) hNot
    | error e => rw [((merge_reads shared own).failure e h).1]

theorem keyed_merged {a b : List Value} (ha : Keyed a) (hb : Keyed b) : Keyed (merged a b) := by
  intro p hp
  rw [objects_merged] at hp
  rcases mem_merged.mp hp with ⟨hShared, -⟩ | hOwn
  · exact ha p hShared
  · exact hb p hOwn

theorem merged_assoc (a b c : List Value) :
    merged (merged a b) c = merged a (merged b c) := by
  have hLeft : (objects (merged a b)).filter (!overrides c ·) =
      (objects a).filter (fun p => !(overrides b p || overrides c p)) ++
        (objects b).filter (!overrides c ·) := by
    rw [objects_merged, merged, List.filter_append, List.filter_filter]
    simp only [Bool.not_or, Bool.and_comm]
  have hRight : (objects a).filter (!overrides (merged b c) ·) =
      (objects a).filter fun p => !(overrides b p || overrides c p) := by
    simp only [overrides_merged]
  rw [merged, hLeft, merged.eq_1 a, hRight, objects_merged, merged, List.append_assoc]

theorem merged_merged_self (a b : List Value) : merged (merged a b) b = merged a b := by
  have hSelf : (objects b).filter (!overrides b ·) = [] := by
    refine List.filter_eq_nil_iff.mpr fun p hp => ?_
    have hOwn : overrides b p = true := overrides_iff.mpr ⟨p, hp, rfl⟩
    simp [hOwn]
  rw [merged, objects_merged, merged, List.filter_append, List.filter_filter, hSelf,
    List.append_nil]
  simp only [Bool.and_self]

/-! ### The laws of merging -/

def hasKey (k : String × String) (p : Value) : Bool := p.isMap && key p = .ok k

theorem hasKey_iff {k : String × String} {p : Value} :
    hasKey k p = true ↔ p.isMap = true ∧ key p = .ok k := by
  simp [hasKey]

theorem filter_hasKey_objects (k : String × String) (ps : List Value) :
    (objects ps).filter (hasKey k) = ps.filter (hasKey k) := by
  rw [objects, List.filter_filter]
  refine List.filter_congr fun p _ => ?_
  rw [hasKey, Bool.and_comm, ← Bool.and_assoc, Bool.and_self]

/-- What is merged has the parameters of the operation under a key, or those of the path where the
operation has none. -/
theorem filter_hasKey_merged (a b : List Value) (k : String × String) :
    (merged a b).filter (hasKey k) =
      if b.any (hasKey k) then b.filter (hasKey k) else a.filter (hasKey k) := by
  rw [merged, List.filter_append, List.filter_filter, filter_hasKey_objects]
  split
  · rename_i hAny
    obtain ⟨q, hq, hKey⟩ := List.any_eq_true.mp hAny
    obtain ⟨hMap, hKey⟩ := hasKey_iff.mp hKey
    rw [List.append_left_eq_self]
    refine List.filter_eq_nil_iff.mpr fun p _ => ?_
    by_cases hp : hasKey k p = true
    · have hOverrides : overrides b p = true :=
        overrides_iff.mpr ⟨q, mem_objects.mpr ⟨hq, hMap⟩, hKey.trans (hasKey_iff.mp hp).2.symm⟩
      simp [hOverrides]
    · simp [hp]
  · rename_i hNone
    have hOwn : b.filter (hasKey k) = [] :=
      List.filter_eq_nil_iff.mpr fun q hq hKey => hNone (List.any_eq_true.mpr ⟨q, hq, hKey⟩)
    rw [hOwn, List.append_nil, ← filter_hasKey_objects]
    refine List.filter_congr fun p _ => ?_
    by_cases hp : hasKey k p = true
    · have hOverrides : overrides b p = false := by
        rw [← Bool.not_eq_true]
        intro hOverrides
        obtain ⟨q, hq, hSame⟩ := overrides_iff.mp hOverrides
        obtain ⟨hMem, hMap⟩ := mem_objects.mp hq
        have hKey := hasKey_iff.mpr ⟨hMap, hSame.trans (hasKey_iff.mp hp).2⟩
        exact hNone (List.any_eq_true.mpr ⟨q, hMem, hKey⟩)
      simp [hOverrides]
    · simp [hp]

/-- The name and the place of the parameter that is built of a map. -/
def builtPlace (version : Document.Version) (p : Value) : Except Failure (String × String) :=
  match version with
  | .swagger => (swaggerParameter p).map fun parameter => (parameter.name, parameter.location)
  | .openApi => (openApiParameter p).map fun parameter => (parameter.name, parameter.location)
  | .unknown n => .error (.defect (.version n))

/-- A map describes a parameter with a name and a place. -/
def isAt (version : Document.Version) (place : String × String) (p : Value) : Bool :=
  p.isMap && builtPlace version p = .ok place

/-- Parameters can be built of all maps of a list. -/
def Buildable (version : Document.Version) (ps : List Value) : Prop :=
  ∀ p ∈ objects ps, ∃ place, builtPlace version p = .ok place

theorem key_of_swaggerParameter {p : Value} {parameter : Swagger.Parameter}
    (h : swaggerParameter p = .ok parameter) :
    key p = .ok (parameter.name, parameter.location) := by
  obtain ⟨k, hKey, h⟩ := except_bind_eq_ok.mp h
  obtain ⟨_, -, h⟩ := except_bind_eq_ok.mp h
  obtain ⟨_, -, h⟩ := except_bind_eq_ok.mp h
  obtain ⟨_, -, h⟩ := except_bind_eq_ok.mp h
  simp only at h
  split at h
  all_goals
    obtain ⟨_, -, h⟩ := except_bind_eq_ok.mp h
    obtain rfl := Except.ok.inj h
    exact hKey

theorem key_of_openApiParameter {p : Value} {parameter : OpenApi.Parameter}
    (h : openApiParameter p = .ok parameter) :
    key p = .ok (parameter.name, parameter.location) := by
  obtain ⟨k, hKey, h⟩ := except_bind_eq_ok.mp h
  obtain ⟨_, -, h⟩ := except_bind_eq_ok.mp h
  obtain ⟨_, -, h⟩ := except_bind_eq_ok.mp h
  obtain ⟨_, -, h⟩ := except_bind_eq_ok.mp h
  obtain rfl := Except.ok.inj h
  exact hKey

/-- A parameter is built with the name and the place that it is merged by. -/
theorem key_of_builtPlace {version : Document.Version} {p : Value} {place : String × String}
    (h : builtPlace version p = .ok place) : key p = .ok place := by
  cases version with
  | swagger =>
    obtain ⟨parameter, hBuilt, rfl⟩ := except_map_eq_ok.mp h
    exact key_of_swaggerParameter hBuilt
  | openApi =>
    obtain ⟨parameter, hBuilt, rfl⟩ := except_map_eq_ok.mp h
    exact key_of_openApiParameter hBuilt
  | unknown n => cases h

theorem isAt_eq_hasKey {version : Document.Version} {ps : List Value} (h : Buildable version ps)
    (place : String × String) {p : Value} (hp : p ∈ ps) :
    isAt version place p = hasKey place p := by
  by_cases hMap : p.isMap = true
  · obtain ⟨built, hBuilt⟩ := h p (mem_objects.mpr ⟨hp, hMap⟩)
    simp [isAt, hasKey, hBuilt, key_of_builtPlace hBuilt]
  · simp [isAt, hasKey, hMap]

/-- Merging three lists in turn fails, on either side, where a key cannot be read. -/
theorem merge_of_not_keyed {a b c : List Value} (h : ¬(Keyed a ∧ Keyed b ∧ Keyed c)) :
    (do merge (← merge a b) c) = .error (.defect .longIntegerText) ∧
      (do merge a (← merge b c)) = .error (.defect .longIntegerText) := by
  constructor
  · cases hab : merge a b with
    | error e =>
      obtain ⟨rfl, -⟩ := merge_eq_error_iff.mp hab
      rfl
    | ok ps =>
      obtain ⟨ha, hb⟩ := keyed_of_merge hab
      exact merge_eq_error_iff.mpr ⟨rfl, fun hc => h ⟨ha, hb, hc.2⟩⟩
  · cases hbc : merge b c with
    | error e =>
      obtain ⟨rfl, -⟩ := merge_eq_error_iff.mp hbc
      rfl
    | ok ps =>
      obtain ⟨hb, hc⟩ := keyed_of_merge hbc
      exact merge_eq_error_iff.mpr ⟨rfl, fun ha => h ⟨ha.1, hb, hc⟩⟩

theorem merge_assoc (a b c : List Value) :
    (do merge (← merge a b) c) = (do merge a (← merge b c)) := by
  by_cases hKeyed : Keyed a ∧ Keyed b ∧ Keyed c
  · obtain ⟨ha, hb, hc⟩ := hKeyed
    rw [merge_of_keyed ha hb, merge_of_keyed hb hc]
    show merge (merged a b) c = merge a (merged b c)
    rw [merge_of_keyed (keyed_merged ha hb) hc, merge_of_keyed ha (keyed_merged hb hc),
      merged_assoc]
  · obtain ⟨hLeft, hRight⟩ := merge_of_not_keyed hKeyed
    rw [hLeft, hRight]

theorem merge_merge_self (a b : List Value) : (do merge (← merge a b) b) = merge a b := by
  cases hab : merge a b with
  | error e => rfl
  | ok ps =>
    obtain ⟨⟨ha, hb⟩, rfl⟩ := merge_eq_ok_iff.mp hab
    show merge (merged a b) b = .ok (merged a b)
    rw [merge_of_keyed (keyed_merged ha hb) hb, merged_merged_self]

theorem merged_nil (a : List Value) : merged a [] = objects a := by
  have hNone (p : Value) : overrides [] p = false := rfl
  simp only [merged, hNone, objects, List.filter_nil, Bool.not_false, List.filter_true,
    List.append_nil]

theorem nil_merged (a : List Value) : merged [] a = objects a := rfl

theorem keyed_nil : Keyed [] := fun _ hp => nomatch hp

/-- The empty list is neutral on either side of maps, as far as these can be merged at all. -/
theorem merge_nil_iff {a : List Value} (h : ∀ p ∈ a, p.isMap = true) :
    (merge a [] = .ok a ↔ Keyed a) ∧ (merge [] a = .ok a ↔ Keyed a) := by
  have hMaps := objects_eq_self h
  constructor
  · rw [merge_eq_ok_iff, merged_nil, hMaps]
    exact ⟨fun hKeyed => hKeyed.1.1, fun ha => ⟨⟨ha, keyed_nil⟩, rfl⟩⟩
  · rw [merge_eq_ok_iff, nil_merged, hMaps]
    exact ⟨fun hKeyed => hKeyed.1.2, fun ha => ⟨⟨keyed_nil, ha⟩, rfl⟩⟩

/-- What can be written as a literal has a key. -/
theorem keyed_of_textual {ps : List Value} (h : ∀ p ∈ ps, p.Textual) : Keyed ps := by
  intro p hp
  cases hKey : key p with
  | ok k => exact ⟨k, rfl⟩
  | error e => exact absurd (h p (mem_objects.mp hp).1) ((key_reads p).failure e hKey).2

/-- Merging is associative, the same parameters merged once more change nothing, and under each name
and place there are those of the operation, or those of the path where the operation has none.  It
fails only where the name or the place of a parameter has an integer of too many digits; without
such parameters the empty list is neutral on either side. -/
theorem merge_rightBiased (a b c : List Value) :
    (do merge (← merge a b) c) = (do merge a (← merge b c)) ∧
    (do merge (← merge a b) b) = merge a b ∧
    ((∀ p ∈ a, p.isMap = true) →
      (merge a [] = .ok a ↔ Keyed a) ∧ (merge [] a = .ok a ↔ Keyed a)) ∧
    (∀ e, merge a b = .error e ↔ e = .defect .longIntegerText ∧ ¬(Keyed a ∧ Keyed b)) ∧
    ((∀ p ∈ a, p.Textual) → Keyed a) ∧
    ∀ ps, merge a b = .ok ps →
      (∀ k, ps.filter (hasKey k) =
        if b.any (hasKey k) then b.filter (hasKey k) else a.filter (hasKey k)) ∧
      ∀ version, Buildable version a → Buildable version b → ∀ place,
        ps.filter (isAt version place) =
          if b.any (isAt version place) then b.filter (isAt version place)
          else a.filter (isAt version place) := by
  refine ⟨merge_assoc a b c, merge_merge_self a b, merge_nil_iff, fun e => merge_eq_error_iff,
    keyed_of_textual, fun ps hps => ?_⟩
  obtain ⟨⟨ha, hb⟩, rfl⟩ := merge_eq_ok_iff.mp hps
  refine ⟨filter_hasKey_merged a b, fun version hBuildA hBuildB place => ?_⟩
  have hMerged : Buildable version (merged a b) := by
    intro p hp
    rw [objects_merged] at hp
    rcases mem_merged.mp hp with ⟨hShared, -⟩ | hOwn
    · exact hBuildA p hShared
    · exact hBuildB p hOwn
  -- Where parameters can be built, their names and places are their keys.
  have hAny : b.any (isAt version place) = b.any (hasKey place) := by
    rw [Bool.eq_iff_iff, List.any_eq_true, List.any_eq_true]
    exact exists_congr fun p => and_congr_right fun hp => by rw [isAt_eq_hasKey hBuildB place hp]
  rw [List.filter_congr fun p hp => isAt_eq_hasKey hMerged place hp,
    List.filter_congr fun p hp => isAt_eq_hasKey hBuildB place hp,
    List.filter_congr fun p hp => isAt_eq_hasKey hBuildA place hp, hAny]
  exact filter_hasKey_merged a b place

example :
    key (.ofNamed [("name", .int 7), ("in", .str "")]) = key (.ofNamed [("name", .str "7")]) := by
  decide +kernel

def sharedPage : Value :=
  .ofNamed [("name", .int 7), ("in", .str "query"), ("required", .bool true)]

def traceHeader : Value := .ofNamed [("name", .str "trace"), ("in", .str "header")]

def ownPage : Value := .ofNamed [("name", .str "7"), ("in", .str "query")]

theorem merge_rightBiased_page :
    let shared := [sharedPage, traceHeader]
    let own := [ownPage, .str "page"]
    merge shared own = .ok [traceHeader, ownPage] ∧
      (do merge (← merge shared own) own) = merge shared own ∧
      merge shared [] = .ok shared ∧
      [traceHeader, ownPage].filter (isAt .swagger ("7", "query")) =
        own.filter (isAt .swagger ("7", "query")) ∧
      [traceHeader, ownPage].filter (isAt .swagger ("trace", "header")) =
        shared.filter (isAt .swagger ("trace", "header")) := by
  intro shared own
  obtain ⟨-, hAgain, hNeutral, -, hKeyed, hPlaces⟩ := merge_rightBiased shared own []
  have hShared : Keyed shared := hKeyed (by decide +kernel)
  have hOwn : Keyed own := keyed_of_textual (by decide +kernel)
  have hMerge : merge shared own = .ok [traceHeader, ownPage] := by
    have hPage : overrides own sharedPage = true := by decide +kernel
    have hTrace : overrides own traceHeader = false := by decide +kernel
    rw [merge_of_keyed hShared hOwn]
    show Except.ok (List.filter (!overrides own ·) [sharedPage, traceHeader] ++ [ownPage]) = _
    rw [List.filter_cons, hPage, List.filter_cons, hTrace]
    rfl
  have hBuildShared : Buildable .swagger shared :=
    List.forall_mem_cons.mpr ⟨⟨("7", "query"), by decide +kernel⟩,
      List.forall_mem_singleton.mpr ⟨("trace", "header"), by decide +kernel⟩⟩
  have hBuildOwn : Buildable .swagger own :=
    List.forall_mem_singleton.mpr ⟨("7", "query"), by decide +kernel⟩
  have hPlace := (hPlaces _ hMerge).2 .swagger hBuildShared hBuildOwn
  have hPage : own.any (isAt .swagger ("7", "query")) = true := by decide +kernel
  have hTrace : own.any (isAt .swagger ("trace", "header")) = false := by decide +kernel
  refine ⟨hMerge, hAgain, (hNeutral (by decide +kernel)).1.mpr hShared, ?_, ?_⟩
  · rw [hPlace, if_pos hPage]
  · rw [hPlace, hTrace]
    rfl

/-- A reference with a name that is an integer of too many digits. -/
def longNamed : Value :=
  .ofNamed [("$ref", .str "#/parameters/limit"),
    ("name", .int (Number.pow10 integerDigitLimit))]

/-- The empty list is not neutral where a name cannot be written, though nothing but a reference has
it. -/
theorem merge_longNamed :
    (∀ p ∈ [longNamed], p.isMap = true) ∧
      merge [] [longNamed] = .error (.defect .longIntegerText) ∧
      merge [longNamed] [] = .error (.defect .longIntegerText) := by
  have hKey : key longNamed = .error (.defect .longIntegerText) := by
    show (Value.textOrFail (.int (Number.pow10 integerDigitLimit))).map some >>= _ = _
    rw [Value.textOrFail_of_long (Nat.le_refl _)]
    rfl
  have hNot : ¬Keyed [longNamed] := by
    intro hKeyed
    obtain ⟨k, hk⟩ := hKeyed longNamed List.mem_cons_self
    rw [hKey] at hk
    cases hk
  refine ⟨List.forall_mem_singleton.mpr rfl, ?_, ?_⟩
  · exact merge_eq_error_iff.mpr ⟨rfl, fun h => hNot h.2⟩
  · exact merge_eq_error_iff.mpr ⟨rfl, fun h => hNot h.1⟩

end RestRoutes.Api.Builder
