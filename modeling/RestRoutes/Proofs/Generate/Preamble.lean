import Mathlib.Data.List.DropRight
import RestRoutes.Proofs.Generate.Unread
import RestRoutes.Proofs.Visit.Outline

/-! What a run emits before its first operation: the settings of the service with those of their texts
that show, and the path that the operations are under.  The block of the settings is opened for every
text that is not empty and the path is given for every text that is more than slashes, so that texts
of white space only leave an empty block or a blank path behind. -/

namespace RestRoutes.Generator

open Api Visit

/-! ### The settings of the service -/

/-- The settings of the service by the names of their events, in the order of these. -/
def namedSettings (c : RestConfiguration) : List (String × Option String) :=
  [("component", c.component), ("contextPath", c.contextPath),
    ("apiContextPath", c.apiContextPath), ("host", c.host)]

def shownSettings (c : RestConfiguration) : List Event :=
  (namedSettings c).filterMap fun (name, text) => (shown text).map fun s => ⟨name, .text s⟩

/-- The events that open a run for the settings of the service. -/
inductive Configures : Option RestConfiguration → List Event → Prop
  | unset : Configures none []
  | empty {c : RestConfiguration} (h : ∀ text ∈ c.values, text = none ∨ text = some "") :
      Configures (some c) []
  | full {c : RestConfiguration} (h : ∃ text ∈ c.values, ∃ s, text = some s ∧ Text.isBlank s = false) :
      Configures (some c) (.bare "restConfiguration" :: shownSettings c)
  /-- Only white space is set, and the block has nothing in it. -/
  | blank {c : RestConfiguration} (h : ∀ text ∈ c.values, ∀ s, text = some s → Text.isBlank s = true)
      (hSet : ∃ s, some s ∈ c.values ∧ s ≠ "") :
      Configures (some c) [.bare "restConfiguration"]

theorem field_optional (name : String) (text : Option String) :
    field name (Visit.optional text) =
      ((shown text).map fun s => Event.mk name (.text s)).toList := by
  cases text with
  | none => rfl
  | some s =>
    have hField : field name (Visit.optional (some s)) =
        if Text.isBlank s then [] else [⟨name, .text s⟩] := rfl
    rw [hField]
    cases hBlank : Text.isBlank s with
    | true =>
      rw [shown_of_blank hBlank]
      rfl
    | false =>
      rw [shown_of_not_blank hBlank]
      rfl

theorem configurationEvents_of_set {c : RestConfiguration} (h : c.isBlank = false) :
    configurationEvents c = .bare "restConfiguration" :: shownSettings c := by
  simp only [configurationEvents, h, Bool.false_eq_true, if_false, field_optional, shownSettings,
    namedSettings, List.filterMap_cons, List.filterMap_nil]
  cases shown c.component <;> cases shown c.contextPath <;> cases shown c.apiContextPath <;>
    cases shown c.host <;> rfl

theorem isBlank_iff {c : RestConfiguration} :
    c.isBlank = true ↔ ∀ text ∈ c.values, text = none ∨ text = some "" := by
  rw [RestConfiguration.isBlank, List.all_eq_true]
  refine forall₂_congr fun text _ => ?_
  cases text <;> simp

/-- No text shows exactly when each is white space. -/
theorem shownSettings_eq_nil_iff {c : RestConfiguration} :
    shownSettings c = [] ↔ ∀ text ∈ c.values, ∀ s, text = some s → Text.isBlank s = true := by
  simp [shownSettings, namedSettings, RestConfiguration.values, List.filterMap_eq_nil_iff, shown]

theorem settingsEvents_configures (g : Generator) : Configures g.rest g.settingsEvents := by
  unfold settingsEvents
  cases g.rest with
  | none => exact .unset
  | some c =>
    rw [Option.map_some, Option.getD_some]
    cases hBlank : c.isBlank with
    | true =>
      rw [configurationEvents, if_pos hBlank]
      exact .empty (isBlank_iff.mp hBlank)
    | false =>
      rw [configurationEvents_of_set hBlank]
      by_cases hShown : ∃ text ∈ c.values, ∃ s, text = some s ∧ Text.isBlank s = false
      · exact .full hShown
      · have hWhite : ∀ text ∈ c.values, ∀ s, text = some s → Text.isBlank s = true := by
          intro text hText s hSome
          by_contra hNot
          exact hShown ⟨text, hText, s, hSome, by simpa using hNot⟩
        rw [shownSettings_eq_nil_iff.mpr hWhite]
        refine .blank hWhite ?_
        -- Something is set, or the block would not have been opened.
        by_contra hNone
        have hEmpty : c.isBlank = true := by
          refine isBlank_iff.mpr fun text hText => ?_
          cases text with
          | none => exact .inl rfl
          | some s =>
            refine .inr (congrArg some ?_)
            by_contra hSet
            exact hNone ⟨s, hText, hSet⟩
        rw [hBlank] at hEmpty
        cases hEmpty

/-! ### The path of the operations -/

/-- The event for the path that all operations are under, by the path as the document has it. -/
inductive Mounts : Except Failure String → List Event → Prop
  /-- The path cannot be made out, and the run ends. -/
  | failed (e : Failure) : Mounts (.error e) []
  | root {raw : String} (h : ∀ c ∈ raw.toList, c = '/') : Mounts (.ok raw) [.bare "rest"]
  | path {raw path : String} {slashes : List Char} (h : raw.toList = path.toList ++ slashes)
      (hSlashes : ∀ c ∈ slashes, c = '/') (hEnd : path.toList.getLast? ≠ some '/')
      (hShown : Text.isBlank path = false) : Mounts (.ok raw) [⟨"rest", .text path⟩]
  /-- The path is white space but for slashes at its end. -/
  | blankPath {raw path : String} {slashes : List Char} (h : raw.toList = path.toList ++ slashes)
      (hSlashes : ∀ c ∈ slashes, c = '/') (hSet : path ≠ "") (hBlank : Text.isBlank path = true) :
      Mounts (.ok raw) [⟨"rest", .text path⟩]

theorem toList_withoutSlashes (raw : String) :
    (withoutSlashes raw).toList = raw.toList.rdropWhile (· == '/') := by
  rw [withoutSlashes, String.toList_ofList]
  rfl

theorem restEvent_mounts (raw : String) :
    Mounts (.ok raw)
      [restEvent (if (withoutSlashes raw).isEmpty then none else some (withoutSlashes raw))] := by
  have hSplit : raw.toList =
      (withoutSlashes raw).toList ++ raw.toList.rtakeWhile (· == '/') := by
    rw [toList_withoutSlashes, List.rdropWhile_append_rtakeWhile]
  have hSlashes : ∀ c ∈ raw.toList.rtakeWhile (· == '/'), c = '/' := by
    intro c hc
    have hSlash := List.mem_rtakeWhile_imp hc
    exact beq_iff_eq.mp hSlash
  cases hEmpty : (withoutSlashes raw).isEmpty with
  | true =>
    refine .root fun c hc => ?_
    have hNil : (withoutSlashes raw).toList = [] := by simpa using hEmpty
    rw [toList_withoutSlashes] at hNil
    exact beq_iff_eq.mp (List.rdropWhile_eq_nil_iff.mp hNil c hc)
  | false =>
    have hSet : withoutSlashes raw ≠ "" := by
      intro hNone
      rw [hNone] at hEmpty
      cases hEmpty
    cases hBlank : Text.isBlank (withoutSlashes raw) with
    | true => exact .blankPath hSplit hSlashes hSet hBlank
    | false =>
      refine .path hSplit hSlashes (fun hLast => ?_) hBlank
      rw [toList_withoutSlashes] at hLast
      obtain ⟨front, hFront⟩ := List.getLast?_eq_some_iff.mp hLast
      have hNot := List.rdropWhile_last_not (· == '/') raw.toList (by simp [hFront])
      simp [hFront] at hNot

/-! ### Whole runs -/

theorem isVerb_of_mem_settingsEvents {g : Generator} {e : Event} (h : e ∈ g.settingsEvents) :
    isVerb e = false := by
  have hNone := List.filter_eq_nil_iff.mp (filter_isVerb_eq_nil (filter_isMark_settingsEvents g)) e h
  simpa using hNone

/-- The operations of a document start with a verb, if there are any. -/
theorem takeWhile_visitPaths (g : Generator) (es : List (Value × Value)) :
    (g.visitPaths es).events.takeWhile (!isVerb ·) = [] := by
  obtain ⟨ps, hps⟩ := g.visitPaths_passages es
  rw [hps.events]
  cases ps with
  | nil => rfl
  | cons p rest =>
    obtain ⟨m, hMethod⟩ := hps.method p List.mem_cons_self
    have hVerb : isVerb ⟨p.method, .text p.op.path⟩ = true := by
      rw [hMethod]
      exact isVerb_verb p.op.path m
    simp [Passage.events, header, hVerb]

/-- Before the first operation a run emits the block of the settings and the event of the path, and
nothing else. -/
theorem generate_preamble (g : Generator) :
    ∃ block mount : List Event,
      g.generate.events.takeWhile (!isVerb ·) = block ++ mount ∧
        Configures g.rest block ∧ Mounts (rawBasePath g.document g.version) mount := by
  have hSettings : ∀ e ∈ g.settingsEvents, (!isVerb e) = true := by
    intro e he
    rw [isVerb_of_mem_settingsEvents he]
    rfl
  cases hRaw : rawBasePath g.document g.version with
  | error e =>
    have hPath : basePath g.document g.version = .error e := by
      rw [basePath, hRaw]
      rfl
    refine ⟨g.settingsEvents, [], ?_, g.settingsEvents_configures, .failed e⟩
    rw [generate_of_badBasePath hPath, List.append_nil]
    exact List.takeWhile_eq_self_iff.mpr hSettings
  | ok raw =>
    have hPath : basePath g.document g.version = .ok
        (if (withoutSlashes raw).isEmpty then none else some (withoutSlashes raw)) := by
      rw [basePath, hRaw]
      rfl
    refine ⟨g.settingsEvents, _, ?_, g.settingsEvents_configures, restEvent_mounts raw⟩
    have hRest (path : Option String) : isVerb (restEvent path) = false := by cases path <;> rfl
    rw [generate_of_basePath hPath, List.takeWhile_append_of_pos hSettings, List.takeWhile_cons,
      hRest, takeWhile_visitPaths]
    rfl

def blankGenerator : Generator :=
  { ofDocument (.ofNamed [("swagger", .str "2.0"), ("basePath", .str " /")]) .swagger with
    rest := some ⟨some "  ", none, none, none⟩ }

/-- A block is opened with nothing in it, and the path that is given is blank. -/
theorem generate_blankGenerator :
    (∀ text ∈ (RestConfiguration.mk (some "  ") none none none).values, shown text = none) ∧
      blankGenerator.rest = some ⟨some "  ", none, none, none⟩ ∧
      (blankGenerator.generate.events.takeWhile (!isVerb ·)).map (·.name) =
        ["restConfiguration", "rest"] ∧
      ∃ e ∈ blankGenerator.generate.events, e.name = "rest" ∧ e.argument ≠ .absent ∧
        e.argument.isEmpty = true := by
  refine ⟨by decide, rfl, by decide +kernel, ?_⟩
  exact ⟨⟨"rest", .text " "⟩, .tail _ (.head _), rfl, nofun, by decide⟩

end RestRoutes.Generator
