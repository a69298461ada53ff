import RestRoutes.Proofs.Visit.Grammar
import RestRoutes.Proofs.Event.Argument
import RestRoutes.Proofs.Generate.Passages
import RestRoutes.Sink.Route

/-! What the events of a run build up.  A field sets the definition that is open and nothing else, a
block adds one parameter to the last operation, and a passage adds one operation at the end.  Only
an event with an integer of too many digits in its argument can be refused. -/

namespace RestRoutes.Sink

/-- The service that events leave behind, whether one of them was refused or not. -/
def Route.ofEvents (events : List Event) : Route := (events.foldl Building.step .start).route

namespace Building

open Api Visit

variable {R : Type}

/-! ### Fields -/

def settingsNames : List String := ["component", "contextPath", "apiContextPath", "host"]

def verbNames : List String := ["id", "description", "consumes", "produces"]

/-- A name of fields only. -/
def IsField (name : String) : Prop :=
  name ≠ "restConfiguration" ∧ name ≠ "rest" ∧ Method.ofName? name = none ∧ name ≠ "param" ∧
    name ≠ "endParam" ∧ name ≠ "to"

instance (name : String) : Decidable (IsField name) :=
  inferInstanceAs (Decidable (_ ∧ _))

theorem take_of_isField (b : Building) {e : Event} (h : IsField e.name) :
    b.take e = ⟨b.setField e.name (plain e.argument), none⟩ := by
  obtain ⟨h1, h2, h3, h4, h5, h6⟩ := h
  simp only [take, if_neg h1, if_neg h2, h3, if_neg h4, if_neg h5, if_neg h6]

theorem step_of_isField (b : Building) {e : Event} (h : IsField e.name) :
    b.step e = b.setField e.name (plain e.argument) := by
  rw [step, take_of_isField b h]

/-! ### Events that are refused -/

def startsVerb (e : Event) : Bool := (Method.ofName? e.name).isSome

/-- An event whose argument is taken as a text. -/
def NeedsText (b : Building) (e : Event) : Prop :=
  e.name = "rest" ∨ startsVerb e = true ∨ e.name = "to" ∧ b.route.verbs ≠ []

/-- An event that is refused. -/
structure Refuses (b : Building) (e : Event) : Prop where
  needsText : NeedsText b e
  hasLong : e.argument.HasLong

theorem defect_withText {b : Building} {text? : Option String} {change : String → Building}
    {d : Defect} :
    (b.withText text? change).defect = some d ↔ d = .longIntegerText ∧ text? = none := by
  cases text? with
  | none => exact ⟨fun h => ⟨(Option.some.inj h).symm, rfl⟩, fun h => congrArg some h.1.symm⟩
  | some text => exact iff_of_false nofun nofun

/-- The start of an operation is no other mark of a stream. -/
theorem ne_mark {e : Event} {m : Method} (hm : Method.ofName? e.name = some m) :
    ∀ mark ∈ ["restConfiguration", "rest", "param", "endParam", "to"], e.name ≠ mark := by
  have hAll : ∀ mark ∈ ["restConfiguration", "rest", "param", "endParam", "to"],
      Method.ofName? mark = none := by decide
  rintro mark hMark hName
  rw [hName, hAll mark hMark] at hm
  cases hm

theorem defect_take_of_needsText {b : Building} {e : Event} {d : Defect} (h : NeedsText b e) :
    (b.take e).defect = some d ↔ d = .longIntegerText ∧ e.argument.HasLong := by
  rw [← Argument.plainText?_eq_none_iff]
  unfold take
  rcases h with hRest | hVerb | ⟨hTo, hOpen⟩
  · rw [if_neg (by rw [hRest]; decide), if_pos hRest]
    dsimp only
    split
    · rename_i hAbsent
      rw [hAbsent]
      exact iff_of_false nofun nofun
    · exact defect_withText
  · obtain ⟨m, hm⟩ := Option.isSome_iff_exists.mp hVerb
    rw [if_neg (ne_mark hm _ (by simp)), if_neg (ne_mark hm _ (by simp)), hm]
    exact defect_withText
  · have hName : Method.ofName? "to" = none := by decide
    simp only [hTo, hName, if_neg (by simpa using hOpen : ¬ b.route.verbs.isEmpty = true)]
    exact defect_withText

theorem defect_take_of_not_needsText {b : Building} {e : Event} (h : ¬ NeedsText b e) :
    (b.take e).defect = none := by
  unfold take
  split
  · rfl
  split
  · exact absurd (.inl ‹_›) h
  split
  · rename_i m hm
    exact absurd (.inr (.inl (Option.isSome_of_eq_some hm))) h
  split
  · rfl
  split
  · rfl
  split
  · rename_i hTo
    split
    · rfl
    · rename_i hOpen
      exact absurd (.inr (.inr ⟨hTo, by simpa using hOpen⟩)) h
  · rfl

/-- Just the events that need a text are refused, if an integer of too many digits stands in it. -/
theorem emit_eq_error_iff {b : Building} {e : Event} {d : Defect} :
    b.emit e = .error d ↔ d = .longIntegerText ∧ Refuses b e := by
  have hDefect : b.emit e = .error d ↔ (b.take e).defect = some d := by
    unfold emit
    cases (b.take e).defect with
    | none => exact iff_of_false nofun nofun
    | some d' => rw [Except.error.injEq, Option.some.injEq]
  rw [hDefect]
  by_cases hNeeds : NeedsText b e
  · rw [defect_take_of_needsText hNeeds]
    exact and_congr_right fun _ => ⟨.mk hNeeds, Refuses.hasLong⟩
  · rw [defect_take_of_not_needsText hNeeds]
    exact iff_of_false nofun fun h => hNeeds h.2.needsText

theorem emit_of_not_refuses {b : Building} {e : Event} (h : ¬ Refuses b e) :
    b.emit e = .ok (b.step e) := by
  cases hEmit : b.emit e with
  | error d => exact absurd (emit_eq_error_iff.mp hEmit).2 h
  | ok after =>
    unfold emit at hEmit
    split at hEmit
    · cases hEmit
    · exact hEmit.symm

/-- Where all arguments can be written, the building of a service goes through. -/
theorem foldlM_emit {es : List Event} (h : ∀ e ∈ es, ¬ e.argument.HasLong) (b : Building) :
    es.foldlM emit b = .ok (es.foldl step b) := by
  induction es generalizing b with
  | nil => rfl
  | cons e rest ih =>
    obtain ⟨hFirst, hRest⟩ := List.forall_mem_cons.mp h
    rw [List.foldlM_cons, emit_of_not_refuses fun hRefused => hFirst hRefused.hasLong, List.foldl_cons]
    exact ih hRest (b.step e)

theorem build_of_not_hasLong {es : List Event} (h : ∀ e ∈ es, ¬ e.argument.HasLong) :
    Route.build es = .ok (Route.ofEvents es) := by
  rw [Route.build, foldlM_emit h]
  rfl

/-! ### Changes -/

/-- An event with a name of some fields sets a field, and one of theirs. -/
theorem exists_change {names : List String} (field? : String → Argument → Option (R → R))
    (hField : ∀ name ∈ names, IsField name)
    (hChange : ∀ name ∈ names, ∀ a, (field? name a).isSome = true) {e : Event}
    (h : e.name ∈ names) :
    ∃ change, field? e.name (plain e.argument) = some change ∧
      ∀ b : Building, b.step e = b.setField e.name (plain e.argument) := by
  obtain ⟨change, hSome⟩ := Option.isSome_iff_exists.mp (hChange _ h (plain e.argument))
  exact ⟨change, hSome, fun b => step_of_isField b (hField _ h)⟩

/-- A definition after an event, which sets the field of that name if there is one. -/
def set (field? : String → Argument → Option (R → R)) (r : R) (e : Event) : R :=
  ((field? e.name (plain e.argument)).getD id) r

/-- The argument of a field after an event with another, which may be empty. -/
def stored (old new : Argument) : Argument := if new.isEmpty then old else plain new

/-- A field that may be left out sets one component of a definition and keeps the others. -/
theorem foldl_set_field {field? : String → Argument → Option (R → R)} (name : String)
    (get : R → Argument) (put : Argument → R → R) (hPut : ∀ a, field? name a = some (put a))
    (hGet : ∀ r, put (get r) r = r) (a : Argument) (r : R) :
    (field name a).foldl (set field?) r = put (stored (get r) a) r := by
  unfold field stored
  cases hEmpty : a.isEmpty with
  | true =>
    have hSame := hGet r
    simpa using hSame.symm
  | false => simp [set, hPut]

/-- Events that each change a part of the state change that part one after another. -/
theorem foldl_part {part : R → Building} {f : R → Event → R} {es : List Event}
    (h : ∀ e ∈ es, ∀ r, step (part r) e = part (f r e)) (r : R) :
    es.foldl step (part r) = part (es.foldl f r) := by
  induction es generalizing r with
  | nil => rfl
  | cons e rest ih =>
    rw [List.foldl_cons, h e (by simp), List.foldl_cons]
    exact ih (fun e he => h e (by simp [he])) _

/-! ### Settings -/

theorem step_settings {e : Event} (h : e.name ∈ settingsNames) (path : Option String)
    (s : Settings) :
    step ⟨⟨path, some s, []⟩, true, none⟩ e =
      ⟨⟨path, some (set settingsField? s e), []⟩, true, none⟩ := by
  obtain ⟨change, hChange, hStep⟩ :=
    exists_change settingsField? (by decide) (by simp [settingsNames, settingsField?]) h
  rw [hStep]
  simp [setField, set, hChange, onSettings]

def settingsOf (c : RestConfiguration) : Settings where
  component := stored .null (optional c.component)
  contextPath := stored .null (optional c.contextPath)
  apiContextPath := stored .null (optional c.apiContextPath)
  host := stored .null (optional c.host)

/-- What settings say, be it empty or not. -/
def settingsValues (c : RestConfiguration) : List Event :=
  [⟨"component", optional c.component⟩, ⟨"contextPath", optional c.contextPath⟩,
    ⟨"apiContextPath", optional c.apiContextPath⟩, ⟨"host", optional c.host⟩]

theorem configurationEvents_of_not_isBlank {c : RestConfiguration} (h : c.isBlank = false) :
    Generator.configurationEvents c = .bare "restConfiguration" :: filled (settingsValues c) := by
  simp only [Generator.configurationEvents, h, Bool.false_eq_true, if_false, settingsValues,
    filled_cons, filled_nil, List.append_assoc, List.append_nil]

theorem name_of_mem_settingsEvents {g : Generator} {e : Event} (h : e ∈ g.settingsEvents) :
    e.name ∈ "restConfiguration" :: settingsNames := by
  unfold Generator.settingsEvents at h
  cases hRest : g.rest with
  | none => simp [hRest] at h
  | some c =>
    simp only [hRest, Option.map_some, Option.getD_some] at h
    cases hBlank : c.isBlank with
    | true => simp [Generator.configurationEvents, hBlank] at h
    | false =>
      rw [configurationEvents_of_not_isBlank hBlank] at h
      rcases List.mem_cons.mp h with rfl | hField
      · exact List.mem_cons_self
      · exact List.mem_cons_of_mem _ (List.mem_map_of_mem (List.mem_filter.mp hField).1)

theorem foldl_settingsValues (c : RestConfiguration) :
    (filled (settingsValues c)).foldl (set settingsField?) .none = settingsOf c := by
  simp only [settingsValues, filled_cons, List.foldl_append]
  rw [foldl_set_field "component" Settings.component (fun a s => { s with component := a })
      (fun _ => rfl) (fun _ => rfl),
    foldl_set_field "contextPath" Settings.contextPath (fun a s => { s with contextPath := a })
      (fun _ => rfl) (fun _ => rfl),
    foldl_set_field "apiContextPath" Settings.apiContextPath
      (fun a s => { s with apiContextPath := a }) (fun _ => rfl) (fun _ => rfl),
    foldl_set_field "host" Settings.host (fun a s => { s with host := a }) (fun _ => rfl)
      (fun _ => rfl)]
  rfl

/-- The settings that a run leaves, if it sets any. -/
def settings? (rest : Option RestConfiguration) : Option Settings :=
  (rest.filter fun c => !c.isBlank).map settingsOf

/-- The events up to the operations leave the settings and the path, and nothing open. -/
theorem foldl_preamble (g : Generator) (path : Option String) :
    (g.settingsEvents ++ [Generator.restEvent path]).foldl step start =
      ⟨⟨path, settings? g.rest, []⟩, false, none⟩ := by
  have hRest : ∀ (s : Option Settings) (settingsOpen : Bool),
      step ⟨⟨none, s, []⟩, settingsOpen, none⟩ (Generator.restEvent path) =
        ⟨⟨path, s, []⟩, false, none⟩ := by
    intro s settingsOpen
    cases path <;> rfl
  rw [List.foldl_append, List.foldl_cons, List.foldl_nil]
  unfold Generator.settingsEvents
  cases g.rest with
  | none => exact hRest none false
  | some c =>
    simp only [Option.map_some, Option.getD_some]
    cases hBlank : c.isBlank with
    | true =>
      have hNone : settings? (some c) = none := by simp [settings?, Option.filter, hBlank]
      have hEvents : Generator.configurationEvents c = [] := by
        simp [Generator.configurationEvents, hBlank]
      rw [hNone, hEvents]
      exact hRest none false
    | false =>
      have hSome : settings? (some c) = some (settingsOf c) := by
        simp [settings?, Option.filter, hBlank]
      have hNames : ∀ e ∈ filled (settingsValues c), e.name ∈ settingsNames :=
        fun e he => List.mem_map_of_mem (List.mem_filter.mp he).1
      have hFields := foldl_part (fun e he => step_settings (hNames e he) none) Settings.none
      rw [configurationEvents_of_not_isBlank hBlank, hSome, ← foldl_settingsValues, ← hRest _ true,
        ← hFields]
      rfl

/-! ### Parameters -/

theorem step_param {e : Event} (h : e.name ∈ blockNames) (route : Route) (settingsOpen : Bool)
    (p : Param) :
    step ⟨route, settingsOpen, some p⟩ e =
      ⟨route, settingsOpen, some (set paramField? p e)⟩ := by
  obtain ⟨change, hChange, hStep⟩ :=
    exists_change paramField? (by decide) (by simp [blockNames, paramField?]) h
  rw [hStep]
  simp [setField, set, hChange]

def paramOf (d : Descriptor) : Param where
  name := stored .null (.text d.name)
  type := stored .null ((d.location.map Argument.location).getD .null)
  dataType := stored .null (optional d.dataType)
  allowableValues := stored (.list []) (.texts d.allowableValues)
  collectionFormat := stored .null ((d.collectionFormat.map Argument.format).getD .null)
  defaultValue := stored .null (optional d.defaultValue)
  arrayType := stored .null (optional d.arrayType)
  required := .bool d.required
  description := stored .null (optional d.description)

theorem foldl_blockFields (d : Descriptor) :
    (blockFields d).foldl (set paramField?) .none = paramOf d := by
  simp only [blockFields_eq, blockValues, filled_cons, List.foldl_append]
  rw [foldl_set_field "name" Param.name (fun a p => { p with name := a }) (fun _ => rfl)
      (fun _ => rfl),
    foldl_set_field "type" Param.type (fun a p => { p with type := a }) (fun _ => rfl)
      (fun _ => rfl),
    foldl_set_field "dataType" Param.dataType (fun a p => { p with dataType := a })
      (fun _ => rfl) (fun _ => rfl),
    foldl_set_field "allowableValues" Param.allowableValues
      (fun a p => { p with allowableValues := a }) (fun _ => rfl) (fun _ => rfl),
    foldl_set_field "collectionFormat" Param.collectionFormat
      (fun a p => { p with collectionFormat := a }) (fun _ => rfl) (fun _ => rfl),
    foldl_set_field "defaultValue" Param.defaultValue (fun a p => { p with defaultValue := a })
      (fun _ => rfl) (fun _ => rfl),
    foldl_set_field "arrayType" Param.arrayType (fun a p => { p with arrayType := a })
      (fun _ => rfl) (fun _ => rfl),
    foldl_set_field "required" Param.required (fun a p => { p with required := a })
      (fun _ => rfl) (fun _ => rfl),
    foldl_set_field "description" Param.description (fun a p => { p with description := a })
      (fun _ => rfl) (fun _ => rfl)]
  rfl

/-! ### Operations -/

theorem onLastVerb_append (f : Verb → Verb) (vs : List Verb) (v : Verb) :
    onLastVerb f (vs ++ [v]) = vs ++ [f v] := by
  induction vs with
  | nil => rfl
  | cons w rest ih =>
    -- What follows `w` is not empty, so the change is made further on.
    obtain ⟨u, us, hTail⟩ : ∃ u us, rest ++ [v] = u :: us := by
      cases rest with
      | nil => exact ⟨v, [], rfl⟩
      | cons u us => exact ⟨u, us ++ [v], rfl⟩
    rw [List.cons_append, hTail, onLastVerb, ← hTail, ih, List.cons_append]
    simp

theorem step_verb {e : Event} (h : e.name ∈ verbNames) (path : Option String)
    (s : Option Settings) (vs : List Verb) (v : Verb) (settingsOpen : Bool) :
    step ⟨⟨path, s, vs ++ [v]⟩, settingsOpen, none⟩ e =
      ⟨⟨path, s, vs ++ [set verbField? v e]⟩, settingsOpen, none⟩ := by
  obtain ⟨change, hChange, hStep⟩ :=
    exists_change verbField? (by decide) (by simp [verbNames, verbField?]) h
  have hOpen : ∃ w ws, vs ++ [v] = w :: ws := by
    cases vs with
    | nil => exact ⟨v, [], rfl⟩
    | cons w ws => exact ⟨w, ws ++ [v], rfl⟩
  obtain ⟨w, ws, hOpen⟩ := hOpen
  -- No parameter is open, so `description` is taken for the operation.
  rw [hStep]
  simp only [setField, set, hChange, hOpen, Option.getD_some]
  simp [onVerb, ← hOpen, onLastVerb_append]

/-- A block adds the parameter that it describes to the last operation. -/
theorem foldl_block (d : Descriptor) (path : Option String) (s : Option Settings) (vs : List Verb)
    (v : Verb) (settingsOpen : Bool) :
    (block d).foldl step ⟨⟨path, s, vs ++ [v]⟩, settingsOpen, none⟩ =
      ⟨⟨path, s, vs ++ [{ v with params := v.params ++ [paramOf d] }]⟩, settingsOpen, none⟩ := by
  have hNames : ∀ e ∈ blockFields d, e.name ∈ blockNames :=
    fun e he => (blockFields_names d).subset (List.mem_map_of_mem he)
  have hFields := foldl_part
    (fun e he => step_param (hNames e he) ⟨path, s, vs ++ [v]⟩ settingsOpen) Param.none
  rw [foldl_blockFields] at hFields
  have hOpen : step ⟨⟨path, s, vs ++ [v]⟩, settingsOpen, none⟩ (.bare "param") =
      ⟨⟨path, s, vs ++ [v]⟩, settingsOpen, some .none⟩ := rfl
  have hClose : step ⟨⟨path, s, vs ++ [v]⟩, settingsOpen, some (paramOf d)⟩ (.bare "endParam") =
      ⟨⟨path, s, vs ++ [{ v with params := v.params ++ [paramOf d] }]⟩, settingsOpen, none⟩ := by
    rw [← onLastVerb_append (fun v => { v with params := v.params ++ [paramOf d] })]
    rfl
  rw [block, List.foldl_cons, hOpen, List.foldl_append, hFields, List.foldl_cons, hClose,
    List.foldl_nil]

theorem foldl_blocks (ds : List Descriptor) (path : Option String) (s : Option Settings)
    (vs : List Verb) (v : Verb) (settingsOpen : Bool) :
    (ds.flatMap block).foldl step ⟨⟨path, s, vs ++ [v]⟩, settingsOpen, none⟩ =
      ⟨⟨path, s, vs ++ [{ v with params := v.params ++ ds.map paramOf }]⟩, settingsOpen, none⟩ := by
  induction ds generalizing v with
  | nil => simp
  | cons d rest ih =>
    rw [List.flatMap_cons, List.foldl_append, foldl_block, ih]
    simp

/-! ### Passages -/

def verbOf (p : Passage) : Verb where
  method := (Method.ofName? p.method).getD .get
  path := p.op.path
  id := stored .null (optional p.op.id?)
  description := stored .null (optional p.op.description?)
  consumes := stored (.list []) (.texts p.op.consumes)
  produces := stored (.list []) (.texts p.op.produces)
  params := p.blocks.map paramOf
  target := p.target.bind Argument.plainText?

theorem foldl_headerFields (op : Operation) (v : Verb) :
    (headerFields op).foldl (set verbField?) v =
      { v with
        id := stored v.id (optional op.id?)
        description := stored v.description (optional op.description?)
        consumes := stored v.consumes (.texts op.consumes)
        produces := stored v.produces (.texts op.produces) } := by
  simp only [headerFields, headerValues, filled_cons, List.foldl_append]
  rw [foldl_set_field "id" Verb.id (fun a v => { v with id := a }) (fun _ => rfl) (fun _ => rfl),
    foldl_set_field "description" Verb.description (fun a v => { v with description := a })
      (fun _ => rfl) (fun _ => rfl),
    foldl_set_field "consumes" Verb.consumes (fun a v => { v with consumes := a }) (fun _ => rfl)
      (fun _ => rfl),
    foldl_set_field "produces" Verb.produces (fun a v => { v with produces := a }) (fun _ => rfl)
      (fun _ => rfl)]
  rfl

/-- The destination of the last operation, which had none before. -/
theorem step_to (path : Option String) (s : Option Settings) (vs : List Verb) (v : Verb)
    {t : Argument} (h : v.target = none) : step ⟨⟨path, s, vs ++ [v]⟩, false, none⟩ ⟨"to", t⟩ =
      ⟨⟨path, s, vs ++ [{ v with target := t.plainText? }]⟩, false, none⟩ := by
  have hOpen : (vs ++ [v]).isEmpty = false := by cases vs <;> rfl
  have hTake (b : Building) : b.take ⟨"to", t⟩ = if b.route.verbs.isEmpty then ⟨b, none⟩ else
      b.withText t.plainText? fun target => b.onVerb fun v => { v with target := some target } := rfl
  rw [step, hTake, if_neg (by simp [hOpen])]
  cases hText : t.plainText? with
  | none => rw [withText, ← h]
  | some text =>
    rw [← onLastVerb_append (fun v => { v with target := some text })]
    rfl

/-- A passage adds the operation that it describes, and leaves nothing else open. -/
theorem foldl_passage {p : Passage} {m : Method} (hMethod : p.method = m.name)
    (path : Option String) (s : Option Settings) (vs : List Verb) :
    p.events.foldl step ⟨⟨path, s, vs⟩, false, none⟩ =
      ⟨⟨path, s, vs ++ [verbOf p]⟩, false, none⟩ := by
  have hName : Method.ofName? m.name = some m := by cases m <;> decide
  have hStart : step ⟨⟨path, s, vs⟩, false, none⟩ ⟨m.name, .text p.op.path⟩ =
      ⟨⟨path, s, vs ++ [.start m p.op.path]⟩, false, none⟩ := by
    cases m <;> rfl
  have hNames : ∀ e ∈ headerFields p.op, e.name ∈ verbNames :=
    fun e he => List.mem_map_of_mem (List.mem_filter.mp he).1
  have hHeader := foldl_part
    (fun e he v => step_verb (hNames e he) path s vs v false) (.start m p.op.path)
  rw [Passage.events, hMethod, header_eq, List.foldl_append, List.foldl_cons, hStart, hHeader,
    List.foldl_append, foldl_blocks, foldl_headerFields]
  cases ht : p.target with
  | none => simp [verbOf, hMethod, hName, ht, Verb.start]
  | some t => simp [verbOf, hMethod, hName, ht, Verb.start, step_to]

theorem foldl_passages {ps : List Passage} (h : ∀ p ∈ ps, ∃ m : Method, p.method = m.name)
    (path : Option String) (s : Option Settings) (vs : List Verb) :
    (ps.flatMap Passage.events).foldl step ⟨⟨path, s, vs⟩, false, none⟩ =
      ⟨⟨path, s, vs ++ ps.map verbOf⟩, false, none⟩ := by
  induction ps generalizing vs with
  | nil => simp
  | cons p rest ih =>
    obtain ⟨m, hMethod⟩ := h p (by simp)
    rw [List.flatMap_cons, List.foldl_append, foldl_passage hMethod,
      ih (fun q hq => h q (by simp [hq]))]
    simp

/-- The service that a run describes, once it has come to its operations. -/
theorem ofEvents_of_basePath {g : Generator} {path : Option String} {ps : List Passage}
    (h : Generator.basePath g.document g.version = .ok path)
    (hps : Passages g.destination (g.visitPaths (Builder.paths g.document)) ps) :
    Route.ofEvents g.generate.events = ⟨path, settings? g.rest, ps.map verbOf⟩ := by
  rw [Generator.generate_of_basePath h, Route.ofEvents]
  simp only [hps.events]
  rw [List.append_cons, List.foldl_append, foldl_preamble, foldl_passages hps.method,
    List.nil_append]

end Building

end RestRoutes.Sink
