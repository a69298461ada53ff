import RestRoutes.Proofs.Event.Argument
import RestRoutes.Proofs.Generate.Passages

/-! The words of a generator.  The name of an event tells the shape of its argument, and whatever a
document says, every event of a run has a name of the vocabulary and an argument of its shape. -/

namespace RestRoutes

open Api Visit

/-- What an event may carry. -/
inductive Shape
  | text
  | texts
  | flag
  | location
  | format
deriving DecidableEq, Repr

/-- The names of events with the shapes of their arguments. -/
def vocabulary : List (String × Shape) :=
  [("restConfiguration", .text), ("component", .text), ("contextPath", .text),
    ("apiContextPath", .text), ("host", .text), ("rest", .text)] ++
  Method.all.map (fun m => (m.name, .text)) ++
  [("id", .text), ("description", .text), ("consumes", .texts), ("produces", .texts),
    ("param", .text), ("name", .text), ("type", .location), ("dataType", .text),
    ("allowableValues", .texts), ("collectionFormat", .format), ("defaultValue", .text),
    ("arrayType", .text), ("required", .flag), ("endParam", .text), ("to", .text)]

namespace Shape

/-- The shape of the arguments under a name. -/
def ofName (name : String) : Shape :=
  ((vocabulary.find? fun word => word.1 == name).map (·.2)).getD .text

/-- An argument has a shape. Texts may be missing, and lists of them are not empty. -/
inductive Fits : Shape → Argument → Prop
  | absent : Fits .text .absent
  | text (s : String) : Fits .text (.text s)
  | texts {ss : List String} (h : ss ≠ []) : Fits .texts (.texts ss)
  | flag (b : Bool) : Fits .flag (.bool b)
  | location (l : Location) : Fits .location (.location l)
  | format (f : CollectionFormat) : Fits .format (.format f)

/-- There are no integers in the arguments of any shape. -/
theorem Fits.not_hasLong {shape : Shape} {a : Argument} (h : shape.Fits a) : ¬ a.HasLong := by
  intro hLong
  cases h with
  | texts =>
    obtain ⟨x, hx, hText⟩ := Argument.hasLong_list_iff.mp hLong
    obtain ⟨s, -, rfl⟩ := List.mem_map.mp hx
    cases hText
  | _ => cases hLong

theorem ofName_of_mem {name : String} {shape : Shape} (h : (name, shape) ∈ vocabulary) :
    ofName name = shape := by
  have hAll : ∀ word ∈ vocabulary, ofName word.1 = word.2 := by decide
  exact hAll _ h

theorem fits_optional {text : Option String} (h : (Visit.optional text).isEmpty = false) :
    Fits .text (Visit.optional text) := by
  cases text with
  | none => cases h
  | some s => exact .text s

theorem fits_texts {ss : List String} (h : (Argument.texts ss).isEmpty = false) :
    Fits .texts (.texts ss) := by
  refine .texts ?_
  rintro rfl
  cases h

theorem fits_location {l : Option Location}
    (h : ((l.map Argument.location).getD .null).isEmpty = false) :
    Fits .location ((l.map Argument.location).getD .null) := by
  cases l with
  | none => cases h
  | some l => exact .location l

theorem fits_format {f : Option CollectionFormat}
    (h : ((f.map Argument.format).getD .null).isEmpty = false) :
    Fits .format ((f.map Argument.format).getD .null) := by
  cases f with
  | none => cases h
  | some f => exact .format f

end Shape

def Event.Spoken (e : Event) : Prop :=
  ∃ shape : Shape, (e.name, shape) ∈ vocabulary ∧ shape.Fits e.argument

namespace Event.Spoken

theorem fits {e : Event} (h : e.Spoken) : (Shape.ofName e.name).Fits e.argument := by
  obtain ⟨shape, hWord, hFits⟩ := h
  rw [Shape.ofName_of_mem hWord]
  exact hFits

theorem not_hasLong {e : Event} (h : e.Spoken) : ¬ e.argument.HasLong := h.fits.not_hasLong

theorem isAlpha {e : Event} (h : e.Spoken) : ∀ c ∈ e.name.toList, c.isAlpha = true := by
  have hAll : vocabulary.all (fun word => word.1.toList.all Char.isAlpha) = true := by decide
  obtain ⟨shape, hWord, -⟩ := h
  exact List.all_eq_true.mp (List.all_eq_true.mp hAll _ hWord)

theorem bare {name : String} (h : (name, .text) ∈ vocabulary) : (Event.bare name).Spoken :=
  ⟨.text, h, .absent⟩

theorem text {name : String} (h : (name, .text) ∈ vocabulary) (s : String) :
    (Event.mk name (.text s)).Spoken :=
  ⟨.text, h, .text s⟩

theorem flag {name : String} (h : (name, .flag) ∈ vocabulary) (b : Bool) :
    (Event.mk name (.bool b)).Spoken :=
  ⟨.flag, h, .flag b⟩

theorem field {name : String} {shape : Shape} {a : Argument} (h : (name, shape) ∈ vocabulary)
    (hFits : a.isEmpty = false → shape.Fits a) : ∀ e ∈ Visit.field name a, e.Spoken := by
  intro e he
  unfold Visit.field at he
  split at he
  · cases he
  · rename_i hFull
    obtain rfl := List.mem_singleton.mp he
    exact ⟨shape, h, hFits (by simpa using hFull)⟩

theorem optional {name : String} (h : (name, .text) ∈ vocabulary) (text : Option String) :
    ∀ e ∈ Visit.field name (Visit.optional text), e.Spoken :=
  field h Shape.fits_optional

theorem texts {name : String} (h : (name, .texts) ∈ vocabulary) (ss : List String) :
    ∀ e ∈ Visit.field name (.texts ss), e.Spoken :=
  field h Shape.fits_texts

end Event.Spoken

/-! ### Operations -/

theorem Visit.blockFields_spoken (d : Descriptor) : ∀ e ∈ blockFields d, e.Spoken := by
  simp only [blockFields, List.forall_mem_append, List.forall_mem_cons]
  exact ⟨⟨⟨⟨⟨⟨⟨.field (by decide) fun _ => .text d.name, .field (by decide) Shape.fits_location⟩,
    .optional (by decide) d.dataType⟩, .texts (by decide) d.allowableValues⟩,
    .field (by decide) Shape.fits_format⟩, .optional (by decide) d.defaultValue⟩,
    .optional (by decide) d.arrayType⟩, .flag (by decide) d.required,
    .optional (by decide) d.description⟩

theorem Visit.block_spoken (d : Descriptor) : ∀ e ∈ block d, e.Spoken := by
  simp only [block, List.forall_mem_append, List.forall_mem_cons, List.not_mem_nil]
  exact ⟨.bare (by decide), blockFields_spoken d, .bare (by decide), by simp⟩

theorem Visit.header_spoken (m : Method) (op : Operation) :
    ∀ e ∈ header m.name op, e.Spoken := by
  have hMethod : (m.name, Shape.text) ∈ vocabulary := by cases m <;> decide
  simp only [header, List.forall_mem_append, List.forall_mem_cons]
  exact ⟨.text hMethod op.path, ⟨⟨.optional (by decide) op.id?,
    .optional (by decide) op.description?⟩, .texts (by decide) op.consumes⟩,
    .texts (by decide) op.produces⟩

/-- A template gives texts only. -/
theorem Destination.Template.destination_text {t : Template} {op : Operation} {a : Argument}
    (h : (t.destination op).outcome = .ok a) : ∃ s, a = .text s := by
  unfold destination at h
  split at h
  · cases h
    exact ⟨_, rfl⟩
  · obtain ⟨name, -, h⟩ := Logged.bind_eq_ok.mp h
    obtain ⟨-, -, h⟩ := Logged.bind_eq_ok.mp h
    cases h
    exact ⟨_, rfl⟩

theorem Visit.Passage.spoken {p : Passage} {m : Method} (hMethod : p.method = m.name)
    (hTarget : ∀ t, p.target = some t → ∃ s, t = .text s) : ∀ e ∈ p.events, e.Spoken := by
  intro e he
  simp only [events, hMethod, List.mem_append, List.mem_flatMap, Option.mem_toList,
    Option.map_eq_some_iff] at he
  obtain he | ⟨d, -, he⟩ | ⟨t, ht, rfl⟩ := he
  · exact header_spoken m p.op e he
  · exact block_spoken d e he
  · obtain ⟨s, rfl⟩ := hTarget t ht
    exact .text (by decide) s

/-! ### Runs -/

namespace Generator

theorem configurationEvents_spoken (c : RestConfiguration) :
    ∀ e ∈ configurationEvents c, e.Spoken := by
  unfold configurationEvents
  split
  · simp
  · simp only [List.forall_mem_append, List.forall_mem_cons]
    exact ⟨.bare (by decide), ⟨⟨.optional (by decide) c.component,
      .optional (by decide) c.contextPath⟩, .optional (by decide) c.apiContextPath⟩,
      .optional (by decide) c.host⟩

theorem settingsEvents_spoken (g : Generator) : ∀ e ∈ g.settingsEvents, e.Spoken := by
  unfold settingsEvents
  cases g.rest with
  | none => simp
  | some c => exact configurationEvents_spoken c

theorem restEvent_spoken (path : Option String) : (restEvent path).Spoken := by
  cases path with
  | none => exact .bare (by decide)
  | some path => exact .text (by decide) path

def routedTo (g : Generator) (t : Destination.Template) : Generator :=
  { g with destination := t.destination }

theorem visitPaths_spoken (g : Generator) (t : Destination.Template)
    (entries : List (Value × Value)) :
    ∀ e ∈ ((g.routedTo t).visitPaths entries).events, e.Spoken := by
  obtain ⟨ps, hps⟩ := (g.routedTo t).visitPaths_passages entries
  intro e he
  rw [hps.events] at he
  obtain ⟨p, hp, he⟩ := List.mem_flatMap.mp he
  obtain ⟨m, hMethod⟩ := hps.method p hp
  exact Visit.Passage.spoken hMethod
    (fun a ha => Destination.Template.destination_text (hps.target p hp a ha)) e he

/-- Every event of a run is of the vocabulary. -/
theorem generate_spoken (g : Generator) (t : Destination.Template) :
    ∀ e ∈ (g.routedTo t).generate.events, e.Spoken := by
  cases hPath : basePath (g.routedTo t).document (g.routedTo t).version with
  | error e =>
    rw [generate_of_badBasePath hPath]
    exact settingsEvents_spoken _
  | ok path =>
    rw [generate_of_basePath hPath]
    simp only [List.forall_mem_append, List.forall_mem_cons]
    exact ⟨settingsEvents_spoken _, restEvent_spoken path, visitPaths_spoken g t _⟩

end Generator

end RestRoutes
