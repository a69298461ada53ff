import RestRoutes.Proofs.Descriptor
import RestRoutes.Proofs.Destination
import RestRoutes.Proofs.Visit.Grammar

/-! Visits that fail.  A visit fails at a parameter or at the destination, and what it leaves behind is
the header and the whole blocks of the parameters before: a block is not begun before its parameter
is described. -/

namespace RestRoutes.Visit

open Api

/-! ### Marks of blocks -/

/-- Every block is closed before another is opened, and none stays open. -/
def isBalanced : (inside : Bool) → List Event → Bool
  | inside, [] => !inside
  | inside, e :: rest =>
    if e.name == "param" then !inside && isBalanced true rest
    else if e.name == "endParam" then inside && isBalanced false rest
    else isBalanced inside rest

/-- The names of the events that open, close and end. -/
def markNames : List String := ["param", "endParam", "to"]

theorem isBalanced_param (inside : Bool) (rest : List Event) :
    isBalanced inside (.bare "param" :: rest) = (!inside && isBalanced true rest) := by
  simp [isBalanced, Event.bare]

theorem isBalanced_endParam (inside : Bool) (rest : List Event) :
    isBalanced inside (.bare "endParam" :: rest) = (inside && isBalanced false rest) := by
  simp [isBalanced, Event.bare]

theorem isBalanced_append {plain : List Event} (h : ∀ e ∈ plain, e.name ∉ markNames)
    (inside : Bool) (rest : List Event) :
    isBalanced inside (plain ++ rest) = isBalanced inside rest := by
  induction plain with
  | nil => rfl
  | cons e plain ih =>
    have hMark := h e List.mem_cons_self
    have hOthers := ih fun e he => h e (List.mem_cons_of_mem _ he)
    simp only [markNames, List.mem_cons, List.not_mem_nil, or_false, not_or] at hMark
    simp [isBalanced, hMark, hOthers]

theorem blockFields_unmarked (d : Descriptor) : ∀ e ∈ blockFields d, e.name ∉ markNames := by
  intro e he
  have hName : e.name ∈ blockNames := (blockFields_names d).subset (List.mem_map_of_mem he)
  intro hMark
  have hDisjoint : ∀ name ∈ blockNames, name ∉ markNames := by decide
  exact hDisjoint e.name hName hMark

theorem header_unmarked (m : Method) (op : Operation) :
    ∀ e ∈ header m.name op, e.name ∉ markNames := by
  intro e he
  rw [header_eq] at he
  rcases List.mem_cons.mp he with rfl | he
  · show m.name ∉ markNames
    cases m <;> decide
  · have hName : e.name ∈ ["id", "description", "consumes", "produces"] :=
      List.mem_map_of_mem (f := Event.name) (List.mem_filter.mp he).1
    have hDisjoint : ∀ name ∈ ["id", "description", "consumes", "produces"], name ∉ markNames := by
      decide
    exact hDisjoint e.name hName

theorem isBalanced_blocks (ds : List Descriptor) : isBalanced false (ds.flatMap block) = true := by
  induction ds with
  | nil => rfl
  | cons d rest ih =>
    have hBlock : (d :: rest).flatMap block =
        .bare "param" :: (blockFields d ++ .bare "endParam" :: rest.flatMap block) := by
      simp [block]
    rw [hBlock, isBalanced_param, isBalanced_append (blockFields_unmarked d), isBalanced_endParam,
      ih]
    rfl

theorem not_to_of_mem_block {d : Descriptor} {e : Event} (h : e ∈ block d) : e.name ≠ "to" := by
  simp only [block, List.mem_cons, List.mem_append, List.not_mem_nil, or_false] at h
  rcases h with rfl | h | rfl
  · decide
  · intro hTo
    apply blockFields_unmarked d e h
    simp [hTo, markNames]
  · decide

/-- A header and whole blocks: balanced, and without a destination. -/
theorem clean_prefix (m : Method) (op : Operation) (ds : List Descriptor) :
    isBalanced false (header m.name op ++ ds.flatMap block) = true ∧
      ∀ e ∈ header m.name op ++ ds.flatMap block, e.name ≠ "to" := by
  constructor
  · rw [isBalanced_append (header_unmarked m op)]
    exact isBalanced_blocks ds
  · intro e he
    rcases List.mem_append.mp he with he | he
    · intro hTo
      apply header_unmarked m op e he
      simp [hTo, markNames]
    · obtain ⟨d, -, hMem⟩ := List.mem_flatMap.mp he
      exact not_to_of_mem_block hMem

/-! ### What declared parameters come to -/

/-- The parameter is said to be taken from a place, and there is no such place. -/
def Declaration.Misplaced (d : Declaration) : Prop :=
  d.location ≠ "" ∧ d.location ∉ Location.all.map Location.name

instance (d : Declaration) : Decidable d.Misplaced :=
  inferInstanceAs (Decidable (_ ∧ _))

theorem ofName?_eq_none_iff {name : String} :
    Location.ofName? name = none ↔ name ∉ Location.all.map Location.name := by
  simp [Location.ofName?, List.find?_eq_none]

theorem locationNamed_of_misplaced {d : Declaration} (h : d.Misplaced) :
    Descriptor.locationNamed d.location d.name = .error (.refusal (.location d.location d.name)) := by
  have hNot : d.location.isEmpty = false := by simpa [String.isEmpty_iff] using h.1
  have hNone := ofName?_eq_none_iff.mpr h.2
  simp [Descriptor.locationNamed, hNot, hNone]

theorem locationNamed_of_not_misplaced {d : Declaration} (h : ¬d.Misplaced) :
    ∃ l, Descriptor.locationNamed d.location d.name = .ok l := by
  unfold Descriptor.locationNamed
  split
  · exact ⟨_, rfl⟩
  · rename_i hNamed
    split
    · exact ⟨_, rfl⟩
    · rename_i hNone
      have hPlace : d.location ≠ "" := by simpa [String.isEmpty_iff] using hNamed
      exact absurd ⟨hPlace, ofName?_eq_none_iff.mp hNone⟩ h

/-- What a declared parameter of an operation comes to: misplaced, it is refused; otherwise nothing but
an integer of too many digits keeps it from being described. -/
structure ComesTo (op : Operation) (d : Declaration) (p : Logged Descriptor) : Prop where
  refused : d.Misplaced → p.outcome = .error (.refusal (.location d.location d.name))
  described : ¬d.Misplaced → Readable op.Textual p.outcome

theorem comesTo_placed {op : Operation} {d : Declaration} {typing : Logged Descriptor.Typing}
    (h : Readable op.Textual typing.outcome) :
    ComesTo op d (Descriptor.placed d.location d.name typing d.required d.description) := by
  constructor
  · intro hMisplaced
    exact Descriptor.placed_of_error (locationNamed_of_misplaced hMisplaced)
  · intro hPlaced
    obtain ⟨l, hl⟩ := locationNamed_of_not_misplaced hPlaced
    exact Descriptor.placed_reads h hl

theorem comesTo_ofOperation (op : Operation) :
    List.Forall₂ (ComesTo op) (declarations op) (Descriptor.ofOperation op) := by
  cases op with
  | swagger op =>
    rw [declarations, Descriptor.ofOperation, List.forall₂_map_left_iff, List.forall₂_map_right_iff,
      List.forall₂_same]
    intro p hp
    have hTyping := (Descriptor.swaggerTyping_reads p).mono
      fun h : (Operation.swagger op).Textual => h p hp
    exact comesTo_placed (d := ⟨p.name, p.location, p.required, p.description⟩) hTyping
  | openApi op =>
    rw [declarations, Descriptor.ofOperation, List.forall₂_map_left_iff, List.forall₂_map_right_iff,
      List.forall₂_same]
    intro p hp
    have hTyping := (Descriptor.openApiTyping_reads p).mono
      fun h : (Operation.openApi op).Textual => h p hp
    exact comesTo_placed (d := ⟨p.name, p.location, p.required, p.description⟩) hTyping

/-! ### The first parameter that fails -/

/-- An operation fails at a parameter: none before it is misplaced and all before it are described. -/
structure FailsAt (op : Operation) (before : List Declaration) (d : Declaration) (e : Failure) :
    Prop where
  before : ∀ b ∈ before, ¬b.Misplaced
  cause : d.Misplaced ∧ e = .refusal (.location d.location d.name) ∨
    ¬d.Misplaced ∧ e = .defect .longIntegerText ∧ ¬op.Textual

theorem emitParameters_fails {op : Operation} {ds : List Declaration} {ps : List (Logged Descriptor)}
    (h : List.Forall₂ (ComesTo op) ds ps) {e : Failure}
    (hError : (emitParameters ps).outcome = .error e) :
    ∃ before d after, ds = before ++ d :: after ∧ FailsAt op before d e ∧
      (leading ps).length = before.length := by
  -- The parameters are read one at a time, so what fails is the head or in the tail.
  induction h with
  | nil => cases hError
  | @cons d p ds ps hHead hTail ih =>
    cases hp : p.outcome with
    | ok descriptor =>
      have hPlaced : ¬d.Misplaced := by
        intro hMisplaced
        rw [hHead.refused hMisplaced] at hp
        cases hp
      rw [emitParameters_cons_of_ok hp] at hError
      obtain ⟨before, first, after, rfl, hFails, hLength⟩ := ih hError
      have hBefore : ∀ b ∈ d :: before, ¬b.Misplaced :=
        List.forall_mem_cons.mpr ⟨hPlaced, hFails.before⟩
      refine ⟨d :: before, first, after, rfl, ⟨hBefore, hFails.cause⟩, ?_⟩
      simp [leading, hp, hLength]
    | error failure =>
      rw [emitParameters_cons_of_error hp] at hError
      obtain rfl := Except.error.inj hError
      refine ⟨[], d, ds, rfl, ⟨List.forall_mem_nil _, ?_⟩, by simp [leading, hp]⟩
      by_cases hMisplaced : d.Misplaced
      · rw [hHead.refused hMisplaced] at hp
        exact .inl ⟨hMisplaced, (Except.error.inj hp).symm⟩
      · have hLong := (hHead.described hMisplaced).failure failure hp
        exact .inr ⟨hMisplaced, hLong.1, hLong.2⟩

theorem not_misplaced_of_described {op : Operation} {ds : List Declaration}
    {ps : List (Logged Descriptor)} (h : List.Forall₂ (ComesTo op) ds ps)
    (hOk : (emitParameters ps).outcome = .ok ()) : ∀ d ∈ ds, ¬d.Misplaced := by
  induction h with
  | nil => simp
  | @cons d p ds ps hHead hTail ih =>
    cases hp : p.outcome with
    | ok descriptor =>
      rw [emitParameters_cons_of_ok hp] at hOk
      refine List.forall_mem_cons.mpr ⟨fun hMisplaced => ?_, ih hOk⟩
      rw [hHead.refused hMisplaced] at hp
      cases hp
    | error e =>
      rw [emitParameters_cons_of_error hp] at hOk
      cases hOk

/-! ### Whole visits -/

/-- Events are the header of an operation and the blocks of its first `k` parameters. -/
def StandsAfter (op : Operation) (m : Method) (k : Nat) (events : List Event) : Prop :=
  ∃ descriptors, List.Forall₂ (fun p d => p.outcome = .ok d)
      ((Descriptor.ofOperation op).take k) descriptors ∧
    events = header m.name op ++ descriptors.flatMap block

variable {filter : Filter} (destination : Destination) {m : Method} {op : Operation}

/-- An accepted operation whose parameters are all described is emitted up to its destination, and
whether it has one decides how the visit ends. -/
theorem visit_of_described (hAccepted : filter.accept op.id? = .ok true)
    (h : (emitParameters (Descriptor.ofOperation op)).outcome = .ok ()) :
    (visit filter destination m.name op).outcome = (destination op).outcome.map (fun _ => true) ∧
    (visit filter destination m.name op).events = header m.name op ++
      ((leading (Descriptor.ofOperation op) ++ extraDescriptors op).flatMap block ++
        ((destination op).outcome.toOption.map (Event.mk "to")).toList) := by
  rw [visit_of_accepted hAccepted, methodName_name, emitOperation_events, Passage.ofOperation, h]
  refine ⟨?_, rfl⟩
  simp only [emitOperation]
  rw [emitAll_bind, Run.bind_of_ok h, emitAll_bind]
  cases hTarget : (destination op).outcome with
  | ok target =>
    simp [Run.bind_of_ok (x := Run.ofLogged (destination op)) hTarget, Run.emit, Except.map]
  | error e => simp [Run.bind_of_error (x := Run.ofLogged (destination op)) hTarget, Except.map]

/-- An accepted operation with a parameter that is not described is emitted up to this one. -/
theorem visit_of_undescribed (hAccepted : filter.accept op.id? = .ok true) {e : Failure}
    (h : (emitParameters (Descriptor.ofOperation op)).outcome = .error e) :
    (visit filter destination m.name op).outcome = .error e ∧
    (visit filter destination m.name op).events =
      header m.name op ++ (leading (Descriptor.ofOperation op)).flatMap block := by
  rw [visit_of_accepted hAccepted, methodName_name, emitOperation_events, Passage.ofOperation, h]
  refine ⟨?_, by simp [Passage.events]⟩
  simp only [emitOperation]
  rw [emitAll_bind, Run.bind_of_error h]
  rfl

/-- When the visit of an accepted operation fails, with destinations from a template, it fails at the first
parameter that is misplaced, unless an integer of too many digits is in the way of one before, or at
the destination, for want of a name.  At a parameter it leaves the header and the whole blocks of
the parameters before; at the destination it leaves all that a visit with another destination would
emit before the last event.  Either way the marks of the blocks are balanced and no destination is
emitted.  Without integers of too many digits, a misplaced parameter or the want of a name is also
all that it takes to fail. -/
theorem visit_failed (filter : Filter) (t : Destination.Template) (m : Method) (op : Operation)
    (hAccepted : filter.accept op.id? = .ok true) :
    let run := visit filter t.destination m.name op
    (op.Textual →
      ((∃ e, run.outcome = .error e) ↔
        (∃ d ∈ declarations op, d.Misplaced) ∨ op.Nameless)) ∧
    ∀ e, run.outcome = .error e →
      ((∃ before d after, declarations op = before ++ d :: after ∧ FailsAt op before d e ∧
          StandsAfter op m before.length run.events) ∨
        ((∀ d ∈ declarations op, ¬d.Misplaced) ∧ op.Nameless ∧
          e = .refusal (.destination (.path op.path)) ∧
          ∀ (destination : Destination) (target : Argument),
            (destination op).outcome = .ok target →
            (visit filter destination m.name op).outcome = .ok true ∧
            (visit filter destination m.name op).events = run.events ++ [⟨"to", target⟩])) ∧
      isBalanced false run.events = true ∧ ∀ event ∈ run.events, event.name ≠ "to" := by
  intro run
  have hComesTo := comesTo_ofOperation op
  cases hParameters : (emitParameters (Descriptor.ofOperation op)).outcome with
  | error failure =>
    obtain ⟨hOutcome, hEvents⟩ := visit_of_undescribed t.destination (m := m) hAccepted
      hParameters
    obtain ⟨before, d, after, hSplit, hFails, hLength⟩ := emitParameters_fails hComesTo hParameters
    have hStands : StandsAfter op m before.length run.events :=
      ⟨_, hLength ▸ leading_described _, hEvents⟩
    refine ⟨fun hText => ⟨fun _ => .inl ⟨d, ?_, ?_⟩, fun _ => ⟨failure, hOutcome⟩⟩, ?_⟩
    · rw [hSplit]
      simp
    · rcases hFails.cause with ⟨hMisplaced, -⟩ | ⟨-, -, hNot⟩
      · exact hMisplaced
      · exact absurd hText hNot
    · intro e he
      obtain rfl := Except.error.inj (hOutcome.symm.trans he)
      refine ⟨.inl ⟨before, d, after, hSplit, hFails, hStands⟩, ?_⟩
      rw [hEvents]
      exact clean_prefix m op _
  | ok u =>
    -- With the parameters behind it, the visit can only fail for its destination.
    have hPlaced := not_misplaced_of_described hComesTo hParameters
    obtain ⟨hOutcome, hEvents⟩ := visit_of_described t.destination (m := m) hAccepted hParameters
    have hFails (e : Failure) : run.outcome = .error e ↔
        op.Nameless ∧ e = .refusal (.destination (.path op.path)) := by
      rw [← t.destination_eq_error_iff, hOutcome]
      cases (t.destination op).outcome <;> simp [Except.map]
    refine ⟨fun _ => ⟨?_, ?_⟩, ?_⟩
    · rintro ⟨e, he⟩
      exact .inr ((hFails e).mp he).1
    · rintro (⟨d, hd, hMisplaced⟩ | hNameless)
      · exact absurd hMisplaced (hPlaced d hd)
      · exact ⟨_, (hFails _).mpr ⟨hNameless, rfl⟩⟩
    · intro e he
      obtain ⟨hNameless, rfl⟩ := (hFails e).mp he
      have hNone : (t.destination op).outcome.toOption = none := by
        rw [t.destination_eq_error_iff.mpr ⟨hNameless, rfl⟩]
        rfl
      rw [hNone] at hEvents
      simp only [Option.map_none, Option.toList_none, List.append_nil] at hEvents
      refine ⟨.inr ⟨hPlaced, hNameless, rfl, fun destination target hTarget => ?_⟩, ?_⟩
      · obtain ⟨hOther, hOtherEvents⟩ := visit_of_described destination (m := m) hAccepted
          hParameters
        rw [hTarget] at hOther hOtherEvents
        refine ⟨hOther, ?_⟩
        rw [hOtherEvents, hEvents]
        simp [Except.toOption]
      · rw [hEvents]
        exact clean_prefix m op _

def sessionSearch : Operation :=
  .swagger {
    path := "/pets"
    id := none
    description := none
    parameters :=
      [⟨"limit", "query", none, none, some "integer", [.int 10], none, .null, none⟩,
        ⟨"sid", "cookie", some true, none, none, [], none, .null, none⟩,
        ⟨"page", "nowhere", none, none, none, [], none, .null, none⟩]
    consumes := []
    produces := ["application/json"] }

theorem visit_failed_sessionSearch :
    let run := visit .all Destination.Template.direct.destination "get" sessionSearch
    run.outcome = .error (.refusal (.location "cookie" "sid")) ∧
      (∃ before d after, declarations sessionSearch = before ++ d :: after ∧
        FailsAt sessionSearch before d (.refusal (.location "cookie" "sid")) ∧
        StandsAfter sessionSearch .get before.length run.events) ∧
      run.events.map (·.name) =
        ["get", "produces", "param", "name", "type", "dataType", "allowableValues", "required",
          "endParam"] ∧
      isBalanced false run.events = true := by
  intro run
  have hRefused : run.outcome = .error (.refusal (.location "cookie" "sid")) := by decide +kernel
  obtain ⟨hCause, hBalanced, -⟩ :=
    (visit_failed .all Destination.Template.direct .get sessionSearch rfl).2 _ hRefused
  refine ⟨hRefused, ?_, by decide +kernel, hBalanced⟩
  rcases hCause with hParameter | ⟨-, -, hDestination, -⟩
  · exact hParameter
  · cases hDestination

/-- The least integer that has no text. -/
def longInteger : Int := Number.pow10 integerDigitLimit

theorem valueText_longInteger :
    Descriptor.valueText (.int longInteger) = .error (.defect .longIntegerText) := by
  show Value.textOrFail (.int longInteger) = _
  exact Value.textOrFail_of_long (Nat.le_refl (Number.pow10 integerDigitLimit))

/-- An operation with an id and a parameter in its place, one of whose values has no text. -/
def longSearch : Operation :=
  .swagger {
    path := "/pets"
    id := some "findPets"
    description := none
    parameters := [⟨"limit", "query", none, none, none, [.int longInteger], none, .null, none⟩]
    consumes := []
    produces := [] }

theorem emitParameters_longSearch :
    (emitParameters (Descriptor.ofOperation longSearch)).outcome =
      .error (.defect .longIntegerText) := by
  have hPlace : Descriptor.locationNamed "query" "limit" = .ok (some .query) := by decide
  have hEnum : [Value.int longInteger].mapM Descriptor.valueText =
      .error (.defect .longIntegerText) := by
    rw [List.mapM_cons, valueText_longInteger]
    rfl
  refine congrArg Run.outcome (emitParameters_cons_of_error ?_ [])
  rw [Descriptor.ofSwagger_eq, Descriptor.placed_outcome hPlace, Descriptor.swaggerTyping,
    Logged.bind_outcome, Logged.ofExcept_outcome, hEnum, if_neg (by decide)]
  rfl

/-- Neither a misplaced parameter nor the want of a name is needed for a visit to fail. -/
theorem visit_longSearch :
    Filter.all.accept longSearch.id? = .ok true ∧
      (∀ d ∈ declarations longSearch, ¬d.Misplaced) ∧ ¬longSearch.Nameless ∧
      (visit .all Destination.Template.direct.destination "get" longSearch).outcome =
        .error (.defect .longIntegerText) := by
  have hDeclared : declarations longSearch = [⟨"limit", "query", none, none⟩] := rfl
  refine ⟨rfl, ?_, ?_, ?_⟩
  · rw [hDeclared]
    decide
  · rintro ⟨hId | hId, -⟩ <;> simp [longSearch, Operation.id?] at hId
  · exact (visit_of_undescribed Destination.Template.direct.destination (m := .get) rfl
      emitParameters_longSearch).1

end RestRoutes.Visit
