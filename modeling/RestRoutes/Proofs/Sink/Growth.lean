import Mathlib.Data.List.DropRight
import Mathlib.Data.List.Induction
import RestRoutes.Proofs.Sink.Building

/-! How a service grows under events in any order, stray and repeated ones among them.  Operations are
added at the end; of those that are there only the last can still change, and its parameters can only
be followed by more.  A parameter is added where a block is closed, to the operation that was started
last before the block.  An event that is refused closes what it would have closed, and no more. -/

namespace RestRoutes.Sink.Building

open Api

/-! ### One event -/

/-- No open parameter takes an event. -/
def Untaken (b : Building) (e : Event) : Prop :=
  b.param = none ∨ paramField? e.name (plain e.argument) = none

/-- A building after what an event closes. -/
def closing (b : Building) (e : Event) : Building :=
  if startsVerb e then { b with settingsOpen := false, param := none }
  else if e.name = "rest" then { b with settingsOpen := false }
  else b

theorem route_closing (b : Building) (e : Event) : (b.closing e).route = b.route := by
  unfold closing
  split
  · rfl
  · split <;> rfl

theorem param_closing (b : Building) (e : Event) :
    (b.closing e).param = if startsVerb e then none else b.param := by
  unfold closing
  split
  · rfl
  · split <;> rfl

/-- What one event can do to a building. -/
inductive Moved (b : Building) (e : Event) : Building → Prop
  | settings (h : e.name = "restConfiguration") :
    Moved b e { b with route := { b.route with settings := some .none }, settingsOpen := true }
  | rest {path : Option String} (h : e.name = "rest")
    (hPath : ∀ text ∈ path, e.argument.plainText? = some text)
    (hBare : path = none → e.argument = .absent) :
    Moved b e { b with route := { b.route with path := path }, settingsOpen := false }
  | verb {m : Method} {path : String} (h : Method.ofName? e.name = some m)
    (hPath : e.argument.plainText? = some path) :
    Moved b e ⟨{ b.route with verbs := b.route.verbs ++ [.start m path] }, false, none⟩
  | param (h : e.name = "param") : Moved b e { b with param := some .none }
  | closed {p : Param} (h : e.name = "endParam") (hOpen : b.param = some p) :
    Moved b e { b.onVerb fun v => { v with params := v.params ++ [p] } with param := none }
  | target {target : String} (h : e.name = "to") (hTarget : e.argument.plainText? = some target) :
    Moved b e (b.onVerb fun v => { v with target := some target })
  | paramField {p : Param} (h : IsField e.name) (hOpen : b.param = some p)
    (hField : (paramField? e.name (plain e.argument)).isSome = true) :
    Moved b e { b with param := some (set paramField? p e) }
  | verbField {change : Verb → Verb} (h : IsField e.name) (hUntaken : Untaken b e)
    (hField : verbField? e.name (plain e.argument) = some change) : Moved b e (b.onVerb change)
  | settingsField {change : Settings → Settings} (h : IsField e.name) (hUntaken : Untaken b e)
    (hField : settingsField? e.name (plain e.argument) = some change) :
    Moved b e (b.onSettings change)
  | ignored (h : Method.ofName? e.name = none) (hParam : e.name ≠ "param")
    (hClosed : e.name = "endParam" → b.param = none) (hUntaken : Untaken b e) : Moved b e b
  | refused (h : Refuses b e) : Moved b e (b.closing e)

theorem endParam_moved (b : Building) {e : Event} (h : e.name = "endParam") :
    Moved b e b.endParam := by
  unfold endParam
  cases hOpen : b.param with
  | some p => exact .closed h hOpen
  | none => exact .ignored (by rw [h]; rfl) (by rw [h]; decide) (fun _ => hOpen) (.inl hOpen)

theorem setField_moved (b : Building) {e : Event} (h : IsField e.name) :
    Moved b e (b.setField e.name (plain e.argument)) := by
  unfold setField
  split
  · rename_i p change hOpen hChange
    have hSet : change p = set paramField? p e := by simp [set, hChange]
    rw [hSet]
    exact .paramField h hOpen (by rw [hChange]; rfl)
  · rename_i hNone
    have hUntaken : Untaken b e := by
      cases hOpen : b.param with
      | none => exact .inl hOpen
      | some p =>
        refine .inr ?_
        cases hChange : paramField? e.name (plain e.argument) with
        | none => rfl
        | some change => exact absurd hChange (hNone p change hOpen)
    split
    · exact .verbField h hUntaken ‹_›
    · split
      · exact .settingsField h hUntaken ‹_›
      · exact .ignored h.2.2.1 h.2.2.2.1 (fun hEnd => absurd hEnd h.2.2.2.2.1) hUntaken

theorem withText_moved {b closed : Building} {e : Event} (h : NeedsText b e)
    (hClosing : b.closing e = closed) {change : String → Building}
    (hChange : ∀ text, e.argument.plainText? = some text → Moved b e (change text)) :
    Moved b e (closed.withText e.argument.plainText? change).building := by
  cases hText : e.argument.plainText? with
  | none =>
    rw [← hClosing]
    exact .refused ⟨h, e.argument.plainText?_eq_none_iff.mp hText⟩
  | some text => exact hChange text hText

theorem step_moved (b : Building) (e : Event) : Moved b e (b.step e) := by
  unfold step take
  split
  · exact .settings ‹_›
  split
  · rename_i hRest
    have hClosing : b.closing e = { b with settingsOpen := false } := by
      rw [closing, startsVerb, hRest]
      rfl
    dsimp only
    split
    · exact .rest hRest nofun fun _ => ‹_›
    · refine withText_moved (.inl hRest) hClosing fun path hPath => .rest hRest ?_ nofun
      rintro _ ⟨⟩
      exact hPath
  split
  · rename_i m hm
    have hStarts : startsVerb e = true := Option.isSome_of_eq_some hm
    exact withText_moved (.inr (.inl hStarts)) (if_pos hStarts) fun _ => .verb hm
  rename_i hVerb
  split
  · exact .param ‹_›
  rename_i hParam
  split
  · exact b.endParam_moved ‹_›
  rename_i hEnd
  split
  · rename_i hTo
    split
    · exact .ignored hVerb hParam (fun h => absurd h hEnd) (.inr (by rw [hTo]; rfl))
    · rename_i hOpen
      have hClosing : b.closing e = b := by
        rw [closing, startsVerb, hTo]
        rfl
      exact withText_moved (.inr (.inr ⟨hTo, by simpa using hOpen⟩)) hClosing fun _ => .target hTo
  · exact b.setField_moved ⟨‹_›, ‹_›, hVerb, hParam, hEnd, ‹_›⟩

/-! ### What an event leaves as it is -/

theorem dropLast_onLastVerb (f : Verb → Verb) (vs : List Verb) :
    (onLastVerb f vs).dropLast = vs.dropLast := by
  cases vs using List.reverseRecOn with
  | nil => rfl
  | append_singleton vs v => rw [onLastVerb_append, List.dropLast_concat, List.dropLast_concat]

theorem length_onLastVerb (f : Verb → Verb) (vs : List Verb) :
    (onLastVerb f vs).length = vs.length := by
  cases vs using List.reverseRecOn with
  | nil => rfl
  | append_singleton vs v => simp [onLastVerb_append]

theorem getLast?_onLastVerb (f : Verb → Verb) (vs : List Verb) :
    (onLastVerb f vs).getLast? = vs.getLast?.map f := by
  cases vs using List.reverseRecOn with
  | nil => rfl
  | append_singleton vs v => simp [onLastVerb_append]

/-- A field of an operation changes neither what it was started with nor its parameters. -/
theorem verbField?_keeps {name : String} {value : Argument} {change : Verb → Verb}
    (h : verbField? name value = some change) (v : Verb) :
    (change v).method = v.method ∧ (change v).path = v.path ∧ (change v).params = v.params := by
  unfold verbField? at h
  split at h <;> cases h <;> exact ⟨rfl, rfl, rfl⟩

theorem mem_verbNames_of_verbField? {name : String} {value : Argument} {change : Verb → Verb}
    (h : verbField? name value = some change) : name ∈ verbNames := by
  unfold verbField? at h
  split at h <;> cases h <;> decide

theorem mem_settingsNames_of_settingsField? {name : String} {value : Argument}
    {change : Settings → Settings} (h : settingsField? name value = some change) :
    name ∈ settingsNames := by
  unfold settingsField? at h
  split at h <;> cases h <;> decide

/-- The names of the events that settings are made of. -/
def settingsEvents : List String := "restConfiguration" :: settingsNames

/-- The last operation after an event that starts none: it may have got fields, and where a block is
closed one more parameter. -/
structure LastGrows (e : Event) (v v' : Verb) : Prop where
  method : v'.method = v.method
  path : v'.path = v.path
  params : v'.params = v.params ∨ e.name = "endParam" ∧ ∃ p, v'.params = v.params ++ [p]

/-- A building before and after an event. -/
structure Grows (e : Event) (b b' : Building) : Prop where
  /-- An operation is added at the end, without fields and parameters. -/
  started : ∀ m, Method.ofName? e.name = some m → ∀ path, e.argument.plainText? = some path →
    b'.route.verbs = b.route.verbs ++ [.start m path]
  /-- An event that is refused leaves the whole service as it was. -/
  refused : Refuses b e → b'.route = b.route
  /-- Without one, all operations but the last are as they were. -/
  kept : startsVerb e = false →
    b'.route.verbs.length = b.route.verbs.length ∧
      b'.route.verbs.dropLast = b.route.verbs.dropLast ∧
      ∀ v ∈ b.route.verbs.getLast?, ∀ v' ∈ b'.route.verbs.getLast?, LastGrows e v v'
  /-- The events of settings touch neither the operations nor the path nor the open parameter. -/
  untouched : e.name ∈ settingsEvents →
    b'.route.verbs = b.route.verbs ∧ b'.route.path = b.route.path ∧ b'.param = b.param
  /-- Other events do not touch the settings. -/
  settings : e.name ∉ settingsEvents → b'.route.settings = b.route.settings
  /-- The path is set by `rest` alone. -/
  path : e.name ≠ "rest" → b'.route.path = b.route.path

/-- A change of the last operation that keeps what it was started with and its parameters. -/
theorem kept_onVerb {e : Event} {b : Building} {f : Verb → Verb}
    (h : ∀ v, LastGrows e v (f v)) :
    (b.onVerb f).route.verbs.length = b.route.verbs.length ∧
      (b.onVerb f).route.verbs.dropLast = b.route.verbs.dropLast ∧
      ∀ v ∈ b.route.verbs.getLast?, ∀ v' ∈ (b.onVerb f).route.verbs.getLast?, LastGrows e v v' := by
  refine ⟨length_onLastVerb f _, dropLast_onLastVerb f _, fun v hv v' hv' => ?_⟩
  rw [onVerb, getLast?_onLastVerb, Option.mem_def.mp hv] at hv'
  cases hv'
  exact h v

section Moves

variable {b b' : Building} {e : Event}

theorem Moved.started (h : Moved b e b') {m : Method} (hm : Method.ofName? e.name = some m)
    {path : String} (hPath : e.argument.plainText? = some path) :
    b'.route.verbs = b.route.verbs ++ [.start m path] := by
  cases h with
  | verb h hText => rw [Option.some.inj (h.symm.trans hm), Option.some.inj (hText.symm.trans hPath)]
  | settings h | rest h | param h | closed h | target h => exact absurd h (ne_mark hm _ (by simp))
  | paramField h | verbField h | settingsField h => simp [h.2.2.1] at hm
  | ignored h => simp [h] at hm
  | refused h => simp [e.argument.plainText?_eq_none_iff.mpr h.hasLong] at hPath

/-- What is refused is a path or a destination, or starts an operation. -/
theorem Refuses.name_ne (h : Refuses b e) {name : String} (hRest : name ≠ "rest")
    (hVerb : Method.ofName? name = none) (hTo : name ≠ "to") : e.name ≠ name := by
  rintro rfl
  rcases h.needsText with hName | hStarts | ⟨hName, -⟩
  · exact hRest hName
  · simp [startsVerb, hVerb] at hStarts
  · exact hTo hName

theorem Refuses.not_isField (h : Refuses b e) : ¬ IsField e.name :=
  fun hField => h.name_ne hField.2.1 hField.2.2.1 hField.2.2.2.2.2 rfl

theorem Refuses.untaken (h : Refuses b e) (hStarts : startsVerb e = false) : Untaken b e := by
  refine .inr ?_
  rcases h.needsText with hName | hName | ⟨hName, -⟩
  · rw [hName]
    rfl
  · rw [hStarts] at hName
    cases hName
  · rw [hName]
    rfl

theorem Moved.route_eq (h : Moved b e b') (hRefused : Refuses b e) : b'.route = b.route := by
  have hNone := e.argument.plainText?_eq_none_iff.mpr hRefused.hasLong
  cases h with
  | refused => exact route_closing b e
  | param | paramField | ignored => rfl
  | @rest path _ hPath hBare =>
    cases path with
    | none => simp [hBare rfl, Argument.plainText?, Argument.literal?] at hNone
    | some text => simp [hPath text rfl] at hNone
  | verb _ hText | target _ hText => simp [hText] at hNone
  | settings h | closed h =>
    exact absurd h (hRefused.name_ne (by decide) (by decide) (by decide))
  | verbField h | settingsField h => exact absurd h hRefused.not_isField

theorem Moved.kept (h : Moved b e b') (hNone : startsVerb e = false) :
    b'.route.verbs.length = b.route.verbs.length ∧
      b'.route.verbs.dropLast = b.route.verbs.dropLast ∧
      ∀ v ∈ b.route.verbs.getLast?, ∀ v' ∈ b'.route.verbs.getLast?, LastGrows e v v' := by
  have hSame : ∀ v ∈ b.route.verbs.getLast?, ∀ v' ∈ b.route.verbs.getLast?, LastGrows e v v' := by
    intro v hv v' hv'
    cases Option.mem_unique hv hv'
    exact ⟨rfl, rfl, .inl rfl⟩
  cases h with
  | verb h => simp [startsVerb, h] at hNone
  | closed h => exact kept_onVerb fun v => ⟨rfl, rfl, .inr ⟨h, _, rfl⟩⟩
  | target => exact kept_onVerb fun v => ⟨rfl, rfl, .inl rfl⟩
  | verbField _ _ hField =>
    refine kept_onVerb fun v => ?_
    obtain ⟨hMethod, hPath, hParams⟩ := verbField?_keeps hField v
    exact ⟨hMethod, hPath, .inl hParams⟩
  | settings | rest | param | paramField | settingsField | ignored => exact ⟨rfl, rfl, hSame⟩
  | refused =>
    rw [route_closing]
    exact ⟨rfl, rfl, hSame⟩

theorem Moved.untouched (h : Moved b e b') (hName : e.name ∈ settingsEvents) :
    b'.route.verbs = b.route.verbs ∧ b'.route.path = b.route.path ∧ b'.param = b.param := by
  cases h with
  | settings | settingsField | ignored => exact ⟨rfl, rfl, rfl⟩
  | rest h | param h | closed h | target h => rw [h] at hName; exact absurd hName (by decide)
  | verb h =>
    have hAll : ∀ name ∈ settingsEvents, Method.ofName? name = none := by decide
    simp [hAll _ hName] at h
  | paramField _ _ hField =>
    have hAll : ∀ name ∈ settingsEvents, ∀ a, paramField? name a = none := by
      simp [settingsEvents, settingsNames, paramField?]
    simp [hAll _ hName] at hField
  | verbField _ _ hField =>
    have hAll : ∀ name ∈ settingsEvents, name ∉ verbNames := by decide
    exact absurd (mem_verbNames_of_verbField? hField) (hAll _ hName)
  | refused h =>
    have hAll : ∀ name ∈ settingsEvents,
        name ≠ "rest" ∧ Method.ofName? name = none ∧ name ≠ "to" := by decide
    obtain ⟨hRest, hVerb, hTo⟩ := hAll _ hName
    exact absurd rfl (h.name_ne hRest hVerb hTo)

theorem Moved.settings_eq (h : Moved b e b') (hName : e.name ∉ settingsEvents) :
    b'.route.settings = b.route.settings := by
  cases h with
  | settings h => exact absurd (by rw [h]; decide) hName
  | settingsField _ _ hField =>
    exact absurd (List.mem_cons_of_mem _ (mem_settingsNames_of_settingsField? hField)) hName
  | rest | verb | param | closed | target | paramField | verbField | ignored => rfl
  | refused => rw [route_closing]

theorem Moved.path_eq (h : Moved b e b') (hName : e.name ≠ "rest") :
    b'.route.path = b.route.path := by
  cases h with
  | rest h => exact absurd h hName
  | refused => rw [route_closing]
  | _ => rfl

end Moves

theorem step_grows (b : Building) (e : Event) : Grows e b (b.step e) where
  started _ hm _ hPath := (step_moved b e).started hm hPath
  refused hRefused := (step_moved b e).route_eq hRefused
  kept hNone := (step_moved b e).kept hNone
  untouched hName := (step_moved b e).untouched hName
  settings hName := (step_moved b e).settings_eq hName
  path hName := (step_moved b e).path_eq hName

/-! ### Any number of events -/

/-- The building after some events. -/
def after (es : List Event) : Building := es.foldl step start

@[simp] theorem after_append (es : List Event) (e : Event) :
    after (es ++ [e]) = (after es).step e := by simp [after]

/-- An event that adds an operation: it starts one, and is not refused. -/
def addsVerb (e : Event) : Bool := startsVerb e && e.argument.plainText?.isSome

theorem length_step (b : Building) (e : Event) :
    (b.step e).route.verbs.length = b.route.verbs.length + if addsVerb e then 1 else 0 := by
  have hGrows := step_grows b e
  unfold addsVerb
  cases hStarts : startsVerb e with
  | false => exact (hGrows.kept hStarts).1
  | true =>
    obtain ⟨m, hm⟩ := Option.isSome_iff_exists.mp hStarts
    cases hPath : e.argument.plainText? with
    | none =>
      have hLong := e.argument.plainText?_eq_none_iff.mp hPath
      rw [hGrows.refused ⟨.inr (.inl hStarts), hLong⟩]
      rfl
    | some path => simp [hGrows.started m hm path hPath]

theorem length_verbs (es : List Event) :
    (after es).route.verbs.length = es.countP addsVerb := by
  induction es using List.reverseRecOn with
  | nil => rfl
  | append_singleton es e ih =>
    rw [after_append, length_step, ih, List.countP_append, List.countP_singleton]

/-! ### Blocks -/

/-- An event that neither opens nor closes a block. -/
def isInner (e : Event) : Bool :=
  e.name != "param" && e.name != "endParam" && !startsVerb e

/-- The events of the block that is open after some events, if one is: the last of them that opens or
closes a block is a `param`. -/
def openBlock (es : List Event) : Option (List Event) :=
  if (es.rdropWhile isInner).getLast?.any (·.name == "param") then some (es.rtakeWhile isInner)
  else none

/-- The parameter that the events of a block describe. -/
def described (block : List Event) : Param := block.foldl (set paramField?) .none

theorem openBlock_append (es : List Event) (e : Event) :
    openBlock (es ++ [e]) =
      if isInner e then (openBlock es).map (· ++ [e])
      else if e.name = "param" then some [] else none := by
  unfold openBlock
  cases hInner : isInner e with
  | true =>
    simp only [List.rdropWhile_concat_pos _ _ _ hInner, List.rtakeWhile_concat_pos _ _ _ hInner,
      if_true]
    split <;> rfl
  | false =>
    have hNot : ¬ isInner e = true := by simp [hInner]
    simp [List.rdropWhile_concat_neg _ _ _ hNot, List.rtakeWhile_concat_neg _ _ _ hNot]

theorem map_set_of_untaken {b : Building} {e : Event} (h : Untaken b e) :
    b.param.map (fun p => set paramField? p e) = b.param := by
  obtain h | h := h
  · rw [h]
    rfl
  · simp [set, h]

theorem param_step (b : Building) (e : Event) :
    (b.step e).param =
      if isInner e then b.param.map fun p => set paramField? p e
      else if e.name = "param" then some .none else none := by
  have hInner (hParam : e.name ≠ "param") (hEnd : e.name ≠ "endParam")
      (hVerb : Method.ofName? e.name = none) : isInner e = true := by
    simp [isInner, startsVerb, hParam, hEnd, hVerb]
  have hMark {name : String} (h : e.name = name) (hParam : name ≠ "param")
      (hEnd : name ≠ "endParam") (hVerb : Method.ofName? name = none)
      (hField : ∀ a, paramField? name a = none) :
      isInner e = true ∧ b.param.map (fun p => set paramField? p e) = b.param := by
    subst h
    exact ⟨hInner hParam hEnd hVerb, map_set_of_untaken (.inr (hField _))⟩
  generalize hStep : b.step e = b'
  have hMoved := step_moved b e
  rw [hStep] at hMoved
  cases hMoved with
  | settings h | rest h | target h =>
    obtain ⟨hIn, hSame⟩ := hMark h (by decide) (by decide) (by decide) (fun _ => rfl)
    exact ((if_pos hIn).trans hSame).symm
  | verb h =>
    simp [isInner, startsVerb, h, ne_mark h "param" (by simp)]
  | param h => simp [isInner, h]
  | closed h => simp [isInner, h]
  | paramField h hOpen =>
    rw [if_pos (hInner h.2.2.2.1 h.2.2.2.2.1 h.2.2.1), hOpen]
    rfl
  | verbField h hUntaken | settingsField h hUntaken =>
    have hIn := hInner h.2.2.2.1 h.2.2.2.2.1 h.2.2.1
    exact ((if_pos hIn).trans (map_set_of_untaken hUntaken)).symm
  | ignored h hParam hClosed hUntaken =>
    by_cases hEnd : e.name = "endParam"
    · simp [isInner, hEnd, hClosed hEnd]
    · rw [if_pos (hInner hParam hEnd h), map_set_of_untaken hUntaken]
  | refused h =>
    have hParam : e.name ≠ "param" := h.name_ne (by decide) (by decide) (by decide)
    have hEnd : e.name ≠ "endParam" := h.name_ne (by decide) (by decide) (by decide)
    rw [param_closing]
    cases hStarts : startsVerb e with
    | true => simp [isInner, hStarts, hParam]
    | false => simp [isInner, hStarts, hParam, hEnd, map_set_of_untaken (h.untaken hStarts)]

/-- The open parameter is the one that the open block describes. -/
theorem param_after (es : List Event) : (after es).param = (openBlock es).map described := by
  induction es using List.reverseRecOn with
  | nil => rfl
  | append_singleton es e ih =>
    rw [after_append, param_step, openBlock_append, ih]
    split
    · simp [described, Function.comp_def]
    split
    · rfl
    · rfl

/-- The parameters that the blocks closed in `es`, which comes after `before`, add to the operation
with the index `k`: the one that was started last. -/
def added (k : Nat) (before : List Event) : List Event → List Param
  | [] => []
  | e :: rest =>
    (if e.name = "endParam" ∧ before.countP addsVerb = k + 1 then
      ((openBlock before).map described).toList else []) ++ added k (before ++ [e]) rest

theorem added_append (k : Nat) (before es : List Event) (e : Event) :
    added k before (es ++ [e]) = added k before es ++
      if e.name = "endParam" ∧ (before ++ es).countP addsVerb = k + 1 then
        ((openBlock (before ++ es)).map described).toList else [] := by
  induction es generalizing before with
  | nil => simp [added]
  | cons d rest ih => simp [added, ih]

theorem added_eq_nil {k : Nat} {before es : List Event}
    (h : (before ++ es).countP addsVerb ≤ k) : added k before es = [] := by
  induction es generalizing before with
  | nil => rfl
  | cons e rest ih =>
    have hCount : (before ++ e :: rest).countP addsVerb =
        before.countP addsVerb + (e :: rest).countP addsVerb := List.countP_append
    have hRest : added k (before ++ [e]) rest = [] := ih (by simpa using h)
    rw [added, hRest, if_neg (by omega)]
    rfl

theorem getElem?_onLastVerb (f : Verb → Verb) (vs : List Verb) (k : Nat) :
    (onLastVerb f vs)[k]? = vs[k]?.map fun v => if k + 1 = vs.length then f v else v := by
  cases vs using List.reverseRecOn with
  | nil => rfl
  | append_singleton vs v =>
    rw [onLastVerb_append]
    obtain hLess | rfl | hMore := Nat.lt_trichotomy k vs.length
    · simp [List.getElem?_append_left hLess, Nat.ne_of_lt hLess]
    · simp
    · rw [List.getElem?_eq_none (by simp; omega), List.getElem?_eq_none (by simp; omega)]
      rfl

/-- The parameters of an operation after a change of the last one that puts `ps` after its own. -/
theorem params_onVerb {b : Building} {f : Verb → Verb} {ps : List Param}
    (hf : ∀ v, (f v).params = v.params ++ ps) {k : Nat} {v' : Verb}
    (h : (b.onVerb f).route.verbs[k]? = some v') :
    ∃ v, b.route.verbs[k]? = some v ∧
      v'.params = v.params ++ if b.route.verbs.length = k + 1 then ps else [] := by
  rw [onVerb, getElem?_onLastVerb] at h
  obtain ⟨v, hv, rfl⟩ := Option.map_eq_some_iff.mp h
  refine ⟨v, hv, ?_⟩
  by_cases hLast : b.route.verbs.length = k + 1
  · rw [if_pos hLast.symm, if_pos hLast, hf]
  · rw [if_neg (Ne.symm hLast), if_neg hLast, List.append_nil]

theorem params_step {b : Building} {e : Event} {k : Nat} {v' : Verb}
    (h : (b.step e).route.verbs[k]? = some v') :
    (∃ v, b.route.verbs[k]? = some v ∧
      v'.params = v.params ++
        if e.name = "endParam" ∧ b.route.verbs.length = k + 1 then b.param.toList else []) ∨
    (addsVerb e = true ∧ k = b.route.verbs.length ∧ v'.params = []) := by
  have hOther {ps : List Param} (hEnd : e.name ≠ "endParam") :
      ps = ps ++ if e.name = "endParam" ∧ b.route.verbs.length = k + 1 then b.param.toList
        else [] := by simp [hEnd]
  -- Only the end of a block adds a parameter, and only the start of an operation adds an operation.
  generalize hStep : b.step e = b' at h
  have hMoved := step_moved b e
  rw [hStep] at hMoved
  cases hMoved with
  | settings hName | rest hName | param hName =>
    exact .inl ⟨v', h, hOther (by rw [hName]; decide)⟩
  | paramField hField | settingsField hField => exact .inl ⟨v', h, hOther hField.2.2.2.2.1⟩
  | ignored _ _ hClosed =>
    refine .inl ⟨v', h, ?_⟩
    by_cases hEnd : e.name = "endParam"
    · simp [hClosed hEnd]
    · exact hOther hEnd
  | @verb m path hm hPath =>
    have hEnd : e.name ≠ "endParam" := ne_mark hm _ (by simp)
    obtain hLess | rfl | hMore := Nat.lt_trichotomy k b.route.verbs.length
    · exact .inl ⟨v', by simpa [List.getElem?_append_left hLess] using h, hOther hEnd⟩
    · have hv' : Verb.start m path = v' := by simpa using h
      exact .inr ⟨by simp [addsVerb, startsVerb, hm, hPath], rfl, by rw [← hv']; rfl⟩
    · rw [List.getElem?_eq_none (by simp; omega)] at h
      cases h
  | @closed p hEnd hOpen =>
    obtain ⟨v, hv, hParams⟩ := params_onVerb (fun _ => rfl) h
    refine .inl ⟨v, hv, ?_⟩
    simpa [hEnd, hOpen] using hParams
  | @target target hName =>
    have hKeeps : ∀ v : Verb, ({ v with target := some target } : Verb).params = v.params ++ [] :=
      fun v => (List.append_nil v.params).symm
    obtain ⟨v, hv, hParams⟩ := params_onVerb hKeeps h
    refine .inl ⟨v, hv, ?_⟩
    have hEnd : e.name ≠ "endParam" := by rw [hName]; decide
    simpa [hEnd] using hParams
  | verbField hName _ hField =>
    have hKeeps := fun v => (verbField?_keeps hField v).2.2.trans (List.append_nil _).symm
    obtain ⟨v, hv, hParams⟩ := params_onVerb hKeeps h
    refine .inl ⟨v, hv, ?_⟩
    simpa [hName.2.2.2.2.1] using hParams
  | refused hRefused =>
    rw [route_closing] at h
    exact .inl ⟨v', h, hOther (hRefused.name_ne (by decide) (by decide) (by decide))⟩

/-- The parameters of an operation are those that blocks have added to it, in order. -/
theorem params_after {es : List Event} {k : Nat} {v : Verb}
    (h : (after es).route.verbs[k]? = some v) : v.params = added k [] es := by
  induction es using List.reverseRecOn generalizing v with
  | nil => cases h
  | append_singleton es e ih =>
    rw [after_append] at h
    rw [added_append, List.nil_append, ← param_after, ← length_verbs]
    obtain ⟨w, hw, hParams⟩ | ⟨hStarts, rfl, hNone⟩ := params_step h
    · rw [hParams, ih hw]
    · have hEmpty : added (after es).route.verbs.length [] es = [] :=
        added_eq_nil (by rw [length_verbs]; simp)
      rw [hNone, hEmpty, if_neg (by omega)]
      rfl

theorem foldl_openParam {block : List Event} (h : ∀ e ∈ block, e.name ∈ Visit.blockNames)
    (route : Route) (settingsOpen : Bool) (p : Param) :
    block.foldl step ⟨route, settingsOpen, some p⟩ =
      ⟨route, settingsOpen, some (block.foldl (set paramField?) p)⟩ :=
  foldl_part (fun e he => step_param (h e he) route settingsOpen) p

/-- An operation is started in the same way whatever is open. -/
theorem step_startsVerb {e : Event} (h : startsVerb e = true) (b b' : Building)
    (hRoute : b.route = b'.route) : b.step e = b'.step e := by
  obtain ⟨m, hm⟩ := Option.isSome_iff_exists.mp h
  have hSettings : e.name ≠ "restConfiguration" := ne_mark hm _ (by simp)
  have hRest : e.name ≠ "rest" := ne_mark hm _ (by simp)
  simp only [step, take, if_neg hSettings, if_neg hRest, hm, hRoute]

/-- A block that the start of an operation breaks off leaves no trace. -/
theorem after_broken (before rest : List Event) {start : Event} {block : List Event} {verb : Event}
    (hStart : start.name = "param") (hBlock : ∀ e ∈ block, e.name ∈ Visit.blockNames)
    (hVerb : startsVerb verb = true) :
    after (before ++ start :: (block ++ verb :: rest)) = after (before ++ verb :: rest) := by
  -- The block moves nothing but the open parameter, which the start of the operation drops.
  rcases hb : after before with ⟨route, settingsOpen, param⟩
  have hOpen : step ⟨route, settingsOpen, param⟩ start = ⟨route, settingsOpen, some .none⟩ := by
    simp only [step, take, hStart]
    rfl
  have hState : ∀ es, after (before ++ es) = es.foldl step ⟨route, settingsOpen, param⟩ := by
    intro es
    rw [← hb, after, after, List.foldl_append]
  rw [hState, hState, List.foldl_cons, hOpen, List.foldl_append, foldl_openParam hBlock,
    List.foldl_cons, List.foldl_cons]
  congr 1
  exact step_startsVerb hVerb _ _ rfl

/-- Under events in any order a service only grows at its end.  It has as many operations as events
that start one; what one more event can change is the last operation, its parameters only by one
more; the parameters of an operation are those of the blocks that were closed while it was the last;
and a block that the start of an operation breaks off leaves no trace.  Just the events that need a
text are refused, if they have an integer of too many digits, and they leave the service as it was. -/
theorem after_grows (es : List Event) :
    (after es).route.verbs.length = es.countP addsVerb ∧
    (∀ e, Grows e (after es) (after (es ++ [e]))) ∧
    (∀ k v, (after es).route.verbs[k]? = some v → v.params = added k [] es) ∧
    (∀ start block verb rest, start.name = "param" → (∀ e ∈ block, e.name ∈ Visit.blockNames) →
      startsVerb verb = true →
      after (es ++ start :: (block ++ verb :: rest)) = after (es ++ verb :: rest)) ∧
    ∀ e, (¬ Refuses (after es) e → (after es).emit e = .ok (after (es ++ [e]))) ∧
      ∀ d, (after es).emit e = .error d ↔ d = .longIntegerText ∧ Refuses (after es) e := by
  refine ⟨length_verbs es, fun e => ?_, fun _ _ h => params_after h, fun start block verb rest => ?_,
    fun e => ⟨fun hTaken => ?_, fun d => emit_eq_error_iff⟩⟩
  · rw [after_append]
    exact step_grows _ e
  · exact after_broken es rest
  · rw [after_append]
    exact emit_of_not_refuses hTaken

example : ((after [⟨"get", .text "/a"⟩, .bare "param", ⟨"name", .text "p"⟩, ⟨"get", .text "/b"⟩,
    .bare "endParam", ⟨"name", .text "lost"⟩]).route.verbs.map (·.params.length)) = [0, 0] := rfl

theorem emit_of_longPath (b : Building) (m : Method) {a : Argument} (h : a.HasLong) :
    b.emit ⟨m.name, a⟩ = .error .longIntegerText ∧ (b.step ⟨m.name, a⟩).route = b.route := by
  have hStarts : startsVerb ⟨m.name, a⟩ = true := by cases m <;> rfl
  have hRefused : Refuses b ⟨m.name, a⟩ := ⟨.inr (.inl hStarts), h⟩
  exact ⟨emit_eq_error_iff.mpr ⟨rfl, hRefused⟩, (step_grows b _).refused hRefused⟩

/-- An operation with an integer of 4301 digits for its path is refused. -/
theorem emit_longPath :
    start.emit ⟨Method.get.name, .int (Number.pow10 integerDigitLimit)⟩ = .error .longIntegerText ∧
      (start.step ⟨Method.get.name, .int (Number.pow10 integerDigitLimit)⟩).route = start.route :=
  emit_of_longPath start .get (.int (by rw [Int.natAbs_natCast]))

end RestRoutes.Sink.Building
