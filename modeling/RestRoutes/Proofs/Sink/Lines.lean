import RestRoutes.Proofs.Event.Argument
import RestRoutes.Proofs.Run
import RestRoutes.Sink.Source

/-! Source text as lines.  The writer ends a line when the next statement starts, or when the whole
text is asked for; so each line is ended just when what follows it calls for it, and the text can be
told from the lines alone.  The writer takes in any event but one with an integer of too many
digits. -/

namespace RestRoutes.Sink.Source

/-! ### The form with lines -/

/-- Where the next line belongs. -/
structure Place where
  inVerb : Bool
  inParam : Bool
deriving DecidableEq, Repr

namespace Place

/-- At the start, or after a statement at the margin. -/
def outside : Place := ⟨false, false⟩

/-- The level of a line that is no statement and starts no operation. -/
def fieldLevel (p : Place) : Nat := (if p.inVerb then 2 else 1) + (if p.inParam then 1 else 0)

def level (p : Place) (name : String) : Nat :=
  if isTopLevel name then 0
  else if isVerb name then 1
  else if name = "endParam" then { p with inParam := false }.fieldLevel
  else p.fieldLevel

def after (p : Place) (name : String) : Place :=
  if isTopLevel name then outside
  else if isVerb name then ⟨true, false⟩
  else if name = "param" then { p with inParam := true }
  else if name = "endParam" then { p with inParam := false }
  else p

theorem level_eq_zero_iff {p : Place} {name : String} : p.level name = 0 ↔ isTopLevel name = true := by
  unfold level fieldLevel
  split
  · exact iff_of_true rfl ‹_›
  · refine iff_of_false ?_ ‹_›
    split
    · simp
    · split <;> split <;> simp

end Place

/-- A line: its level, and the call on it. -/
structure Line where
  level : Nat
  call : String
deriving DecidableEq, Repr

/-- The lines of events and their calls, from a place on. -/
def linesFrom (p : Place) : List (Event × String) → List Line
  | [] => []
  | (e, call) :: rest => ⟨p.level e.name, call⟩ :: linesFrom (p.after e.name) rest

def Line.text (indent : String) (line : Line) : String :=
  if line.level = 0 then line.call
  else String.join (List.replicate line.level indent) ++ "." ++ line.call

/-- A line is the last of its statement when nothing or another statement follows. -/
def endsStatement : List Line → Bool
  | [] => true
  | next :: _ => next.level == 0

def textOf (indent : String) : List Line → String
  | [] => ""
  | line :: rest =>
    line.text indent ++ (if endsStatement rest then ";\n" else "\n") ++ textOf indent rest

/-! ### What the writer does -/

/-- Where the next line of a source belongs. -/
def place (s : Source) : Place := ⟨s.inVerb, s.inParam⟩

/-- The last line of a source has no semicolon yet. -/
def Unended (s : Source) : Prop := ∀ line ∈ s.lines.getLast?, line.toList.getLast? ≠ some ';'

theorem ended_concat (lines : List String) (line : String) :
    ended (lines ++ [line]) = lines ++ [line ++ ";"] := by
  induction lines with
  | nil => rfl
  | cons first rest ih =>
    have hSome : rest ++ [line] ≠ [] := List.concat_ne_nil line rest
    rw [List.cons_append, ended, ih, List.cons_append]
    exact hSome

theorem terminate_of_unended {s : Source} (h : s.Unended) :
    s.terminate = { s with lines := ended s.lines } := by
  unfold terminate
  split
  · rename_i line hLast
    rw [if_neg (h line hLast)]
  · rename_i hNone
    rw [List.getLast?_eq_none_iff] at hNone
    rw [hNone, ended, ← hNone]

variable {indent : String} {s : Source}

theorem lines_add {level : Nat} (h : level ≠ 0) (call : String) :
    (s.add indent level call).lines = s.lines ++ [Line.text indent ⟨level, call⟩] := by
  rw [Line.text, if_neg h]
  rfl

/-- A call that is taken in makes one more line, and ends the one before it if it starts a
statement. -/
theorem lines_take (h : s.Unended) (name call : String) :
    (s.take indent name call).lines =
      (if isTopLevel name then ended s.lines else s.lines) ++
        [Line.text indent ⟨s.place.level name, call⟩] := by
  have hField (s : Source) : s.fieldLevel ≠ 0 := by
    unfold fieldLevel
    split <;> omega
  unfold take
  by_cases hTop : isTopLevel name = true
  · have hLevel : s.place.level name = 0 := Place.level_eq_zero_iff.mpr hTop
    rw [if_pos hTop, if_pos hTop, hLevel, terminate_of_unended h]
    rfl
  rw [if_neg hTop, if_neg hTop]
  unfold Place.level
  rw [if_neg hTop]
  by_cases hVerb : isVerb name = true
  · rw [if_pos hVerb, if_pos hVerb]
    exact lines_add (by decide) call
  rw [if_neg hVerb, if_neg hVerb]
  by_cases hParam : name = "param"
  · subst hParam
    exact lines_add (hField s) call
  rw [if_neg hParam]
  by_cases hEnd : name = "endParam"
  · rw [if_pos hEnd, if_pos hEnd]
    exact lines_add (hField { s with inParam := false }) call
  · rw [if_neg hEnd, if_neg hEnd]
    exact lines_add (hField s) call

theorem place_take (name call : String) :
    (s.take indent name call).place = s.place.after name := by
  unfold take Place.after
  split
  · rfl
  · split
    · rfl
    · split
      · rfl
      · split <;> rfl

theorem unended_take {name call : String} (h : s.Unended) (hCall : call.toList.getLast? = some ')') :
    (s.take indent name call).Unended := by
  intro line hLine
  rw [lines_take h, List.getLast?_concat] at hLine
  obtain rfl := Option.some.inj hLine
  have hLast (front : String) : (front ++ call).toList.getLast? = some ')' := by
    rw [String.toList_append, List.getLast?_append, hCall]
    rfl
  unfold Line.text
  split
  · rw [hCall]
    decide
  · rw [hLast]
    decide

/-! ### Calls -/

/-- Just the events with an integer of too many digits in them have no call. -/
theorem callOf?_eq_none_iff (e : Event) : callOf? e = none ↔ e.argument.HasLong := by
  rw [callOf?, Option.map_eq_none_iff, Argument.call?_eq_none_iff]

/-- A call ends with its parenthesis, whatever stands in it. -/
theorem getLast?_call {e : Event} {call : String} (h : callOf? e = some call) :
    call.toList.getLast? = some ')' := by
  obtain ⟨argument, -, rfl⟩ := Option.map_eq_some_iff.mp h
  have hEnd : ")".toList = [')'] := rfl
  rw [String.toList_append, hEnd, List.getLast?_concat]

theorem newline_notMem_call {e : Event} {call : String} (h : callOf? e = some call)
    (hName : '\n' ∉ e.name.toList) : '\n' ∉ call.toList := by
  obtain ⟨argument, hArgument, rfl⟩ := Option.map_eq_some_iff.mp h
  simpa using ⟨hName, e.argument.newline_notMem_call argument hArgument⟩

/-- Events with the calls that they are written as. -/
def Written (es : List (Event × String)) : Prop := ∀ x ∈ es, callOf? x.1 = some x.2

theorem exists_written {es : List Event} (h : ∀ e ∈ es, ¬ e.argument.HasLong) :
    ∃ written : List (Event × String), Written written ∧ written.map Prod.fst = es := by
  induction es with
  | nil => exact ⟨[], List.forall_mem_nil _, rfl⟩
  | cons e rest ih =>
    obtain ⟨hFirst, hRest⟩ := List.forall_mem_cons.mp h
    obtain ⟨written, hWritten, rfl⟩ := ih hRest
    have hSome : callOf? e ≠ none := fun hNone => hFirst ((callOf?_eq_none_iff e).mp hNone)
    obtain ⟨call, hCall⟩ := Option.ne_none_iff_exists'.mp hSome
    exact ⟨(e, call) :: written, List.forall_mem_cons.mpr ⟨hCall, hWritten⟩, rfl⟩

/-! ### Whole texts -/

/-- The text of the lines of a source that others follow. -/
def textBefore (lines : List String) (rest : List Line) : String :=
  String.join ((if endsStatement rest then ended lines else lines).map (· ++ "\n"))

theorem textBefore_concat (lines : List String) (line : String) (rest : List Line) :
    textBefore (lines ++ [line]) rest =
      String.join (lines.map (· ++ "\n")) ++ (line ++ if endsStatement rest then ";\n" else "\n") := by
  have hSemicolon : line ++ ";" ++ "\n" = line ++ ";\n" := String.append_assoc
  unfold textBefore
  cases endsStatement rest with
  | true => simp [ended_concat, hSemicolon]
  | false => simp

/-- Taking in events makes the text that their lines have.  The induction carries the source along:
the last of its lines is still open, and the first of the lines to come decides how it ends. -/
theorem text_foldlM {written : List (Event × String)} (hWritten : Written written)
    (h : s.Unended) : ∃ after, (written.map Prod.fst).foldlM (emit indent) s = .ok after ∧
      after.text = textBefore s.lines (linesFrom s.place written) ++
        textOf indent (linesFrom s.place written) := by
  induction written generalizing s with
  | nil => exact ⟨s, rfl, by simp [text, textBefore, linesFrom, endsStatement, textOf]⟩
  | cons x rest ih =>
    obtain ⟨e, call⟩ := x
    obtain ⟨hCall, hRest⟩ := List.forall_mem_cons.mp hWritten
    obtain ⟨after, hAfter, hText⟩ := ih hRest (unended_take h (getLast?_call hCall))
    have hEmit : emit indent s e = .ok (s.take indent e.name call) := by rw [emit, hCall]
    refine ⟨after, ?_, ?_⟩
    · rw [List.map_cons, List.foldlM_cons, hEmit]
      exact hAfter
    · have hStarts : endsStatement (linesFrom s.place ((e, call) :: rest)) = isTopLevel e.name := by
        rw [Bool.eq_iff_iff, linesFrom, endsStatement, beq_iff_eq, Place.level_eq_zero_iff]
      rw [hText, lines_take h, place_take, textBefore_concat, textBefore, hStarts, linesFrom, textOf]
      simp only [String.append_assoc]

/-- Events whose arguments can all be written make the text of their lines. -/
theorem render_eq (indent : String) {written : List (Event × String)} (h : Written written) :
    render indent (written.map Prod.fst) = .ok (textOf indent (linesFrom .outside written)) := by
  obtain ⟨after, hAfter, hText⟩ := text_foldlM (s := start) h nofun
  have hStart : textBefore start.lines (linesFrom .outside written) = "" := by
    unfold textBefore
    split <;> rfl
  rw [render, hAfter]
  refine congrArg Except.ok (hText.trans ?_)
  exact (congrArg (· ++ _) hStart).trans String.empty_append

theorem foldlM_eq_error_iff {es : List Event} {d : Defect} :
    es.foldlM (emit indent) s = .error d ↔
      d = .longIntegerText ∧ ∃ e ∈ es, e.argument.HasLong := by
  induction es generalizing s with
  | nil => exact iff_of_false nofun (by simp)
  | cons e rest ih =>
    simp only [List.foldlM_cons, List.mem_cons, exists_eq_or_imp, ← callOf?_eq_none_iff e, emit]
    cases callOf? e with
    | none =>
      refine ⟨fun h => ⟨(Except.error.inj h).symm, .inl rfl⟩, ?_⟩
      rintro ⟨rfl, -⟩
      rfl
    | some call =>
      simp only [reduceCtorEq, false_or]
      exact ih

/-- The writer stops just at events with an integer of too many digits in them. -/
theorem render_eq_error_iff {es : List Event} {d : Defect} :
    render indent es = .error d ↔ d = .longIntegerText ∧ ∃ e ∈ es, e.argument.HasLong := by
  rw [render, except_map_eq_error, foldlM_eq_error_iff]

end RestRoutes.Sink.Source
