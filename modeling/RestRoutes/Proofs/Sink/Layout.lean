import Mathlib.Data.List.DropRight
import Mathlib.Data.List.Induction
import RestRoutes.Proofs.Sink.Lines
import RestRoutes.Proofs.Text.Split

/-! The layout of source text.  Each event is one line, and its indentation follows from what stands
before it: whether an operation has been started since the last statement, and whether a block is
open.  A semicolon ends a line exactly where a statement ends.  Nothing in an argument can break a
line.  There is one mark for open blocks, which the first `endParam` takes back: of blocks in one
another only the outermost ends where it began. -/

namespace RestRoutes.Sink.Source

/-! ### Where a line belongs -/

/-- An operation has been started since the last statement at the margin. -/
def startsVerb (before : List Event) : Bool :=
  (before.rtakeWhile fun e => !isTopLevel e.name).any fun e => isVerb e.name

/-- An event that opens a block or closes one. -/
def marksBlock (e : Event) : Bool :=
  e.name == "param" || e.name == "endParam" || isVerb e.name || isTopLevel e.name

/-- A block is open: the last event that opens or closes one is a `param`. -/
def inBlock (before : List Event) : Bool :=
  (before.rdropWhile fun e => !marksBlock e).getLast?.any fun e => e.name == "param"

/-- The level of the line for an event after some others. -/
def levelAfter (before : List Event) (e : Event) : Nat :=
  if isTopLevel e.name then 0
  else if isVerb e.name then 1
  else (if startsVerb before then 2 else 1) + if inBlock before && e.name != "endParam" then 1 else 0

/-- The place that events lead to. -/
def placeAfter (p : Place) (es : List Event) : Place := es.foldl (fun p e => p.after e.name) p

theorem not_isTopLevel_mark :
    ∀ mark ∈ ["param", "endParam"], isTopLevel mark = false ∧ isVerb mark = false := by decide

theorem startsVerb_append (es : List Event) (e : Event) :
    startsVerb (es ++ [e]) = (!isTopLevel e.name && (isVerb e.name || startsVerb es)) := by
  unfold startsVerb
  cases hTop : isTopLevel e.name with
  | true =>
    rw [List.rtakeWhile_concat_neg _ _ _ (by simp [hTop])]
    rfl
  | false =>
    rw [List.rtakeWhile_concat_pos _ _ _ (by simp [hTop])]
    simp [Bool.or_comm]

theorem inBlock_append (es : List Event) (e : Event) :
    inBlock (es ++ [e]) = if marksBlock e then e.name == "param" else inBlock es := by
  unfold inBlock
  cases hMarks : marksBlock e with
  | true =>
    rw [List.rdropWhile_concat_neg _ _ _ (by simp [hMarks])]
    simp
  | false =>
    rw [List.rdropWhile_concat_pos _ _ _ (by simp [hMarks])]
    simp

/-- The place that events lead to says whether an operation and whether a block is open. -/
theorem placeAfter_outside (es : List Event) :
    placeAfter .outside es = ⟨startsVerb es, inBlock es⟩ := by
  induction es using List.reverseRecOn with
  | nil => rfl
  | append_singleton es e ih =>
    have hStep : placeAfter .outside (es ++ [e]) = (placeAfter .outside es).after e.name := by
      simp [placeAfter]
    rw [hStep, ih, startsVerb_append, inBlock_append]
    -- The marks of blocks start neither a statement nor an operation, so the cases do not meet.
    have hMark {mark : String} (hMem : mark ∈ ["param", "endParam"])
        (h : isTopLevel e.name = true ∨ isVerb e.name = true) : e.name ≠ mark := by
      rintro rfl
      obtain ⟨hTop, hVerb⟩ := not_isTopLevel_mark _ hMem
      simp [hTop, hVerb] at h
    cases hTop : isTopLevel e.name with
    | true => simp [Place.after, Place.outside, marksBlock, hTop, hMark _ (.inl hTop)]
    | false =>
      cases hVerb : isVerb e.name with
      | true => simp [Place.after, marksBlock, hTop, hVerb, hMark _ (.inr hVerb)]
      | false =>
        simp only [Place.after, marksBlock, hTop, hVerb]
        by_cases hParam : e.name = "param"
        · simp [hParam]
        · by_cases hEnd : e.name = "endParam" <;> simp [hParam, hEnd]

theorem level_placeAfter (before : List Event) (e : Event) :
    (placeAfter .outside before).level e.name = levelAfter before e := by
  rw [placeAfter_outside]
  unfold Place.level levelAfter Place.fieldLevel
  by_cases hEnd : e.name = "endParam" <;> simp [hEnd]

theorem levelAfter_eq_zero_iff {before : List Event} {e : Event} :
    levelAfter before e = 0 ↔ isTopLevel e.name = true := by
  unfold levelAfter
  split
  · simp [*]
  · split
    · simp [*]
    · split <;> simp [*]

/-! ### Lines -/

/-- What stands before each line feed of a text. -/
def linesOf (text : String) : List (List Char) :=
  (Text.splitAll (· == '\n') text.toList).dropLast

/-- What stands before the call on a line. -/
def margin (indent : String) (before : List Event) (e : Event) : List Char :=
  if isTopLevel e.name then []
  else (List.replicate (levelAfter before e) indent.toList).flatten ++ ['.']

/-- The line for an event and its call, without a semicolon at its end. -/
def body (indent : String) (before : List Event) (e : Event) (call : String) : List Char :=
  margin indent before e ++ call.toList

/-- A statement ends where no event follows, or one that starts a statement. -/
def endsBefore (rest : List Event) : Bool := rest.head?.all fun e => isTopLevel e.name

/-- A semicolon where a statement ends. -/
def terminator (ends : Bool) : List Char := if ends then [';'] else []

/-- The lines that some events are written as, after the given ones. -/
def writtenAfter (indent : String) (before : List Event) : List (Event × String) → List (List Char)
  | [] => []
  | (e, call) :: rest =>
    (body indent before e call ++ terminator (endsBefore (rest.map Prod.fst))) ::
      writtenAfter indent (before ++ [e]) rest

theorem text_line (indent : String) (before : List Event) (e : Event) (call : String) :
    (Line.text indent ⟨levelAfter before e, call⟩).toList = body indent before e call := by
  unfold Line.text body margin
  by_cases hTop : isTopLevel e.name = true
  · simp [levelAfter_eq_zero_iff.mpr hTop, hTop]
  · have hLevel : ¬ levelAfter before e = 0 := fun h => hTop (levelAfter_eq_zero_iff.mp h)
    simp [hLevel, hTop, String.toList_join, List.flatMap_def]

theorem endsStatement_linesFrom (before : List Event) (rest : List (Event × String)) :
    endsStatement (linesFrom (placeAfter .outside before) rest) =
      endsBefore (rest.map Prod.fst) := by
  cases rest with
  | nil => rfl
  | cons x rest =>
    have hLevel : ((placeAfter .outside before).level x.1.name == 0) = isTopLevel x.1.name := by
      rw [level_placeAfter, Bool.eq_iff_iff, beq_iff_eq, levelAfter_eq_zero_iff]
    simpa [linesFrom, endsStatement, endsBefore] using hLevel

theorem textOf_linesFrom (indent : String) (before : List Event) (written : List (Event × String)) :
    (textOf indent (linesFrom (placeAfter .outside before) written)).toList =
      (writtenAfter indent before written).flatMap (· ++ ['\n']) := by
  induction written generalizing before with
  | nil => rfl
  | cons x rest ih =>
    obtain ⟨e, call⟩ := x
    have hNext : (placeAfter .outside before).after e.name = placeAfter .outside (before ++ [e]) := by
      simp [placeAfter]
    have hEnd : (if endsBefore (rest.map Prod.fst) then ";\n" else "\n").toList =
        terminator (endsBefore (rest.map Prod.fst)) ++ ['\n'] := by
      cases endsBefore (rest.map Prod.fst) <;> rfl
    rw [linesFrom, textOf, hNext, endsStatement_linesFrom, level_placeAfter, String.toList_append,
      String.toList_append, text_line, hEnd, ih, writtenAfter, List.flatMap_cons]
    simp

section

variable {indent : String} {written : List (Event × String)}

theorem newline_notMem_body {e : Event} {call : String} (hIndent : '\n' ∉ indent.toList)
    (hName : '\n' ∉ e.name.toList) (hCall : callOf? e = some call) (before : List Event) :
    '\n' ∉ body indent before e call := by
  have hMargin : '\n' ∉ margin indent before e := by
    unfold margin
    split
    · exact List.not_mem_nil
    · simpa [List.mem_flatten, List.mem_replicate] using fun _ => hIndent
  simpa [body] using ⟨hMargin, newline_notMem_call hCall hName⟩

theorem newline_notMem_writtenAfter (hIndent : '\n' ∉ indent.toList)
    (hNames : ∀ x ∈ written, '\n' ∉ x.1.name.toList) (hWritten : Written written)
    (before : List Event) : ∀ line ∈ writtenAfter indent before written, '\n' ∉ line := by
  induction written generalizing before with
  | nil => exact fun _ h => absurd h List.not_mem_nil
  | cons x rest ih =>
    obtain ⟨e, call⟩ := x
    obtain ⟨hName, hNames⟩ := List.forall_mem_cons.mp hNames
    obtain ⟨hCall, hRest⟩ := List.forall_mem_cons.mp hWritten
    have hEnd : '\n' ∉ terminator (endsBefore (rest.map Prod.fst)) := by
      cases endsBefore (rest.map Prod.fst) <;> decide
    rw [writtenAfter, List.forall_mem_cons]
    exact ⟨by simpa using ⟨newline_notMem_body hIndent hName hCall before, hEnd⟩,
      ih hNames hRest _⟩

/-- The text of written events, by its lines. -/
theorem exists_render (hIndent : '\n' ∉ indent.toList)
    (hNames : ∀ x ∈ written, '\n' ∉ x.1.name.toList) (hWritten : Written written) :
    ∃ text, render indent (written.map Prod.fst) = .ok text ∧
      text.toList = (writtenAfter indent [] written).flatMap (· ++ ['\n']) ∧
      linesOf text = writtenAfter indent [] written := by
  have hLines : ∀ line ∈ writtenAfter indent [] written, ∀ c ∈ line, (c == '\n') = false := by
    intro line hLine c hc
    refine beq_eq_false_iff_ne.mpr ?_
    rintro rfl
    exact newline_notMem_writtenAfter hIndent hNames hWritten [] line hLine hc
  have hText := textOf_linesFrom indent [] written
  refine ⟨_, render_eq indent hWritten, hText, ?_⟩
  rw [linesOf]
  refine (congrArg (fun cs => (Text.splitAll (· == '\n') cs).dropLast) hText).trans ?_
  rw [Text.splitAll_ended hLines (beq_self_eq_true '\n'), List.dropLast_concat]

theorem length_writtenAfter (before : List Event) :
    (writtenAfter indent before written).length = written.length := by
  induction written generalizing before with
  | nil => rfl
  | cons x rest ih => simp [writtenAfter, ih]

/-- Of the lines of events, one more, and then others: what follows decides only how the line before
it ends. -/
theorem writtenAfter_append (indent : String) (written : List (Event × String))
    (before : List Event) (x : Event × String) :
    ∃ front, front.length = written.length ∧ ∀ rest,
      writtenAfter indent before (written ++ x :: rest) =
        front ++ (body indent (before ++ written.map Prod.fst) x.1 x.2 ++
            terminator (endsBefore (rest.map Prod.fst))) ::
          writtenAfter indent (before ++ written.map Prod.fst ++ [x.1]) rest := by
  induction written generalizing before with
  | nil => exact ⟨[], rfl, fun rest => by simp [writtenAfter]⟩
  | cons d written ih =>
    obtain ⟨front, hLength, hFront⟩ := ih (before ++ [d.1])
    have hNext : ∀ rest, endsBefore ((written ++ x :: rest).map Prod.fst) =
        endsBefore ((written ++ [x]).map Prod.fst) := by
      intro rest
      cases written <;> rfl
    refine ⟨(body indent before d.1 d.2 ++
        terminator (endsBefore ((written ++ [x]).map Prod.fst))) :: front,
      by simp [hLength], fun rest => ?_⟩
    rw [List.cons_append, writtenAfter, hFront, hNext]
    simp

end

/-! ### Blocks -/

/-- Blocks are neither nested nor broken off: of the events that open or close one, only an
`endParam` follows a `param`. -/
def Bracketed (es : List Event) : Prop :=
  ∀ before e rest, es = before ++ e :: rest → inBlock before = true → marksBlock e = true →
    e.name = "endParam"

/-- Inside a block nothing changes where lines belong. -/
theorem inBlock_of_bracketed {before block rest : List Event} {start : Event}
    (h : Bracketed (before ++ start :: (block ++ rest))) (hStart : start.name = "param")
    (hBlock : ∀ e ∈ block, e.name ≠ "endParam") :
    inBlock (before ++ start :: block) = true ∧
      startsVerb (before ++ start :: block) = startsVerb before := by
  induction block using List.reverseRecOn generalizing rest with
  | nil =>
    obtain ⟨hTop, hVerb⟩ := not_isTopLevel_mark "param" (by simp)
    rw [inBlock_append, startsVerb_append]
    simp [marksBlock, hStart, hTop, hVerb]
  | append_singleton block e ih =>
    have hRest : Bracketed (before ++ start :: (block ++ e :: rest)) := by simpa using h
    obtain ⟨hIn, hVerb⟩ := ih hRest fun d hd => hBlock d (by simp [hd])
    have hMarks : marksBlock e = false := by
      by_contra hMarks
      exact hBlock e (by simp) (hRest (before ++ start :: block) e rest (by simp) hIn
        (by simpa using hMarks))
    have hParts := hMarks
    simp only [marksBlock, Bool.or_eq_false_iff] at hParts
    have hAppend : before ++ start :: (block ++ [e]) = before ++ start :: block ++ [e] := by simp
    rw [hAppend, inBlock_append, startsVerb_append]
    simp [hMarks, hIn, hVerb, hParts]

/-- The two ends of a block stand at the same level. -/
theorem levelAfter_endParam {before block rest : List Event} {start stop : Event}
    (h : Bracketed (before ++ start :: (block ++ stop :: rest))) (hStart : start.name = "param")
    (hStop : stop.name = "endParam") (hBlock : ∀ e ∈ block, e.name ≠ "endParam") :
    levelAfter (before ++ start :: block) stop = levelAfter before start := by
  obtain ⟨hTop, hVerb⟩ := not_isTopLevel_mark "param" (by simp)
  obtain ⟨hTop', hVerb'⟩ := not_isTopLevel_mark "endParam" (by simp)
  have hOutside : inBlock before = false := by
    by_contra hIn
    have hEnd := h before start _ rfl (by simpa using hIn) (by simp [marksBlock, hStart])
    rw [hStart] at hEnd
    exact absurd hEnd (by decide)
  simp [levelAfter, hStart, hStop, hTop, hVerb, hTop', hVerb', hOutside,
    (inBlock_of_bracketed h hStart hBlock).2]

/-- The layout of a source text.  Each event that can be written is one line, in order.  A line stands
at the margin if it starts a statement, one level in if it starts an operation, and else one or two
levels in, and one more inside a block.  It ends with its call and, exactly where its statement ends,
one semicolon.  The two ends of a block stand at the same level, and another event at the end changes
only how the line before it ends. -/
theorem render_layout {indent : String} {es : List Event} (hIndent : '\n' ∉ indent.toList)
    (hNames : ∀ e ∈ es, '\n' ∉ e.name.toList) (hTexts : ∀ e ∈ es, ¬ e.argument.HasLong) :
    ∃ text, render indent es = .ok text ∧
    text.toList = (linesOf text).flatMap (· ++ ['\n']) ∧ (linesOf text).length = es.length ∧
    (∀ before e rest, es = before ++ e :: rest → ∃ call, callOf? e = some call ∧
      (linesOf text)[before.length]? =
        some (margin indent before e ++ call.toList ++ terminator (endsBefore rest)) ∧
      call.toList.getLast? = some ')') ∧
    (Bracketed es → ∀ before start block stop rest,
      es = before ++ start :: (block ++ stop :: rest) → start.name = "param" →
      stop.name = "endParam" → (∀ e ∈ block, e.name ≠ "endParam") →
      margin indent (before ++ start :: block) stop = margin indent before start) ∧
    ∀ init last e, es = init ++ [last] → '\n' ∉ e.name.toList → ¬ e.argument.HasLong →
      ∃ front line call more, callOf? e = some call ∧ render indent (es ++ [e]) = .ok more ∧
        linesOf text = front ++ [line ++ [';']] ∧
        linesOf more = front ++ [line ++ terminator (isTopLevel e.name),
          margin indent es e ++ call.toList ++ [';']] := by
  obtain ⟨written, hWritten, rfl⟩ := exists_written hTexts
  have hWords : ∀ x ∈ written, '\n' ∉ x.1.name.toList := fun x hx =>
    hNames _ (List.mem_map_of_mem hx)
  obtain ⟨text, hText, hChars, hLines⟩ := exists_render hIndent hWords hWritten
  refine ⟨text, hText, by rw [hLines, hChars],
    by rw [hLines, length_writtenAfter, List.length_map], ?_, ?_, ?_⟩
  · intro before e rest hSplit
    obtain ⟨front, tail, rfl, rfl, hTail⟩ := List.map_eq_append_iff.mp hSplit
    obtain ⟨x, tail, rfl, rfl, rfl⟩ := List.map_eq_cons_iff.mp hTail
    obtain ⟨lines, hLength, hFront⟩ := writtenAfter_append indent front [] x
    have hCall : callOf? x.1 = some x.2 := hWritten x (by simp)
    refine ⟨x.2, hCall, ?_, getLast?_call hCall⟩
    rw [hLines, hFront, List.length_map, ← hLength, List.getElem?_append_right le_rfl]
    simp [body]
  · rintro hBracketed before start block stop rest hSplit hStart hStop hBlock
    rw [hSplit] at hBracketed
    have hTop := (not_isTopLevel_mark "param" (by simp)).1
    have hTop' := (not_isTopLevel_mark "endParam" (by simp)).1
    simp only [margin, hStart, hStop, hTop, hTop',
      levelAfter_endParam hBracketed hStart hStop hBlock]
  · intro init last e hSplit hName hArgument
    obtain ⟨front, tail, rfl, rfl, hTail⟩ := List.map_eq_append_iff.mp hSplit
    obtain ⟨x, rfl, rfl⟩ := List.map_eq_singleton_iff.mp hTail
    obtain ⟨call, hCall⟩ :=
      Option.ne_none_iff_exists'.mp fun hNone => hArgument ((callOf?_eq_none_iff e).mp hNone)
    have hMore : Written (front ++ [x, (e, call)]) := by
      rw [Written, List.forall_mem_append] at hWritten ⊢
      simpa [hCall] using hWritten
    have hMoreWords : ∀ y ∈ front ++ [x, (e, call)], '\n' ∉ y.1.name.toList := by
      rw [List.forall_mem_append] at hWords ⊢
      simpa [hName] using hWords
    obtain ⟨more, hMoreText, -, hMoreLines⟩ := exists_render hIndent hMoreWords hMore
    obtain ⟨lines, -, hFront⟩ := writtenAfter_append indent front [] x
    refine ⟨lines, body indent (front.map Prod.fst) x.1 x.2, call, more, hCall, ?_, ?_, ?_⟩
    · rw [← hMoreText]
      simp
    · rw [hLines, hFront]
      rfl
    · rw [hMoreLines, hFront]
      simp [writtenAfter, body, endsBefore, terminator]

/-- A service whose texts look like ends of statements and of lines. -/
def trickyService : List Event :=
  [⟨"rest", .text ";"⟩, ⟨"get", .text "/a\n;"⟩, .bare "param", ⟨"name", .text "();"⟩,
    .bare "endParam", ⟨"restConfiguration", .absent⟩, ⟨"host", .list [.text "a;", .text "\n"]⟩]

theorem render_layout_trickyService :
    '\n' ∉ "\t".toList ∧ (∀ e ∈ trickyService, '\n' ∉ e.name.toList) ∧
      (∀ e ∈ trickyService, ¬ e.argument.HasLong) ∧
      ∃ text, render "\t" trickyService = .ok text ∧ (linesOf text).length = 7 ∧
        (linesOf text)[3]? = some "\t\t\t.name(\"();\")".toList ∧
        (linesOf text)[4]? = some "\t\t.endParam();".toList := by
  have hIndent : '\n' ∉ "\t".toList := by decide
  have hNames : ∀ e ∈ trickyService, '\n' ∉ e.name.toList := by decide
  have hTexts : ∀ e ∈ trickyService, ¬ e.argument.HasLong := by
    simp only [← callOf?_eq_none_iff]
    decide
  obtain ⟨text, hText, -, hLength, hLines, -⟩ := render_layout hIndent hNames hTexts
  obtain ⟨name, hName, hNameLine, -⟩ := hLines (trickyService.take 3) _ _ rfl
  obtain ⟨stop, hStop, hStopLine, -⟩ := hLines (trickyService.take 4) _ _ rfl
  cases hName
  cases hStop
  exact ⟨hIndent, hNames, hTexts, text, hText, hLength, hNameLine, hStopLine⟩

/-! ### Blocks in blocks -/

/-- Every block is closed again, and so are the blocks in it. -/
inductive WellBracketed : List Event → Prop
  | nil : WellBracketed []
  | other {e : Event} {rest : List Event} (hStart : e.name ≠ "param") (hStop : e.name ≠ "endParam")
    (hRest : WellBracketed rest) : WellBracketed (e :: rest)
  | block {start stop : Event} {inner rest : List Event} (hStart : start.name = "param")
    (hStop : stop.name = "endParam") (hInner : WellBracketed inner) (hRest : WellBracketed rest) :
    WellBracketed (start :: (inner ++ stop :: rest))

def blockInBlock : List Event :=
  [⟨"get", .text "/pets"⟩, .bare "param", .bare "param", .bare "endParam", .bare "endParam"]

/-- The end of the block inside stands one level further out than its start.  And an integer of too
many digits, in any event, keeps the whole text from being written. -/
theorem margin_blockInBlock :
    WellBracketed blockInBlock ∧
    render standardIndent blockInBlock = .ok ("    .get(\"/pets\")\n        .param()\n" ++
      "            .param()\n        .endParam()\n        .endParam();\n") ∧
    (∃ before start stop rest, blockInBlock = before ++ start :: stop :: rest ∧
      start.name = "param" ∧ stop.name = "endParam" ∧
      margin standardIndent before start = "            .".toList ∧
      margin standardIndent (before ++ [start]) stop = "        .".toList) ∧
    render standardIndent [⟨"get", .int (Number.pow10 integerDigitLimit)⟩] =
      .error .longIntegerText := by
  refine ⟨?_, by decide +kernel,
    ⟨blockInBlock.take 2, _, _, _, rfl, rfl, rfl, by decide, by decide⟩, ?_⟩
  · have hInner : WellBracketed [.bare "param", .bare "endParam"] := .block rfl rfl .nil .nil
    exact .other (by decide) (by decide) (.block rfl rfl hInner .nil)
  · rw [render_eq_error_iff]
    exact ⟨rfl, _, List.mem_singleton_self _, .int (by rw [Int.natAbs_natCast])⟩

end RestRoutes.Sink.Source
