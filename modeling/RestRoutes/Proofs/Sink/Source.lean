import RestRoutes.Proofs.Event.Vocabulary
import RestRoutes.Proofs.Json.Quote
import RestRoutes.Proofs.Sink.Lines
import RestRoutes.Proofs.Text.Split

/-! Source text is read back to the events it was written from.  Whatever stands in a document, it
cannot end a line or a call, so one text belongs to one sequence of events. -/

namespace RestRoutes.Sink.Source

open Api

/-! ### Reading -/

def readText : List Char → Option (String × List Char)
  | '"' :: rest =>
    match Json.string rest.length rest.length rest with
    | .ok (cs, left) => some (String.ofList cs, left)
    | .error _ => none
  | _ => none

/-- Reads texts with commas between them. The fuel bounds their number. -/
def readTexts : (fuel : Nat) → List Char → Option (List String)
  | 0, _ => none
  | fuel + 1, cs =>
    match readText cs with
    | some (s, []) => some [s]
    | some (s, ',' :: ' ' :: rest) => (readTexts fuel rest).map (s :: ·)
    | _ => none

/-- The one of some arguments whose call is given. -/
def pick {α : Type} (argument : α → Argument) (choices : List α) (cs : List Char) :
    Option Argument :=
  (choices.find? fun x => (argument x).call? == some (String.ofList cs)).map argument

def readArgument : Shape → List Char → Option Argument
  | .text, [] => some .absent
  | .text, cs =>
    match readText cs with
    | some (s, []) => some (.text s)
    | _ => none
  | .texts, cs => (readTexts cs.length cs).map .texts
  | .flag, cs => pick .bool [true, false] cs
  | .location, cs => pick .location Location.all cs
  | .format, cs => pick .format CollectionFormat.all cs

/-- A call without the parenthesis at its end, which a semicolon may follow. -/
def withoutEnd (cs : List Char) : Option (List Char) :=
  match cs.reverse with
  | ')' :: front => some front.reverse
  | ';' :: ')' :: front => some front.reverse
  | _ => none

/-- A character in front of the calls of a line. -/
def isLead (c : Char) : Bool := c == ' ' || c == '.'

def readLine (cs : List Char) : Option Event := do
  let (name, rest) ← Text.cutFirst (· == '(') (cs.dropWhile isLead)
  let argument ← readArgument (Shape.ofName (String.ofList name)) (← withoutEnd rest)
  return ⟨String.ofList name, argument⟩

def read (text : String) : Option (List Event) :=
  (Text.splitAll (· == '\n') text.toList).dropLast.mapM readLine

/-! ### Arguments -/

theorem readText_quoted (s : String) (rest : List Char) :
    readText ((Json.quoted s).toList ++ rest) = some (s, rest) := by
  have hFuel : s.toList.length <
      (s.toList.flatMap Json.escapeChar ++ '"' :: rest).length := by
    have hLength : s.toList.length ≤ (s.toList.flatMap Json.escapeChar).length :=
      Json.length_le_escaped s.toList
    simp only [List.length_append, List.length_cons]
    omega
  simp only [Json.quoted, Json.quote, String.toList_ofList, List.cons_append, List.append_assoc,
    List.nil_append, readText, Json.string_quote _ hFuel, String.ofList_toList]

theorem calls?_texts (ss : List String) :
    Argument.calls? (ss.map .text) = some (ss.map Json.quoted) := by
  induction ss with
  | nil => rfl
  | cons s rest ih =>
    have hFirst : Argument.calls? ((s :: rest).map .text) =
        (Argument.calls? (rest.map .text)).map (Json.quoted s :: ·) := by
      rw [List.map_cons, Argument.calls?]
      cases Argument.calls? (rest.map .text) <;> rfl
    rw [hFirst, ih]
    rfl

theorem call?_texts (ss : List String) :
    (Argument.texts ss).call? = some (String.intercalate ", " (ss.map Json.quoted)) := by
  rw [Argument.texts, Argument.call?, calls?_texts]
  rfl

theorem intercalate_cons_cons (s t : String) (rest : List String) :
    (String.intercalate ", " ((s :: t :: rest).map Json.quoted)).toList =
      (Json.quoted s).toList ++
        ',' :: ' ' :: (String.intercalate ", " ((t :: rest).map Json.quoted)).toList := by
  have hComma : ", ".toList = [',', ' '] := rfl
  simp [String.intercalate_cons_cons, hComma]

theorem readTexts_quoted {ss : List String} (h : ss ≠ []) {fuel : Nat} (hFuel : ss.length ≤ fuel) :
    readTexts fuel (String.intercalate ", " (ss.map Json.quoted)).toList = some ss := by
  induction ss generalizing fuel with
  | nil => exact absurd rfl h
  | cons s rest ih =>
    cases fuel with
    | zero => cases hFuel
    | succ fuel =>
      cases rest with
      | nil =>
        have hText := readText_quoted s []
        rw [List.append_nil] at hText
        simp [readTexts, hText]
      | cons t rest =>
        have hRest := ih (by simp) (Nat.le_of_succ_le_succ hFuel)
        rw [intercalate_cons_cons, readTexts, readText_quoted]
        simp only [hRest, Option.map_some]

theorem length_le_quoted (ss : List String) :
    ss.length ≤ (String.intercalate ", " (ss.map Json.quoted)).toList.length := by
  induction ss with
  | nil => simp
  | cons s rest ih =>
    have hText : 1 ≤ (Json.quoted s).toList.length := by simp [Json.quoted, Json.quote]
    cases rest with
    | nil => simpa using hText
    | cons t rest =>
      rw [intercalate_cons_cons, List.length_append, List.length_cons, List.length_cons]
      simp only [List.length_cons] at ih ⊢
      omega

/-- One of some arguments is read back from its call, if the call tells it from the others. -/
theorem pick_call {α : Type} {argument : α → Argument} {choices : List α} {x : α}
    (hx : (choices.find? fun y => (argument y).call? == (argument x).call?) = some x) :
    ∀ call ∈ (argument x).call?, pick argument choices call.toList = some (argument x) := by
  intro call hCall
  rw [pick, String.ofList_toList, ← Option.mem_def.mp hCall, hx, Option.map_some]

/-- An argument is read back from its call. -/
theorem readArgument_call {shape : Shape} {a : Argument} (h : shape.Fits a) :
    ∀ call ∈ a.call?, readArgument shape call.toList = some a := by
  cases h with
  | absent =>
    rintro call ⟨⟩
    rfl
  | text s =>
    rintro call ⟨⟩
    have hText := readText_quoted s []
    have hFull : (Json.quoted s).toList ≠ [] := by simp [Json.quoted, Json.quote]
    rw [List.append_nil] at hText
    rw [readArgument, hText]
    exact hFull
  | texts hFull =>
    rw [call?_texts]
    rintro call ⟨⟩
    rw [readArgument, readTexts_quoted hFull (length_le_quoted _), Option.map_some]
  | flag b => exact pick_call (by cases b <;> decide)
  | location l => exact pick_call (by cases l <;> decide)
  | format f => exact pick_call (by cases f <;> decide)

/-! ### Lines -/

theorem toList_call {e : Event} {call : String} (h : callOf? e = some call) :
    ∃ argument ∈ e.argument.call?,
      call.toList = e.name.toList ++ '(' :: (argument.toList ++ [')']) := by
  obtain ⟨argument, hArgument, rfl⟩ := Option.map_eq_some_iff.mp h
  exact ⟨argument, hArgument, by simp⟩

theorem lead_append {front cs : List Char} {c : Char} (h : ∀ c ∈ front, isLead c = true)
    (hc : isLead c = false) : (front ++ c :: cs).dropWhile isLead = c :: cs := by
  rw [List.dropWhile_append_of_pos h, List.dropWhile_cons_of_neg (by simp [hc])]

/-- The front of a line that belongs to its level. -/
def lead (level : Nat) : List Char :=
  if level = 0 then [] else (List.replicate level standardIndent).flatMap String.toList ++ ['.']

theorem isLead_lead (level : Nat) : ∀ c ∈ lead level, isLead c = true := by
  intro c hc
  unfold lead at hc
  split at hc
  · cases hc
  · simp only [List.mem_append, List.mem_flatMap, List.mem_replicate, List.mem_singleton] at hc
    obtain ⟨indent, ⟨-, rfl⟩, hc⟩ | rfl := hc
    · have hBlanks : standardIndent.toList = List.replicate 4 ' ' := rfl
      rw [hBlanks] at hc
      rw [List.eq_of_mem_replicate hc]
      rfl
    · rfl

theorem text_toList (line : Line) :
    (line.text standardIndent).toList = lead line.level ++ line.call.toList := by
  unfold Line.text lead
  split
  · rfl
  · simp [String.toList_join]

theorem withoutEnd_call (cs : List Char) (last : Bool) :
    withoutEnd (cs ++ ')' :: (if last then [';'] else [])) = some cs := by
  cases last <;> simp [withoutEnd]

theorem isLead_of_isAlpha {c : Char} (h : c.isAlpha = true) : isLead c = false := by
  by_contra hLead
  simp only [isLead, Bool.not_eq_false, Bool.or_eq_true, beq_iff_eq] at hLead
  obtain rfl | rfl := hLead <;> cases h

/-- An event is read back from its line, be it the last of its statement or not. -/
theorem readLine_text {e : Event} {call : String} (h : e.Spoken) (hCall : callOf? e = some call)
    (level : Nat) (last : Bool) :
    readLine ((Line.text standardIndent ⟨level, call⟩).toList ++ (if last then [';'] else [])) =
      some e := by
  obtain ⟨argument, hArgument, hChars⟩ := toList_call hCall
  have hName : ∀ c ∈ e.name.toList, (c == '(') = false := by
    intro c hc
    refine beq_eq_false_iff_ne.mpr ?_
    rintro rfl
    cases h.isAlpha _ hc
  have hLead : ∀ rest, (lead level ++ (e.name.toList ++ '(' :: rest)).dropWhile isLead =
      e.name.toList ++ '(' :: rest := by
    intro rest
    cases hn : e.name.toList with
    | nil => exact lead_append (isLead_lead level) rfl
    | cons c cs =>
      exact lead_append (isLead_lead level) (isLead_of_isAlpha (h.isAlpha c (by simp [hn])))
  rw [text_toList, hChars]
  simp only [readLine, List.append_assoc, List.cons_append, List.nil_append, hLead,
    Text.cutFirst_append hName (beq_self_eq_true '('), withoutEnd_call, Option.bind_eq_bind,
    Option.bind_some, String.ofList_toList, readArgument_call h.fits argument hArgument,
    Option.pure_def]

theorem newline_notMem_text {e : Event} {call : String} (h : e.Spoken)
    (hCall : callOf? e = some call) (level : Nat) :
    '\n' ∉ (Line.text standardIndent ⟨level, call⟩).toList := by
  have hName : '\n' ∉ e.name.toList := fun hc => nomatch h.isAlpha _ hc
  rw [text_toList, List.mem_append, not_or]
  exact ⟨fun hc => (nomatch isLead_lead level _ hc), newline_notMem_call hCall hName⟩

/-! ### Whole texts -/

theorem splitAll_textOf {e : Event} {call : String} (h : e.Spoken) (hCall : callOf? e = some call)
    (level : Nat) (rest : List Line) :
    Text.splitAll (· == '\n') (textOf standardIndent (⟨level, call⟩ :: rest)).toList =
      ((Line.text standardIndent ⟨level, call⟩).toList ++
        (if endsStatement rest then [';'] else [])) ::
      Text.splitAll (· == '\n') (textOf standardIndent rest).toList := by
  have hLine : ∀ c ∈ (Line.text standardIndent ⟨level, call⟩).toList ++
      (if endsStatement rest then [';'] else []), (c == '\n') = false := by
    intro c hc
    refine beq_eq_false_iff_ne.mpr ?_
    rintro rfl
    obtain hc | hc := List.mem_append.mp hc
    · exact newline_notMem_text h hCall level hc
    · cases hEnd : endsStatement rest <;> simp [hEnd] at hc
  have hEnd : (if endsStatement rest then ";\n" else "\n").toList =
      (if endsStatement rest then [';'] else []) ++ ['\n'] := by
    cases endsStatement rest <;> rfl
  rw [textOf, String.toList_append, String.toList_append, hEnd,
    ← Text.splitAll_append hLine (beq_self_eq_true '\n')]
  simp

theorem read_linesFrom {written : List (Event × String)} (hWritten : Written written)
    (h : ∀ x ∈ written, x.1.Spoken) (p : Place) :
    read (textOf standardIndent (linesFrom p written)) = some (written.map Prod.fst) := by
  induction written generalizing p with
  | nil => rfl
  | cons x rest ih =>
    obtain ⟨e, call⟩ := x
    obtain ⟨hCall, hCalls⟩ := List.forall_mem_cons.mp hWritten
    obtain ⟨hFirst, hSpoken⟩ := List.forall_mem_cons.mp h
    have hRest := ih hCalls hSpoken (p.after e.name)
    rw [read] at hRest ⊢
    rw [linesFrom, splitAll_textOf hFirst hCall,
      List.dropLast_cons_of_ne_nil (Text.splitAll_ne_nil _ _), List.mapM_cons,
      readLine_text hFirst hCall, hRest]
    rfl

/-- Events of the vocabulary are written, and read back. -/
theorem read_render {es : List Event} (h : ∀ e ∈ es, e.Spoken) :
    ∃ text, render standardIndent es = .ok text ∧ read text = some es := by
  obtain ⟨written, hWritten, rfl⟩ := exists_written fun e he => (h e he).not_hasLong
  have hSpoken : ∀ x ∈ written, x.1.Spoken := fun x hx => h _ (List.mem_map_of_mem hx)
  exact ⟨_, render_eq standardIndent hWritten, read_linesFrom hWritten hSpoken .outside⟩

/-- Whatever is emitted, in a run that ends well or in one that fails, is written as source text, and
read back from it.  So two runs with the same text emit the same events. -/
theorem read_render_generate (g : Generator) (t : Destination.Template) :
    (∃ text, render standardIndent (g.routedTo t).generate.events = .ok text ∧
      read text = some (g.routedTo t).generate.events) ∧
    ∀ (g' : Generator) (t' : Destination.Template),
      render standardIndent (g.routedTo t).generate.events =
        render standardIndent (g'.routedTo t').generate.events ↔
      (g.routedTo t).generate.events = (g'.routedTo t').generate.events := by
  obtain ⟨text, hText, hRead⟩ := read_render (g.generate_spoken t)
  refine ⟨⟨text, hText, hRead⟩, fun g' t' => ⟨fun hSame => ?_, fun hEvents => by rw [hEvents]⟩⟩
  obtain ⟨text', hText', hRead'⟩ := read_render (g'.generate_spoken t')
  rw [hText, hText'] at hSame
  rw [← Except.ok.inj hSame, hRead] at hRead'
  exact Option.some.inj hRead'

end RestRoutes.Sink.Source
