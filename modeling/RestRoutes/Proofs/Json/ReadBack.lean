import RestRoutes.Proofs.Assoc
import RestRoutes.Proofs.Json.Quote
import RestRoutes.Proofs.Value

/-! What is written is read back.  A value of texts, booleans and nulls, in lists and in maps with
distinct names, comes back from its JSON text as it was, in whatever layout it is written, with the
entries of its maps in their order. -/

namespace RestRoutes

/-- Distinct names are distinct keys. -/
theorem Value.ofEntries_named {es : List (String × Value)} (h : (es.map Prod.fst).Nodup) :
    Value.ofEntries (es.map fun e => (.str e.1, e.2)) = .ofNamed es := by
  refine congrArg Value.map (Assoc.ofEntries_of_distinct (List.pairwise_map.mpr ?_))
  refine (List.pairwise_map.mp h).imp fun {e f} hNames => ?_
  show (e.1 == f.1) = false
  exact beq_eq_false_iff_ne.mpr hNames

namespace Json

/-- A value that JSON keeps: texts, booleans and nulls, in lists and in maps with distinct names. -/
inductive Faithful : Value → Prop
  | null : Faithful .null
  | bool (b : Bool) : Faithful (.bool b)
  | str (s : String) : Faithful (.str s)
  | list {xs : List Value} (items : ∀ x ∈ xs, Faithful x) : Faithful (.list xs)
  | named {es : List (String × Value)} (distinct : (es.map Prod.fst).Nodup)
    (values : ∀ e ∈ es, Faithful e.2) : Faithful (.ofNamed es)

/-! ### White space -/

def Blank (cs : List Char) : Prop := ∀ c ∈ cs, isSpace c = true

theorem skipSpace_blank {blank : List Char} (h : Blank blank) (cs : List Char) :
    skipSpace (blank ++ cs) = skipSpace cs :=
  List.dropWhile_append_of_pos h

theorem skipSpace_cons {c : Char} (h : isSpace c = false) (cs : List Char) :
    skipSpace (c :: cs) = c :: cs :=
  List.dropWhile_cons_of_neg (by rw [h]; exact Bool.false_ne_true)

/-- A layout puts nothing but white space around what it lays out. -/
structure Layout.Spaced (layout : Layout) : Prop where
  opening (depth : Nat) : Blank (layout.opening depth)
  between (depth : Nat) : ∃ blank, Blank blank ∧ layout.between depth = ',' :: blank
  closing (depth : Nat) : Blank (layout.closing depth)
  colon : ∃ blank, Blank blank ∧ layout.colon = ':' :: blank

theorem blank_newLine (depth : Nat) : Blank (newLine depth) := by
  intro c hc
  obtain rfl | hc := List.mem_cons.mp hc
  · rfl
  · rw [List.eq_of_mem_replicate hc]
    rfl

theorem indented_spaced : indented.Spaced where
  opening _ := blank_newLine _
  between _ := ⟨_, blank_newLine _, rfl⟩
  closing _ := blank_newLine _
  colon := ⟨[' '], by simp [Blank, isSpace], rfl⟩

/-! ### Steps of the readers -/

section Steps

variable {fuel : Nat} {cs name rest left written after : List Char} {v : Value}

theorem value_array {c : Char} (h : (skipSpace cs).head? = some c) (hc : c ≠ ']') :
    value (fuel + 1) ('[' :: cs) =
      (elements fuel (skipSpace cs)).map fun (xs, left) => (.list xs, left) := by
  rw [value]
  split
  · rename_i hEnd
    rw [hEnd] at h
    exact absurd (Option.some.inj h).symm hc
  · rfl

theorem value_object {c : Char} (h : (skipSpace cs).head? = some c) (hc : c ≠ '\x7d') :
    value (fuel + 1) ('\x7b' :: cs) =
      (members fuel (skipSpace cs)).map fun (es, left) => (Value.ofEntries es, left) := by
  rw [value]
  split
  · rename_i hEnd
    rw [hEnd] at h
    exact absurd (Option.some.inj h).symm hc
  · rfl

theorem elements_last (h : value fuel cs = .ok (v, rest)) (hEnd : skipSpace rest = ']' :: left) :
    elements (fuel + 1) cs = .ok ([v], left) := by
  rw [elements, h]
  simp only [Bind.bind, Except.bind, hEnd]

theorem elements_more (h : value fuel cs = .ok (v, rest)) (hNext : skipSpace rest = ',' :: left) :
    elements (fuel + 1) cs =
      (elements fuel (skipSpace left)).map fun (xs, left) => (v :: xs, left) := by
  rw [elements, h]
  simp only [Bind.bind, Except.bind, hNext]
  cases elements fuel (skipSpace left) <;> rfl

theorem members_last (hName : string (cs.length + 1) (cs.length + 1) cs = .ok (name, rest))
    (hColon : skipSpace rest = ':' :: written)
    (h : value fuel (skipSpace written) = .ok (v, after)) (hEnd : skipSpace after = '\x7d' :: left) :
    members (fuel + 1) ('"' :: cs) = .ok ([(.str (String.ofList name), v)], left) := by
  rw [members]
  simp only [List.length_cons, hName, Bind.bind, Except.bind, hColon, h, hEnd]

theorem members_more (hName : string (cs.length + 1) (cs.length + 1) cs = .ok (name, rest))
    (hColon : skipSpace rest = ':' :: written)
    (h : value fuel (skipSpace written) = .ok (v, after)) (hNext : skipSpace after = ',' :: left) :
    members (fuel + 1) ('"' :: cs) =
      (members fuel (skipSpace left)).map fun (es, left) =>
        ((.str (String.ofList name), v) :: es, left) := by
  rw [members]
  simp only [List.length_cons, hName, Bind.bind, Except.bind, hColon, h, hNext]
  cases members fuel (skipSpace left) <;> rfl

end Steps

/-! ### Written values -/

/-- The characters that a value that JSON keeps can begin with. -/
def openings : List Char := ['n', 't', 'f', '"', '[', '\x7b']

theorem openings_spec : ∀ c ∈ openings, isSpace c = false ∧ c ≠ ']' ∧ c ≠ '\uFEFF' := by
  simp [openings, isSpace]

variable {layout : Layout}

theorem head?_write (layout : Layout) (depth : Nat) {v : Value} (h : Faithful v) :
    ∃ c ∈ openings, (write layout depth v).head? = some c := by
  cases h with
  | null => exact ⟨_, by decide, rfl⟩
  | bool b => cases b <;> exact ⟨_, by decide, rfl⟩
  | str s => exact ⟨'"', by decide, rfl⟩
  | @list xs => cases xs <;> exact ⟨'[', by decide, rfl⟩
  | @named es => cases es <;> exact ⟨'\x7b', by decide, rfl⟩

theorem skipSpace_write (layout : Layout) {blank : List Char} (hBlank : Blank blank) (depth : Nat) {v : Value}
    (h : Faithful v) (rest : List Char) :
    skipSpace (blank ++ (write layout depth v ++ rest)) = write layout depth v ++ rest := by
  obtain ⟨c, hOpening, hHead⟩ := head?_write layout depth h
  obtain ⟨cs, hText⟩ := List.head?_eq_some_iff.mp hHead
  rw [skipSpace_blank hBlank, hText, List.cons_append, skipSpace_cons (openings_spec c hOpening).1]

/-- A written text is read back, after its opening quote. -/
theorem string_written (s : String) (rest : List Char) :
    let cs := s.toList.flatMap escapeChar ++ '"' :: rest
    string (cs.length + 1) (cs.length + 1) cs = .ok (s.toList, rest) := by
  intro cs
  have hEscaped := length_le_escaped s.toList
  refine string_quote _ ?_ rest
  simp only [cs, List.length_append]
  omega

/-- A value is read back from its text, at any depth and whatever follows it, with as much fuel as its
text is long. -/
def ReadBack (layout : Layout) (v : Value) : Prop :=
  ∀ (depth fuel : Nat) (rest : List Char), (write layout depth v).length ≤ fuel →
    value (fuel + 1) (write layout depth v ++ rest) = .ok (v, rest)

theorem readBack_str (s : String) : ReadBack layout (.str s) := by
  intro depth fuel rest _
  have hText : write layout depth (.str s) ++ rest =
      '"' :: (s.toList.flatMap escapeChar ++ '"' :: rest) := by
    show quote s.toList ++ rest = _
    simp [quote]
  rw [hText, value, List.length_cons, string_written]
  exact congrArg (fun t => Except.ok (Value.str t, rest)) String.ofList_toList

/-- A member of an object as it is written: its name, and its value. -/
def member (layout : Layout) (depth : Nat) (e : String × Value) : List Char :=
  quote e.1.toList ++ layout.colon ++ write layout (depth + 1) e.2

/-- The entry of a map for a named value. -/
def entry (e : String × Value) : Value × Value := (.str e.1, e.2)

theorem member_append (layout : Layout) (depth : Nat) (e : String × Value) (rest : List Char) :
    member layout depth e ++ rest = '"' :: (e.1.toList.flatMap escapeChar ++
      '"' :: (layout.colon ++ (write layout (depth + 1) e.2 ++ rest))) := by
  simp [member, quote]

section Collections

variable (hLayout : layout.Spaced)
include hLayout

theorem elements_written {x : Value} {xs : List Value} (hKept : ∀ y ∈ x :: xs, Faithful y)
    (h : ∀ y ∈ x :: xs, ReadBack layout y) {depth : Nat} (fuel : Nat) (rest : List Char)
    (hFuel : (write layout (depth + 1) x).length + (writeItems layout depth xs).length + 1 < fuel) :
    elements fuel (write layout (depth + 1) x ++ (writeItems layout depth xs ++
      (layout.closing depth ++ ']' :: rest))) = .ok (x :: xs, rest) := by
  -- By induction on the items after the first; the separator before each leaves the fuel for one step.
  induction xs generalizing x fuel with
  | nil =>
    obtain ⟨fuel, rfl⟩ : ∃ n, fuel = n + 2 := ⟨fuel - 2, by omega⟩
    have hRead := h x List.mem_cons_self (depth + 1) fuel (layout.closing depth ++ ']' :: rest)
      (by omega)
    refine elements_last hRead ?_
    rw [skipSpace_blank (hLayout.closing depth), skipSpace_cons rfl]
  | cons y ys ih =>
    obtain ⟨fuel, rfl⟩ : ∃ n, fuel = n + 2 := ⟨fuel - 2, by omega⟩
    obtain ⟨blank, hBlank, hBetween⟩ := hLayout.between depth
    obtain ⟨hx, hys⟩ := List.forall_mem_cons.mp hKept
    rw [writeItems, hBetween] at hFuel ⊢
    simp only [List.cons_append, List.append_assoc, List.length_cons, List.length_append] at hFuel ⊢
    have hRead := h x List.mem_cons_self (depth + 1) fuel (',' :: (blank ++
      (write layout (depth + 1) y ++ (writeItems layout depth ys ++
        (layout.closing depth ++ ']' :: rest))))) (by omega)
    have hRest := ih hys (fun z hz => h z (List.mem_cons_of_mem _ hz)) (fuel + 1) (by omega)
    rw [elements_more hRead (skipSpace_cons rfl _),
      skipSpace_write layout hBlank (depth + 1) (hys y List.mem_cons_self), hRest]
    rfl

theorem members_written {e : String × Value} {es : List (String × Value)}
    (hKept : ∀ f ∈ e :: es, Faithful f.2) (h : ∀ f ∈ e :: es, ReadBack layout f.2) {depth : Nat}
    (fuel : Nat) (rest : List Char)
    (hFuel : (member layout depth e).length +
      (writeMembers layout depth (es.map entry)).length + 1 < fuel) :
    members fuel (member layout depth e ++ (writeMembers layout depth (es.map entry) ++
      (layout.closing depth ++ '\x7d' :: rest))) = .ok ((e :: es).map entry, rest) := by
  obtain ⟨blank, hBlank, hColon⟩ := hLayout.colon
  -- What stands between a name and its value is skipped up to the value, which begins with no blank.
  have hSkip {f : String × Value} (hf : Faithful f.2) (more : List Char) :
      skipSpace (layout.colon ++ (write layout (depth + 1) f.2 ++ more)) =
        ':' :: (blank ++ (write layout (depth + 1) f.2 ++ more)) := by
    rw [hColon, List.cons_append, skipSpace_cons rfl]
  have hShorter (f : String × Value) :
      (write layout (depth + 1) f.2).length ≤ (member layout depth f).length := by
    simp only [member, List.length_append]
    omega
  have hName (f : String × Value) : (Value.str (String.ofList f.1.toList), f.2) = entry f := by
    rw [String.ofList_toList, entry]
  induction es generalizing e fuel with
  | nil =>
    obtain ⟨fuel, rfl⟩ : ∃ n, fuel = n + 2 := ⟨fuel - 2, by omega⟩
    have he := hKept e List.mem_cons_self
    have hLength := hShorter e
    have hRead := h e List.mem_cons_self (depth + 1) fuel (layout.closing depth ++ '\x7d' :: rest)
      (by omega)
    rw [← skipSpace_write layout hBlank (depth + 1) he] at hRead
    rw [List.map_nil, writeMembers, List.nil_append, member_append, List.map_singleton, ← hName]
    refine members_last (string_written e.1 _) (hSkip he _) hRead ?_
    rw [skipSpace_blank (hLayout.closing depth), skipSpace_cons rfl]
  | cons f fs ih =>
    obtain ⟨fuel, rfl⟩ : ∃ n, fuel = n + 2 := ⟨fuel - 2, by omega⟩
    obtain ⟨between, hBlanks, hBetween⟩ := hLayout.between depth
    obtain ⟨he, hfs⟩ := List.forall_mem_cons.mp hKept
    have hMore : writeMembers layout depth ((f :: fs).map entry) =
        ',' :: (between ++ (member layout depth f ++ writeMembers layout depth (fs.map entry))) := by
      rw [List.map_cons, entry, writeMembers, hBetween]
      simp [member, nameChars]
    rw [hMore] at hFuel ⊢
    simp only [List.cons_append, List.append_assoc, List.length_cons, List.length_append] at hFuel ⊢
    have hLength := hShorter e
    have hRead := h e List.mem_cons_self (depth + 1) fuel (',' :: (between ++
      (member layout depth f ++ (writeMembers layout depth (fs.map entry) ++
        (layout.closing depth ++ '\x7d' :: rest))))) (by omega)
    have hRest := ih hfs (fun g hg => h g (List.mem_cons_of_mem _ hg)) (fuel + 1) (by omega)
    rw [← skipSpace_write layout hBlank (depth + 1) he] at hRead
    rw [member_append, members_more (string_written e.1 _) (hSkip he _) hRead (skipSpace_cons rfl _),
      skipSpace_blank hBlanks, member_append, skipSpace_cons rfl, ← member_append, hRest, hName]
    rfl

theorem readBack_list {xs : List Value} (hKept : ∀ x ∈ xs, Faithful x)
    (h : ∀ x ∈ xs, ReadBack layout x) : ReadBack layout (.list xs) := by
  intro depth fuel rest hFuel
  cases xs with
  | nil => rfl
  | cons x xs =>
    obtain ⟨c, hOpening, hHead⟩ := head?_write layout (depth + 1) (hKept x List.mem_cons_self)
    rw [write] at hFuel ⊢
    simp only [List.cons_append, List.append_assoc, List.length_cons, List.length_append,
      List.nil_append] at hFuel ⊢
    have hSkip := skipSpace_write layout (hLayout.opening depth) (depth + 1)
      (hKept x List.mem_cons_self) (writeItems layout depth xs ++ (layout.closing depth ++ ']' :: rest))
    have hStart : (skipSpace (layout.opening depth ++ (write layout (depth + 1) x ++
        (writeItems layout depth xs ++ (layout.closing depth ++ ']' :: rest))))).head? = some c := by
      rw [hSkip, List.head?_append, hHead]
      rfl
    rw [value_array hStart (openings_spec c hOpening).2.1, hSkip,
      elements_written hLayout hKept h fuel rest (by omega)]
    rfl

theorem readBack_named {es : List (String × Value)} (hDistinct : (es.map Prod.fst).Nodup)
    (hKept : ∀ e ∈ es, Faithful e.2) (h : ∀ e ∈ es, ReadBack layout e.2) :
    ReadBack layout (.ofNamed es) := by
  intro depth fuel rest hFuel
  cases es with
  | nil => rfl
  | cons e es =>
    have hText : write layout depth (.ofNamed (e :: es)) = '\x7b' :: (layout.opening depth ++
        (member layout depth e ++ (writeMembers layout depth (es.map entry) ++
          (layout.closing depth ++ ['\x7d'])))) := by
      show write layout depth (.map (entry e :: es.map entry)) = _
      rw [entry, write]
      simp [member, nameChars]
    rw [hText] at hFuel ⊢
    simp only [List.cons_append, List.append_assoc, List.length_cons, List.length_append,
      List.nil_append] at hFuel ⊢
    have hSkip : ∀ more : List Char,
        skipSpace (layout.opening depth ++ (member layout depth e ++ more)) =
          member layout depth e ++ more := by
      intro more
      rw [skipSpace_blank (hLayout.opening depth), member_append, skipSpace_cons rfl]
    have hStart : ∀ more : List Char, (skipSpace (layout.opening depth ++
        (member layout depth e ++ more))).head? = some '"' := by
      intro more
      rw [hSkip, member_append]
      rfl
    rw [value_object (hStart _) (by decide), hSkip, members_written hLayout hKept h fuel rest (by omega)]
    exact congrArg (fun v => Except.ok (v, rest)) (Value.ofEntries_named hDistinct)

theorem readBack {v : Value} (h : Faithful v) : ReadBack layout v := by
  induction h with
  | null => exact fun depth fuel rest _ => rfl
  | bool b =>
    intro depth fuel rest _
    cases b <;> rfl
  | str s => exact readBack_str s
  | list items ih => exact readBack_list hLayout items ih
  | named distinct values ih => exact readBack_named hLayout distinct values ih

theorem document_write {v : Value} (h : Faithful v) {blank : List Char} (hBlank : Blank blank) :
    document (write layout 0 v ++ blank) = .ok v := by
  obtain ⟨c, hOpening, hHead⟩ := head?_write layout 0 h
  obtain ⟨cs, hText⟩ := List.head?_eq_some_iff.mp hHead
  have hRead := readBack hLayout h 0 (write layout 0 v ++ blank).length blank (by simp)
  have hNone : Blank [] := fun _ hc => nomatch hc
  have hSkip : skipSpace (write layout 0 v ++ blank) = write layout 0 v ++ blank :=
    skipSpace_write layout hNone 0 h blank
  have hEnd : skipSpace blank = [] := by
    rw [← List.append_nil blank, skipSpace_blank hBlank]
    rfl
  have hMark : ∀ rest, write layout 0 v ++ blank ≠ '\uFEFF' :: rest := by
    intro rest hMark
    rw [hText] at hMark
    exact (openings_spec c hOpening).2.2 (List.head_eq_of_cons_eq hMark)
  rw [document.eq_2 _ hMark, hSkip, hRead]
  simp only [Bind.bind, Except.bind, hEnd]

/-- A value that JSON keeps is read back from its text, with white space after it. -/
theorem read_render {v : Value} (h : Faithful v) {blank : String} (hBlank : Blank blank.toList) :
    read (render layout v ++ blank) = .ok v := by
  rw [read, render, String.toList_append, String.toList_ofList, document_write hLayout h hBlank]

end Collections

end Json

end RestRoutes
