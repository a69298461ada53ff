import RestRoutes.Destination
import RestRoutes.Proofs.Text.Split

/-! The names made from paths.  A name is the longest runs of letters and digits of its path, with one
dash between each two.  So it is tidy, it is the name made from itself, and it is shared by just those
paths that have the same runs. -/

namespace RestRoutes.Destination

open Text

/-! ### Runs -/

/-- The parts of a list that are its longest runs of name characters, in order: a run ends where the
list does, or where another character follows. -/
inductive HasRuns : List Char → List (List Char) → Prop
  | nil : HasRuns [] []
  | other {c : Char} {rest : List Char} {parts : List (List Char)} (h : isNameChar c = false)
    (hRest : HasRuns rest parts) : HasRuns (c :: rest) parts
  | run {part rest : List Char} {parts : List (List Char)} (hSome : part ≠ [])
    (hPart : ∀ c ∈ part, isNameChar c = true) (hEnd : ∀ c ∈ rest.head?, isNameChar c = false)
    (hRest : HasRuns rest parts) : HasRuns (part ++ rest) (part :: parts)

/-- The longest runs of name characters: what stands between all others and is not empty. -/
def runs (cs : List Char) : List (List Char) :=
  (splitAll (!isNameChar ·) cs).filter (!·.isEmpty)

theorem runs_eq_nil_iff {cs : List Char} : runs cs = [] ↔ ∀ c ∈ cs, c.isAlphanum = false := by
  rw [runs, filter_splitAll_eq_nil_iff]
  simp [isNameChar]

section Runs

variable {c : Char} {cs part rest : List Char} {parts : List (List Char)}

theorem runs_cons_other (h : isNameChar c = false) (rest : List Char) :
    runs (c :: rest) = runs rest := by
  simp [runs, splitAll, h]

theorem runs_append (hSome : part ≠ []) (hPart : ∀ c ∈ part, isNameChar c = true)
    (hEnd : ∀ c ∈ rest.head?, isNameChar c = false) : runs (part ++ rest) = part :: runs rest := by
  have hNone : ∀ c ∈ part, (!isNameChar c) = false := by simpa using hPart
  cases rest with
  | nil => simp [runs, splitAll_eq_singleton hNone, splitAll, hSome]
  | cons c rest =>
    have hc : isNameChar c = false := hEnd c rfl
    rw [runs_cons_other hc, runs, splitAll_append hNone (by simp [hc]),
      List.filter_cons_of_pos (by simpa using hSome), runs]

theorem HasRuns.runs_eq (h : HasRuns cs parts) : runs cs = parts := by
  induction h with
  | nil => rfl
  | other h _ ih => rw [runs_cons_other h, ih]
  | run hSome hPart hEnd _ ih => rw [runs_append hSome hPart hEnd, ih]

theorem exists_hasRuns (cs : List Char) : ∃ parts, HasRuns cs parts := by
  induction cs with
  | nil => exact ⟨[], .nil⟩
  | cons c rest ih =>
    obtain ⟨parts, hRest⟩ := ih
    cases hc : isNameChar c with
    | false => exact ⟨parts, .other hc hRest⟩
    | true =>
      have hSome : [c] ≠ [] := List.cons_ne_nil c []
      have hPart : ∀ d ∈ [c], isNameChar d = true := by simpa using hc
      -- The character is a run of its own, unless a run follows that it is the front of.
      cases hRest with
      | nil => exact ⟨_, .run hSome hPart nofun .nil⟩
      | other h hRest => exact ⟨_, .run hSome hPart (by simpa using h) (.other h hRest)⟩
      | @run part rest parts _ hRun hEnd hRest =>
        exact ⟨_, .run (List.cons_ne_nil c part) (List.forall_mem_cons.mpr ⟨hc, hRun⟩) hEnd hRest⟩

theorem hasRuns_runs (cs : List Char) : HasRuns cs (runs cs) := by
  obtain ⟨parts, h⟩ := exists_hasRuns cs
  exact h.runs_eq ▸ h

theorem hasRuns_iff : HasRuns cs parts ↔ runs cs = parts :=
  ⟨HasRuns.runs_eq, fun h => h ▸ hasRuns_runs cs⟩

theorem ne_nil_of_mem_runs (h : part ∈ runs cs) : part ≠ [] := by
  simpa using (List.mem_filter.mp h).2

theorem isNameChar_of_mem_runs (h : part ∈ runs cs) : ∀ c ∈ part, isNameChar c = true := by
  simpa using not_of_mem_splitAll (List.mem_filter.mp h).1

end Runs

/-! ### Runs with dashes between them -/

def dashed (parts : List (List Char)) : List Char := List.intercalate ['-'] parts

/-- No dash stands at an end, and no two together. -/
structure Tidy (cs : List Char) : Prop where
  first : cs.head? ≠ some '-'
  last : cs.getLast? ≠ some '-'
  single : ¬['-', '-'] <:+: cs

theorem tidy_of_splitAll {cs : List Char} (h : [] ∉ splitAll (· == '-') cs) : Tidy cs := by
  -- A dash out of place leaves nothing between itself and an end, or the next dash.
  have hParted : ∀ front rest, splitAll (· == '-') (front ++ '-' :: rest) =
      splitAll (· == '-') front ++ splitAll (· == '-') rest := splitAll_append_cons rfl
  refine ⟨fun hFirst => h ?_, fun hLast => h ?_, ?_⟩
  · obtain ⟨rest, rfl⟩ := List.head?_eq_some_iff.mp hFirst
    simp [splitAll]
  · obtain ⟨front, rfl⟩ := List.getLast?_eq_some_iff.mp hLast
    simp [hParted, splitAll]
  · rintro ⟨front, rest, rfl⟩
    refine h ?_
    simp [hParted, splitAll]

section Dashed

variable {cs : List Char}

theorem splitAll_dashed (hSome : runs cs ≠ []) {p : Char → Bool}
    (hName : ∀ c, isNameChar c = true → p c = false) (hDash : p '-' = true) :
    splitAll p (dashed (runs cs)) = runs cs :=
  splitAll_intercalate hSome (fun _ hPart c hc => hName c (isNameChar_of_mem_runs hPart c hc)) hDash

/-- The dashes are no part of a run, and all else of them is. -/
theorem runs_dashed (hSome : runs cs ≠ []) : runs (dashed (runs cs)) = runs cs := by
  have hPieces : splitAll (!isNameChar ·) (dashed (runs cs)) = runs cs :=
    splitAll_dashed hSome (by simp) (by decide)
  rw [runs, hPieces, List.filter_eq_self]
  exact fun part hPart => by simpa using ne_nil_of_mem_runs hPart

theorem dashed_ne_nil (hSome : runs cs ≠ []) : dashed (runs cs) ≠ [] := by
  intro hNil
  have hRuns := runs_dashed hSome
  rw [hNil] at hRuns
  exact hSome hRuns.symm

theorem tidy_dashed (hSome : runs cs ≠ []) : Tidy (dashed (runs cs)) := by
  have hName : ∀ c, isNameChar c = true → (c == '-') = false := by
    intro c hc
    refine beq_eq_false_iff_ne.mpr ?_
    rintro rfl
    exact absurd hc (by decide)
  refine tidy_of_splitAll fun hEmpty => ?_
  rw [splitAll_dashed hSome hName rfl] at hEmpty
  exact ne_nil_of_mem_runs hEmpty rfl

theorem dashed_cons_cons (part next : List Char) (parts : List (List Char)) :
    dashed (part :: next :: parts) = part ++ '-' :: dashed (next :: parts) := by
  rw [dashed, List.intercalate_cons_cons, List.append_assoc, List.singleton_append]
  rfl

end Dashed

/-! ### Marking what is between the runs -/

section Marked

variable {cs : List Char}

/-- A list with a dash for each longest run of other characters. -/
abbrev marked (inside : Bool) (cs : List Char) : List Char := markRuns (!isNameChar ·) '-' inside cs

theorem marked_cons_name {c : Char} (hc : isNameChar c = true) (inside : Bool) (rest : List Char) :
    marked inside (c :: rest) = c :: marked false rest := by
  simp [marked, markRuns, hc]

theorem marked_append {part : List Char} (hSome : part ≠ [])
    (hPart : ∀ c ∈ part, isNameChar c = true) (inside : Bool) (rest : List Char) :
    marked inside (part ++ rest) = part ++ marked false rest := by
  induction part generalizing inside with
  | nil => exact absurd rfl hSome
  | cons c part ih =>
    obtain ⟨hc, hPart⟩ := List.forall_mem_cons.mp hPart
    rw [List.cons_append, List.cons_append, marked_cons_name hc]
    cases part with
    | nil => rfl
    | cons d part => rw [ih (List.cons_ne_nil d part) hPart false]

/-- Other characters at the front are a dash, unless some came before. -/
theorem marked_false (cs : List Char) :
    ∃ before, (∀ c ∈ before, (c == '-') = true) ∧ marked false cs = before ++ marked true cs := by
  cases cs with
  | nil => exact ⟨[], nofun, rfl⟩
  | cons c rest =>
    cases hc : isNameChar c with
    | true => exact ⟨[], nofun, by rw [marked_cons_name hc, marked_cons_name hc]; rfl⟩
    | false => exact ⟨['-'], by simp, by simp [marked, markRuns, hc]⟩

/-- After other characters there are the runs with dashes between them, and perhaps a dash at the
end. -/
theorem marked_true {parts : List (List Char)} (h : HasRuns cs parts) :
    ∃ after, (∀ c ∈ after, (c == '-') = true) ∧ marked true cs = dashed parts ++ after := by
  induction h with
  | nil => exact ⟨[], nofun, rfl⟩
  | @other c rest parts h _ ih =>
    obtain ⟨after, hAfter, hMarked⟩ := ih
    exact ⟨after, hAfter, by rw [← hMarked]; simp [marked, markRuns, h]⟩
  | @run part rest parts hSome hPart hEnd hRest ih =>
    obtain ⟨after, hAfter, hMarked⟩ := ih
    rw [marked_append hSome hPart]
    cases rest with
    | nil =>
      obtain rfl : [] = parts := hRest.runs_eq
      exact ⟨[], nofun, by simp [marked, markRuns, dashed]⟩
    | cons c rest =>
      have hc : isNameChar c = false := hEnd c rfl
      have hFront : marked false (c :: rest) = '-' :: marked true (c :: rest) := by
        simp [marked, markRuns, hc]
      -- The dash stands between two runs, unless this one is the last.
      rw [hFront, hMarked]
      cases parts with
      | nil => exact ⟨'-' :: after, by simpa using hAfter, by simp [dashed]⟩
      | cons next parts => exact ⟨after, hAfter, by simp [dashed_cons_cons]⟩

/-- Without dashes at its ends, what is marked is the runs with dashes between them. -/
theorem trimBoth_marked (cs : List Char) :
    trimBoth (· == '-') (marked false cs) = dashed (runs cs) := by
  obtain ⟨before, hBefore, hFalse⟩ := marked_false cs
  obtain ⟨after, hAfter, hTrue⟩ := marked_true (hasRuns_runs cs)
  rw [hFalse, hTrue, ← List.append_assoc]
  by_cases hNone : runs cs = []
  · rw [hNone]
    refine trimBoth_eq_nil fun c hc => ?_
    simp only [dashed, List.intercalate_nil, List.append_nil, List.mem_append] at hc
    exact hc.elim (hBefore c) (hAfter c)
  · have hTidy := tidy_dashed hNone
    refine trimBoth_between (dashed_ne_nil hNone) hBefore (fun c hc => ?_) (fun c hc => ?_) hAfter
    · exact beq_eq_false_iff_ne.mpr fun hDash => hTidy.first (hDash ▸ hc)
    · exact beq_eq_false_iff_ne.mpr fun hDash => hTidy.last (hDash ▸ hc)

end Marked

/-! ### Names -/

/-- The name made from a path is its runs with dashes between them. -/
theorem slug_eq (path : String) : slug path =
    match runs path.toList with
    | [] => .error (.refusal (.destination (.path path)))
    | parts => .ok (String.ofList (dashed parts)) := by
  rw [slug, trimBoth_marked]
  cases hRuns : runs path.toList with
  | nil => rfl
  | cons part parts =>
    have hSome : dashed (part :: parts) ≠ [] := by
      rw [← hRuns]
      exact dashed_ne_nil (by simp [hRuns])
    cases hName : dashed (part :: parts) with
    | nil => exact absurd hName hSome
    | cons c rest => simp only [hName]

theorem slug_eq_error_iff {path : String} {e : Failure} :
    slug path = .error e ↔
      (∀ c ∈ path.toList, c.isAlphanum = false) ∧ e = .refusal (.destination (.path path)) := by
  rw [← runs_eq_nil_iff, slug_eq]
  cases hRuns : runs path.toList with
  | nil => simp [eq_comm]
  | cons part parts => simp

theorem slug_eq_ok_iff {path name : String} :
    slug path = .ok name ↔ runs path.toList ≠ [] ∧ name.toList = dashed (runs path.toList) := by
  rw [slug_eq]
  cases hRuns : runs path.toList with
  | nil => simp
  | cons part parts =>
    simp only [Except.ok.injEq, ne_eq, reduceCtorEq, not_false_eq_true, true_and]
    exact ⟨fun h => h ▸ String.toList_ofList, fun h => h ▸ String.ofList_toList⟩

/-- A name has the runs of the path that it was made from. -/
theorem runs_of_slug {path name : String} (h : slug path = .ok name) :
    runs name.toList = runs path.toList := by
  obtain ⟨hSome, hName⟩ := slug_eq_ok_iff.mp h
  rw [hName, runs_dashed hSome]

/-- A path has no name just where it has no letter or digit.  Otherwise its name is its longest runs
of them with dashes between them, and so it has no dash in another place, is the name of itself, and
is shared by two paths exactly if they have the same runs. -/
theorem slug_normal (path : String) :
    (∀ e, slug path = .error e ↔
      (∀ c ∈ path.toList, c.isAlphanum = false) ∧ e = .refusal (.destination (.path path))) ∧
    (∀ name, slug path = .ok name ↔
      ∃ parts, parts ≠ [] ∧ HasRuns path.toList parts ∧ name.toList = dashed parts) ∧
    (∀ name, slug path = .ok name → Tidy name.toList) ∧
    (slug path >>= slug) = slug path ∧
    ∀ other, (∃ name, slug path = .ok name ∧ slug other = .ok name) ↔
      ∃ parts, parts ≠ [] ∧ HasRuns path.toList parts ∧ HasRuns other.toList parts := by
  refine ⟨fun e => slug_eq_error_iff, fun name => ?_, fun name h => ?_, ?_, fun other => ?_⟩
  · rw [slug_eq_ok_iff]
    constructor
    · rintro ⟨hSome, hName⟩
      exact ⟨_, hSome, hasRuns_runs _, hName⟩
    · rintro ⟨parts, hSome, hRuns, hName⟩
      rw [hRuns.runs_eq]
      exact ⟨hSome, hName⟩
  · obtain ⟨hSome, hName⟩ := slug_eq_ok_iff.mp h
    rw [hName]
    exact tidy_dashed hSome
  · cases h : slug path with
    | error e => rfl
    | ok name =>
      obtain ⟨hSome, hName⟩ := slug_eq_ok_iff.mp h
      refine slug_eq_ok_iff.mpr ?_
      rw [runs_of_slug h]
      exact ⟨hSome, hName⟩
  · constructor
    · rintro ⟨name, hPath, hOther⟩
      have hSome := (slug_eq_ok_iff.mp hPath).1
      have hSame : runs other.toList = runs path.toList :=
        (runs_of_slug hOther).symm.trans (runs_of_slug hPath)
      exact ⟨_, hSome, hasRuns_runs _, hasRuns_iff.mpr hSame⟩
    · rintro ⟨parts, hSome, hPath, hOther⟩
      refine ⟨String.ofList (dashed parts), slug_eq_ok_iff.mpr ?_, slug_eq_ok_iff.mpr ?_⟩
      · rw [hPath.runs_eq, String.toList_ofList]
        exact ⟨hSome, rfl⟩
      · rw [hOther.runs_eq, String.toList_ofList]
        exact ⟨hSome, rfl⟩

/-- Braces, dashes and letters that are not of ASCII all stand between runs. -/
theorem slug_normal_petSizes :
    let path := "/pets/\x7bpetId\x7d--größe/"
    let name := "pets-petId-gr-e"
    slug path = .ok name ∧ Tidy name.toList ∧ slug name = .ok name := by
  intro path name
  have hRuns : HasRuns path.toList ["pets".toList, "petId".toList, "gr".toList, "e".toList] :=
    hasRuns_iff.mpr (by decide +kernel)
  obtain ⟨-, hOk, hTidy, hAgain, -⟩ := slug_normal path
  have hName : slug path = .ok name := (hOk name).mpr ⟨_, List.cons_ne_nil _ _, hRuns, by decide +kernel⟩
  rw [hName] at hAgain
  exact ⟨hName, hTidy name hName, hAgain⟩

end RestRoutes.Destination
