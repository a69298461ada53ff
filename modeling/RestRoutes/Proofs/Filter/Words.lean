import RestRoutes.Filter
import RestRoutes.Proofs.Pattern.Glob
import RestRoutes.Proofs.Pattern.RegexReader
import RestRoutes.Proofs.Text.Split

/-! Filters of plain words.  A pattern is read in three ways, which for a word are all one.  With a
star after it, a word stands for what starts with it, and as a regular expression also for itself
without its last character. -/

namespace RestRoutes.Filter

open Pattern
open scoped Computability

/-! ### Words and patterns -/

def isWordChar (c : Char) : Bool := c.isAlphanum || c == '_'

theorem notMem_special {c : Char} (h : isWordChar c = true) : c ∉ RegexRead.special := by
  have hSpecial : ∀ d ∈ RegexRead.special, isWordChar d = false := by
    simp [RegexRead.special, isWordChar]
  intro hc
  rw [hSpecial c hc] at h
  cases h

theorem isSpecial_wordChar {c : Char} (h : isWordChar c = true) : Glob.isSpecial c = false := by
  rw [Bool.eq_false_iff]
  intro hc
  simp only [Glob.isSpecial, Bool.or_eq_true, beq_iff_eq] at hc
  obtain (rfl | rfl) | rfl := hc <;> cases h

theorem isSpace_wordChar {c : Char} (h : isWordChar c = true) : Text.isSpace c = false := by
  have hRange : 33 ≤ c.toNat ∧ c.toNat ≤ 122 := by
    obtain h | hLine := Bool.or_eq_true_iff.mp h
    · have hRanges : ((decide (65 ≤ c.toNat ∧ c.toNat ≤ 90) ||
          (decide (97 ≤ c.toNat) && decide (c.toNat ≤ 122))) ||
          (decide (48 ≤ c.toNat) && decide (c.toNat ≤ 57))) = true := h
      simp only [Bool.or_eq_true, Bool.and_eq_true, decide_eq_true_eq] at hRanges
      omega
    · obtain rfl := beq_iff_eq.mp hLine
      decide
  rw [Bool.eq_false_iff]
  intro hc
  simp only [Text.isSpace, Text.inRanges, Bool.or_eq_true, Bool.and_eq_true, decide_eq_true_eq,
    Bool.false_eq_true, or_false] at hc
  omega

/-- A word: letters, digits and low lines, at least one. -/
structure Word where
  chars : List Char
  isSome : chars ≠ []
  isPlain : ∀ c ∈ chars, isWordChar c = true

/-- A pattern that is a word, or a word with a star after it. -/
inductive WordPattern
  | exact (word : Word)
  | starting (word : Word)

namespace WordPattern

def chars : WordPattern → List Char
  | .exact word => word.chars
  | .starting word => word.chars ++ ['*']

/-- The pattern selects an id: the word itself, or what starts with it or is all but its last
character. -/
def selects (id : List Char) : WordPattern → Bool
  | .exact word => id == word.chars
  | .starting word => word.chars.isPrefixOf id || id == word.chars.dropLast

/-- No pattern has blanks or commas in it. -/
theorem isPlain_chars (p : WordPattern) :
    ∀ c ∈ p.chars, Text.isSpace c = false ∧ (c == ',') = false := by
  have hChar : ∀ c, isWordChar c = true → Text.isSpace c = false ∧ (c == ',') = false := by
    refine fun c hc => ⟨isSpace_wordChar hc, ?_⟩
    rw [beq_eq_false_iff_ne]
    rintro rfl
    cases hc
  cases p with
  | exact word => exact fun c hc => hChar c (word.isPlain c hc)
  | starting word =>
    intro c hc
    obtain hc | hc := List.mem_append.mp hc
    · exact hChar c (word.isPlain c hc)
    · obtain rfl := List.mem_singleton.mp hc
      decide

theorem chars_ne_nil : (p : WordPattern) → p.chars ≠ []
  | .exact word => word.isSome
  | .starting word => List.concat_ne_nil '*' word.chars

end WordPattern

/-! ### One pattern -/

theorem eq_ofList_iff {s : String} {cs : List Char} : s = String.ofList cs ↔ s.toList = cs := by
  rw [← String.toList_inj, String.toList_ofList]

variable (names : CharNames)

variable {names} in
theorem matchesPattern_of_read {pattern : String} {r : Regex}
    (h : Regex.read names pattern = .ok r) (id : String) : matchesPattern names pattern id =
      .ok (decide (id = pattern) || Glob.matchesAll (Glob.read pattern) id || r.matchesAll id) := by
  rw [matchesPattern]
  split
  · rename_i hEarly
    rw [hEarly, Bool.true_or]
  · rename_i hEarly
    rw [Bool.not_eq_true] at hEarly
    rw [hEarly, Bool.false_or, matchesRegex, h]

/-- A text of one word and any number of copies of a character is the word, or starts with the word
and one of them. -/
theorem mem_copies {front text : List Char} {c : Char} :
    text ∈ ({front} * {[c]}∗ : Language Char) → text = front ∨ front ++ [c] <+: text := by
  intro h
  obtain ⟨_, rfl, rest, hRest, rfl⟩ := Language.mem_mul.mp h
  obtain ⟨copies, rfl, hCopies⟩ := Language.mem_kstar.mp hRest
  cases copies with
  | nil => exact .inl (List.append_nil _)
  | cons copy copies =>
    have hCopy : copy = [c] := hCopies copy List.mem_cons_self
    rw [hCopy, List.flatten_cons, ← List.append_assoc]
    exact .inr (List.prefix_append _ _)

theorem matchesPattern_exact (word : Word) (id : String) :
    matchesPattern names (String.ofList word.chars) id = .ok (id.toList == word.chars) := by
  obtain ⟨r, hRead, hr⟩ := Regex.read_plain names fun c hc => notMem_special (word.isPlain c hc)
  have hGlob := Glob.matchesAll_plain (fun c hc => isSpecial_wordChar (word.isPlain c hc)) id
  have hRegex : r.matchesAll id = true ↔ id.toList = word.chars := hr.matchesAll id
  rw [matchesPattern_of_read hRead, Except.ok.injEq, Bool.eq_iff_iff]
  simp only [Bool.or_eq_true, decide_eq_true_eq, beq_iff_eq, eq_ofList_iff, hGlob, hRegex,
    or_self]

theorem matchesPattern_starting (word : Word) (id : String) :
    matchesPattern names (String.ofList (word.chars ++ ['*'])) id =
      .ok (word.chars.isPrefixOf id.toList || id.toList == word.chars.dropLast) := by
  obtain ⟨front, c, hWord⟩ : ∃ front c, word.chars = front ++ [c] :=
    ⟨_, _, (List.dropLast_append_getLast word.isSome).symm⟩
  have hPlain : ∀ d ∈ front ++ [c], d ∉ RegexRead.special := fun d hd =>
    notMem_special (word.isPlain d (hWord ▸ hd))
  obtain ⟨r, hRead, hr⟩ := Regex.read_star names hPlain
  have hGlob := Glob.matchesAll_star (fun c hc => isSpecial_wordChar (word.isPlain c hc)) id
  rw [← hWord] at hRead
  rw [matchesPattern_of_read hRead, Except.ok.injEq, Bool.eq_iff_iff]
  simp only [Bool.or_eq_true, decide_eq_true_eq, beq_iff_eq, List.isPrefixOf_iff_prefix]
  have hDrop : word.chars.dropLast = front := by simp [hWord]
  rw [hDrop]
  -- The expression puts copies of the last character after the rest of the word.  With none of them
  -- it is the shortened word; with some it starts with the word, as the wildcard does.
  constructor
  · rintro ((rfl | hStart) | hRegex)
    · rw [String.toList_ofList]
      exact .inl (List.prefix_append _ _)
    · exact .inl (hGlob.mp hStart)
    · rw [hWord]
      exact (mem_copies ((hr.matchesAll id).mp hRegex)).symm
  · rintro (hStart | hFront)
    · exact .inl (.inr (hGlob.mpr hStart))
    · refine .inr ((hr.matchesAll id).mpr ?_)
      have hEmpty : front ++ [] ∈ ({front} * {[c]}∗ : Language Char) :=
        Language.append_mem_mul rfl (Language.nil_mem_kstar _)
      rw [List.append_nil] at hEmpty
      rwa [hFront]

theorem matchesPattern_chars (p : WordPattern) (id : String) :
    matchesPattern names (String.ofList p.chars) id = .ok (p.selects id.toList) := by
  cases p with
  | exact word => exact matchesPattern_exact names word id
  | starting word => exact matchesPattern_starting names word id

/-! ### Listings -/

structure Entry where
  before : List Char
  pattern : WordPattern
  after : List Char
  isBlank_before : ∀ c ∈ before, Text.isSpace c = true
  isBlank_after : ∀ c ∈ after, Text.isSpace c = true

def Entry.chars (e : Entry) : List Char := e.before ++ e.pattern.chars ++ e.after

def listing (es : List Entry) : String :=
  String.ofList (List.intercalate [','] (es.map Entry.chars))

theorem trimBoth_chars (e : Entry) : Text.trimBoth Text.isSpace e.chars = e.pattern.chars :=
  Text.trimBoth_padded e.pattern.chars_ne_nil e.isBlank_before
    (fun c hc => (e.pattern.isPlain_chars c hc).1) e.isBlank_after

theorem comma_chars (e : Entry) : ∀ c ∈ e.chars, (c == ',') = false := by
  have hBlank : ∀ c, Text.isSpace c = true → (c == ',') = false := by
    intro c hc
    rw [beq_eq_false_iff_ne]
    rintro rfl
    revert hc
    decide
  intro c hc
  obtain hc | hc := List.mem_append.mp hc
  · obtain hc | hc := List.mem_append.mp hc
    · exact hBlank c (e.isBlank_before c hc)
    · exact (e.pattern.isPlain_chars c hc).2
  · exact hBlank c (e.isBlank_after c hc)

theorem patterns_listing {es : List Entry} (h : es ≠ []) :
    (ofText names (listing es)).patterns = es.map fun e => String.ofList e.pattern.chars := by
  have hCommas : ∀ piece ∈ es.map Entry.chars, ∀ c ∈ piece, (c == ',') = false := by
    simpa using fun e _ => comma_chars e
  have hPieces : Text.splitAll (· == ',') (listing es).toList = es.map Entry.chars := by
    rw [listing, String.toList_ofList]
    exact Text.splitAll_intercalate (by simpa using h) hCommas rfl
  rw [ofText, hPieces, List.map_map]
  simp [List.filterMap_map, Function.comp_def, trimBoth_chars, WordPattern.chars_ne_nil]

theorem matchesAny_entries (es : List Entry) (id : String) :
    matchesAny names id (es.map fun e => String.ofList e.pattern.chars) =
      .ok (es.any fun e => e.pattern.selects id.toList) := by
  induction es with
  | nil => rfl
  | cons e es ih =>
    rw [List.map_cons, matchesAny, matchesPattern_chars, List.any_cons, ih]
    cases e.pattern.selects id.toList <;> rfl

/-- A list of words, some with a star after them, accepts just the ids that one of them selects, and
no operation without an id. -/
theorem accept_listing {es : List Entry} (h : es ≠ []) (id : Option String) :
    (ofText names (listing es)).accept id =
      .ok (id.any fun id => es.any fun e => e.pattern.selects id.toList) := by
  have hPatterns := patterns_listing names h
  have hSome : (ofText names (listing es)).patterns.isEmpty = false := by
    simpa [hPatterns] using h
  cases id with
  | none => simp [accept, hSome]
  | some id =>
    simp only [accept, hSome, Bool.false_eq_true, if_false]
    rw [hPatterns]
    exact matchesAny_entries names es id

def petEntries : List Entry :=
  [⟨[' '], .exact ⟨['a', 'd', 'd', '_', 'P', 'e', 't'], by simp, by simp [isWordChar]⟩, ['\n'],
      List.forall_mem_singleton.mpr rfl, List.forall_mem_singleton.mpr rfl⟩,
    ⟨['\t'], .starting ⟨['g', 'e', 't'], by simp, by simp [isWordChar]⟩, [],
      List.forall_mem_singleton.mpr rfl, List.forall_mem_nil _⟩]

theorem accept_listing_petEntries : petEntries ≠ [] ∧
    (ofText .none (listing petEntries)).accept (some "ge") = .ok true ∧
    (ofText .none (listing petEntries)).accept (some "add_Pet\n") = .ok false := by
  have hSome : petEntries ≠ [] := List.cons_ne_nil _ _
  exact ⟨hSome, (accept_listing .none hSome (some "ge")).trans (by decide),
    (accept_listing .none hSome (some "add_Pet\n")).trans (by decide)⟩

example : listing petEntries = " add_Pet\n,\tget*" := by decide

end RestRoutes.Filter
