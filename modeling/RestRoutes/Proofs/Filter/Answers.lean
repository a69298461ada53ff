import RestRoutes.Proofs.Filter
import RestRoutes.Proofs.Filter.Words
import RestRoutes.Proofs.Pattern.Faults

/-! The answers of a filter.  The answer is settled by the set of the patterns, whatever their order
and however often each stands there.  But a filter gives none where a pattern that cannot be tried
comes before every pattern that selects the id. -/

namespace RestRoutes.Filter

open Pattern

/-- A pattern selects an id. One that is no regular expression selects nothing as one. -/
def selects (names : CharNames) (pattern id : String) : Bool :=
  decide (id = pattern) || Glob.matchesAll (Glob.read pattern) id ||
    match Regex.read names pattern with
    | .ok r => r.matchesAll id
    | .error _ => false

/-- The answer by the patterns as a set. -/
def answer (filter : Filter) (id : Option String) : Bool :=
  filter.patterns.isEmpty ||
    id.any fun id => filter.patterns.any fun pattern => selects filter.charNames pattern id

theorem answer_congr {f g : Filter} (hNames : f.charNames = g.charNames)
    (h : ∀ pattern, pattern ∈ f.patterns ↔ pattern ∈ g.patterns) (id : Option String) :
    f.answer id = g.answer id := by
  have hEmpty : f.patterns.isEmpty = g.patterns.isEmpty := by
    rw [Bool.eq_iff_iff, List.isEmpty_iff, List.isEmpty_iff, List.eq_nil_iff_forall_not_mem,
      List.eq_nil_iff_forall_not_mem]
    simp only [h]
  have hAny (s : String) : (f.patterns.any fun pattern => selects f.charNames pattern s) =
      g.patterns.any fun pattern => selects g.charNames pattern s := by
    rw [Bool.eq_iff_iff, List.any_eq_true, List.any_eq_true]
    simp only [h, hNames]
  simp only [answer, hEmpty, hAny]

/-! ### Patterns that cannot be tried -/

/-- What a pattern has in it where trying it ends with a defect: braces around a number that is too
large, or too long to be read, or groups that set the flags of two scripts. -/
inductive Suspect (pattern : String) : Failure → Prop
  | hugeRepetition (ds : List Char) (hDigits : ∀ d ∈ ds, RegexRead.isDigit d = true)
    (hShort : ds.length ≤ integerDigitLimit) (hHuge : Regex.unbounded ≤ Number.ofDigits ds)
    (hBraces : '\x7b' :: ds ++ ['\x7d'] <:+: pattern.toList) :
    Suspect pattern (.defect .hugeRepetition)
  | longRepetition (ds : List Char) (hDigits : ∀ d ∈ ds, RegexRead.isDigit d = true)
    (hLong : integerDigitLimit < ds.length)
    (hBraces : '\x7b' :: ds ++ ['\x7d'] <:+: pattern.toList) :
    Suspect pattern (.defect (.longInteger ds.length))
  | conflictingScripts (hAscii : SetsFlag 'a' pattern.toList)
    (hUnicode : SetsFlag 'u' pattern.toList) : Suspect pattern (.defect .conflictingScripts)

variable {names : CharNames}

/-- What trying a pattern on an id can come to. -/
inductive Tried (names : CharNames) (pattern id : String) : Except Failure Bool → Prop
  | answered {b : Bool} (hSelects : selects names pattern id = b) : Tried names pattern id (.ok b)
  | huge (hRead : Regex.read names pattern = .error .hugeBound)
    (hSelects : selects names pattern id = false) :
    Tried names pattern id (.error (.defect .hugeRepetition))
  | long {digits : Nat} (hRead : Regex.read names pattern = .error (.longBound digits))
    (hSelects : selects names pattern id = false) :
    Tried names pattern id (.error (.defect (.longInteger digits)))
  | scripts (hRead : Regex.read names pattern = .error .scripts)
    (hSelects : selects names pattern id = false) :
    Tried names pattern id (.error (.defect .conflictingScripts))

theorem matchesPattern_tried (names : CharNames) (pattern id : String) :
    Tried names pattern id (matchesPattern names pattern id) := by
  rw [matchesPattern]
  split
  · rename_i hEarly
    exact .answered (by rw [selects, hEarly, Bool.true_or])
  · rename_i hEarly
    rw [Bool.not_eq_true] at hEarly
    rw [matchesRegex]
    cases hRead : Regex.read names pattern with
    | ok r => exact .answered (by rw [selects, hEarly, hRead, Bool.false_or])
    | error fault =>
      have hSelects : selects names pattern id = false := by
        rw [selects, hEarly, hRead, Bool.false_or]
      cases fault with
      | malformed => exact .answered hSelects
      | hugeBound => exact .huge hRead hSelects
      | longBound digits => exact .long hRead hSelects
      | scripts => exact .scripts hRead hSelects

theorem matchesPattern_of_ok {pattern id : String} {b : Bool}
    (h : matchesPattern names pattern id = .ok b) : b = selects names pattern id := by
  have hTried := matchesPattern_tried names pattern id
  rw [h] at hTried
  cases hTried with
  | answered hSelects => exact hSelects.symm

theorem not_suspect {pattern : String} (hBrace : '\x7b' ∉ pattern.toList)
    (hOpen : '(' ∉ pattern.toList) (e : Failure) : ¬ Suspect pattern e := by
  rintro (⟨ds, -, -, -, hBraces⟩ | ⟨ds, -, -, hBraces⟩ | ⟨⟨letters, hGroup, -⟩, -⟩)
  · exact hBrace (hBraces.mem List.mem_cons_self)
  · exact hBrace (hBraces.mem List.mem_cons_self)
  · exact hOpen (hGroup.mem List.mem_cons_self)

/-- Without a comma braces have one bound at most. -/
theorem braces_of_writesBadBound {cs : List Char} {fault : RegexFault} (hComma : ',' ∉ cs)
    (h : WritesBadBound cs fault) :
    ∃ ds : List Char, '\x7b' :: ds ++ ['\x7d'] <:+: cs ∧
      (∀ d ∈ ds, RegexRead.isDigit d = true) ∧ BadBound ds fault := by
  obtain ⟨inner, ds, hBraces, hBound, hDigits, hBad⟩ := h
  have hInner : ',' ∉ inner := fun hMem => hComma (hBraces.mem (by simp [hMem]))
  cases hBound with
  | exactly => exact ⟨inner, hBraces, hDigits, hBad⟩
  | least most => exact absurd (by simp) hInner
  | most least => exact absurd (by simp) hInner

theorem matchesPattern_of_error {pattern id : String} (hComma : ',' ∉ pattern.toList) {e : Failure}
    (h : matchesPattern names pattern id = .error e) :
    selects names pattern id = false ∧ Suspect pattern e := by
  have hTried := matchesPattern_tried names pattern id
  rw [h] at hTried
  cases hTried with
  | huge hRead hSelects =>
    obtain ⟨ds, hBraces, hDigits, hBad⟩ :=
      braces_of_writesBadBound hComma (Regex.cause_of_read hRead)
    cases hBad with
    | huge hShort hHuge => exact ⟨hSelects, .hugeRepetition ds hDigits hShort hHuge hBraces⟩
  | long hRead hSelects =>
    obtain ⟨ds, hBraces, hDigits, hBad⟩ :=
      braces_of_writesBadBound hComma (Regex.cause_of_read hRead)
    cases hBad with
    | long hLong => exact ⟨hSelects, .longRepetition ds hDigits hLong hBraces⟩
  | scripts hRead hSelects =>
    obtain ⟨hAscii, hUnicode⟩ := Regex.cause_of_read hRead
    exact ⟨hSelects, .conflictingScripts hAscii hUnicode⟩

theorem isWordChar_digit {d : Char} (h : RegexRead.isDigit d = true) : isWordChar d = true := by
  have hDigit : d.isDigit = true := h
  simp [isWordChar, Char.isAlphanum, hDigit]

/-- A word with too large a number in braces after it selects itself alone, and cannot be tried on any
other id. -/
theorem matchesPattern_huge (names : CharNames) (word : Word) {ds : List Char}
    (hDigits : ∀ d ∈ ds, RegexRead.isDigit d = true) (hShort : ds.length ≤ integerDigitLimit)
    (hHuge : Regex.unbounded ≤ Number.ofDigits ds) (id : String) :
    matchesPattern names (String.ofList (word.chars ++ '\x7b' :: (ds ++ ['\x7d']))) id =
      if id.toList = word.chars ++ '\x7b' :: (ds ++ ['\x7d']) then .ok true
      else .error (.defect .hugeRepetition) := by
  -- Braces mean nothing in a wildcard, so there the pattern is one more text to compare with.
  have hPlain : ∀ c ∈ word.chars ++ '\x7b' :: (ds ++ ['\x7d']), Glob.isSpecial c = false := by
    have hWord : ∀ c ∈ word.chars, Glob.isSpecial c = false := fun c hc =>
      isSpecial_wordChar (word.isPlain c hc)
    have hDigit : ∀ d ∈ ds, Glob.isSpecial d = false := fun d hd =>
      isSpecial_wordChar (isWordChar_digit (hDigits d hd))
    have hBraces : Glob.isSpecial '\x7b' = false ∧ Glob.isSpecial '\x7d' = false := by decide
    simpa [or_imp, forall_and, hBraces] using ⟨hWord, hDigit⟩
  have hRead :=
    Regex.read_huge names (fun c hc => notMem_special (word.isPlain c hc)) hDigits hShort hHuge
  have hGlob := Glob.matchesAll_plain hPlain id
  rw [matchesPattern]
  simp only [Bool.or_eq_true, decide_eq_true_eq, eq_ofList_iff, hGlob, or_self]
  rw [matchesRegex, hRead]

/-! ### Lists of patterns -/

variable {id : String} {patterns : List String}

theorem matchesAny_of_ok {b : Bool} (h : matchesAny names id patterns = .ok b) :
    b = patterns.any fun pattern => selects names pattern id := by
  induction patterns with
  | nil => exact (Except.ok.inj h).symm
  | cons pattern rest ih =>
    obtain ⟨found, hFound, hRest⟩ := except_bind_eq_ok.mp h
    rw [List.any_cons, ← matchesPattern_of_ok hFound]
    cases found with
    | true => exact (Except.ok.inj hRest).symm
    | false => exact ih hRest

/-- The first pattern that does not just reject the id is where there is no answer. -/
theorem matchesAny_eq_error {e : Failure} : matchesAny names id patterns = .error e ↔
    ∃ before pattern after, patterns = before ++ pattern :: after ∧
      (∀ p ∈ before, matchesPattern names p id = .ok false) ∧
      matchesPattern names pattern id = .error e := by
  induction patterns with
  | nil =>
    constructor
    · intro h
      cases h
    · rintro ⟨before, pattern, after, hNil, -⟩
      cases before <;> cases hNil
  | cons first rest ih =>
    rw [matchesAny, except_bind_eq_error]
    constructor
    · rintro (hFirst | ⟨found, hFound, hRest⟩)
      · exact ⟨[], first, rest, rfl, List.forall_mem_nil _, hFirst⟩
      · cases found with
        | true => cases hRest
        | false =>
          obtain ⟨before, pattern, after, rfl, hBefore, hError⟩ := ih.mp hRest
          exact ⟨first :: before, pattern, after, rfl,
            List.forall_mem_cons.mpr ⟨hFound, hBefore⟩, hError⟩
    · rintro ⟨before, pattern, after, hPatterns, hBefore, hError⟩
      cases before with
      | nil =>
        cases hPatterns
        exact .inl hError
      | cons p before =>
        cases hPatterns
        obtain ⟨hFirst, hBefore⟩ := List.forall_mem_cons.mp hBefore
        exact .inr ⟨false, hFirst, ih.mpr ⟨before, pattern, after, rfl, hBefore, hError⟩⟩

theorem comma_notMem_patterns {text pattern : String}
    (h : pattern ∈ (ofText names text).patterns) : ',' ∉ pattern.toList := by
  intro hComma
  obtain ⟨trimmed, hTrimmed, hPattern⟩ := List.mem_filterMap.mp h
  obtain ⟨piece, hPiece, rfl⟩ := List.mem_map.mp hTrimmed
  split at hPattern
  · cases hPattern
  · cases hPattern
    rw [String.toList_ofList] at hComma
    cases Text.not_of_mem_splitAll hPiece _ (Text.mem_of_mem_trimBoth hComma)

/-! ### Filters -/

theorem charNames_ofText (names : CharNames) (text : String) :
    (ofText names text).charNames = names := rfl

theorem accept_of_ok {filter : Filter} {id : Option String} {b : Bool}
    (h : filter.accept id = .ok b) : b = filter.answer id := by
  rw [answer]
  cases hEmpty : filter.patterns.isEmpty with
  | true =>
    simp only [accept, hEmpty, if_true] at h
    exact (Except.ok.inj h).symm
  | false =>
    simp only [accept, hEmpty, Bool.false_eq_true, if_false] at h
    cases id with
    | none => exact (Except.ok.inj h).symm
    | some s => exact matchesAny_of_ok h

theorem accept_eq_error {filter : Filter} {id : Option String} {e : Failure} :
    filter.accept id = .error e ↔
      ∃ s, id = some s ∧ matchesAny filter.charNames s filter.patterns = .error e := by
  cases id with
  | none =>
    refine iff_of_false ?_ (by simp)
    unfold accept
    split <;> nofun
  | some s =>
    cases hEmpty : filter.patterns.isEmpty with
    | true =>
      rw [List.isEmpty_iff] at hEmpty
      simp [accept, hEmpty, matchesAny]
    | false => simp [accept, hEmpty]

/-- An answer that is given is the one by the set of the patterns, which any other text with the same
patterns has as well.  None is given just where a pattern cannot be tried and those before it reject
the id.  Such a pattern does not select the id, and is suspect; without suspects there is always an
answer. -/
theorem accept_answers (names : CharNames) {text other : String}
    (h : ∀ pattern,
      pattern ∈ (ofText names text).patterns ↔ pattern ∈ (ofText names other).patterns)
    (id : Option String) :
    (∀ b, (ofText names text).accept id = .ok b → b = (ofText names other).answer id) ∧
    (∀ e, (ofText names text).accept id = .error e ↔ ∃ s before pattern after, id = some s ∧
      (ofText names text).patterns = before ++ pattern :: after ∧
      (∀ p ∈ before, matchesPattern names p s = .ok false) ∧
      matchesPattern names pattern s = .error e) ∧
    (∀ pattern ∈ (ofText names text).patterns, ∀ s e, matchesPattern names pattern s = .error e →
      selects names pattern s = false ∧ Suspect pattern e) ∧
    ((∀ pattern ∈ (ofText names text).patterns, ∀ e, ¬ Suspect pattern e) →
      (ofText names text).accept id = .ok ((ofText names other).answer id)) := by
  have hOk (b : Bool) (hb : (ofText names text).accept id = .ok b) :
      b = (ofText names other).answer id := by
    have hNames : (ofText names text).charNames = (ofText names other).charNames := rfl
    rw [accept_of_ok hb, answer_congr hNames h]
  have hError (e : Failure) : (ofText names text).accept id = .error e ↔
      ∃ s before pattern after, id = some s ∧
        (ofText names text).patterns = before ++ pattern :: after ∧
        (∀ p ∈ before, matchesPattern names p s = .ok false) ∧
        matchesPattern names pattern s = .error e := by
    simp only [accept_eq_error, matchesAny_eq_error, exists_and_left, charNames_ofText]
  have hSuspect (pattern : String) (hPattern : pattern ∈ (ofText names text).patterns) (s : String)
      (e : Failure) : matchesPattern names pattern s = .error e →
        selects names pattern s = false ∧ Suspect pattern e :=
    matchesPattern_of_error (comma_notMem_patterns hPattern)
  refine ⟨hOk, hError, hSuspect, fun hNone => ?_⟩
  cases hAccept : (ofText names text).accept id with
  | ok b => rw [hOk b hAccept]
  | error e =>
    obtain ⟨s, before, pattern, after, -, hPatterns, -, hStop⟩ := (hError e).mp hAccept
    have hPattern : pattern ∈ (ofText names text).patterns := by simp [hPatterns]
    exact absurd (hSuspect pattern hPattern s e hStop).2 (hNone pattern hPattern e)

theorem accept_answers_reordered :
    (∀ pattern, pattern ∈ (ofText .none "b,a*").patterns ↔
      pattern ∈ (ofText .none "a*,b,b").patterns) ∧
    (ofText .none "b,a*").accept (some "ab") = .ok true := by
  have hFirst : (ofText .none "b,a*").patterns = ["b", "a*"] := by decide
  have hSecond : (ofText .none "a*,b,b").patterns = ["a*", "b", "b"] := by decide
  have hSame : ∀ pattern, pattern ∈ (ofText .none "b,a*").patterns ↔
      pattern ∈ (ofText .none "a*,b,b").patterns := by
    simp [hFirst, hSecond, or_comm]
  have hNone : ∀ pattern ∈ (ofText .none "b,a*").patterns, ∀ e, ¬ Suspect pattern e := by
    rw [hFirst]
    intro pattern hPattern
    apply not_suspect
    · revert pattern
      decide
    · revert pattern
      decide
  exact ⟨hSame, ((accept_answers .none hSame (some "ab")).2.2.2 hNone).trans (by decide)⟩

/-- With too large a number in braces the id `b` gets no answer, unless a pattern before selects it. -/
theorem accept_hugeRepetition :
    (ofText .none "a\x7b4294967295\x7d").accept (some "b") = .error (.defect .hugeRepetition) ∧
    (ofText .none "b,a\x7b4294967295\x7d").accept (some "b") = .ok true ∧
    (ofText .none "a\x7b4294967295\x7d,b").accept (some "b") = .error (.defect .hugeRepetition) := by
  have hDigits : ∀ d ∈ ['4', '2', '9', '4', '9', '6', '7', '2', '9', '5'],
      RegexRead.isDigit d = true := by simp [RegexRead.isDigit]
  have hLetter : String.ofList (['a'] ++ '\x7b' ::
      (['4', '2', '9', '4', '9', '6', '7', '2', '9', '5'] ++ ['\x7d'])) =
      "a\x7b4294967295\x7d" := by decide +kernel
  have hHuge := matchesPattern_huge .none ⟨['a'], by simp, by simp [isWordChar]⟩ hDigits
    (by decide) (by decide +kernel) "b"
  rw [hLetter, if_neg (by decide)] at hHuge
  have hAlone : (ofText .none "a\x7b4294967295\x7d").patterns = ["a\x7b4294967295\x7d"] := by
    decide +kernel
  have hLast : (ofText .none "b,a\x7b4294967295\x7d").patterns = ["b", "a\x7b4294967295\x7d"] := by
    decide +kernel
  have hFirst : (ofText .none "a\x7b4294967295\x7d,b").patterns = ["a\x7b4294967295\x7d", "b"] := by
    decide +kernel
  refine ⟨?_, ?_, ?_⟩
  · simp only [accept, charNames_ofText, hAlone, matchesAny, hHuge]
    rfl
  · simp only [accept, charNames_ofText, hLast, matchesAny, hHuge]
    rfl
  · simp only [accept, charNames_ofText, hFirst, matchesAny, hHuge]
    rfl

end RestRoutes.Filter
