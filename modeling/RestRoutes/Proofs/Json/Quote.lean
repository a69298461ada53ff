import RestRoutes.Json.Reader
import RestRoutes.Json.Writer

/-! A written string is read back, whatever its characters are, and reading stops at its closing
quote.  What is written has no control characters. -/

namespace RestRoutes.Json

open Text

theorem hexValue?_hexDigit (capital : Bool) {n : Nat} (h : n < 16) :
    hexValue? (hexDigit capital n) = some n := by
  have hAll : ∀ capital : Bool, ∀ n < 16, hexValue? (hexDigit capital n) = some n := by decide
  exact hAll capital n h

theorem hex_four (capital : Bool) (n : Nat) :
    hex capital 4 n =
      [hexDigit capital (n / 16 / 16 / 16 % 16), hexDigit capital (n / 16 / 16 % 16),
        hexDigit capital (n / 16 % 16), hexDigit capital (n % 16)] := rfl

theorem unit_hex (capital : Bool) {n : Nat} (h : n < 65536) (left : List Char) (next : Char)
    (rest : List Char) :
    unit left (hex capital 4 n ++ next :: rest) = .ok (n, next :: rest) := by
  have hDigit : ∀ m : Nat, hexValue? (hexDigit capital (m % 16)) = some (m % 16) :=
    fun m => hexValue?_hexDigit capital (Nat.mod_lt m (by omega))
  have hUnit : unit? (hexDigit capital (n / 16 / 16 / 16 % 16))
      (hexDigit capital (n / 16 / 16 % 16)) (hexDigit capital (n / 16 % 16))
      (hexDigit capital (n % 16)) = some n := by
    simp only [unit?, hDigit, Option.bind_eq_bind, Option.bind_some, Option.pure_def]
    congr 1
    omega
  simp only [hex_four, List.cons_append, List.nil_append, unit, hUnit]

theorem escaped_letter {c e : Char} (h : escape? c = some e) (rest : List Char) :
    escaped (c :: rest) = .ok (e, rest) := by
  have hNotNumber : c ≠ 'u' := by
    rintro rfl
    simp [escape?] at h
  simp only [escaped, h]

theorem escaped_control {c : Char} (h : c.toNat < 0x20) (next : Char) (rest : List Char) :
    escaped ('u' :: hex false 4 c.toNat ++ next :: rest) = .ok (c, next :: rest) := by
  have hHigh : isHighSurrogate c.toNat = false := by
    simp [isHighSurrogate]
    omega
  have hChar : unitChar c.toNat = c := by
    simp only [unitChar, Char.ofNat_toNat, ite_eq_left_iff]
    exact fun hNot => absurd c.valid hNot
  rw [List.cons_append, escaped, unit_hex false (by omega)]
  simp only [Bind.bind, Except.bind, hHigh, hChar, Bool.false_eq_true, if_false]

theorem string_escape (start fuel : Nat) {cs rest : List Char} {c : Char}
    (h : escaped cs = .ok (c, rest)) :
    string start (fuel + 1) ('\\' :: cs) =
      (string start fuel rest).map fun (cs, left) => (c :: cs, left) := by
  cases cs with
  | nil => simp [escaped, fail] at h
  | cons d ds =>
    rw [string, h]
    · simp only [Bind.bind, Except.bind]
      cases string start fuel rest <;> rfl
    · simp

theorem string_plain (start fuel : Nat) {c : Char} (hQuote : c ≠ '"') (hSlash : c ≠ '\\')
    (hControl : ¬ c.toNat < 0x20) (cs : List Char) :
    string start (fuel + 1) (c :: cs) =
      (string start fuel cs).map fun (cs, left) => (c :: cs, left) := by
  have hHigh : ¬ c.toNat ≤ 0x1F := by omega
  rw [string, if_neg hHigh]
  · cases string start fuel cs <;> rfl
  all_goals simp [hQuote, hSlash]

/-- A character is written as an escape with a letter, as its number, or as it is. -/
theorem escapeChar_forms (c : Char) :
    (∃ e, escapeChar c = ['\\', e] ∧ escape? e = some c) ∨
      (c.toNat < 0x20 ∧ escapeChar c = '\\' :: 'u' :: hex false 4 c.toNat) ∨
      (c ≠ '"' ∧ c ≠ '\\' ∧ ¬ c.toNat < 0x20 ∧ escapeChar c = [c]) := by
  by_cases hLetter : c ∈ ['"', '\\', '\n', '\r', '\t', '\x08', '\x0c']
  · left
    simp only [List.mem_cons, List.not_mem_nil, or_false] at hLetter
    rcases hLetter with rfl | rfl | rfl | rfl | rfl | rfl | rfl <;> exact ⟨_, rfl, rfl⟩
  · right
    simp only [List.mem_cons, List.not_mem_nil, or_false, not_or] at hLetter
    by_cases hControl : c.toNat < 0x20
    · exact .inl ⟨hControl, by simp [escapeChar, hLetter, hControl]⟩
    · exact .inr ⟨hLetter.1, hLetter.2.1, hControl, by simp [escapeChar, hLetter, hControl]⟩

/-- A reader takes a written character back. -/
theorem string_escapeChar (start fuel : Nat) (c next : Char) (rest : List Char) :
    string start (fuel + 1) (escapeChar c ++ next :: rest) =
      (string start fuel (next :: rest)).map fun (cs, left) => (c :: cs, left) := by
  obtain ⟨e, hForm, hLetter⟩ | ⟨hControl, hForm⟩ | ⟨hQuote, hSlash, hControl, hForm⟩ :=
    escapeChar_forms c
  · rw [hForm]
    exact string_escape start fuel (escaped_letter hLetter _)
  · rw [hForm]
    exact string_escape start fuel (escaped_control hControl next rest)
  · rw [hForm]
    exact string_plain start fuel hQuote hSlash hControl _

/-- A reader takes a written text back, and leaves what stands after its closing quote. -/
theorem string_quote (start : Nat) {fuel : Nat} {cs : List Char} (h : cs.length < fuel)
    (rest : List Char) :
    string start fuel (cs.flatMap escapeChar ++ '"' :: rest) = .ok (cs, rest) := by
  induction cs generalizing fuel with
  | nil =>
    cases fuel with
    | zero => cases h
    | succ fuel => rfl
  | cons c cs ih =>
    cases fuel with
    | zero => cases h
    | succ fuel =>
      have hRest := ih (Nat.lt_of_succ_lt_succ h)
      have hNext : ∃ next more, cs.flatMap escapeChar ++ '"' :: rest = next :: more := by
        cases hList : cs.flatMap escapeChar with
        | nil => exact ⟨_, _, rfl⟩
        | cons next more => exact ⟨_, _, rfl⟩
      obtain ⟨next, more, hNext⟩ := hNext
      rw [List.flatMap_cons, List.append_assoc, hNext, string_escapeChar, ← hNext, hRest]
      rfl

theorem length_le_escaped (cs : List Char) : cs.length ≤ (cs.flatMap escapeChar).length := by
  induction cs with
  | nil => simp
  | cons c cs ih =>
    have hChar : 1 ≤ (escapeChar c).length := by
      obtain ⟨e, hForm, -⟩ | ⟨-, hForm⟩ | ⟨-, -, -, hForm⟩ := escapeChar_forms c <;> simp [hForm]
    simp only [List.flatMap_cons, List.length_append, List.length_cons]
    omega

/-! ### Plain characters -/

theorem hexDigit_plain {n : Nat} (h : n < 16) : 0x20 ≤ (hexDigit false n).toNat := by
  have hAll : ∀ n < 16, 0x20 ≤ (hexDigit false n).toNat := by decide
  exact hAll n h

theorem escapeChar_plain (c : Char) : ∀ d ∈ escapeChar c, 0x20 ≤ d.toNat := by
  obtain ⟨e, hForm, hLetter⟩ | ⟨-, hForm⟩ | ⟨-, -, hControl, hForm⟩ := escapeChar_forms c
  · have he : 0x20 ≤ e.toNat := by
      unfold escape? at hLetter
      split at hLetter <;> first | decide | cases hLetter
    simpa [hForm] using he
  · have hDigit : ∀ m : Nat, 0x20 ≤ (hexDigit false (m % 16)).toNat :=
      fun m => hexDigit_plain (Nat.mod_lt m (by omega))
    simp [hForm, hex_four, hDigit]
  · simpa [hForm] using hControl

/-- What is written has no control characters. -/
theorem quote_plain (cs : List Char) : ∀ d ∈ quote cs, 0x20 ≤ d.toNat := by
  intro d hd
  simp only [quote, List.cons_append, List.mem_cons, List.mem_append, List.mem_flatMap,
    List.not_mem_nil, or_false] at hd
  obtain rfl | ⟨c, -, hd⟩ | rfl := hd
  · decide
  · exact escapeChar_plain c d hd
  · decide

theorem newline_notMem_quoted (s : String) : '\n' ∉ (quoted s).toList := by
  intro h
  rw [quoted, String.toList_ofList] at h
  exact absurd (quote_plain _ _ h) (by decide)

end RestRoutes.Json
