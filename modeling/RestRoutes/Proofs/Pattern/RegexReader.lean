import RestRoutes.Pattern.RegexReader
import RestRoutes.Proofs.Pattern.Regex

/-! Reading expressions of plain characters.  They write the text that they are, and with a star at
the end the texts with any number of copies of the last character. -/

namespace RestRoutes.Pattern

open scoped Computability

def Regex.char (c : Char) : Regex := .one (.single .exact c)

namespace RegexRead

/-- The characters that have a meaning of their own outside of sets. -/
def special : List Char := ['\\', '[', '.', '^', '$', '(', ')', '|', '?', '*', '+', '\x7b']

variable {s : RegexReading} {cs : List Char} {c : Char} {rest : List RegexToken}

/-! ### Single steps -/

section Bind

variable {α β : Type} {x : RegexRead α} {f : α → RegexRead β}

theorem run_bind_ok {a : α} {s' : RegexReading} (h : x.run s = .ok (a, s')) :
    (x >>= f).run s = (f a).run s' := by
  rw [StateT.run_bind, h]
  rfl

theorem run_bind_error {e : RegexFault} (h : x.run s = .error e) : (x >>= f).run s = .error e := by
  rw [StateT.run_bind, h]
  rfl

end Bind

theorem run_peek (s : RegexReading) : peek.run s = .ok (s.tokens.head?, s) := rfl

theorem run_skip {token : RegexToken} (hs : s.tokens = token :: rest)
    (hRest : RegexToken.dangling ∉ rest) : skip.run s = .ok ((), { s with tokens := rest }) := by
  have hHead : ¬ rest.head? = some .dangling := fun h => hRest (List.mem_of_mem_head? h)
  rw [List.head?_eq_getElem?] at hHead
  simp [skip, hs, hHead]
  rfl

theorem run_skipIf (hs : s.tokens = .plain c :: rest) (hRest : RegexToken.dangling ∉ rest) :
    (skipIf c).run s = .ok (true, { s with tokens := rest }) := by
  simp [skipIf, peek, hs, run_skip hs hRest]

theorem run_skipIf_other {d : Char} (hs : s.tokens = .plain d :: rest) (hd : d ≠ c) :
    (skipIf c).run s = .ok (false, s) := by
  simp [skipIf, peek, hs, hd]
  rfl

theorem run_takeUpTo {p : Char → Bool} {ds : List Char} (hDigits : ∀ d ∈ ds, p d = true)
    (hc : p c = false) (hs : s.tokens = ds.map .plain ++ .plain c :: rest)
    (hRest : RegexToken.dangling ∉ rest) {n : Nat} (hn : ds.length < n) :
    (takeUpTo p n).run s = .ok (ds, { s with tokens := .plain c :: rest }) := by
  induction ds generalizing s n with
  | nil =>
    obtain ⟨n, rfl⟩ := Nat.exists_eq_add_of_lt hn
    rw [List.map_nil, List.nil_append] at hs
    simp [takeUpTo, peek, hs, hc]
    rw [← hs]
    rfl
  | cons d ds ih =>
    obtain ⟨hd, hds⟩ := List.forall_mem_cons.mp hDigits
    obtain ⟨n, rfl⟩ := Nat.exists_eq_add_of_lt hn
    have hTail : RegexToken.dangling ∉ ds.map .plain ++ .plain c :: rest := by simp [hRest]
    have hLength : ds.length < (d :: ds).length + n := by simp; omega
    have hNext := ih hds (s := { s with tokens := ds.map .plain ++ .plain c :: rest }) rfl hLength
    rw [List.map_cons, List.cons_append] at hs
    rw [takeUpTo, run_bind_ok (run_peek s), hs]
    simp only [List.head?_cons, hd, if_true]
    rw [run_bind_ok (run_skip hs hTail), run_bind_ok hNext]
    rfl

theorem branch_char (hc : c ∉ special) (hs : s.tokens = .plain c :: rest)
    (hRest : RegexToken.dangling ∉ rest) (start : Bool) (parts : List Regex) (fuel : Nat) :
    (branch start .none parts (fuel + 1)).run s =
      (branch start .none (.char c :: parts) fuel).run { s with tokens := rest } := by
  simp only [special, List.mem_cons, not_or, List.not_mem_nil, not_false_eq_true, and_true] at hc
  rw [branch]
  simp [peek, run_skip hs hRest, hs, hc, bounds?, Flags.none, Flags.folding]
  rfl

theorem branch_end (hs : s.tokens = []) (start : Bool) (parts : List Regex) (fuel : Nat) :
    (branch start .none parts (fuel + 1)).run s = .ok (sequence parts, s) := by
  rw [branch]
  simp [peek, hs]
  rfl

theorem branch_star (hs : s.tokens = [.plain '*']) (start : Bool) (parts : List Regex)
    (fuel : Nat) : (branch start .none (.char c :: parts) (fuel + 1)).run s =
      (branch start .none (.rep .greedy 0 none (.char c) :: parts) fuel).run
        { s with tokens := [] } := by
  rw [branch]
  simp [peek, run_skip hs List.not_mem_nil, hs, bounds?, Flags.none, Regex.char, repeated, greed,
    skipIf]
  rfl

/-- A bound that is too large ends the reading, whatever is to be repeated. -/
theorem run_bounds? {ds : List Char} (hDigits : ∀ d ∈ ds, isDigit d = true)
    (hShort : ds.length ≤ integerDigitLimit) (hHuge : Regex.unbounded ≤ Number.ofDigits ds)
    (hs : s.tokens = ds.map .plain ++ [.plain '\x7d']) {fuel : Nat} (hFuel : ds.length < fuel) :
    (bounds? '\x7b' fuel).run s = .error .hugeBound := by
  have hSome : ds ≠ [] := by
    rintro rfl
    exact absurd hHuge (by decide)
  have hHead : (s.tokens.head? == some (.plain '\x7d')) = false := by
    obtain ⟨d, rest, rfl⟩ := List.exists_cons_of_ne_nil hSome
    have hd := hDigits d List.mem_cons_self
    rw [hs]
    simp
    rintro rfl
    cases hd
  have hLow := run_takeUpTo hDigits (by decide) hs List.not_mem_nil hFuel
  have hComma : (skipIf ',').run { s with tokens := [.plain '\x7d'] } =
      .ok (false, { s with tokens := [.plain '\x7d'] }) := run_skipIf_other rfl (by decide)
  have hClose : (skipIf '\x7d').run { s with tokens := [.plain '\x7d'] } =
      .ok (true, { s with tokens := [] }) := run_skipIf rfl List.not_mem_nil
  have hBound : (bound ds).run { s with tokens := [] } = .error .hugeBound := by
    have hFull : ds.isEmpty = false := by simpa using hSome
    simp [bound, hFull, Nat.not_lt.mpr hShort, hHuge]
    rfl
  have hGet : (get : RegexRead RegexReading).run s = .ok (s, s) := rfl
  have hBraces : (braces fuel).run s = .error .hugeBound := by
    rw [braces, run_bind_ok hGet, run_bind_ok (run_peek s)]
    simp only [hHead, Bool.false_eq_true, if_false]
    rw [run_bind_ok hLow, run_bind_ok hComma]
    simp only [Bool.false_eq_true, if_false]
    rw [pure_bind, run_bind_ok hClose]
    simp only [if_true]
    rw [run_bind_error hBound]
  rw [bounds?]
  exact hBraces

theorem branch_huge {ds : List Char} (hDigits : ∀ d ∈ ds, isDigit d = true)
    (hShort : ds.length ≤ integerDigitLimit) (hHuge : Regex.unbounded ≤ Number.ofDigits ds)
    (hs : s.tokens = .plain '\x7b' :: (ds.map .plain ++ [.plain '\x7d'])) (start : Bool)
    (parts : List Regex) {fuel : Nat} (hFuel : ds.length < fuel) :
    (branch start .none parts (fuel + 1)).run s = .error .hugeBound := by
  have hTail : RegexToken.dangling ∉ ds.map .plain ++ [.plain '\x7d'] := by simp
  have hBounds := run_bounds? (s := { s with tokens := ds.map .plain ++ [.plain '\x7d'] }) hDigits
    hShort hHuge rfl hFuel
  rw [branch, run_bind_ok (run_peek s), hs]
  refine (run_bind_ok (run_skip hs hTail)).trans ?_
  exact run_bind_error hBounds

/-! ### Whole expressions -/

/-- Plain characters are parts of their own. -/
theorem branch_plain (h : ∀ c ∈ cs, c ∉ special) (hRest : RegexToken.dangling ∉ rest)
    (hs : s.tokens = cs.map .plain ++ rest) (start : Bool) (parts : List Regex) (fuel : Nat) :
    (branch start .none parts (cs.length + fuel)).run s =
      (branch start .none ((cs.map Regex.char).reverse ++ parts) fuel).run
        { s with tokens := rest } := by
  induction cs generalizing s parts with
  | nil =>
    have hSame : { s with tokens := rest } = s := by
      rw [List.map_nil, List.nil_append] at hs
      rw [← hs]
    simp [hSame]
  | cons c cs ih =>
    obtain ⟨hc, hcs⟩ := List.forall_mem_cons.mp h
    have hFuel : (c :: cs).length + fuel = cs.length + fuel + 1 := by simp; omega
    have hTail : RegexToken.dangling ∉ cs.map .plain ++ rest := by simp [hRest]
    rw [hFuel, branch_char hc hs hTail, ih hcs rfl]
    simp

theorem regexTokens_plain (h : ∀ c ∈ cs, c ≠ '\\') : regexTokens cs = cs.map .plain := by
  induction cs with
  | nil => rfl
  | cons c cs ih =>
    obtain ⟨hc, hcs⟩ := List.forall_mem_cons.mp h
    rw [regexTokens, ih hcs, List.map_cons]
    · exact fun hSolidus _ => hc hSolidus
    · exact fun _ _ hSolidus _ => hc hSolidus

def initially (names : CharNames) (tokens : List RegexToken) : RegexReading :=
  ⟨names, tokens, .none, 0, [], [], [], none⟩

/-- An expression without escapes is its one alternative, whose plain characters at the start are
parts of their own. -/
theorem read_eq {tail : List Char} (h : ∀ c ∈ cs, c ∉ special) (hTail : ∀ c ∈ tail, c ≠ '\\')
    {names : CharNames} {outcome : Except RegexFault Regex}
    (hBranch : (branch true .none (cs.map Regex.char).reverse
        (3 * cs.length + 4 * tail.length + 7)).run (initially names (tail.map .plain)) =
      outcome.map fun r => (r, initially names []))
    (hUsable : ∀ r, outcome = .ok r → r.isUsable false = true) :
    Regex.read names (String.ofList (cs ++ tail)) = outcome := by
  have hSolidus : ∀ c ∈ cs ++ tail, c ≠ '\\' := by
    intro c hc
    obtain hc | hc := List.mem_append.mp hc
    · rintro rfl
      exact h _ hc List.mem_cons_self
    · exact hTail c hc
  have hTokens : regexTokens (String.ofList (cs ++ tail)).toList = (cs ++ tail).map .plain := by
    rw [String.toList_ofList, regexTokens_plain hSolidus]
  have hFirst : ((initially names ((cs ++ tail).map .plain)).tokens.head? == some .dangling) =
      false := by
    simp [initially]
  have hPlain : (branch true .none [] (4 * (cs ++ tail).length + 7)).run
      (initially names ((cs ++ tail).map .plain)) =
        outcome.map fun r => (r, initially names []) := by
    -- The plain characters use up as much fuel as they are; the rest is more than the tail needs.
    have hFuel : 4 * (cs ++ tail).length + 7 =
        cs.length + (3 * cs.length + 4 * tail.length + 7) := by
      rw [List.length_append]
      omega
    have hRest : RegexToken.dangling ∉ tail.map .plain := by simp
    rw [hFuel, branch_plain h hRest List.map_append, List.append_nil]
    exact hBranch
  rw [Regex.read, hTokens, List.length_map]
  cases outcome with
  | error e =>
    have hOne : (alternatives true .none (4 * (cs ++ tail).length + 8)).run
        (initially names ((cs ++ tail).map .plain)) = .error e := by
      rw [alternatives, run_bind_error hPlain]
    have hWhole : (expression (4 * (cs ++ tail).length + 8)).run
        (initially names ((cs ++ tail).map .plain)) = .error e := by
      rw [expression, run_bind_ok (run_peek _), hFirst]
      exact run_bind_error hOne
    exact congrArg (Except.map (·.1)) hWhole
  | ok r =>
    have hOne : (alternatives true .none (4 * (cs ++ tail).length + 8)).run
        (initially names ((cs ++ tail).map .plain)) = .ok (r, initially names []) := by
      rw [alternatives, run_bind_ok hPlain]
      rfl
    have hWhole : (expression (4 * (cs ++ tail).length + 8)).run
        (initially names ((cs ++ tail).map .plain)) = .ok (r, initially names []) := by
      rw [expression, run_bind_ok (run_peek _), hFirst]
      refine (run_bind_ok hOne).trans ?_
      simp [initially, Flags.none, hUsable r rfl]
      rfl
    exact congrArg (Except.map (·.1)) hWhole

end RegexRead

/-! ### What they match -/

namespace Regex

variable {cs : List Char} {L : Language Char}

theorem singleton_mul_singleton (u v : List Char) : ({u} * {v} : Language Char) = {u ++ v} :=
  Set.image2_singleton

/-- Characters before a part put their text before its words. -/
theorem Denotes.prepend {last : Regex} (h : Denotes last L) (cs : List Char) :
    Denotes (RegexRead.sequence (last :: (cs.map char).reverse)) ({cs} * L) := by
  simp only [RegexRead.sequence]
  induction cs with
  | nil =>
    have hOne : ({[]} : Language Char) = 1 := Language.one_def.symm
    rwa [hOne, one_mul]
  | cons c cs ih =>
    have hWord : ({c :: cs} : Language Char) = {[c]} * {cs} := (singleton_mul_singleton [c] cs).symm
    rw [hWord, mul_assoc, List.map_cons, List.reverse_cons, List.foldl_append]
    exact (denotes_char c).seq ih

theorem denotes_sequence (cs : List Char) :
    Denotes (RegexRead.sequence (cs.map char).reverse) {cs} := by
  cases cs using List.reverseRecOn with
  | nil => exact denotes_empty
  | append_singleton cs c =>
    rw [← singleton_mul_singleton, List.map_append, List.reverse_append]
    exact (denotes_char c).prepend cs

theorem isUsable_char (c : Char) : (char c).isUsable false = true := rfl

/-- Parts that can be used make a sequence that can be. -/
theorem isUsable_sequence {last : Regex} (h : last.isUsable false = true) (cs : List Char) :
    (RegexRead.sequence (last :: (cs.map char).reverse)).isUsable false = true := by
  simp only [RegexRead.sequence]
  induction cs with
  | nil => exact h
  | cons c cs ih =>
    rw [List.map_cons, List.reverse_cons, List.foldl_append]
    exact Bool.and_eq_true_iff.mpr ⟨isUsable_char c, ih⟩

/-- An expression of plain characters writes their text alone. -/
theorem read_plain (names : CharNames) (h : ∀ c ∈ cs, c ∉ RegexRead.special) :
    ∃ r, read names (String.ofList cs) = .ok r ∧ Denotes r {cs} := by
  refine ⟨_, ?_, denotes_sequence cs⟩
  rw [← List.append_nil cs]
  refine RegexRead.read_eq h (List.forall_mem_nil _) ?_ ?_
  · rw [RegexRead.branch_end rfl, List.append_nil]
    rfl
  · rintro r ⟨rfl⟩
    cases cs using List.reverseRecOn with
    | nil => rfl
    | append_singleton cs c =>
      rw [List.append_nil, List.map_append, List.reverse_append]
      exact isUsable_sequence (isUsable_char c) cs

/-- With a star at the end it writes the texts with any number of copies of the last of them. -/
theorem read_star (names : CharNames) {c : Char} (h : ∀ d ∈ cs ++ [c], d ∉ RegexRead.special) :
    ∃ r, read names (String.ofList (cs ++ [c] ++ ['*'])) = .ok r ∧ Denotes r ({cs} * {[c]}∗) := by
  have hParts : ((cs ++ [c]).map char).reverse = char c :: (cs.map char).reverse := by simp
  refine ⟨_, RegexRead.read_eq h (by simp) ?_ ?_, (denotes_char c).star.prepend cs⟩
  · rw [hParts, RegexRead.branch_star rfl, RegexRead.branch_end rfl]
    rfl
  · rintro r ⟨rfl⟩
    have hStar : (rep .greedy 0 none (char c)).isUsable false = true := rfl
    exact isUsable_sequence hStar cs

/-- With a bound in braces after them that is too large it writes nothing. -/
theorem read_huge (names : CharNames) {ds : List Char} (h : ∀ c ∈ cs, c ∉ RegexRead.special)
    (hDigits : ∀ d ∈ ds, RegexRead.isDigit d = true) (hShort : ds.length ≤ integerDigitLimit)
    (hHuge : unbounded ≤ Number.ofDigits ds) :
    read names (String.ofList (cs ++ '\x7b' :: (ds ++ ['\x7d']))) = .error .hugeBound := by
  have hSolidus : ∀ c ∈ '\x7b' :: (ds ++ ['\x7d']), c ≠ '\\' := by
    have hDigit : ∀ d ∈ ds, d ≠ '\\' := by
      rintro d hd rfl
      cases hDigits _ hd
    simpa [or_imp, forall_and] using hDigit
  refine RegexRead.read_eq h hSolidus ?_ nofun
  have hTokens : (RegexRead.initially names (('\x7b' :: (ds ++ ['\x7d'])).map .plain)).tokens =
      .plain '\x7b' :: (ds.map .plain ++ [.plain '\x7d']) := by
    simp [RegexRead.initially]
  refine RegexRead.branch_huge hDigits hShort hHuge hTokens true _ ?_
  simp only [List.length_cons, List.length_append]
  omega

end Regex

end RestRoutes.Pattern
