import Mathlib
import RestRoutes.Pattern.RegexReader
import RestRoutes.Proofs.Run

/-! What a text has in it where reading it as a regular expression ends with a fault other than that
it is malformed: braces around a number that is too large or too long, or groups that set the flags of
two scripts.  Every reader keeps to a tail of the tokens and to flags that a group has set, so the whole
run does. -/

namespace RestRoutes.Pattern

open Std.Do

set_option mvcgen.warning false

/-! ### Causes of faults -/

/-- Digits are a bound among what stands between braces. -/
inductive IsBound (ds : List Char) : List Char → Prop
  | exactly : IsBound ds ds
  | least (most : List Char) : IsBound ds (ds ++ ',' :: most)
  | most (least : List Char) : IsBound ds (least ++ ',' :: ds)

/-- Digits are no number that a repetition can have as a bound, and end the reading with a fault. -/
inductive BadBound (ds : List Char) : RegexFault → Prop
  | huge (hShort : ds.length ≤ integerDigitLimit)
    (hHuge : Regex.unbounded ≤ Number.ofDigits ds) : BadBound ds .hugeBound
  | long (hLong : integerDigitLimit < ds.length) : BadBound ds (.longBound ds.length)

/-- A text writes a repetition with such a bound. -/
def WritesBadBound (cs : List Char) (fault : RegexFault) : Prop :=
  ∃ inner ds : List Char, '\x7b' :: inner ++ ['\x7d'] <:+: cs ∧ IsBound ds inner ∧
    (∀ d ∈ ds, RegexRead.isDigit d = true) ∧ BadBound ds fault

/-- A text sets a flag for the whole expression: its letter is one of the letters of flags in a group
of nothing else. -/
def SetsFlag (letter : Char) (cs : List Char) : Prop :=
  ∃ letters : List Char, '(' :: '?' :: letters ++ [')'] <:+: cs ∧ letter ∈ letters ∧
    ∀ l ∈ letters, (Flags.ofLetter? l).isSome = true

/-- What a text has in it where reading it ends with a fault. -/
def Cause (cs : List Char) : RegexFault → Prop
  | .malformed => True
  | .scripts => SetsFlag 'a' cs ∧ SetsFlag 'u' cs
  | fault => WritesBadBound cs fault

def RegexToken.chars : RegexToken → List Char
  | .plain c => [c]
  | .escaped c => ['\\', c]
  | .dangling => ['\\']

def source (tokens : List RegexToken) : List Char := tokens.flatMap RegexToken.chars

theorem source_regexTokens (cs : List Char) : source (regexTokens cs) = cs := by
  fun_induction regexTokens cs with
  | case1 => rfl
  | case2 => rfl
  | case3 c rest ih => exact congrArg ('\\' :: c :: ·) ih
  | case4 c rest _ _ ih => exact congrArg (c :: ·) ih

theorem source_plain (cs : List Char) : source (cs.map .plain) = cs := by
  induction cs with
  | nil => rfl
  | cons c cs ih => exact congrArg (c :: ·) ih

theorem source_append (u v : List RegexToken) : source (u ++ v) = source u ++ source v :=
  List.flatMap_append

theorem source_mono {u v : List RegexToken} (h : u <:+: v) : source u <:+: source v := by
  obtain ⟨front, rest, rfl⟩ := h
  exact ⟨source front, source rest, by simp [source_append]⟩

/-- Flags for scripts are on only where a group sets them. -/
structure Flags.Written (T : List RegexToken) (flags : Flags) : Prop where
  ascii : flags.ascii = true → SetsFlag 'a' (source T)
  unicode : flags.unicode = true → SetsFlag 'u' (source T)

/-- Letters add their flags to others. -/
inductive Flags.Adds : List Char → Flags → Flags → Prop
  | nil (flags : Flags) : Adds [] flags flags
  | cons {l : Char} {letters : List Char} {sofar flag flags : Flags}
    (hLetter : Flags.ofLetter? l = some flag) (hRest : Adds letters (sofar.both flag) flags) :
    Adds (l :: letters) sofar flags

namespace Flags.Adds

variable {letters : List Char} {sofar flags : Flags}

theorem isSome_ofLetter? (h : Adds letters sofar flags) :
    ∀ l ∈ letters, (Flags.ofLetter? l).isSome = true := by
  induction h with
  | nil => exact List.forall_mem_nil _
  | cons hLetter _ ih => exact List.forall_mem_cons.mpr ⟨by rw [hLetter]; rfl, ih⟩

/-- A flag that is on was on before, or its letter is one of those. -/
theorem mem_of_on {on : Flags → Bool} {letter : Char}
    (hBoth : ∀ f g : Flags, on (f.both g) = (on f || on g))
    (hOn : ∀ l flag, Flags.ofLetter? l = some flag → on flag = true → l = letter)
    (h : Adds letters sofar flags) (hFlags : on flags = true) :
    on sofar = true ∨ letter ∈ letters := by
  induction h with
  | nil => exact .inl hFlags
  | @cons l _ _ flag _ hLetter _ ih =>
    obtain hSofar | hMem := ih hFlags
    · rw [hBoth, Bool.or_eq_true] at hSofar
      obtain hSofar | hFlag := hSofar
      · exact .inl hSofar
      · exact .inr (List.mem_cons.mpr (.inl (hOn l flag hLetter hFlag).symm))
    · exact .inr (List.mem_cons_of_mem l hMem)

theorem mem_of_ascii (h : Adds letters sofar flags) (hFlags : flags.ascii = true) :
    sofar.ascii = true ∨ 'a' ∈ letters := by
  refine h.mem_of_on (fun _ _ => rfl) (fun l flag hLetter hOn => ?_) hFlags
  unfold Flags.ofLetter? at hLetter
  split at hLetter <;> cases hLetter <;> first | rfl | cases hOn

theorem mem_of_unicode (h : Adds letters sofar flags) (hFlags : flags.unicode = true) :
    sofar.unicode = true ∨ 'u' ∈ letters := by
  refine h.mem_of_on (fun _ _ => rfl) (fun l flag hLetter hOn => ?_) hFlags
  unfold Flags.ofLetter? at hLetter
  split at hLetter <;> cases hLetter <;> first | rfl | cases hOn

end Flags.Adds

namespace RegexRead

/-! ### What every reader keeps -/

/-- A tail of the tokens is left, and the flags are written. -/
structure Sound (T tokens : List RegexToken) (flags : Flags) : Prop where
  suffix : tokens <:+ T
  written : flags.Written T

/-- The same, where a token was just read. -/
structure After (T : List RegexToken) (token : RegexToken) (tokens : List RegexToken)
    (flags : Flags) : Prop where
  suffix : token :: tokens <:+ T
  written : flags.Written T

variable {T tokens : List RegexToken} {token : RegexToken} {flags : Flags}

theorem After.sound (h : After T token tokens flags) : Sound T tokens flags :=
  ⟨(List.suffix_cons _ _).trans h.suffix, h.written⟩

theorem Sound.drop (h : Sound T tokens flags) : Sound T (tokens.drop 1) flags :=
  ⟨(List.drop_suffix 1 _).trans h.suffix, h.written⟩

/-- From one state to another a word is read, and the flags are kept. -/
structure Past (word : List RegexToken) (s₀ s : RegexReading) : Prop where
  tokens : s₀.tokens = word ++ s.tokens
  flags : s.flags = s₀.flags

section Past

variable {u v : List RegexToken} {s₀ s₁ s : RegexReading}

theorem Past.nil (s : RegexReading) : Past [] s s := ⟨rfl, rfl⟩

theorem Past.append (hu : Past u s₀ s₁) (hv : Past v s₁ s) : Past (u ++ v) s₀ s :=
  ⟨by rw [hu.tokens, hv.tokens, List.append_assoc], hv.flags.trans hu.flags⟩

theorem Sound.past (h : Sound T s₀.tokens s₀.flags) (hPast : Past u s₀ s) :
    Sound T s.tokens s.flags := by
  obtain ⟨hTokens, hFlags⟩ := hPast
  rw [hTokens] at h
  exact ⟨(List.suffix_append _ _).trans h.suffix, hFlags ▸ h.written⟩

theorem Sound.after (h : Sound T s₀.tokens s₀.flags)
    (hPast : Past s₀.tokens.head?.toList s₀ s) (hHead : s₀.tokens.head? = some token) :
    After T token s.tokens s.flags := by
  obtain ⟨hTokens, hFlags⟩ := hPast
  rw [hHead] at hTokens
  rw [hTokens] at h
  exact ⟨h.suffix, hFlags ▸ h.written⟩

/-- What is read after a token stands after it in the text. -/
theorem After.infix_source {cs : List Char} (h : After T token s₀.tokens s₀.flags)
    (hPast : Past (cs.map .plain) s₀ s) : token.chars ++ cs <:+: source T := by
  have hTokens : token :: cs.map .plain <:+: T := by
    obtain ⟨front, hText⟩ := h.suffix
    exact ⟨front, s.tokens, by rw [← hText, hPast.tokens]; simp⟩
  rw [← source_plain cs]
  exact source_mono hTokens

/-- What a repetition has between its braces. -/
theorem After.writesBadBound {inner ds : List Char} {fault : RegexFault}
    (h : After T (.plain '\x7b') s₀.tokens s₀.flags) (hInner : Past (inner.map .plain) s₀ s₁)
    (hClose : Past [.plain '\x7d'] s₁ s) (hBound : IsBound ds inner)
    (hDigits : ∀ d ∈ ds, isDigit d = true) (hBad : BadBound ds fault) :
    WritesBadBound (source T) fault := by
  have hBraces : Past ((inner ++ ['\x7d']).map .plain) s₀ s := by
    simpa using hInner.append hClose
  exact ⟨inner, ds, h.infix_source hBraces, hBound, hDigits, hBad⟩

/-- What a group of nothing but letters makes of the flags. -/
theorem After.both {letters : List Char} {on : Flags} (h : After T (.plain '(') s₀.tokens s₀.flags)
    (hPast : Past (('?' :: letters ++ [')']).map .plain) s₀ s)
    (hAdds : Flags.Adds letters .none on) : Sound T s.tokens (s.flags.both on) := by
  have hGroup : '(' :: '?' :: letters ++ [')'] <:+: source T := h.infix_source hPast
  have hSound := h.sound.past hPast
  refine ⟨hSound.suffix, ⟨fun hOn => ?_, fun hOn => ?_⟩⟩
  · obtain hBefore | hOn := Bool.or_eq_true_iff.mp hOn
    · exact hSound.written.ascii hBefore
    · exact ⟨letters, hGroup, (hAdds.mem_of_ascii hOn).resolve_left nofun, hAdds.isSome_ofLetter?⟩
  · obtain hBefore | hOn := Bool.or_eq_true_iff.mp hOn
    · exact hSound.written.unicode hBefore
    · exact ⟨letters, hGroup, (hAdds.mem_of_unicode hOn).resolve_left nofun, hAdds.isSome_ofLetter?⟩

end Past

/-- What holds before any reader: the state is sound. -/
abbrev sound (T : List RegexToken) : Assertion (.arg RegexReading (.except RegexFault .pure)) :=
  fun s => ⌜Sound T s.tokens s.flags⌝

/-- What follows any reader: it keeps the state sound, or there is a cause for its fault. -/
abbrev kept (T : List RegexToken) {α : Type} :
    PostCond α (.arg RegexReading (.except RegexFault .pure)) :=
  post⟨fun _ s => ⌜Sound T s.tokens s.flags⌝, fun e => ⌜Cause (source T) e⌝⟩

@[spec] theorem throw_spec {α : Type} {e : RegexFault}
    {Q : PostCond α (.arg RegexReading (.except RegexFault .pure))} :
    ⦃fun _ => Q.2.1 e⦄ (throw e : RegexRead α) ⦃Q⦄ := fun _ h => h

@[spec] theorem malformed_spec {α : Type}
    {Q : PostCond α (.arg RegexReading (.except RegexFault .pure))} :
    ⦃fun _ => Q.2.1 .malformed⦄ (malformed : RegexRead α) ⦃Q⦄ := throw_spec

attribute [local spec] peek

/-! ### Tokens -/

theorem skip_run {s₀ : RegexReading} : ⦃fun s => ⌜s = s₀⌝⦄ skip
    ⦃post⟨fun _ s => ⌜Past s₀.tokens.head?.toList s₀ s⌝, fun e => ⌜Cause (source T) e⌝⟩⦄ := by
  have hDrop : ∀ tokens : List RegexToken, tokens = tokens.head?.toList ++ tokens.drop 1 := by
    rintro (_ | _) <;> rfl
  mvcgen [skip]
  subst_vars
  exact ⟨hDrop _, rfl⟩

theorem skipIf_run {s₀ : RegexReading} (c : Char) : ⦃fun s => ⌜s = s₀⌝⦄ skipIf c
    ⦃post⟨fun found s => ⌜Past (if found then [.plain c] else []) s₀ s⌝,
      fun e => ⌜Cause (source T) e⌝⟩⦄ := by
  mvcgen [skipIf, skip_run]
  · rename_i hHead _ _ hPast
    subst_vars
    rw [beq_iff_eq] at hHead
    rw [hHead] at hPast
    simpa using hPast
  · subst_vars
    exact Past.nil _

theorem next_run {s₀ : RegexReading} : ⦃fun s => ⌜s = s₀⌝⦄ next
    ⦃post⟨fun token s => ⌜Past token.toList s₀ s⌝, fun e => ⌜Cause (source T) e⌝⟩⦄ := by
  mvcgen [next, skip_run]
  subst_vars
  assumption

theorem takeUpTo_run {s₀ : RegexReading} (p : Char → Bool) (n : Nat) :
    ⦃fun s => ⌜s = s₀⌝⦄ takeUpTo p n
    ⦃post⟨fun ds s => ⌜Past (ds.map .plain) s₀ s ∧ ∀ d ∈ ds, p d⌝,
      fun e => ⌜Cause (source T) e⌝⟩⦄ := by
  have hNone (s : RegexReading) : Past ([].map .plain) s s ∧ ∀ d ∈ ([] : List Char), p d :=
    ⟨Past.nil s, nofun⟩
  induction n generalizing s₀ with
  | zero =>
    mvcgen [takeUpTo]
    subst_vars
    exact hNone _
  | succ n ih =>
    mvcgen [takeUpTo, ih, skip_run]
    · rename_i hHead hDigit _ _ hPast _ _ hRest
      subst_vars
      rw [hHead] at hPast
      exact ⟨hPast.append hRest.1, List.forall_mem_cons.mpr ⟨hDigit, hRest.2⟩⟩
    · subst_vars
      exact hNone _
    · subst_vars
      exact hNone _

@[spec] theorem skip_kept : ⦃sound T⦄ skip ⦃kept T⦄ := by
  mvcgen [skip]
  exact Sound.drop ‹_›

@[spec] theorem next_kept : ⦃sound T⦄ next ⦃kept T⦄ := by mvcgen [next]

@[spec] theorem skipIf_kept (c : Char) : ⦃sound T⦄ skipIf c ⦃kept T⦄ := by mvcgen [skipIf]

@[spec] theorem expect_kept (c : Char) : ⦃sound T⦄ expect c ⦃kept T⦄ := by mvcgen [expect]

@[spec] theorem takeUpTo_kept (p : Char → Bool) (n : Nat) : ⦃sound T⦄ takeUpTo p n ⦃kept T⦄ := by
  induction n with
  | zero => mvcgen [takeUpTo]
  | succ n ih => mvcgen [takeUpTo, ih]

@[spec] theorem takeUntil_kept (ender : Char) (n : Nat) : ⦃sound T⦄ takeUntil ender n ⦃kept T⦄ := by
  induction n with
  | zero => mvcgen [takeUntil]
  | succ n ih => mvcgen [takeUntil, ih]

@[spec] theorem nameUntil_kept (ender : Char) (fuel : Nat) :
    ⦃sound T⦄ nameUntil ender fuel ⦃kept T⦄ := by mvcgen [nameUntil]

@[spec] theorem hexCode_kept (n : Nat) : ⦃sound T⦄ hexCode n ⦃kept T⦄ := by mvcgen [hexCode]

@[spec] theorem namedCode_kept (fuel : Nat) : ⦃sound T⦄ namedCode fuel ⦃kept T⦄ := by
  mvcgen [namedCode]

@[spec] theorem code?_kept (c : Char) (fuel : Nat) : ⦃sound T⦄ code? c fuel ⦃kept T⦄ := by
  mvcgen [code?]

@[spec] theorem itself_kept (c : Char) : ⦃sound T⦄ itself c ⦃kept T⦄ := by mvcgen [itself]

@[spec] theorem setEscape_kept (ascii : Bool) (c : Char) (fuel : Nat) :
    ⦃sound T⦄ setEscape ascii c fuel ⦃kept T⦄ := by mvcgen [setEscape]

@[spec] theorem setMember_kept (ascii : Bool) (token : RegexToken) (fuel : Nat) :
    ⦃sound T⦄ setMember ascii token fuel ⦃kept T⦄ := by mvcgen [setMember]

@[spec] theorem rangeBetween_kept (a b : SetItem) : ⦃sound T⦄ rangeBetween a b ⦃kept T⦄ := by
  mvcgen [rangeBetween]

@[spec] theorem setItems_kept (ascii first : Bool) (fuel : Nat) :
    ⦃sound T⦄ setItems ascii first fuel ⦃kept T⦄ := by
  induction fuel generalizing first with
  | zero => mvcgen [setItems]
  | succ fuel ih => mvcgen [setItems, ih]

@[spec] theorem charSet_kept (flags : Flags) (fuel : Nat) :
    ⦃sound T⦄ charSet flags fuel ⦃kept T⦄ := by mvcgen [charSet]

@[spec] theorem openGroup_kept (name : Option String) : ⦃sound T⦄ openGroup name ⦃kept T⦄ := by
  mvcgen [openGroup]

@[spec] theorem closeGroup_kept (number : Nat) (body : Regex) :
    ⦃sound T⦄ closeGroup number body ⦃kept T⦄ := by mvcgen [closeGroup]

@[spec] theorem checkLimit_kept (number : Nat) : ⦃sound T⦄ checkLimit number ⦃kept T⦄ := by
  mvcgen [checkLimit]

@[spec] theorem reference_kept (flags : Flags) (number : Nat) :
    ⦃sound T⦄ reference flags number ⦃kept T⦄ := by mvcgen [reference]

@[spec] theorem digitEscape_kept (flags : Flags) (c : Char) :
    ⦃sound T⦄ digitEscape flags c ⦃kept T⦄ := by mvcgen [digitEscape]

@[spec] theorem escape_kept (flags : Flags) (c : Char) (fuel : Nat) :
    ⦃sound T⦄ escape flags c fuel ⦃kept T⦄ := by mvcgen [escape]

@[spec] theorem greed_kept : ⦃sound T⦄ greed ⦃kept T⦄ := by mvcgen [greed]

@[spec] theorem repeated_kept (bounds : Bounds) (part : Option Regex) :
    ⦃sound T⦄ repeated bounds part ⦃kept T⦄ := by mvcgen [repeated]

@[spec] theorem skipLine_kept (fuel : Nat) : ⦃sound T⦄ skipLine fuel ⦃kept T⦄ := by
  induction fuel with
  | zero => mvcgen [skipLine]
  | succ fuel ih => mvcgen [skipLine, ih]

@[spec] theorem askedGroup_kept (cs : List Char) : ⦃sound T⦄ askedGroup cs ⦃kept T⦄ := by
  mvcgen [askedGroup]

@[spec] theorem namedGroup_kept (flags : Flags) (fuel : Nat) :
    ⦃sound T⦄ namedGroup flags fuel ⦃kept T⦄ := by mvcgen [namedGroup]

/-! ### Flags -/

theorem flagLetters_run {s₀ : RegexReading} (enders : List Char) (fuel : Nat) (letter : Char)
    (sofar : Flags) : ⦃fun s => ⌜s = s₀⌝⦄ flagLetters enders fuel letter sofar
    ⦃post⟨fun r s => ⌜∃ more, Past ((more ++ [r.2]).map .plain) s₀ s ∧
      Flags.Adds (letter :: more) sofar r.1⌝, fun e => ⌜Cause (source T) e⌝⟩⦄ := by
  induction fuel generalizing letter sofar s₀ with
  | zero => mvcgen [flagLetters]
  | succ fuel ih =>
    mvcgen [flagLetters, ih, next_run, -next_kept]
    · subst_vars
      exact ⟨[], ‹Past _ _ _›, .cons ‹_› (.nil _)⟩
    · rename_i hPast _ _
      subst_vars
      rintro ⟨more, hMore, hAdds⟩
      exact ⟨_ :: more, hPast.append hMore, .cons ‹_› hAdds⟩

theorem flagScope_kept (outer : Flags) (fuel : Nat) (letter : Char) :
    ⦃fun s => ⌜∃ s₀ : RegexReading, After T (.plain '(') s₀.tokens s₀.flags ∧
      Past (['?', letter].map .plain) s₀ s⌝⦄ flagScope outer fuel letter ⦃kept T⦄ := by
  mvcgen [flagScope, flagLetters_run, next_run, -next_kept]
  · rename_i hStart _ _ _ _ _ _ _ _ hNext _ _ _ _ hOff
    obtain ⟨s₀, hOpen, hStart⟩ := hStart
    obtain ⟨more, hMore, -⟩ := hOff
    exact ((hOpen.sound.past hStart).past hNext).past hMore
  · rename_i hStart _ hEnd s hOn _
    obtain ⟨s₀, hOpen, hStart⟩ := hStart
    obtain ⟨more, hMore, hAdds⟩ := hOn
    rw [beq_iff_eq] at hEnd
    rw [hEnd] at hMore
    have hGroup : Past (('?' :: (letter :: more) ++ [')']).map .plain) s₀ s := by
      simpa using hStart.append hMore
    exact hOpen.both hGroup hAdds
  · rename_i hStart _ _ _ _ _ _ hOn
    obtain ⟨s₀, hOpen, hStart⟩ := hStart
    obtain ⟨more, hMore, -⟩ := hOn
    exact (hOpen.sound.past hStart).past hMore
  · rename_i hStart _ _ _ _ _ _ hOn _ _ _ _ hNext _ _ _ _ hOff
    obtain ⟨s₀, hOpen, hStart⟩ := hStart
    obtain ⟨more, hMore, -⟩ := hOn
    obtain ⟨off, hOff, -⟩ := hOff
    exact (((hOpen.sound.past hStart).past hMore).past hNext).past hOff

/-! ### Repetitions -/

theorem bound_kept {ds : List Char}
    (h : ∀ fault, BadBound ds fault → WritesBadBound (source T) fault) :
    ⦃sound T⦄ bound ds ⦃kept T⦄ := by
  mvcgen [bound, -Spec.throw_MonadExcept]
  · exact h _ (.long ‹_›)
  · exact h _ (.huge (Nat.not_lt.mp ‹_›) ‹_›)

theorem braces_kept (fuel : Nat) :
    ⦃fun s => ⌜After T (.plain '\x7b') s.tokens s.flags⌝⦄ braces fuel ⦃kept T⦄ := by
  have hComma {low high : List Char} {s₀ s₁ s₂ s₃ : RegexReading}
      (hLow : Past (low.map .plain) s₀ s₁) (h : Past [.plain ','] s₁ s₂)
      (hHigh : Past (high.map .plain) s₂ s₃) : Past ((low ++ ',' :: high).map .plain) s₀ s₃ := by
    simpa using hLow.append (h.append hHigh)
  have hNoComma {low : List Char} {s₀ s₁ s₂ : RegexReading} (hLow : Past (low.map .plain) s₀ s₁)
      (h : Past [] s₁ s₂) : Past (low.map .plain) s₀ s₂ := by
    simpa using hLow.append h
  -- The braces close before a bound is looked at, so by then the whole repetition has been read.
  mvcgen [braces, takeUpTo_run, skipIf_run, bound_kept, -takeUpTo_kept, -skipIf_kept]
  · exact (‹After _ _ _ _›).sound
  · rename_i h _ low _ hLow _ _ _ _ hFound high _ hHigh _ _ _ hClose
    subst_vars
    exact fun _ => h.writesBadBound (hComma hLow.1 hFound hHigh.1) hClose (.least high) hLow.2
  · rename_i h _ low _ hLow _ _ _ _ hFound high _ hHigh _ _ _ hClose
    exact (((h.sound.past hLow.1).past hFound).past hHigh.1).past hClose
  · rename_i h _ low _ hLow _ _ _ _ hFound high _ hHigh _ _ _ hClose _ _ _ _
    subst_vars
    exact fun _ => h.writesBadBound (hComma hLow.1 hFound hHigh.1) hClose (.most low) hHigh.2
  · exact (‹After _ _ _ _›).sound
  · rename_i h _ low _ hLow _ _ _ _ hFound _ _ _ hClose
    subst_vars
    obtain rfl := Bool.eq_false_iff.mpr ‹_›
    exact fun _ => h.writesBadBound (hNoComma hLow.1 hFound) hClose .exactly hLow.2
  · rename_i h _ low _ hLow _ _ _ _ hFound _ _ _ hClose
    exact ((h.sound.past hLow.1).past hFound).past hClose
  · rename_i h _ low _ hLow _ _ _ _ hFound _ _ _ hClose _ _ _ _
    subst_vars
    obtain rfl := Bool.eq_false_iff.mpr ‹_›
    exact fun _ => h.writesBadBound (hNoComma hLow.1 hFound) hClose .exactly hLow.2
  · exact (‹After _ _ _ _›).sound

theorem bounds?_kept (c : Char) (fuel : Nat) :
    ⦃fun s => ⌜After T (.plain c) s.tokens s.flags⌝⦄ bounds? c fuel ⦃kept T⦄ := by
  mvcgen [bounds?, braces_kept]
  all_goals exact (‹After _ _ _ _›).sound

/-! ### Expressions -/

theorem groupKind_kept (flags : Flags) (fuel : Nat) :
    ⦃fun s => ⌜After T (.plain '(') s.tokens s.flags⌝⦄ groupKind flags fuel ⦃kept T⦄ := by
  mvcgen [groupKind, skipIf_run, next_run, flagScope_kept, -skipIf_kept, -next_kept]
  -- Only letters need the mark that opened the group; elsewhere it is enough what has been read.
  case vc12 =>
    have hMark := ‹Past (if _ = true then _ else _) _ _›
    rw [if_pos (by simpa using ‹¬ (!_) = true›)] at hMark
    exact ⟨_, ‹After _ _ _ _›, hMark.append ‹_›⟩
  case vc1 => exact (‹After _ _ _ _›).sound.past ‹_›
  case vc7 | vc8 => exact (((‹After _ _ _ _›).sound.past ‹_›).past ‹_›).past ‹_›
  all_goals exact ((‹After _ _ _ _›).sound.past ‹_›).past ‹_›

theorem alternatives_kept (fuel : Nat) :
    (∀ start flags, ⦃sound T⦄ alternatives start flags fuel ⦃kept T⦄) ∧
    (∀ flags, ⦃sound T⦄ laterAlternatives flags fuel ⦃kept T⦄) ∧
    (∀ start flags parts, ⦃sound T⦄ branch start flags parts fuel ⦃kept T⦄) ∧
    (∀ flags kind, ⦃sound T⦄ group flags kind fuel ⦃kept T⦄) := by
  induction fuel with
  | zero =>
    refine ⟨fun start flags => ?_, fun flags => ?_, fun start flags parts => ?_,
      fun flags kind => ?_⟩
    · mvcgen [alternatives]
    · mvcgen [laterAlternatives]
    · mvcgen [branch]
    · mvcgen [group]
  | succ fuel ih =>
    obtain ⟨ihAlternatives, ihLater, ihBranch, ihGroup⟩ := ih
    refine ⟨fun start flags => ?_, fun flags => ?_, fun start flags parts => ?_,
      fun flags kind => ?_⟩
    · mvcgen [alternatives, ihBranch, ihLater]
    · mvcgen [laterAlternatives, ihBranch, ihLater]
    · mvcgen [branch, skip_run, groupKind_kept, bounds?_kept, ihBranch, ihGroup, -skip_kept]
      -- Groups and bounds also ask which token stands before them.
      case vc15 => exact Sound.after ‹_› ‹_› (by simp_all)
      case vc22 => exact Sound.after ‹_› ‹_› ‹_›
      all_goals exact (‹Sound _ _ _›).past ‹_›
    · mvcgen [group, ihAlternatives, ihBranch]

theorem expression_kept (fuel : Nat) : ⦃sound T⦄ expression fuel ⦃kept T⦄ := by
  have hAlternatives := (alternatives_kept (T := T) fuel).1
  mvcgen [expression, hAlternatives, -Spec.throw_MonadExcept]
  rename_i _ hSound _ hBoth
  rw [Bool.and_eq_true] at hBoth
  exact ⟨hSound.written.ascii hBoth.1, hSound.written.unicode hBoth.2⟩

theorem cause_of_kept {α : Type} {x : RegexRead α} (h : ⦃sound T⦄ x ⦃kept T⦄) {s : RegexReading}
    (hSound : Sound T s.tokens s.flags) {fault : RegexFault} (hFault : x.run s = .error fault) :
    Cause (source T) fault := by
  have hRun : (wp⟦x.run s⟧ _).down := h s hSound
  rw [hFault] at hRun
  exact hRun

end RegexRead

/-- Where reading a text ends with a fault, there is a cause for it in the text. -/
theorem Regex.cause_of_read {names : CharNames} {text : String} {fault : RegexFault}
    (h : read names text = .error fault) : Cause text.toList fault := by
  have hWritten : Flags.none.Written (regexTokens text.toList) := ⟨nofun, nofun⟩
  unfold read at h
  dsimp only at h
  rw [except_map_eq_error] at h
  have hCause :=
    RegexRead.cause_of_kept (RegexRead.expression_kept _) ⟨List.suffix_refl _, hWritten⟩ h
  rwa [source_regexTokens] at hCause

end RestRoutes.Pattern
