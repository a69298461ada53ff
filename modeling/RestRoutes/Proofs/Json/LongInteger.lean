import RestRoutes.Json.Reader
import RestRoutes.Proofs.Run

/-! Reading JSON either gives a value, or says where the text breaks the grammar, or stops at an integer
that is too long.  Such an integer stands in the text: every reader leaves an end of the characters that it
is given, so what stops the last of them is a part of the whole text. -/

namespace RestRoutes.Json

/-- A run of `n` digits is among the characters, and these are too many. -/
def HasLongRun (cs : List Char) (n : Nat) : Prop :=
  integerDigitLimit < n ∧ ∃ ds, ds <:+: cs ∧ ds.length = n ∧ ds.all isAsciiDigit = true

theorem HasLongRun.of_suffix {cs rest : List Char} {n : Nat} (h : HasLongRun rest n)
    (hRest : rest <:+ cs) : HasLongRun cs n := by
  obtain ⟨hLong, ds, hRun, hLength, hDigits⟩ := h
  exact ⟨hLong, ds, hRun.trans hRest.isInfix, hLength, hDigits⟩

/-- A reading leaves an end of the characters, or breaks the grammar, or stops at a long run of digits
among them. -/
inductive Within {α : Type} (cs : List Char) : Except Stop (α × List Char) → Prop
  | ok (a : α) {rest : List Char} (h : rest <:+ cs) : Within cs (.ok (a, rest))
  | grammar (expected : Expected) (left : Nat) : Within cs (.error (.grammar expected left))
  | longInteger {n : Nat} (h : HasLongRun cs n) : Within cs (.error (.longInteger n))

namespace Within

variable {α β : Type} {cs rest : List Char} {x : Except Stop (α × List Char)}

theorem fail (expected : Expected) (left : List Char) :
    Within (α := α) cs (Json.fail expected left) := .grammar expected left.length

theorem of_suffix (h : Within rest x) (hRest : rest <:+ cs) : Within cs x := by
  cases h with
  | ok a h => exact .ok a (h.trans hRest)
  | grammar expected left => exact .grammar expected left
  | longInteger h => exact .longInteger (h.of_suffix hRest)

theorem cons (c : Char) (h : Within cs x) : Within (c :: cs) x := h.of_suffix (List.suffix_cons c cs)

theorem bind {f : α × List Char → Except Stop (β × List Char)} (h : Within cs x)
    (hf : ∀ a rest, rest <:+ cs → Within rest (f (a, rest))) : Within cs (x >>= f) := by
  cases h with
  | ok a hRest => exact (hf a _ hRest).of_suffix hRest
  | grammar expected left => exact .grammar expected left
  | longInteger h => exact .longInteger h

theorem map (h : Within cs x) (f : α → β) :
    Within cs (x.map fun p => (f p.1, p.2)) := by
  cases h with
  | ok a hRest => exact .ok (f a) hRest
  | grammar expected left => exact .grammar expected left
  | longInteger h => exact .longInteger h

end Within

theorem skipSpace_suffix (cs : List Char) : skipSpace cs <:+ cs := List.dropWhile_suffix _

/-! ### Strings -/

theorem within_unit (left cs : List Char) : Within cs (unit left cs) := by
  unfold unit
  split
  · rename_i a b c d next rest
    split
    · exact .ok _ ⟨[a, b, c, d], rfl⟩
    · exact .fail _ _
  · exact .fail _ _

theorem lowSurrogate?_cases (cs : List Char) :
    (∃ expected left, lowSurrogate? cs = .error (.grammar expected left)) ∨
      lowSurrogate? cs = .ok none ∨
      ∃ low rest, lowSurrogate? cs = .ok (some (low, rest)) ∧ rest <:+ cs := by
  unfold lowSurrogate?
  split
  · rename_i a b c d next rest
    split
    · exact .inl ⟨_, _, rfl⟩
    · split
      · exact .inr (.inr ⟨_, _, rfl, ['\\', 'u', a, b, c, d], rfl⟩)
      · exact .inr (.inl rfl)
  · exact .inr (.inl rfl)

theorem within_escaped (cs : List Char) : Within cs (escaped cs) := by
  unfold escaped
  split
  · rename_i rest
    refine ((within_unit ('u' :: rest) rest).bind fun n rest _ => ?_).cons 'u'
    dsimp only
    split
    · obtain ⟨expected, left, h⟩ | h | ⟨low, rest', h, hRest⟩ := lowSurrogate?_cases rest
      · rw [h]
        exact .grammar expected left
      · rw [h]
        exact .ok _ (List.suffix_refl _)
      · rw [h]
        exact .ok _ hRest
    · exact .ok _ (List.suffix_refl _)
  · rename_i c rest _
    split
    · exact .ok _ (List.suffix_cons c rest)
    · exact .fail _ _
  · exact .fail _ _

theorem within_string (start fuel : Nat) (cs : List Char) : Within cs (string start fuel cs) := by
  fun_induction string start fuel cs with
  | case1 | case2 | case3 => exact .grammar _ _
  | case4 => exact .ok _ (List.suffix_cons _ _)
  | case5 fuel rest _ ih =>
    refine ((within_escaped rest).bind fun c rest _ => ?_).cons _
    exact (ih rest).bind fun cs rest _ => .ok (c :: cs) (List.suffix_refl rest)
  | case6 => exact .fail _ _
  | case7 fuel c rest _ _ _ _ ih =>
    exact (ih.bind fun cs rest _ => .ok (c :: cs) (List.suffix_refl rest)).cons c

/-! ### Numbers -/

theorem takeDigits_eq (cs : List Char) :
    (takeDigits cs).1 ++ (takeDigits cs).2 = cs := List.takeWhile_append_dropWhile

theorem fraction?_suffix {cs ds rest : List Char} (h : fraction? cs = some (ds, rest)) :
    rest <:+ cs := by
  unfold fraction? at h
  split at h
  · rename_i after
    split at h
    · cases h
    · cases h
      exact (List.dropWhile_suffix _).trans (List.suffix_cons _ _)
  · cases h

theorem exponent?_suffix {cs rest : List Char} {e : Int} (h : exponent? cs = some (e, rest)) :
    rest <:+ cs := by
  unfold exponent? at h
  split at h
  · rename_i c after
    split at h
    · split at h
      rename_i negative digits hSign
      -- A sign may stand between the letter and the digits.
      have hDigits : digits <:+ after := by
        split at hSign <;> cases hSign
        · exact List.suffix_cons _ _
        · exact List.suffix_cons _ _
        · exact List.suffix_refl _
      split at h
      · cases h
      · rename_i hTaken
        cases h
        have hRest : (takeDigits digits).2 <:+ digits := List.dropWhile_suffix _
        rw [hTaken] at hRest
        exact (hRest.trans hDigits).trans (List.suffix_cons _ _)
    · cases h
  · cases h

/-- The whole part of a number: a zero on its own, or all digits at the front. -/
theorem whole_eq (cs : List Char) {whole : List Char × List Char}
    (h : whole = match cs with
      | '0' :: rest => (['0'], rest)
      | _ => takeDigits cs) :
    whole.1 ++ whole.2 = cs ∧ whole.1.all isAsciiDigit = true := by
  subst h
  split
  · exact ⟨rfl, rfl⟩
  · exact ⟨takeDigits_eq cs, List.all_takeWhile⟩

theorem within_unsigned (negative : Bool) (all cs : List Char) :
    Within cs (unsigned negative all cs) := by
  unfold unsigned
  extract_lets whole
  obtain ⟨hWhole, hDigits⟩ := whole_eq cs (Eq.refl whole)
  have hRest : whole.2 <:+ cs := ⟨whole.1, hWhole⟩
  split
  · exact .fail _ _
  · have hFraction : ((fraction? whole.2).getD ([], whole.2)).2 <:+ cs := by
      cases hFound : fraction? whole.2 with
      | none => exact hRest
      | some found => exact (fraction?_suffix hFound).trans hRest
    generalize (fraction? whole.2).getD ([], whole.2) = fraction at hFraction
    obtain ⟨fractionDigits, rest⟩ := fraction
    dsimp only at hFraction ⊢
    split
    · rename_i hExponent
      exact .ok _ ((exponent?_suffix hExponent).trans hFraction)
    · split
      · split
        · rename_i hLong
          exact .longInteger ⟨hLong, whole.1, ⟨[], whole.2, hWhole⟩, rfl, hDigits⟩
        · exact .ok _ hFraction
      · exact .ok _ hFraction

theorem within_number (cs : List Char) : Within cs (number cs) := by
  unfold number
  split
  · exact (within_unsigned _ _ _).cons '-'
  · exact within_unsigned _ _ _

/-! ### Values -/

theorem within_value {fuel : Nat} (hElements : ∀ cs, Within cs (elements fuel cs))
    (hMembers : ∀ cs, Within cs (members fuel cs)) (cs : List Char) :
    Within cs (value (fuel + 1) cs) := by
  unfold value
  split
  case h_1 => exact .fail _ _
  case h_2 rest => exact ((within_string _ _ rest).map fun s => Value.str (String.ofList s)).cons _
  case h_3 rest =>
    split
    · rename_i after hSpace
      exact .ok _ (((List.suffix_cons _ after).trans (hSpace ▸ skipSpace_suffix rest)).trans
        (List.suffix_cons _ _))
    · exact (((hMembers _).map Value.ofEntries).of_suffix (skipSpace_suffix rest)).cons _
  case h_4 rest =>
    split
    · rename_i after hSpace
      exact .ok _ (((List.suffix_cons _ after).trans (hSpace ▸ skipSpace_suffix rest)).trans
        (List.suffix_cons _ _))
    · exact (((hElements _).map Value.list).of_suffix (skipSpace_suffix rest)).cons _
  case h_5 rest => exact .ok _ ⟨"null".toList, rfl⟩
  case h_6 rest => exact .ok _ ⟨"true".toList, rfl⟩
  case h_7 rest => exact .ok _ ⟨"false".toList, rfl⟩
  case h_8 rest => exact .ok _ ⟨"NaN".toList, rfl⟩
  case h_9 rest => exact .ok _ ⟨"Infinity".toList, rfl⟩
  case h_10 rest => exact .ok _ ⟨"-Infinity".toList, rfl⟩
  case h_11 => exact within_number cs

/-- What follows a sign that stands behind white space. -/
theorem suffix_of_skipSpace {c : Char} {cs rest : List Char} (h : skipSpace cs = c :: rest) :
    rest <:+ cs := (List.suffix_cons c rest).trans (h ▸ skipSpace_suffix cs)

theorem within_elements {fuel : Nat} (hValue : ∀ cs, Within cs (value fuel cs))
    (hElements : ∀ cs, Within cs (elements fuel cs)) (cs : List Char) :
    Within cs (elements (fuel + 1) cs) := by
  unfold elements
  refine (hValue cs).bind fun x rest _ => ?_
  dsimp only
  split
  · exact .ok _ (suffix_of_skipSpace ‹_›)
  · rename_i after hComma
    refine Within.of_suffix ?_ ((skipSpace_suffix after).trans (suffix_of_skipSpace hComma))
    exact (hElements _).bind fun xs left _ => .ok (x :: xs) (List.suffix_refl _)
  · exact .fail _ _

theorem within_members {fuel : Nat} (hValue : ∀ cs, Within cs (value fuel cs))
    (hMembers : ∀ cs, Within cs (members fuel cs)) (cs : List Char) :
    Within cs (members (fuel + 1) cs) := by
  unfold members
  split
  · refine ((within_string _ _ _).bind fun name rest _ => ?_).cons _
    dsimp only
    split
    · rename_i after hColon
      refine Within.of_suffix ?_ ((skipSpace_suffix after).trans (suffix_of_skipSpace hColon))
      refine (hValue _).bind fun v rest _ => ?_
      dsimp only
      split
      · exact .ok _ (suffix_of_skipSpace ‹_›)
      · rename_i after hComma
        refine Within.of_suffix ?_ ((skipSpace_suffix after).trans (suffix_of_skipSpace hComma))
        exact (hMembers _).bind fun es left _ =>
          .ok ((.str (String.ofList name), v) :: es) (List.suffix_refl _)
      · exact .fail _ _
    · exact .fail _ _
  · exact .fail _ _

theorem within_readers (fuel : Nat) :
    (∀ cs, Within cs (value fuel cs)) ∧ (∀ cs, Within cs (elements fuel cs)) ∧
      ∀ cs, Within cs (members fuel cs) := by
  induction fuel with
  | zero =>
    refine ⟨fun cs => ?_, fun cs => ?_, fun cs => ?_⟩
    · rw [value]
      exact .fail _ _
    · rw [elements]
      exact .fail _ _
    · rw [members]
      exact .fail _ _
  | succ fuel ih =>
    obtain ⟨hValue, hElements, hMembers⟩ := ih
    exact ⟨within_value hElements hMembers, within_elements hValue hElements,
      within_members hValue hMembers⟩

theorem hasLongRun_of_document {cs : List Char} {n : Nat} (h : document cs = .error (.longInteger n)) :
    HasLongRun cs n := by
  unfold document at h
  split at h
  · cases h
  · rcases except_bind_eq_error.mp h with hValue | ⟨⟨v, rest⟩, -, hEnd⟩
    · have hWithin := (within_readers (cs.length + 1)).1 (skipSpace cs)
      rw [hValue] at hWithin
      cases hWithin with
      | longInteger hRun => exact hRun.of_suffix (skipSpace_suffix cs)
    · dsimp only at hEnd
      split at hEnd <;> cases hEnd

/-- An integer that stops the reading of a text stands in it. -/
theorem hasLongRun_of_read {text : String} {n : Nat} (h : read text = .error (.longInteger n)) :
    HasLongRun text.toList n := by
  unfold read at h
  split at h
  · cases h
  · rename_i hDocument
    cases h
    exact hasLongRun_of_document hDocument
  · cases h

end RestRoutes.Json
