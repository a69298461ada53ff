import RestRoutes.Text.Split

/-! Cutting a list at a separator takes it apart where it was put together. -/

namespace RestRoutes.Text

variable {α : Type} {p : α → Bool} {front : List α} {x : α}

theorem splitAll_ne_nil (p : α → Bool) (xs : List α) : splitAll p xs ≠ [] := by
  cases xs with
  | nil => simp [splitAll]
  | cons x rest =>
    unfold splitAll
    split
    · simp
    · split <;> simp

/-- A separator parts a list wherever it stands. -/
theorem splitAll_append_cons (hx : p x = true) (front rest : List α) :
    splitAll p (front ++ x :: rest) = splitAll p front ++ splitAll p rest := by
  induction front with
  | nil => simp [splitAll, hx]
  | cons y front ih =>
    cases hy : p y with
    | true => simp [splitAll, hy, ih]
    | false =>
      obtain ⟨piece, pieces, hFront⟩ := List.exists_cons_of_ne_nil (splitAll_ne_nil p front)
      simp [splitAll, hy, ih, hFront]

theorem splitAll_eq_singleton {xs : List α} (h : ∀ y ∈ xs, p y = false) : splitAll p xs = [xs] := by
  induction xs with
  | nil => rfl
  | cons y rest ih =>
    obtain ⟨hy, hRest⟩ := List.forall_mem_cons.mp h
    simp [splitAll, hy, ih hRest]

theorem splitAll_append (h : ∀ y ∈ front, p y = false) (hx : p x = true) (rest : List α) :
    splitAll p (front ++ x :: rest) = front :: splitAll p rest := by
  rw [splitAll_append_cons hx, splitAll_eq_singleton h, List.singleton_append]

/-- Pieces that a separator each ends are taken apart, with nothing after the last separator. -/
theorem splitAll_ended {pieces : List (List α)} (h : ∀ piece ∈ pieces, ∀ y ∈ piece, p y = false)
    (hx : p x = true) : splitAll p (pieces.flatMap (· ++ [x])) = pieces ++ [[]] := by
  induction pieces with
  | nil => rfl
  | cons piece rest ih =>
    obtain ⟨hPiece, hRest⟩ := List.forall_mem_cons.mp h
    rw [List.flatMap_cons, List.append_assoc, List.singleton_append, splitAll_append hPiece hx,
      ih hRest, List.cons_append]

/-- Pieces that a separator stands between are taken apart. -/
theorem splitAll_intercalate {pieces : List (List α)} (hSome : pieces ≠ [])
    (h : ∀ piece ∈ pieces, ∀ y ∈ piece, p y = false) (hx : p x = true) :
    splitAll p (List.intercalate [x] pieces) = pieces := by
  induction pieces with
  | nil => exact absurd rfl hSome
  | cons piece rest ih =>
    obtain ⟨hPiece, hRest⟩ := List.forall_mem_cons.mp h
    cases rest with
    | nil => simpa using splitAll_eq_singleton hPiece
    | cons next rest =>
      rw [List.intercalate_cons_cons, List.append_assoc, List.singleton_append,
        splitAll_append hPiece hx, ih (List.cons_ne_nil _ _) hRest]

theorem not_of_mem_splitAll {piece xs : List α} (h : piece ∈ splitAll p xs) :
    ∀ y ∈ piece, p y = false := by
  induction xs generalizing piece with
  | nil =>
    obtain rfl := List.mem_singleton.mp h
    exact List.forall_mem_nil _
  | cons x rest ih =>
    rw [splitAll] at h
    split at h
    · obtain rfl | h := List.mem_cons.mp h
      · exact List.forall_mem_nil _
      · exact ih h
    · rename_i hx
      rw [Bool.not_eq_true] at hx
      split at h
      · obtain rfl := List.mem_singleton.mp h
        exact List.forall_mem_singleton.mpr hx
      · rename_i first pieces hRest
        rw [hRest] at ih
        obtain rfl | h := List.mem_cons.mp h
        · exact List.forall_mem_cons.mpr ⟨hx, ih List.mem_cons_self⟩
        · exact ih (List.mem_cons_of_mem _ h)

theorem mem_of_mem_splitAll {piece xs : List α} (h : piece ∈ splitAll p xs) {y : α} (hy : y ∈ piece) :
    y ∈ xs := by
  induction xs generalizing piece with
  | nil =>
    obtain rfl := List.mem_singleton.mp h
    exact hy
  | cons x rest ih =>
    rw [splitAll] at h
    split at h
    · obtain rfl | h := List.mem_cons.mp h
      · exact absurd hy List.not_mem_nil
      · exact List.mem_cons_of_mem _ (ih h hy)
    · split at h
      · obtain rfl := List.mem_singleton.mp h
        exact List.mem_singleton.mp hy ▸ List.mem_cons_self
      · rename_i first pieces hRest
        rw [hRest] at ih
        obtain rfl | h := List.mem_cons.mp h
        · obtain rfl | hy := List.mem_cons.mp hy
          · exact List.mem_cons_self
          · exact List.mem_cons_of_mem _ (ih List.mem_cons_self hy)
        · exact List.mem_cons_of_mem _ (ih (List.mem_cons_of_mem _ h) hy)

/-- Nothing stands between the separators exactly when there is nothing else. -/
theorem filter_splitAll_eq_nil_iff {xs : List α} :
    (splitAll p xs).filter (!·.isEmpty) = [] ↔ ∀ x ∈ xs, p x = true := by
  induction xs with
  | nil => simp [splitAll]
  | cons x rest ih =>
    rw [List.forall_mem_cons, splitAll]
    cases hx : p x with
    | true => simpa using ih
    | false =>
      cases hRest : splitAll p rest with
      | nil => exact absurd hRest (splitAll_ne_nil p rest)
      | cons piece pieces => simp

theorem cutFirst_append (h : ∀ y ∈ front, p y = false) (hx : p x = true) (rest : List α) :
    cutFirst p (front ++ x :: rest) = some (front, rest) := by
  induction front with
  | nil => simp [cutFirst, hx]
  | cons y front ih =>
    have hy : p y = false := h y (by simp)
    have hFront := ih fun z hz => h z (by simp [hz])
    simp [cutFirst, hy, hFront]

theorem hasPart_iff [BEq α] [LawfulBEq α] {part xs : List α} :
    hasPart part xs = true ↔ part <:+: xs := by
  induction xs with
  | nil => simp [hasPart]
  | cons x rest ih => simp [hasPart, ih, List.infix_cons_iff]

theorem mentions_iff {part text : String} :
    mentions part text = true ↔ part.toList <:+: text.toList := hasPart_iff

/-! ### Pieces with something between each two -/

theorem mem_intercalate {sep : List α} {pieces : List (List α)} {x : α}
    (h : x ∈ List.intercalate sep pieces) : x ∈ sep ∨ ∃ piece ∈ pieces, x ∈ piece := by
  induction pieces with
  | nil => exact absurd h List.not_mem_nil
  | cons piece rest ih =>
    cases rest with
    | nil => exact .inr ⟨piece, List.mem_cons_self, by simpa using h⟩
    | cons next rest =>
      rw [List.intercalate_cons_cons, List.append_assoc, List.mem_append, List.mem_append] at h
      obtain h | h | h := h
      · exact .inr ⟨piece, List.mem_cons_self, h⟩
      · exact .inl h
      · refine (ih h).imp_right ?_
        rintro ⟨other, hOther, hx⟩
        exact ⟨other, List.mem_cons_of_mem _ hOther, hx⟩

theorem length_intercalate_cons (sep piece : List α) (pieces : List (List α)) :
    (List.intercalate sep (piece :: pieces)).length =
      (piece :: pieces).flatten.length + pieces.length * sep.length := by
  induction pieces generalizing piece with
  | nil => simp
  | cons next pieces ih =>
    have hRest := ih next
    rw [List.flatten_cons, List.length_append, List.length_cons, Nat.succ_mul,
      List.intercalate_cons_cons, List.length_append, List.length_append, hRest]
    omega

/-- Where there is more than one piece, what stands between them can be told from the whole: its length
from the length of the whole, and itself from what follows the first piece. -/
theorem intercalate_inj {sep sep' : List α} {pieces : List (List α)} (hPieces : 1 < pieces.length)
    (h : List.intercalate sep pieces = List.intercalate sep' pieces) : sep = sep' := by
  match pieces, hPieces with
  | piece :: next :: pieces, _ =>
    have hLength : sep.length = sep'.length := by
      have hWhole := congrArg List.length h
      rw [length_intercalate_cons, length_intercalate_cons, Nat.add_left_cancel_iff,
        List.length_cons] at hWhole
      exact Nat.eq_of_mul_eq_mul_left (Nat.succ_pos _) hWhole
    rw [List.intercalate_cons_cons, List.intercalate_cons_cons, List.append_assoc,
      List.append_assoc] at h
    exact (List.append_inj (List.append_cancel_left h) hLength).1

/-! ### Pieces between marks -/

section Marks

variable [BEq α] {mark : List α}

theorem piecesBetween_ne_nil (mark : List α) (skip : Nat) (xs : List α) :
    piecesBetween mark skip xs ≠ [] := by
  fun_induction piecesBetween mark skip xs <;> simp_all

variable [LawfulBEq α]

/-- A mark parts a list in which it stands. -/
theorem one_lt_length_piecesBetween (hMark : mark ≠ []) {xs : List α} (h : mark <:+: xs) :
    1 < (piecesBetween mark 0 xs).length := by
  induction xs with
  | nil => exact absurd (List.infix_nil.mp h) hMark
  | cons x rest ih =>
    rw [piecesBetween]
    split
    · have hRest := List.length_pos_iff.mpr (piecesBetween_ne_nil mark (mark.length - 1) rest)
      rw [List.length_cons]
      omega
    · rename_i hFront
      rw [List.isPrefixOf_iff_prefix] at hFront
      have hRest := ih ((List.infix_cons_iff.mp h).resolve_left hFront)
      split <;> simp_all

theorem piecesBetween_eq_singleton {xs : List α} (h : ¬mark <:+: xs) :
    piecesBetween mark 0 xs = [xs] := by
  induction xs with
  | nil => rfl
  | cons x rest ih =>
    rw [List.infix_cons_iff, not_or] at h
    rw [piecesBetween, if_neg (mt List.isPrefixOf_iff_prefix.mp h.1), ih h.2]

end Marks

end RestRoutes.Text
