import RestRoutes.Text.Ranges

/-! White space: what counts as blank, and trimming it from the ends of a text. -/

namespace RestRoutes.Text

/-- White space of any script (Unicode 14.0), the four information separators included. -/
def isSpace (c : Char) : Bool :=
  inRanges c.toNat
    [(0x09, 0x0D), (0x1C, 0x20), (0x85, 0x85), (0xA0, 0xA0), (0x1680, 0x1680), (0x2000, 0x200A),
      (0x2028, 0x2029), (0x202F, 0x202F), (0x205F, 0x205F), (0x3000, 0x3000)]

/-- White space around a number. -/
def isPadding (c : Char) : Bool := isSpace c && !(0x1C ≤ c.toNat && c.toNat ≤ 0x1F)

/-- The list without its longest tail of elements that satisfy `p`. -/
def dropEndWhile {α : Type} (p : α → Bool) (xs : List α) : List α :=
  (xs.reverse.dropWhile p).reverse

/-- The list without the elements satisfying `p` at either end. -/
def trimBoth {α : Type} (p : α → Bool) (xs : List α) : List α :=
  dropEndWhile p (xs.dropWhile p)

section Padding

variable {α : Type} {p : α → Bool} {before middle after : List α}

theorem dropWhile_padded (hBefore : ∀ y ∈ before, p y = true)
    (hMiddle : ∀ y ∈ middle.head?, p y = false) : (before ++ middle).dropWhile p = middle := by
  rw [List.dropWhile_append_of_pos hBefore]
  cases middle with
  | nil => rfl
  | cons y rest => simp [hMiddle y rfl]

/-- Trimming takes away what was put around a list that has nothing to trim at its own ends. -/
theorem trimBoth_between (hFull : middle ≠ [])
    (hBefore : ∀ y ∈ before, p y = true) (hFirst : ∀ y ∈ middle.head?, p y = false)
    (hLast : ∀ y ∈ middle.getLast?, p y = false) (hAfter : ∀ y ∈ after, p y = true) :
    trimBoth p (before ++ middle ++ after) = middle := by
  have hFront : (before ++ middle ++ after).dropWhile p = middle ++ after := by
    rw [List.append_assoc, dropWhile_padded hBefore]
    obtain ⟨y, rest, rfl⟩ := List.exists_cons_of_ne_nil hFull
    exact hFirst
  rw [trimBoth, hFront, dropEndWhile, List.reverse_append, dropWhile_padded]
  · exact List.reverse_reverse middle
  · exact fun y hy => hAfter y (List.mem_reverse.mp hy)
  · rw [List.head?_reverse]
    exact hLast

theorem trimBoth_padded (hFull : middle ≠ [])
    (hBefore : ∀ y ∈ before, p y = true) (hMiddle : ∀ y ∈ middle, p y = false)
    (hAfter : ∀ y ∈ after, p y = true) : trimBoth p (before ++ middle ++ after) = middle :=
  trimBoth_between hFull hBefore (fun y hy => hMiddle y (List.mem_of_mem_head? hy))
    (fun y hy => hMiddle y (List.mem_of_getLast? hy)) hAfter

theorem trimBoth_eq_nil {xs : List α} (h : ∀ x ∈ xs, p x = true) : trimBoth p xs = [] := by
  have hDrop : (xs ++ []).dropWhile p = [] := dropWhile_padded h nofun
  rw [List.append_nil] at hDrop
  rw [trimBoth, hDrop]
  rfl

theorem mem_of_mem_trimBoth {x : α} {xs : List α} (h : x ∈ trimBoth p xs) : x ∈ xs := by
  have hEnd := (List.dropWhile_sublist p).subset (List.mem_reverse.mp h)
  exact (List.dropWhile_sublist p).subset (List.mem_reverse.mp hEnd)

end Padding

def strip (s : String) : String := String.ofList (trimBoth isSpace s.toList)

/-- A text of white space only, the empty one included. -/
def isBlank (s : String) : Bool := s.toList.all isSpace

end RestRoutes.Text
