import Mathlib.Data.List.Infix
import RestRoutes.Pattern.Glob

/-! Wildcards of plain characters.  They match the text they write, and with a star at the end every
text that starts with it, line feeds or not. -/

namespace RestRoutes.Pattern.Glob

/-- A character that has a meaning of its own in wildcards. -/
def isSpecial (c : Char) : Bool := c == '*' || c == '?' || c == '['

def char (c : Char) : GlobItem := .one (.single .exact c)

theorem items_plain {cs : List Char} (h : ∀ c ∈ cs, isSpecial c = false) (fuel : Nat)
    (rest : List Char) : items (cs.length + fuel) (cs ++ rest) = cs.map char ++ items fuel rest := by
  induction cs with
  | nil => simp
  | cons c cs ih =>
    obtain ⟨hc, hcs⟩ := List.forall_mem_cons.mp h
    simp only [isSpecial, Bool.or_eq_false_iff, beq_eq_false_iff_ne] at hc
    have hFuel : (c :: cs).length + fuel = cs.length + fuel + 1 := by simp; omega
    rw [hFuel, List.cons_append, items]
    · rw [ih hcs]
      rfl
    all_goals simp [hc]

theorem read_plain {cs : List Char} (h : ∀ c ∈ cs, isSpecial c = false) :
    read (String.ofList cs) = cs.map char := by
  have hItems := items_plain h 0 []
  simpa [read, items] using hItems

theorem read_star {cs : List Char} (h : ∀ c ∈ cs, isSpecial c = false) :
    read (String.ofList (cs ++ ['*'])) = cs.map char ++ [.star] := by
  have hItems := items_plain h 1 ['*']
  have hLength : (String.ofList (cs ++ ['*'])).length = cs.length + 1 := by
    rw [String.length_ofList, List.length_append, List.length_singleton]
  rw [read, hLength, String.toList_ofList, hItems]
  rfl

/-- Plain characters leave the one rest that follows them, or none. -/
theorem foldl_char (cs text : List Char) :
    (cs.map char).foldl advance [text] = if cs <+: text then [text.drop cs.length] else [] := by
  -- Where no rest is left, none comes back.
  have hNone : (cs.map char).foldl advance [] = [] := by
    induction cs with
    | nil => rfl
    | cons c cs ih => exact ih
  induction cs generalizing text with
  | nil => simp
  | cons c cs ih =>
    rw [List.map_cons, List.foldl_cons] at hNone ⊢
    cases text with
    | nil => simpa [advance, char] using hNone
    | cons d text =>
      by_cases hd : d = c
      · subst hd
        have hRest := ih text hNone
        simpa [advance, char, (CharSet.has_single d d).mpr rfl, List.cons_prefix_cons] using hRest
      · have hHas : (CharSet.single .exact c).has d = false := by
          rw [Bool.eq_false_iff, ne_eq, CharSet.has_single]
          exact hd
        have hNot : ¬ c :: cs <+: d :: text := fun h => hd (List.cons_prefix_cons.mp h).1.symm
        rw [if_neg hNot]
        simpa [advance, char, hHas] using hNone

theorem nil_mem_tails (cs : List Char) : [] ∈ tails cs := by
  induction cs with
  | nil => exact List.mem_singleton_self []
  | cons c cs ih => exact List.mem_cons_of_mem _ ih

/-- A text of plain characters matches itself alone. -/
theorem matchesAll_plain {cs : List Char} (h : ∀ c ∈ cs, isSpecial c = false) (text : String) :
    matchesAll (read (String.ofList cs)) text = true ↔ text.toList = cs := by
  rw [matchesAll, read_plain h, foldl_char, List.contains_iff_mem]
  constructor
  · intro hMem
    split at hMem
    · rename_i hFront
      obtain ⟨rest, hText⟩ := hFront
      have hRest : rest = [] := by simpa [← hText] using hMem
      rw [← hText, hRest, List.append_nil]
    · cases hMem
  · intro hText
    simp [hText]

/-- With a star at the end it matches what it is the front of. -/
theorem matchesAll_star {cs : List Char} (h : ∀ c ∈ cs, isSpecial c = false) (text : String) :
    matchesAll (read (String.ofList (cs ++ ['*']))) text = true ↔ cs <+: text.toList := by
  rw [matchesAll, read_star h, List.foldl_append, foldl_char, List.contains_iff_mem]
  split
  · rename_i hFront
    exact iff_of_true (by simpa [advance] using nil_mem_tails _) hFront
  · rename_i hFront
    exact iff_of_false (by simp [advance]) hFront

end RestRoutes.Pattern.Glob
