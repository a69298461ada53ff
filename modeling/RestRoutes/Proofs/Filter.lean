import RestRoutes.Filter
import RestRoutes.Proofs.Run

/-! A filter never refuses: it accepts an id, rejects it, or stops at a pattern that cannot be
tried. -/

namespace RestRoutes.Filter

variable (names : Pattern.CharNames)

theorem matchesRegex_unrefused (pattern id : String) :
    Unrefused (matchesRegex names pattern id) := by
  unfold matchesRegex
  split
  · exact .ok _
  · exact .ok _
  · exact .defect _
  · exact .defect _
  · exact .defect _

theorem matchesPattern_unrefused (pattern id : String) :
    Unrefused (matchesPattern names pattern id) := by
  unfold matchesPattern
  split
  · exact .ok _
  · exact matchesRegex_unrefused names pattern id

theorem matchesAny_unrefused (id : String) (patterns : List String) :
    Unrefused (matchesAny names id patterns) := by
  induction patterns with
  | nil => exact .ok false
  | cons pattern rest ih =>
    refine (matchesPattern_unrefused names pattern id).bind fun found => ?_
    cases found with
    | false => exact ih
    | true => exact .ok true

theorem accept_unrefused (filter : Filter) (id : Option String) :
    Unrefused (filter.accept id) := by
  unfold accept
  split
  · exact .ok true
  · split
    · exact .ok false
    · exact matchesAny_unrefused _ _ _

end RestRoutes.Filter
