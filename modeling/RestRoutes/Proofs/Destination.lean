import RestRoutes.Proofs.Destination.Slug
import RestRoutes.Proofs.Value.Text

/-! Templates look at the path and the id of an operation only, and where they cannot route it they
refuse it. -/

namespace RestRoutes

namespace Api.Operation

theorem name?_eq_none_iff {op : Operation} :
    op.name? = none ↔ op.id? = none ∨ op.id? = some "" := by
  unfold name?
  cases op.id? with
  | none => simp
  | some id => simp

/-- Nothing in the operation can name it: it has no id, and its path no letter or digit. -/
def Nameless (op : Operation) : Prop :=
  (op.id? = none ∨ op.id? = some "") ∧ ∀ c ∈ op.path.toList, c.isAlphanum = false

end Api.Operation

namespace Destination

open Api

namespace Template

theorem destination_congr_name (t : Template) {a b : Operation} (hPath : a.path = b.path)
    (hName : a.name? = b.name?) : t.destination a = t.destination b := by
  rw [destination, destination, hName, hPath]

theorem destination_congr (t : Template) {a b : Operation} (hPath : a.path = b.path)
    (hId : a.id? = b.id?) : t.destination a = t.destination b :=
  t.destination_congr_name hPath (by rw [Operation.name?, Operation.name?, hId])

theorem slug_bounded (p : Prop) (path : String) : Bounded p (slug path) := by
  unfold slug
  split
  · exact .refusal _
  · exact .ok _

theorem destination_bounded (p : Prop) (t : Template) (op : Operation) :
    Bounded p (t.destination op).outcome := by
  unfold destination
  split
  · exact .ok _
  · rw [Logged.bind_outcome]
    refine (slug_bounded p op.path).bind fun name => ?_
    rw [Logged.bind_outcome]
    exact .ok _

/-- The operations that have no destination are those that nothing can name. -/
theorem destination_eq_error_iff (t : Template) {op : Operation} {e : Failure} :
    (t.destination op).outcome = .error e ↔
      op.Nameless ∧ e = .refusal (.destination (.path op.path)) := by
  rw [Operation.Nameless, ← Operation.name?_eq_none_iff, and_assoc, ← slug_eq_error_iff, destination]
  cases hName : op.name? with
  | some name => simp
  | none =>
    rw [Logged.bind_outcome]
    cases hSlug : slug op.path with
    | error failure => simp [bind, Except.bind]
    | ok name => simp [bind, Except.bind, Logged.bind, Logged.record]

end Template

end Destination

end RestRoutes
