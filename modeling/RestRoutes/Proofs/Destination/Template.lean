import RestRoutes.Proofs.Destination

/-! Templates keep names apart.  However often the place for a name occurs in a template, and whatever
the names have in common with it, the filled template tells the name; so operations have one
destination exactly when they have one name.  A template without such a place would send all of them
to the same. -/

namespace RestRoutes

namespace Destination

open Api Text

namespace Template

/-! ### Filled templates -/

theorem pieces_of_mentions {t : Template} (h : mentions placeholder t.text = true) :
    1 < t.pieces.length :=
  one_lt_length_piecesBetween (by decide) (mentions_iff.mp h)

theorem pieces_of_not_mentions {t : Template} (h : mentions placeholder t.text = false) :
    t.pieces = [t.text.toList] := by
  refine piecesBetween_eq_singleton fun hPart => ?_
  rw [mentions_iff.mpr hPart] at h
  cases h

/-- The templates that tell the name they are filled with are those with a place for it. -/
theorem fill_injective_iff {t : Template} :
    Function.Injective t.fill ↔ mentions placeholder t.text = true := by
  constructor
  · intro hInjective
    cases hMentions : mentions placeholder t.text with
    | true => rfl
    | false =>
      have hSame : t.fill "a" = t.fill "b" := by
        simp only [fill, pieces_of_not_mentions hMentions, List.intercalate_singleton]
      exact absurd (hInjective hSame) (by decide)
  · intro hMentions name name' hFilled
    rw [fill, fill, String.ofList_inj] at hFilled
    exact String.toList_inj.mp (intercalate_inj (pieces_of_mentions hMentions) hFilled)

theorem ofText_eq_ok {text : String} {t : Template} :
    ofText text = .ok t ↔ t.text = text ∧ mentions placeholder text = true := by
  unfold ofText
  split <;> rename_i h
  · simp only [Except.ok.injEq, h, and_true]
    exact ⟨fun hSame => hSame ▸ rfl, fun hSame => by cases t; cases hSame; rfl⟩
  · simp [h]

end Template

/-! ### Names of operations -/

/-- The name that an operation is routed by: its id, or where it has none, or an empty one, the name
made from its path. -/
def routedName (op : Operation) : Except Failure String :=
  match op.id? with
  | some id => if id = "" then slug op.path else .ok id
  | none => slug op.path

theorem routedName_of_id {op : Operation} {id : String} (h : op.id? = some id) (hId : id ≠ "") :
    routedName op = .ok id := by
  rw [routedName, h]
  exact if_neg hId

namespace Template

/-- An operation is routed to the template filled with its name, where it has one. -/
theorem destination_outcome (t : Template) (op : Operation) :
    (t.destination op).outcome = (routedName op).map fun name => .text (t.fill name) := by
  have hSlug : op.name? = none →
      (t.destination op).outcome = (slug op.path).map fun name => .text (t.fill name) := by
    intro hNone
    rw [destination, hNone, Logged.bind_outcome, Logged.ofExcept_outcome]
    cases slug op.path <;> rfl
  cases hId : op.id? with
  | none =>
    rw [routedName, hId]
    exact hSlug (Operation.name?_eq_none_iff.mpr (.inl hId))
  | some id =>
    by_cases hEmpty : id = ""
    · rw [routedName, hId]
      dsimp only
      rw [if_pos hEmpty]
      exact hSlug (Operation.name?_eq_none_iff.mpr (.inr (hEmpty ▸ hId)))
    · have hName : op.name? = some id := by simp [Operation.name?, hId, hEmpty]
      rw [routedName_of_id hId hEmpty, destination, hName]
      rfl

/-- Two operations that are routed at all have one destination exactly when they have one name,
whichever template with a place for names they are routed by.  Operations of different ids never
have one destination. -/
theorem destination_eq_iff {text : String} {t : Template} (hText : ofText text = .ok t)
    {a b : Operation} {x y : Argument} (ha : (t.destination a).outcome = .ok x)
    (hb : (t.destination b).outcome = .ok y) :
    (∃ name name', routedName a = .ok name ∧ routedName b = .ok name' ∧ (x = y ↔ name = name')) ∧
      ∀ id id', a.id? = some id → b.id? = some id' → id ≠ "" → id' ≠ "" → id ≠ id' → x ≠ y := by
  obtain ⟨rfl, hMentions⟩ := ofText_eq_ok.mp hText
  rw [destination_outcome] at ha hb
  obtain ⟨name, hName, rfl⟩ := except_map_eq_ok.mp ha
  obtain ⟨name', hName', rfl⟩ := except_map_eq_ok.mp hb
  have hSame : Argument.text (t.fill name) = .text (t.fill name') ↔ name = name' := by
    rw [Argument.text.injEq]
    exact (fill_injective_iff.mpr hMentions).eq_iff
  refine ⟨⟨name, name', hName, hName', hSame⟩, fun id id' hId hId' hFull hFull' hOther => ?_⟩
  obtain rfl := Except.ok.inj ((routedName_of_id hId hFull).symm.trans hName)
  obtain rfl := Except.ok.inj ((routedName_of_id hId' hFull').symm.trans hName')
  exact fun hEqual => hOther (hSame.mp hEqual)

/-- An operation whose id is the place for names, and one without an id, routed by a template with two
places. -/
theorem destination_eq_iff_mimic :
    let t : Template := ⟨"\x7boperation_id\x7d-\x7boperation_id\x7d"⟩
    let a : Operation := .swagger ⟨"/", some "\x7boperation_id\x7d", none, [], [], []⟩
    let b : Operation := .swagger ⟨"/operation_id", none, none, [], [], []⟩
    ofText t.text = .ok t ∧
      (t.destination a).outcome = .ok (.text "\x7boperation_id\x7d-\x7boperation_id\x7d") ∧
      (t.destination b).outcome = .ok (.text "operation-id-operation-id") ∧
      ∃ name name', routedName a = .ok name ∧ routedName b = .ok name' ∧ name ≠ name' := by
  intro t a b
  have hText : ofText t.text = .ok t := ofText_eq_ok.mpr ⟨rfl, by decide +kernel⟩
  have ha : (t.destination a).outcome =
      .ok (.text "\x7boperation_id\x7d-\x7boperation_id\x7d") := by
    have hName : routedName a = .ok "\x7boperation_id\x7d" := routedName_of_id rfl (by decide)
    have hFilled : t.fill "\x7boperation_id\x7d" = "\x7boperation_id\x7d-\x7boperation_id\x7d" := by
      decide +kernel
    rw [destination_outcome, hName, ← hFilled]
    rfl
  have hb : (t.destination b).outcome = .ok (.text "operation-id-operation-id") := by
    have hRuns : runs b.path.toList = ["operation".toList, "id".toList] := by decide +kernel
    have hName : routedName b = .ok "operation-id" := by
      show slug b.path = .ok "operation-id"
      rw [slug_eq, hRuns]
      rfl
    have hFilled : t.fill "operation-id" = "operation-id-operation-id" := by decide +kernel
    rw [destination_outcome, hName, ← hFilled]
    rfl
  obtain ⟨⟨name, name', hName, hName', hSame⟩, -⟩ := destination_eq_iff hText ha hb
  refine ⟨hText, ha, hb, name, name', hName, hName', fun hEqual => ?_⟩
  have hTexts := hSame.mpr hEqual
  rw [Argument.text.injEq] at hTexts
  exact absurd hTexts (by decide)

end Template

end Destination

end RestRoutes
