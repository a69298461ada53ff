import RestRoutes.Json.Reader
import RestRoutes.Proofs.Assoc
import RestRoutes.Proofs.Run
import RestRoutes.Proofs.Value.Text

/-! The maps that are read from JSON have distinct keys, whatever names are repeated in the text. -/

namespace RestRoutes

/-- A map, and all maps in it as far as these are in maps, have distinct keys. -/
inductive Value.Distinct : Value → Prop
  | map {es : List (Value × Value)} (keys : (es.map Prod.fst).Nodup)
    (values : ∀ e ∈ es, Distinct e.2) : Distinct (.map es)
  | other {v : Value} (h : v.isMap = false) : Distinct v

theorem Value.Distinct.keys {es : List (Value × Value)} (h : Distinct (.map es)) :
    (es.map Prod.fst).Nodup := by
  cases h with
  | map keys => exact keys
  | other h => cases h

theorem Value.Distinct.lookup {es : List (Value × Value)} (h : Distinct (.map es)) {name : String}
    {v : Value} (hFound : Value.lookup name es = some v) : v.Distinct := by
  cases h with
  | map _ values => exact values _ (mem_of_lookup hFound)
  | other h => cases h

namespace Json

/-- Members have names for keys, and values whose maps have distinct keys. -/
def AreMembers (es : List (Value × Value)) : Prop := ∀ e ∈ es, (∃ s, e.1 = .str s) ∧ e.2.Distinct

theorem distinct_ofEntries {es : List (Value × Value)} (h : AreMembers es) :
    (Value.ofEntries es).Distinct := by
  refine .map (Assoc.nodup_ofEntries fun e he => ?_) (Assoc.forall_mem_ofEntries fun e he => (h e he).2)
  obtain ⟨s, hName⟩ := (h e he).1
  rw [hName]
  exact beq_self_eq_true s

theorem number_isMap {cs left : List Char} {v : Value} (h : number cs = .ok (v, left)) :
    v.isMap = false := by
  have hUnsigned {negative : Bool} {all cs : List Char}
      (h : unsigned negative all cs = .ok (v, left)) : v.isMap = false := by
    unfold unsigned at h
    extract_lets whole at h
    split at h
    · cases h
    · -- The digits of the fraction, an exponent or none, and whether the number is an integer.
      split at h
      split at h
      · cases h
        rfl
      · split at h
        · split at h
          · cases h
          · cases h
            rfl
        · cases h
          rfl
  unfold number at h
  split at h
  · exact hUnsigned h
  · exact hUnsigned h

/-- What one reader makes of the readings of others with less fuel. -/
theorem value_distinct {fuel : Nat}
    (hMembers : ∀ cs es left, members fuel cs = .ok (es, left) → AreMembers es) {cs left : List Char}
    {v : Value} (h : value (fuel + 1) cs = .ok (v, left)) : v.Distinct := by
  unfold value at h
  split at h
  case h_1 => cases h
  case h_3 =>
    split at h
    · cases h
      exact .map List.nodup_nil nofun
    · obtain ⟨⟨es, rest⟩, hRead, h⟩ := except_map_eq_ok.mp h
      cases h
      exact distinct_ofEntries (hMembers _ es _ hRead)
  case h_4 =>
    split at h
    · cases h
      exact .other rfl
    · obtain ⟨⟨xs, rest⟩, -, h⟩ := except_map_eq_ok.mp h
      cases h
      exact .other rfl
  case h_2 =>
    obtain ⟨⟨s, rest⟩, -, h⟩ := except_map_eq_ok.mp h
    cases h
    exact .other rfl
  case h_11 => exact .other (number_isMap h)
  all_goals
    cases h
    exact .other rfl

theorem areMembers_members {fuel : Nat}
    (hValue : ∀ cs v left, value fuel cs = .ok (v, left) → v.Distinct)
    (hMembers : ∀ cs es left, members fuel cs = .ok (es, left) → AreMembers es)
    {cs left : List Char} {es : List (Value × Value)}
    (h : members (fuel + 1) cs = .ok (es, left)) : AreMembers es := by
  unfold members at h
  split at h
  · obtain ⟨⟨name, rest⟩, -, h⟩ := except_bind_eq_ok.mp h
    simp only at h
    split at h
    · obtain ⟨⟨v, rest⟩, hRead, h⟩ := except_bind_eq_ok.mp h
      have hFirst : AreMembers [(.str (String.ofList name), v)] :=
        List.forall_mem_singleton.mpr ⟨⟨_, rfl⟩, hValue _ v _ hRead⟩
      simp only at h
      split at h
      · cases h
        exact hFirst
      · obtain ⟨⟨more, rest⟩, hMore, h⟩ := except_bind_eq_ok.mp h
        cases h
        exact List.forall_mem_cons.mpr
          ⟨hFirst _ List.mem_cons_self, hMembers _ more _ hMore⟩
      · cases h
    · cases h
  · cases h

theorem distinct_of_value (fuel : Nat) :
    (∀ cs v left, value fuel cs = .ok (v, left) → v.Distinct) ∧
      ∀ cs es left, members fuel cs = .ok (es, left) → AreMembers es := by
  induction fuel with
  | zero => exact ⟨nofun, nofun⟩
  | succ fuel ih =>
    exact ⟨fun _ _ _ h => value_distinct ih.2 h, fun _ _ _ h => areMembers_members ih.1 ih.2 h⟩

theorem distinct_of_read {text : String} {v : Value} (h : read text = .ok v) : v.Distinct := by
  unfold read at h
  split at h
  · rename_i hDocument
    cases h
    unfold document at hDocument
    split at hDocument
    · cases hDocument
    · obtain ⟨⟨w, rest⟩, hRead, hEnd⟩ := except_bind_eq_ok.mp hDocument
      simp only at hEnd
      split at hEnd
      · cases hEnd
        exact (distinct_of_value _).1 _ _ _ hRead
      · cases hEnd
  · cases h
  · cases h

end Json

end RestRoutes
