import Mathlib.Data.List.Forall2
import RestRoutes.Assoc

/-! Entries under distinct names are an association list as they stand, and entries whose values are
related make up association lists whose values are. -/

namespace RestRoutes.Assoc

variable {α : Type}

/-! ### Entries that stay as they are -/

section Distinct

variable {κ : Type} {same : κ → κ → Bool}

theorem put_of_new {key : κ} {entries : List (κ × α)} (h : ∀ e ∈ entries, same e.1 key = false)
    (value : α) : put same key value entries = entries ++ [(key, value)] := by
  induction entries with
  | nil => rfl
  | cons e rest ih =>
    obtain ⟨k, v⟩ := e
    obtain ⟨hFirst, hRest⟩ := List.forall_mem_cons.mp h
    have hKey : same k key = false := hFirst
    simp [put, hKey, ih hRest]

theorem foldl_put_of_distinct (front : List (κ × α)) {entries : List (κ × α)}
    (h : (front ++ entries).Pairwise fun e f => same e.1 f.1 = false) :
    entries.foldl (fun acc e => put same e.1 e.2 acc) front = front ++ entries := by
  induction entries generalizing front with
  | nil => simp
  | cons e rest ih =>
    have hNew : ∀ f ∈ front, same f.1 e.1 = false := by
      intro f hf
      exact (List.pairwise_append.mp h).2.2 f hf e List.mem_cons_self
    rw [List.foldl_cons, put_of_new hNew, ih _ (by simpa using h)]
    simp

theorem ofEntries_of_distinct {entries : List (κ × α)}
    (h : entries.Pairwise fun e f => same e.1 f.1 = false) : ofEntries same entries = entries :=
  foldl_put_of_distinct [] h

end Distinct

theorem ofNamed_of_nodup {entries : List (String × α)} (h : (entries.map Prod.fst).Nodup) :
    ofNamed entries = entries := by
  refine ofEntries_of_distinct ((List.pairwise_map.mp h).imp fun hNames => ?_)
  exact beq_eq_false_iff_ne.mpr hNames

/-! ### Distinct keys -/

section Keys

variable {κ : Type} {same : κ → κ → Bool}

theorem mem_keys_put {key x : κ} {value : α} {entries : List (κ × α)}
    (h : x ∈ (put same key value entries).map Prod.fst) : x ∈ entries.map Prod.fst ∨ x = key := by
  induction entries with
  | nil => exact .inr (List.mem_singleton.mp h)
  | cons e rest ih =>
    rw [put] at h
    split at h
    · exact .inl h
    · rcases List.mem_cons.mp h with rfl | hRest
      · exact .inl List.mem_cons_self
      · exact (ih hRest).imp_left (List.mem_cons_of_mem _)

theorem nodup_put {key : κ} (hSame : same key key = true) (value : α) {entries : List (κ × α)}
    (h : (entries.map Prod.fst).Nodup) : ((put same key value entries).map Prod.fst).Nodup := by
  induction entries with
  | nil => exact List.nodup_cons.mpr ⟨nofun, List.nodup_nil⟩
  | cons e rest ih =>
    rw [put]
    split
    · exact h
    · rename_i hOther
      obtain ⟨hFirst, hRest⟩ := List.nodup_cons.mp h
      refine List.nodup_cons.mpr ⟨fun hMem => ?_, ih hRest⟩
      rcases mem_keys_put hMem with hOld | hNew
      · exact hFirst hOld
      · rw [show e.1 = key from hNew] at hOther
        exact hOther hSame

theorem nodup_ofEntries {entries : List (κ × α)} (h : ∀ e ∈ entries, same e.1 e.1 = true) :
    ((ofEntries same entries).map Prod.fst).Nodup :=
  List.foldlRecOn (motive := fun acc : List (κ × α) => (acc.map Prod.fst).Nodup) entries _
    List.nodup_nil fun _ hAcc e he => nodup_put (h e he) e.2 hAcc

theorem mem_put {key : κ} {value : α} {entries : List (κ × α)} {e : κ × α}
    (h : e ∈ put same key value entries) : e ∈ entries ∨ e.2 = value := by
  induction entries with
  | nil => exact .inr (congrArg Prod.snd (List.mem_singleton.mp h))
  | cons f rest ih =>
    rw [put] at h
    split at h
    · rcases List.mem_cons.mp h with rfl | hRest
      · exact .inr rfl
      · exact .inl (List.mem_cons_of_mem _ hRest)
    · rcases List.mem_cons.mp h with rfl | hRest
      · exact .inl List.mem_cons_self
      · exact (ih hRest).imp_left (List.mem_cons_of_mem _)

theorem forall_mem_ofEntries {P : α → Prop} {entries : List (κ × α)} (h : ∀ e ∈ entries, P e.2) :
    ∀ e ∈ ofEntries same entries, P e.2 := by
  refine List.foldlRecOn (motive := fun acc : List (κ × α) => ∀ e ∈ acc, P e.2) entries _ nofun
    fun acc hAcc f hf e he => ?_
  rcases mem_put he with hOld | hNew
  · exact hAcc e hOld
  · exact hNew ▸ h f hf

end Keys

/-! ### Related entries -/

variable {β : Type} {R : α → β → Prop}

/-- Entries under the same names, whose values are related. -/
def Matches (R : α → β → Prop) (es : List (String × α)) (fs : List (String × β)) : Prop :=
  List.Forall₂ (fun e f => e.1 = f.1 ∧ R e.2 f.2) es fs

theorem Matches.keys {es : List (String × α)} {fs : List (String × β)} (h : Matches R es fs) :
    es.map Prod.fst = fs.map Prod.fst := by
  induction h with
  | nil => rfl
  | cons hHead _ ih => rw [List.map_cons, List.map_cons, hHead.1, ih]

theorem Matches.refl {R : α → α → Prop} (h : ∀ a, R a a) (es : List (String × α)) :
    Matches R es es :=
  List.forall₂_same.mpr fun e _ => ⟨rfl, h e.2⟩

theorem Matches.eq {R : α → α → Prop} (hR : ∀ a b, R a b → a = b) {es fs : List (String × α)}
    (h : Matches R es fs) : es = fs := by
  induction h with
  | nil => rfl
  | cons hHead _ ih => rw [Prod.ext hHead.1 (hR _ _ hHead.2), ih]

theorem Matches.put {es : List (String × α)} {fs : List (String × β)} (h : Matches R es fs)
    (name : String) {a : α} {b : β} (hab : R a b) :
    Matches R (put (· == ·) name a es) (put (· == ·) name b fs) := by
  induction h with
  | nil => exact .cons ⟨rfl, hab⟩ .nil
  | @cons e f es fs hHead hTail ih =>
    obtain ⟨k, v⟩ := e
    obtain ⟨l, w⟩ := f
    obtain ⟨hKey, hValue⟩ := hHead
    cases hKey
    unfold Assoc.put
    split
    · exact .cons ⟨rfl, hab⟩ hTail
    · exact .cons ⟨rfl, hValue⟩ ih

theorem Matches.foldl_put {es : List (String × α)} {fs : List (String × β)} (h : Matches R es fs)
    {accE : List (String × α)} {accF : List (String × β)} (hAcc : Matches R accE accF) :
    Matches R (es.foldl (fun acc e => Assoc.put (· == ·) e.1 e.2 acc) accE)
      (fs.foldl (fun acc f => Assoc.put (· == ·) f.1 f.2 acc) accF) := by
  induction h generalizing accE accF with
  | nil => exact hAcc
  | @cons e f _ _ hHead _ ih =>
    obtain ⟨k, v⟩ := e
    obtain ⟨l, w⟩ := f
    obtain ⟨hKey, hValue⟩ := hHead
    cases hKey
    exact ih (hAcc.put k hValue)

theorem Matches.ofNamed {es : List (String × α)} {fs : List (String × β)} (h : Matches R es fs) :
    Matches R (ofNamed es) (ofNamed fs) :=
  h.foldl_put .nil

end RestRoutes.Assoc
