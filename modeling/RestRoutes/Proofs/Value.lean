import RestRoutes.Value

/-! Maps with some of their entries left out or changed, and what is then found under a name. -/

namespace RestRoutes

namespace Value

def isOneOf (names : List String) : Value → Bool
  | .str s => names.contains s
  | _ => false

/-- A map without the entries under some names. -/
def without (names : List String) : Value → Value
  | .map es => .map (es.filter fun e => !e.1.isOneOf names)
  | v => v

/-- A map whose value under a name is changed. -/
def under (name : String) (f : Value → Value) : Value → Value
  | .map es => .map (es.map fun e => if e.1.isOneOf [name] then (e.1, f e.2) else e)
  | v => v

def withEntries (f : Value × Value → Value × Value) : Value → Value
  | .map es => .map (es.map f)
  | v => v

/-- The map with those of its fields that have a value. -/
def ofFields (fields : List (String × Option Value)) : Value :=
  .ofNamed (fields.flatMap fun f => (f.2.map (Prod.mk f.1)).toList)

theorem isOneOf_singleton {name : String} {k : Value} : k.isOneOf [name] = true ↔ k = .str name := by
  cases k <;> simp [isOneOf]

theorem lookup_cons (name : String) (e : Value × Value) (es : List (Value × Value)) :
    lookup name (e :: es) = if e.1.isOneOf [name] then some e.2 else lookup name es := by
  obtain ⟨k, v⟩ := e
  cases k <;> simp [lookup, isOneOf]

theorem lookup_filter (names : List String) (name : String) (es : List (Value × Value)) :
    lookup name (es.filter fun e => !e.1.isOneOf names) =
      if names.contains name then none else lookup name es := by
  induction es with
  | nil => simp [lookup]
  | cons e rest ih =>
    rw [List.filter_cons, lookup_cons]
    have hSame : e.1.isOneOf [name] = true → e.1.isOneOf names = names.contains name := by
      cases he : e.1 <;> simp_all [isOneOf]
    split <;> rename_i hKept
    · rw [lookup_cons, ih]
      split <;> rename_i hName
      · simp_all
      · rfl
    · rw [ih]
      split <;> rename_i hName
      · rfl
      · split <;> simp_all

/-- A filter that keeps a key does not change what is found under it. -/
theorem lookup_filter_of_key {kept : Value → Bool} {name : String} (h : kept (.str name) = true)
    (es : List (Value × Value)) : lookup name (es.filter (kept ·.1)) = lookup name es := by
  induction es with
  | nil => rfl
  | cons e rest ih =>
    rw [List.filter_cons, lookup_cons name e rest]
    by_cases hKept : kept e.1 = true
    · rw [if_pos hKept, lookup_cons, ih]
    · have hOther : e.1.isOneOf [name] = false := by
        cases he : e.1 with
        | str s =>
          have hName : s ≠ name := by
            rintro rfl
            exact hKept (he ▸ h)
          simp [isOneOf, hName]
        | _ => rfl
      rw [if_neg hKept, hOther, ih]
      rfl

/-- Under distinct keys it does not matter in which order the entries stand. -/
theorem lookup_perm {es fs : List (Value × Value)} (h : es.Perm fs)
    (hDistinct : (es.map Prod.fst).Nodup) (name : String) : lookup name es = lookup name fs := by
  induction h with
  | nil => rfl
  | cons e _ ih => rw [lookup_cons, lookup_cons, ih (List.nodup_cons.mp hDistinct).2]
  | swap e f rest =>
    have hKeys : f.1 ≠ e.1 := by
      intro hSame
      have hFirst := (List.nodup_cons.mp hDistinct).1
      exact hFirst (by rw [hSame]; exact List.mem_cons_self)
    have hOne : ¬(f.1.isOneOf [name] = true ∧ e.1.isOneOf [name] = true) := by
      rintro ⟨hf, he⟩
      rw [isOneOf_singleton] at hf he
      exact hKeys (hf.trans he.symm)
    simp only [lookup_cons]
    split <;> split <;> simp_all
  | trans hFirst _ ihFirst ihSecond =>
    rw [ihFirst hDistinct]
    exact ihSecond ((hFirst.map Prod.fst).nodup_iff.mp hDistinct)

theorem get?_without (names : List String) (name : String) (v : Value) :
    (v.without names).get? name = if names.contains name then none else v.get? name := by
  cases v <;> simp [without, get?, lookup_filter]

theorem lookup_under (name other : String) (f : Value → Value) (es : List (Value × Value)) :
    lookup other (es.map fun e => if e.1.isOneOf [name] then (e.1, f e.2) else e) =
      if other = name then (lookup other es).map f else lookup other es := by
  induction es with
  | nil => simp [lookup]
  | cons e rest ih =>
    rw [List.map_cons, lookup_cons, lookup_cons, ih]
    cases he : e.1 <;> grind [isOneOf]

theorem get?_under (name other : String) (f : Value → Value) (v : Value) :
    (v.under name f).get? other = if other = name then (v.get? other).map f else v.get? other := by
  cases v <;> simp [under, get?, lookup_under]

theorem get_under_ne {name other : String} (h : other ≠ name) (f : Value → Value) (v : Value) :
    (v.under name f).get other = v.get other := by
  rw [get, get?_under, if_neg h, get]

theorem isMap_without (names : List String) (v : Value) : (v.without names).isMap = v.isMap := by
  cases v <;> rfl

theorem get?_ofFields_cons (name other : String) (v : Option Value)
    (rest : List (String × Option Value)) :
    (ofFields ((name, v) :: rest)).get? other =
      (if name = other then v else none).or ((ofFields rest).get? other) := by
  cases v with
  | none => simp [ofFields, ofNamed, get?]
  | some v => by_cases h : name = other <;> simp [ofFields, ofNamed, get?, lookup, h]

@[simp] theorem get_ofFields_nil (name : String) : (ofFields []).get name = .null := rfl

theorem get_ofFields_cons (name other : String) (v : Option Value)
    (rest : List (String × Option Value)) :
    (ofFields ((name, v) :: rest)).get other =
      if name = other then v.getD ((ofFields rest).get other) else (ofFields rest).get other := by
  rw [get, get?_ofFields_cons]
  split <;> cases v <;> simp [get]

theorem get?_ofFields_of_notMem {name : String} {fields : List (String × Option Value)}
    (h : name ∉ fields.map Prod.fst) : (ofFields fields).get? name = none := by
  induction fields with
  | nil => rfl
  | cons f rest ih =>
    simp only [List.map_cons, List.mem_cons, not_or] at h
    rw [get?_ofFields_cons, if_neg (Ne.symm h.1), ih h.2, Option.or_none]

/-- Under the name of a field there is its value, when no two fields share a name. -/
theorem get?_ofFields {fields : List (String × Option Value)}
    (hDistinct : (fields.map Prod.fst).Nodup) {name : String} {v : Option Value}
    (h : (name, v) ∈ fields) : (ofFields fields).get? name = v := by
  induction fields with
  | nil => cases h
  | cons f rest ih =>
    obtain ⟨hFirst, hRest⟩ := List.nodup_cons.mp hDistinct
    rw [get?_ofFields_cons]
    rcases List.mem_cons.mp h with rfl | hMem
    · rw [if_pos rfl, get?_ofFields_of_notMem hFirst, Option.or_none]
    · have hName : f.1 ≠ name := by
        rintro rfl
        exact hFirst (List.mem_map.mpr ⟨_, hMem, rfl⟩)
      rw [if_neg hName, ih hRest hMem, Option.none_or]

theorem entries_withEntries (f : Value × Value → Value × Value) (v : Value) :
    (v.withEntries f).entries = v.entries.map f := by
  cases v <;> rfl

end Value

end RestRoutes
