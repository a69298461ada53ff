import RestRoutes.Document
import RestRoutes.Proofs.Run
import RestRoutes.Value.Text

/-! Values with a text.  A value has a text when all of its parts have one, and only integers of too many
digits have none.  Whatever is read from a document is read from the texts of its parts, so that
nothing else can stop the reading. -/

namespace RestRoutes

namespace Value

/-- The value can be written as a literal. -/
def Textual (v : Value) : Prop := v.literal?.isSome = true

instance : DecidablePred Textual := fun v => inferInstanceAs (Decidable (v.literal?.isSome = true))

/-- The keys and values of entries can be written as literals. -/
def TextualEntries (es : List (Value × Value)) : Prop := ∀ e ∈ es, e.1.Textual ∧ e.2.Textual

theorem textual_null : Textual .null := rfl

theorem literals?_isSome (xs : List Value) :
    (literals? xs).isSome = true ↔ ∀ x ∈ xs, x.Textual := by
  induction xs with
  | nil => simp [literals?]
  | cons x rest ih =>
    rw [List.forall_mem_cons, ← ih, Textual, literals?]
    cases literal? x <;> cases literals? rest <;> simp

theorem entryLiterals?_isSome (es : List (Value × Value)) :
    (entryLiterals? es).isSome = true ↔ TextualEntries es := by
  induction es with
  | nil => simp [entryLiterals?, TextualEntries]
  | cons e rest ih =>
    obtain ⟨k, v⟩ := e
    rw [TextualEntries, List.forall_mem_cons, ← TextualEntries, ← ih, Textual, Textual,
      entryLiterals?]
    cases literal? k <;> cases literal? v <;> cases entryLiterals? rest <;> simp

theorem textual_list {xs : List Value} : (list xs).Textual ↔ ∀ x ∈ xs, x.Textual := by
  rw [← literals?_isSome, Textual, literal?, Option.isSome_map]

theorem textual_map {es : List (Value × Value)} : (map es).Textual ↔ TextualEntries es := by
  rw [← entryLiterals?_isSome, Textual, literal?, Option.isSome_map]

/-! ### Parts -/

theorem mem_of_lookup {name : String} {v : Value} {es : List (Value × Value)}
    (h : lookup name es = some v) : (.str name, v) ∈ es := by
  induction es with
  | nil => cases h
  | cons e rest ih =>
    obtain ⟨k, w⟩ := e
    cases k with
    | str s =>
      by_cases hName : s = name
      · subst hName
        simp only [lookup, if_true, Option.some.injEq] at h
        subst h
        exact .head _
      · simp only [lookup, hName, if_false] at h
        exact .tail _ (ih h)
    | _ => exact .tail _ (ih h)

namespace Textual

variable {v : Value}

theorem items (h : v.Textual) : ∀ x ∈ v.items, x.Textual := by
  cases v with
  | list xs => exact textual_list.mp h
  | _ => exact fun _ hx => nomatch hx

theorem entries (h : v.Textual) : TextualEntries v.entries := by
  cases v with
  | map es => exact textual_map.mp h
  | _ => exact fun _ hx => nomatch hx

theorem get? (h : v.Textual) {name : String} {w : Value} (hw : v.get? name = some w) :
    w.Textual := by
  cases v with
  | map es => exact (textual_map.mp h _ (mem_of_lookup hw)).2
  | _ => cases hw

theorem get (h : v.Textual) (name : String) : (v.get name).Textual := by
  rw [Value.get]
  cases hw : v.get? name with
  | none => exact textual_null
  | some w => exact h.get? hw

end Textual

end Value

/-! ### Integers of too many digits -/

theorem integerText?_eq_none_iff {n : Int} :
    integerText? n = none ↔ Number.pow10 integerDigitLimit ≤ n.natAbs := by
  unfold integerText?
  split
  · exact iff_of_false nofun (by omega)
  · exact iff_of_true rfl (by omega)

theorem integerText?_eq_none {n : Nat} (h : Number.pow10 integerDigitLimit ≤ n) :
    integerText? n = none := integerText?_eq_none_iff.mpr h

theorem Value.textOrFail_of_long {n : Nat} (h : Number.pow10 integerDigitLimit ≤ n) :
    Value.textOrFail (.int n) = .error (.defect .longIntegerText) := by
  simp only [Value.textOrFail, Value.text?, Value.literal?, integerText?_eq_none h]

/-! ### Readings -/

/-- Nothing but an integer of too many digits stops a reading, and nothing does if `p` holds; what is
read is then as `Q` says. -/
structure Reads {α : Type} (p : Prop) (x : Except Failure α) (Q : α → Prop) : Prop where
  failure : ∀ e, x = .error e → e = .defect .longIntegerText ∧ ¬p
  result : ∀ a, x = .ok a → p → Q a

/-- A reading of which nothing is said but what stops it. -/
abbrev Readable {α : Type} (p : Prop) (x : Except Failure α) : Prop := Reads p x fun _ => True

namespace Reads

variable {α β : Type} {p q : Prop} {x : Except Failure α} {Q : α → Prop} {R : β → Prop}

theorem ok {a : α} (h : p → Q a) : Reads p (.ok a) Q :=
  ⟨nofun, fun _ ha => Except.ok.inj ha ▸ h⟩

theorem error {e : Failure} (h : e = .defect .longIntegerText ∧ ¬p) :
    Reads p (.error e : Except Failure α) Q :=
  ⟨fun _ he => Except.error.inj he ▸ h, nofun⟩

theorem mono (h : Reads p x Q) (hpq : q → p) : Reads q x Q :=
  ⟨fun e he => ⟨(h.failure e he).1, fun hq => (h.failure e he).2 (hpq hq)⟩,
    fun a ha hq => h.result a ha (hpq hq)⟩

theorem readable (h : Reads p x Q) : Readable p x := ⟨h.failure, fun _ _ _ => trivial⟩

theorem bind {f : α → Except Failure β} (hx : Reads p x Q)
    (hf : ∀ a, (p → Q a) → Reads p (f a) R) : Reads p (x >>= f) R := by
  cases x with
  | ok a => exact hf a (hx.result a rfl)
  | error e => exact .error (hx.failure e rfl)

theorem map {f : α → β} (hx : Reads p x Q) (hf : ∀ a, Q a → R (f a)) : Reads p (x.map f) R := by
  cases x with
  | ok a => exact .ok fun hp => hf a (hx.result a rfl hp)
  | error e => exact .error (hx.failure e rfl)

theorem mapM {f : α → Except Failure β} {xs : List α} (hf : ∀ a ∈ xs, Readable p (f a)) :
    Readable p (xs.mapM f) := by
  induction xs with
  | nil => exact .ok fun _ => trivial
  | cons x rest ih =>
    rw [List.mapM_cons]
    refine (hf x List.mem_cons_self).bind fun b _ => ?_
    refine (ih fun a ha => hf a (List.mem_cons_of_mem x ha)).bind fun bs _ => ?_
    exact .ok fun _ => trivial

theorem unrefused (h : Reads p x Q) : Unrefused x := by
  intro r hr
  cases (h.failure _ hr).1

end Reads

/-- No defect but an integer of too many digits stops a computation, and none does if `p` holds. -/
def Bounded {α : Type} (p : Prop) (x : Except Failure α) : Prop :=
  ∀ d, x = .error (.defect d) → d = .longIntegerText ∧ ¬p

namespace Bounded

variable {α β : Type} {p : Prop} {x : Except Failure α}

theorem ok (a : α) : Bounded p (.ok a) := nofun

theorem refusal (r : Refusal) : Bounded p (.error (.refusal r) : Except Failure α) := nofun

theorem bind {f : α → Except Failure β} (hx : Bounded p x) (hf : ∀ a, Bounded p (f a)) :
    Bounded p (x >>= f) := by
  cases x with
  | ok a => exact hf a
  | error e =>
    intro d hd
    exact hx d (congrArg Except.error (Except.error.inj hd))

end Bounded

theorem Reads.bounded {α : Type} {p : Prop} {x : Except Failure α} {Q : α → Prop}
    (h : Reads p x Q) : Bounded p x := by
  intro d hd
  obtain ⟨hLong, hNot⟩ := h.failure _ hd
  exact ⟨Failure.defect.inj hLong, hNot⟩

namespace Value

theorem Textual.text? {v : Value} (h : v.Textual) : v.text?.isSome = true := by
  unfold Value.text?
  split
  · rfl
  · rfl
  · rfl
  · exact h

theorem textOrFail_reads (v : Value) : Readable v.Textual v.textOrFail := by
  refine ⟨fun e he => ?_, fun _ _ _ => trivial⟩
  unfold textOrFail at he
  split at he
  · cases he
  · rename_i hNone
    refine ⟨(Except.error.inj he).symm, fun hText => ?_⟩
    exact Option.isSome_iff_ne_none.mp hText.text? hNone

end Value

end RestRoutes
