import RestRoutes.Event.Argument
import RestRoutes.Proofs.Json.Quote
import RestRoutes.Proofs.Text.Split
import RestRoutes.Proofs.Value.Text

/-! Which arguments have a text.  The call of an argument stands on one line, whatever the argument
holds; and only an integer of too many digits, anywhere in it, keeps it from being written. -/

namespace RestRoutes.Argument

/-! ### Arguments without a text -/

/-- An argument has an integer of too many digits in it. -/
inductive HasLong : Argument → Prop
  | int {n : Int} (h : Number.pow10 integerDigitLimit ≤ n.natAbs) : HasLong (.int n)
  | list {xs : List Argument} {x : Argument} (hx : x ∈ xs) (h : HasLong x) : HasLong (.list xs)
  | tuple {xs : List Argument} {x : Argument} (hx : x ∈ xs) (h : HasLong x) : HasLong (.tuple xs)
  | key {es : List (Argument × Argument)} {e : Argument × Argument} (he : e ∈ es)
    (h : HasLong e.1) : HasLong (.map es)
  | value {es : List (Argument × Argument)} {e : Argument × Argument} (he : e ∈ es)
    (h : HasLong e.2) : HasLong (.map es)

variable {xs : List Argument} {es : List (Argument × Argument)}

theorem hasLong_int_iff {n : Int} : HasLong (.int n) ↔ integerText? n = none := by
  rw [integerText?_eq_none_iff]
  exact ⟨fun | .int h => h, .int⟩

theorem hasLong_list_iff : HasLong (.list xs) ↔ ∃ x ∈ xs, HasLong x :=
  ⟨fun | .list hx h => ⟨_, hx, h⟩, fun ⟨_, hx, h⟩ => .list hx h⟩

theorem hasLong_tuple_iff : HasLong (.tuple xs) ↔ ∃ x ∈ xs, HasLong x :=
  ⟨fun | .tuple hx h => ⟨_, hx, h⟩, fun ⟨_, hx, h⟩ => .tuple hx h⟩

theorem hasLong_map_iff : HasLong (.map es) ↔ ∃ e ∈ es, HasLong e.1 ∨ HasLong e.2 := by
  constructor
  · intro h
    cases h with
    | key he h => exact ⟨_, he, .inl h⟩
    | value he h => exact ⟨_, he, .inr h⟩
  · rintro ⟨e, he, h | h⟩
    · exact .key he h
    · exact .value he h

mutual

theorem literal?_eq_none_iff : ∀ a : Argument, a.literal? = none ↔ a.HasLong
  | .absent | .null | .bool _ | .float _ | .text _ | .location _ | .format _ =>
    iff_of_false nofun nofun
  | .int _ => hasLong_int_iff.symm
  | .list xs => by rw [literal?, Option.map_eq_none_iff, literals?_eq_none_iff xs, hasLong_list_iff]
  | .tuple xs => by
    rw [literal?, Option.map_eq_none_iff, literals?_eq_none_iff xs, hasLong_tuple_iff]
  | .map es => by
    rw [literal?, Option.map_eq_none_iff, entryLiterals?_eq_none_iff es, hasLong_map_iff]

theorem literals?_eq_none_iff : ∀ xs : List Argument, literals? xs = none ↔ ∃ x ∈ xs, x.HasLong
  | [] => by simp [literals?]
  | x :: rest => by
    simp only [List.mem_cons, exists_eq_or_imp]
    rw [← literal?_eq_none_iff x, ← literals?_eq_none_iff rest, literals?]
    cases literal? x <;> cases literals? rest <;> simp

theorem entryLiterals?_eq_none_iff : ∀ es : List (Argument × Argument),
    entryLiterals? es = none ↔ ∃ e ∈ es, e.1.HasLong ∨ e.2.HasLong
  | [] => by simp [entryLiterals?]
  | (k, v) :: rest => by
    simp only [List.mem_cons, exists_eq_or_imp]
    rw [← literal?_eq_none_iff k, ← literal?_eq_none_iff v, ← entryLiterals?_eq_none_iff rest,
      entryLiterals?]
    cases literal? k <;> cases literal? v <;> cases entryLiterals? rest <;> simp

end

/-- Just the arguments with an integer of too many digits in them have no plain text. -/
theorem plainText?_eq_none_iff (a : Argument) : a.plainText? = none ↔ a.HasLong := by
  unfold plainText?
  split
  · exact iff_of_false nofun nofun
  · exact iff_of_false nofun nofun
  · exact iff_of_false nofun nofun
  · exact a.literal?_eq_none_iff

mutual

/-- Just the arguments with an integer of too many digits in them cannot stand in a call. -/
theorem call?_eq_none_iff : ∀ a : Argument, a.call? = none ↔ a.HasLong
  | .absent | .bool _ | .text _ | .location _ | .format _ => iff_of_false nofun nofun
  | .null | .float _ | .int _ | .map _ => by
    rw [call?, Option.map_eq_none_iff, plainText?_eq_none_iff]
    all_goals nofun
  | .list xs => by rw [call?, Option.map_eq_none_iff, calls?_eq_none_iff xs, hasLong_list_iff]
  | .tuple xs => by rw [call?, Option.map_eq_none_iff, calls?_eq_none_iff xs, hasLong_tuple_iff]

theorem calls?_eq_none_iff : ∀ xs : List Argument, calls? xs = none ↔ ∃ x ∈ xs, x.HasLong
  | [] => by simp [calls?]
  | x :: rest => by
    simp only [List.mem_cons, exists_eq_or_imp]
    rw [← call?_eq_none_iff x, ← calls?_eq_none_iff rest, calls?]
    cases call? x <;> cases calls? rest <;> simp

end

/-! ### Calls -/

theorem newline_notMem_intercalate {parts : List String} (h : ∀ s ∈ parts, '\n' ∉ s.toList) :
    '\n' ∉ (String.intercalate ", " parts).toList := by
  rw [String.toList_intercalate]
  intro hMem
  obtain hComma | ⟨_, hPart, hLine⟩ := Text.mem_intercalate hMem
  · exact absurd hComma (by decide)
  · obtain ⟨s, hs, rfl⟩ := List.mem_map.mp hPart
    exact h s hs hLine

theorem newline_notMem_joined {parts? : Option (List String)}
    (h : ∀ parts ∈ parts?, ∀ s ∈ parts, '\n' ∉ s.toList) :
    ∀ s ∈ parts?.map (String.intercalate ", "), '\n' ∉ s.toList := by
  intro s hs
  obtain ⟨parts, hParts, rfl⟩ := Option.map_eq_some_iff.mp hs
  exact newline_notMem_intercalate (h parts hParts)

theorem newline_notMem_quotedText (text? : Option String) :
    ∀ s ∈ text?.map Json.quoted, '\n' ∉ s.toList := by
  intro s hs
  obtain ⟨text, -, rfl⟩ := Option.map_eq_some_iff.mp hs
  exact Json.newline_notMem_quoted text

mutual

/-- No call goes on in another line. -/
theorem newline_notMem_call : ∀ a : Argument, ∀ s ∈ a.call?, '\n' ∉ s.toList
  | .absent => by
    rintro s ⟨⟩
    exact List.not_mem_nil
  | .bool b => by
    rintro s ⟨⟩
    cases b <;> decide
  | .location l => by
    rintro s ⟨⟩
    cases l <;> decide
  | .format f => by
    rintro s ⟨⟩
    cases f <;> decide
  | .text t => by
    rintro s ⟨⟩
    exact Json.newline_notMem_quoted t
  | .list xs | .tuple xs => newline_notMem_joined (newline_notMem_calls xs)
  | .null | .int _ | .float _ | .map _ => by
    rw [call?]
    · exact newline_notMem_quotedText _
    all_goals nofun

theorem newline_notMem_calls : ∀ xs : List Argument, ∀ parts ∈ calls? xs, ∀ s ∈ parts,
    '\n' ∉ s.toList
  | [] => by
    rintro parts ⟨⟩
    exact List.forall_mem_nil _
  | x :: rest => by
    intro parts h
    obtain ⟨first, hFirst, h⟩ := Option.bind_eq_some_iff.mp h
    obtain ⟨others, hOthers, h⟩ := Option.bind_eq_some_iff.mp h
    obtain rfl := Option.some.inj h
    exact List.forall_mem_cons.mpr
      ⟨newline_notMem_call x first hFirst, newline_notMem_calls rest others hOthers⟩

end

end RestRoutes.Argument
