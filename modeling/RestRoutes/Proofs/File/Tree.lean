import RestRoutes.File.Tree
import RestRoutes.Proofs.Run

/-! What writing to files leaves as it was.  A file that was written is found where its path leads,
and all others keep what they hold; directories that are made take the place of nothing. -/

namespace RestRoutes.File.Tree

/-! ### Places -/

theorem find?_put (place other : Place) (e : Entry) (entries : List (Place × Entry)) :
    find? other (Assoc.put (· == ·) place e entries) =
      if other = place then some e else find? other entries := by
  induction entries with
  | nil => simp [Assoc.put, find?, eq_comm]
  | cons entry rest ih =>
    obtain ⟨p, old⟩ := entry
    by_cases hPlace : p = place
    · subst hPlace
      by_cases hOther : other = p <;> simp [Assoc.put, find?, hOther, Ne.symm]
    · have hNot : (p == place) = false := beq_eq_false_iff_ne.mpr hPlace
      by_cases hOther : p = other
      · subst hOther
        simp [Assoc.put, hNot, find?, hPlace]
      · simp [Assoc.put, hNot, find?, hOther, ih]

theorem at?_put_self {place : Place} (h : place ≠ []) (t : Tree) (e : Entry) :
    (t.put place e).at? place = some e := by
  rw [at?, if_neg h, put, find?_put, if_pos rfl]

theorem at?_put_of_ne {place other : Place} (h : other ≠ place) (t : Tree) (e : Entry) :
    (t.put place e).at? other = t.at? other := by
  rw [at?, at?, put, find?_put, if_neg h]

/-! ### Paths -/

/-- The root is a directory. -/
theorem ne_nil_of_not_directory {t : Tree} {place : Place} (h : t.at? place ≠ some .directory) :
    place ≠ [] := by
  rintro rfl
  exact h rfl

/-- A path is not led elsewhere by something new where no directory was: it only leads through
directories. -/
theorem walk_put {t : Tree} {spot : Place} (hSpot : t.at? spot ≠ some .directory) (e : Entry)
    {here place : Place} {names : List String} (h : t.walk here names = .ok place) :
    (t.put spot e).walk here names = .ok place := by
  induction names generalizing here with
  | nil => exact h
  | cons name rest ih =>
    rw [walk] at h ⊢
    cases hHere : t.at? here with
    | none =>
      rw [hHere] at h
      cases h
    | some found =>
      cases found with
      | file content =>
        rw [hHere] at h
        cases h
      | closed =>
        rw [hHere] at h
        cases h
      | directory =>
        -- The way goes on from a directory, which the spot is not.
        have hNe : here ≠ spot := by
          rintro rfl
          exact hSpot hHere
        rw [hHere] at h
        rw [at?_put_of_ne hNe, hHere]
        simp only at h ⊢
        split at h
        · rw [if_pos ‹_›]
          exact ih h
        · rw [if_neg ‹_›]
          split at h
          · cases h
          · rw [if_neg ‹_›]
            exact ih h

/-- A path that the system does not follow, whatever stands there. -/
def TooLong (p : Path) : Prop :=
  pathLimit < p.text.utf8ByteSize ∨ ∃ name ∈ p.names, nameLimit < name.utf8ByteSize

theorem walk_eq_nameTooLong {t : Tree} {here : Place} {names : List String}
    (h : t.walk here names = .error .nameTooLong) :
    ∃ name ∈ names, nameLimit < name.utf8ByteSize := by
  induction names generalizing here with
  | nil => cases h
  | cons name rest ih =>
    have hRest {here : Place} (h : t.walk here rest = .error .nameTooLong) :
        ∃ name' ∈ name :: rest, nameLimit < name'.utf8ByteSize := by
      obtain ⟨name', hMem, hLong⟩ := ih h
      exact ⟨name', List.mem_cons_of_mem _ hMem, hLong⟩
    rw [walk] at h
    split at h
    · cases h
    · cases h
    · cases h
    · split at h
      · exact hRest h
      · split at h
        · exact ⟨name, List.mem_cons_self, ‹_›⟩
        · exact hRest h

/-- A path leads through a directory that may not be searched. -/
def Barred (t : Tree) (directory : Place) (p : Path) : Prop :=
  ∃ front name rest place, p.names = front ++ name :: rest ∧
    t.walk (if p.isAbsolute then [] else directory) front = .ok place ∧
    t.at? place = some .closed

theorem walk_eq_denied {t : Tree} {here : Place} {names : List String}
    (h : t.walk here names = .error .denied) :
    ∃ front name rest place, names = front ++ name :: rest ∧ t.walk here front = .ok place ∧
      t.at? place = some .closed := by
  induction names generalizing here with
  | nil => cases h
  | cons name rest ih =>
    rw [walk] at h
    split at h
    · cases h
    · cases h
    · exact ⟨[], name, rest, here, rfl, rfl, ‹_›⟩
    · rename_i hHere
      -- The way to the closed directory goes on through the one that is here.
      split at h
      · obtain ⟨front, next, more, place, rfl, hWalk, hClosed⟩ := ih h
        refine ⟨name :: front, next, more, place, rfl, ?_, hClosed⟩
        rw [walk, hHere]
        simpa [‹name = ".."›] using hWalk
      · split at h
        · cases h
        · obtain ⟨front, next, more, place, rfl, hWalk, hClosed⟩ := ih h
          refine ⟨name :: front, next, more, place, rfl, ?_, hClosed⟩
          rw [walk, hHere]
          simp [*]

/-- What keeps a path from being followed is a null character in it, its length, or what stands on
the way. -/
theorem locate_eq_error {t : Tree} {directory : Place} {p : Path} {cause : Cause}
    (h : t.locate directory p = .error cause) :
    cause = .nullCharacter ∨ cause = .nameTooLong ∧ pathLimit < p.text.utf8ByteSize ∨
      t.walk (if p.isAbsolute then [] else directory) p.names = .error cause := by
  unfold locate at h
  split at h
  · cases h
    exact .inl rfl
  · split at h
    · cases h
      exact .inr (.inl ⟨rfl, ‹_›⟩)
    · exact .inr (.inr h)

/-- It is not told what stands where a path leads when the path is too long, or leads through a
directory that may not be searched. -/
theorem entry_eq_error {t : Tree} {directory : Place} {p : Path} {fault : Fault}
    (h : t.entry? directory p = .error fault) :
    fault = ⟨.nameTooLong, p.text⟩ ∧ TooLong p ∨
      fault = ⟨.denied, p.text⟩ ∧ t.Barred directory p := by
  unfold entry? at h
  split at h
  · cases h
  · rename_i hLocate
    cases h
    rcases locate_eq_error hLocate with hNull | ⟨-, hLong⟩ | hName
    · cases hNull
    · exact .inl ⟨rfl, .inl hLong⟩
    · exact .inl ⟨rfl, .inr (walk_eq_nameTooLong hName)⟩
  · rename_i hLocate
    cases h
    rcases locate_eq_error hLocate with hNull | ⟨hLong, -⟩ | hDenied
    · cases hNull
    · cases hLong
    · exact .inr ⟨rfl, walk_eq_denied hDenied⟩
  · cases h

theorem entry_eq_some {t : Tree} {directory : Place} {p : Path} {e : Entry} :
    t.entry? directory p = .ok (some e) ↔
      ∃ place, t.placeOf directory p = .ok place ∧ t.at? place = some e := by
  simp only [placeOf, mapError_eq_ok]
  constructor
  · intro h
    unfold entry? at h
    split at h
    · exact ⟨_, ‹_›, Except.ok.inj h⟩
    · cases h
    · cases h
    · cases h
  · rintro ⟨place, hLocate, hEntry⟩
    unfold entry?
    rw [hLocate, ← hEntry]

theorem isFile_eq_error {t : Tree} {directory : Place} {p : Path} {fault : Fault} :
    t.isFile directory p = .error fault ↔ t.entry? directory p = .error fault := by
  rw [isFile, except_bind_eq_error]
  refine or_iff_left ?_
  rintro ⟨found, -, hFound⟩
  split at hFound <;> cases hFound

theorem read_eq_ok {t : Tree} {directory : Place} {p : Path} {content : List UInt8} :
    t.read directory p = .ok content ↔ t.entry? directory p = .ok (some (.file content)) := by
  rw [read, except_bind_eq_ok, entry_eq_some]
  refine exists_congr fun place => and_congr_right fun _ => ⟨fun h => ?_, fun h => by rw [h]⟩
  split at h
  · rename_i hFile
    rw [hFile, Except.ok.inj h]
  · cases h
  · cases h
  · cases h

/-- Where a file stands, it can be read. -/
theorem isFile_eq_true {t : Tree} {directory : Place} {p : Path} :
    t.isFile directory p = .ok true ↔ ∃ content, t.read directory p = .ok content := by
  simp only [isFile, except_bind_eq_ok, read_eq_ok]
  constructor
  · rintro ⟨found, hEntry, hFound⟩
    split at hFound
    · exact ⟨_, hEntry⟩
    · cases hFound
  · rintro ⟨content, hEntry⟩
    exact ⟨_, hEntry, rfl⟩

theorem placeOf_put {t : Tree} {spot : Place} (hSpot : t.at? spot ≠ some .directory) (e : Entry)
    {directory place : Place} {p : Path} (h : t.placeOf directory p = .ok place) :
    (t.put spot e).placeOf directory p = .ok place := by
  rw [placeOf, mapError_eq_ok, locate] at h ⊢
  split at h
  · cases h
  · rw [if_neg ‹_›]
    split at h
    · cases h
    · rw [if_neg ‹_›]
      exact walk_put hSpot e h

/-! ### Files -/

/-- The same content is in files at all places but one. -/
def SameFilesBut (spot : Place) (before after : Tree) : Prop :=
  ∀ place, place ≠ spot → ∀ content,
    before.at? place = some (.file content) ↔ after.at? place = some (.file content)

def SameFiles (before after : Tree) : Prop :=
  ∀ place content,
    before.at? place = some (.file content) ↔ after.at? place = some (.file content)

/-- The tree has a file with a content at a path, and besides the same files as another. -/
def Wrote (directory : Place) (p : Path) (content : List UInt8) (before after : Tree) : Prop :=
  ∃ place, after.placeOf directory p = .ok place ∧ after.at? place = some (.file content) ∧
    SameFilesBut place before after

theorem SameFiles.refl (t : Tree) : SameFiles t t := fun _ _ => Iff.rfl

theorem SameFiles.trans {a b c : Tree} (hab : SameFiles a b) (hbc : SameFiles b c) :
    SameFiles a c := fun place content => (hab place content).trans (hbc place content)

/-- What was written can be read. -/
theorem Wrote.read {directory : Place} {p : Path} {content : List UInt8} {before after : Tree}
    (h : Wrote directory p content before after) : after.read directory p = .ok content := by
  obtain ⟨place, hPlace, hFile, -⟩ := h
  exact read_eq_ok.mpr (entry_eq_some.mpr ⟨place, hPlace, hFile⟩)

theorem Wrote.of_sameFiles {directory : Place} {p : Path} {content : List UInt8}
    {before between after : Tree} (hSame : SameFiles before between)
    (h : Wrote directory p content between after) : Wrote directory p content before after := by
  obtain ⟨place, hPlace, hFile, hRest⟩ := h
  exact ⟨place, hPlace, hFile, fun other hNe c => (hSame other c).trans (hRest other hNe c)⟩

theorem write_wrote {t after : Tree} {directory : Place} {p : Path} {content : List UInt8}
    (h : t.write directory p content = .ok after) : Wrote directory p content t after := by
  obtain ⟨place, hPlace, h⟩ := except_bind_eq_ok.mp h
  by_cases hFree : t.at? place = some .directory
  · rw [hFree] at h
    cases h
  · have hPut : after = t.put place (.file content) := by
      split at h
      · exact absurd ‹_› hFree
      · cases h
      · exact (Except.ok.inj h).symm
    subst hPut
    refine ⟨place, placeOf_put hFree _ hPlace, at?_put_self (ne_nil_of_not_directory hFree) t _, ?_⟩
    intro other hNe c
    rw [at?_put_of_ne hNe]

/-! ### Directories -/

theorem makeDirectory_files {t after : Tree} {directory : Place} {p : Path}
    (h : t.makeDirectory directory p = .ok after) : SameFiles t after := by
  obtain ⟨spot, -, h⟩ := except_bind_eq_ok.mp h
  split at h
  · cases h
  · rename_i hFree
    obtain rfl := Except.ok.inj h
    have hSpot : spot ≠ [] := ne_nil_of_not_directory (by rw [hFree]; nofun)
    intro place content
    by_cases hPlace : place = spot
    · subst hPlace
      simp [at?_put_self hSpot, hFree]
    · rw [at?_put_of_ne hPlace]

end RestRoutes.File.Tree

/-! ### Several changes -/

namespace RestRoutes.File.Filing

section Steps

variable {ε ε' α β : Type}

theorem run_bind (x : Filing ε α) (f : α → Filing ε β) (t : Tree) :
    (x >>= f).run t = match x.run t with
      | (.ok a, after) => (f a).run after
      | (.error e, after) => (.error e, after) := by
  rw [ExceptT.run_bind]
  change (match (x.run t).1 with | .ok a => (f a).run | .error e => pure (.error e))
    (x.run t).2 = _
  rcases x.run t with ⟨a | e, after⟩ <;> rfl

theorem run_bind_eq_ok {x : Filing ε α} {f : α → Filing ε β} {t after : Tree} {b : β} :
    (x >>= f).run t = (.ok b, after) ↔
      ∃ a between, x.run t = (.ok a, between) ∧ (f a).run between = (.ok b, after) := by
  rw [run_bind]
  rcases x.run t with ⟨e | a, between⟩
  · exact iff_of_false nofun nofun
  · exact ⟨fun h => ⟨a, between, rfl, h⟩, by rintro ⟨_, _, ⟨⟩, h⟩; exact h⟩

theorem run_adapt (f : ε → ε') (x : Filing ε α) (t : Tree) :
    (x.adapt f).run t = ((x.run t).1.mapError f, (x.run t).2) := rfl

theorem run_lift (x : Except ε α) (t : Tree) : (liftM x : Filing ε α).run t = (x, t) := rfl

theorem run_get_bind (f : Tree → Filing ε α) (t : Tree) : (get >>= f).run t = (f t).run t := rfl

end Steps

/-- What is done leaves all files as they were, whether it fails or not. -/
def Keeps {ε α : Type} (x : Filing ε α) : Prop := ∀ t, Tree.SameFiles t (x.run t).2

namespace Keeps

variable {ε ε' α β : Type} {x : Filing ε α}

theorem pure (a : α) : Keeps (Pure.pure a : Filing ε α) := fun t => .refl t

theorem lift (x : Except ε α) : Keeps (liftM x : Filing ε α) := fun t => .refl t

theorem bind {f : α → Filing ε β} (hx : Keeps x) (hf : ∀ a, Keeps (f a)) : Keeps (x >>= f) := by
  intro t
  have hFirst := hx t
  rw [run_bind]
  rcases hRun : x.run t with ⟨e | a, after⟩
  · rwa [hRun] at hFirst
  · rw [hRun] at hFirst
    exact hFirst.trans (hf a after)

theorem adapt (f : ε → ε') (hx : Keeps x) : Keeps (x.adapt f) := hx

end Keeps

theorem ensureDirectory_keeps (directory : Place) (p : Path) :
    Keeps (ensureDirectory directory p) := by
  intro t
  rw [ensureDirectory, run_get_bind]
  cases hMade : t.makeDirectory directory p with
  | ok made => exact Tree.makeDirectory_files hMade
  | error cause =>
    refine (Keeps.lift _).bind (fun isThere => ?_) t
    cases isThere with
    | true => exact .pure ()
    | false => exact .lift (.error _)

theorem ensureDirectories_keeps (directory : Place) (levels : Nat) (p : Path) :
    Keeps (ensureDirectories directory levels p) := by
  induction levels generalizing p with
  | zero => exact ensureDirectory_keeps directory p
  | succ levels ih =>
    intro t
    rw [ensureDirectories, run_get_bind]
    split
    · exact (ih p.parent).bind (fun _ => ensureDirectory_keeps directory p) t
    · exact ensureDirectory_keeps directory p t

theorem makeDirectories_keeps (directory : Place) (p : Path) : Keeps (makeDirectories directory p) :=
  ensureDirectories_keeps directory _ p

/-- A file is written, or nothing is changed. -/
theorem run_write (directory : Place) (p : Path) (content : List UInt8) (t : Tree) :
    (∃ after, (write directory p content).run t = (.ok (), after) ∧
      Tree.Wrote directory p content t after) ∨
    ∃ fault, (write directory p content).run t = (.error fault, t) := by
  rw [write, run_get_bind, run_bind, run_lift]
  cases hWrite : t.write directory p content with
  | ok after => exact .inl ⟨after, rfl, Tree.write_wrote hWrite⟩
  | error fault => exact .inr ⟨fault, rfl⟩

end RestRoutes.File.Filing
