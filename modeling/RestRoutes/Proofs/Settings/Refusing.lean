import RestRoutes.Proofs.Json.LongInteger
import RestRoutes.Proofs.Machine
import RestRoutes.Proofs.Settings.Precedence

/-! Settings are found or refused, whatever the layers hold.  A run stops in another way where the home
directory is needed and cannot be told, where a file cannot be read as a text, and where its text has an
integer of too many digits. -/

namespace RestRoutes.Settings

open File

def IsRefusal (r : Refusal) : Prop := ∃ fault, r = .settings fault

/-- What stops the reading of a file of settings and is no refusal. -/
inductive Unreadable (m : Machine) (p : Path) : Defect → Prop
  | noText {d : Defect} (h : m.NoText p d) : Unreadable m p d
  | longInteger {bytes : List UInt8} {text : String} {n : Nat}
    (hRead : m.tree.read m.directory p = .ok bytes) (hText : Machine.textOf bytes = .ok text)
    (h : Json.HasLongRun text.toList n) : Unreadable m p (.longInteger n)

section Files

variable {m : Machine} {p : Path} {bytes : List UInt8}

theorem layerOfText_ends {text : String} (hRead : m.tree.read m.directory p = .ok bytes)
    (hText : Machine.textOf bytes = .ok text) (file : SettingsFile) (path : String) :
    Ends (fun _ => True) IsRefusal (Unreadable m p) (layerOfText file path text) := by
  unfold layerOfText
  split
  · exact .ok trivial
  · exact .refusal ⟨_, rfl⟩
  · exact .refusal ⟨_, rfl⟩
  · rename_i hLong
    exact .defect (.longInteger hRead hText (Json.hasLongRun_of_read hLong))

theorem layerOfFile_of_read (hRead : m.tree.read m.directory p = .ok bytes)
    (file : SettingsFile) :
    layerOfFile m file p =
      (Machine.textOf bytes).mapError (.defect ∘ .encoding) >>= layerOfText file p.text := by
  have hFile : m.isFile p = .ok true := Tree.isFile_eq_true.mpr ⟨bytes, hRead⟩
  rw [layerOfFile, hFile, hRead]
  rfl

theorem layerOfFile_ends (m : Machine) (file : SettingsFile) (p : Path) :
    Ends (fun _ => True) IsRefusal (Unreadable m p) (layerOfFile m file p) := by
  cases hFile : m.isFile p with
  | error fault =>
    rw [layerOfFile, hFile]
    exact .defect (.noText (Machine.noText_of_isFile hFile))
  | ok present =>
    cases present with
    | false =>
      rw [layerOfFile, hFile]
      exact .ok trivial
    | true =>
      obtain ⟨bytes, hRead⟩ := Tree.isFile_eq_true.mp hFile
      rw [layerOfFile_of_read hRead]
      cases hText : Machine.textOf bytes with
      | ok text => exact layerOfText_ends hRead hText file p.text
      | error fault => exact .defect (.noText (Machine.noText_of_textOf hRead hText))

end Files

/-! ### Runs -/

/-- A file of settings that a run reads: that of the project only after the user had a layer. -/
inductive IsRead (m : Machine) : Path → Prop
  | user {p : Path} (h : userPath m = .ok p) : IsRead m p
  | project {layer : Layer} (h : userLayer m = .ok layer) : IsRead m (projectPath m)

/-- What stops the settings of a run and is no refusal. -/
inductive Stops (m : Machine) : Defect → Prop
  | homeless (h : m.Homeless) (hNeeds : m.NeedsHome "XDG_CONFIG_HOME") : Stops m .noHome
  | unreadable {p : Path} {d : Defect} (hIsRead : IsRead m p) (h : Unreadable m p d) : Stops m d

section Runs

variable {m : Machine}

theorem userPath_eq_error {d : Defect} :
    userPath m = .error d ↔ d = .noHome ∧ m.Homeless ∧ m.NeedsHome "XDG_CONFIG_HOME" := by
  rw [userPath, except_bind_eq_error, Machine.configDirectory_eq_error]
  simp [pure, Except.pure]

theorem userLayer_ends (m : Machine) :
    Ends (fun _ => True) IsRefusal (Stops m) (userLayer m) := by
  unfold userLayer
  cases hPath : userPath m with
  | error d =>
    obtain ⟨rfl, hHomeless, hNeeds⟩ := userPath_eq_error.mp hPath
    exact .defect (.homeless hHomeless hNeeds)
  | ok p =>
    exact (layerOfFile_ends m .user p).of_defects fun d h => .unreadable (.user hPath) h

theorem resolve_of_userLayer {e : Failure} (h : userLayer m = .error e) (own : Layer) :
    resolve m own = .error e := by
  rw [resolve, h]
  rfl

theorem resolve_of_read {p : Path} (hIsRead : IsRead m p) {e : Failure}
    (h : ∀ file, layerOfFile m file p = .error e) (own : Layer) : resolve m own = .error e := by
  cases hIsRead with
  | user hPath =>
    apply resolve_of_userLayer
    rw [userLayer, hPath]
    exact h .user
  | project hUser =>
    rw [resolve, hUser, projectLayer, h]
    rfl

end Runs

/-- Settings are found or refused, but where the home directory is needed and cannot be told, and where
the reading of a file stops the run.  A missing home directory always stops it, and so does a file
that is no text. -/
theorem resolve_refuses (m : Machine) (own : Layer) :
    Ends (fun _ => True) IsRefusal (Stops m) (resolve m own) ∧
      (m.Homeless → m.NeedsHome "XDG_CONFIG_HOME" → resolve m own = .error (.defect .noHome)) ∧
      ∀ p bytes, IsRead m p → m.tree.read m.directory p = .ok bytes →
        (∀ s, bytes ≠ Text.Utf8.encode s) →
        ∃ fault, resolve m own = .error (.defect (.encoding fault)) := by
  refine ⟨?_, fun hHomeless hNeeds => ?_, fun p bytes hIsRead hRead hBytes => ?_⟩
  · unfold resolve
    refine Ends.bind (userLayer_ends m) fun user hUser _ => ?_
    refine Ends.bind ((layerOfFile_ends m .project _).of_defects fun d h =>
      .unreadable (.project hUser) h) fun project _ _ => ?_
    split
    · exact .ok trivial
    · exact .refusal ⟨_, rfl⟩
  · apply resolve_of_userLayer
    rw [userLayer, userPath_eq_error.mpr ⟨rfl, hHomeless, hNeeds⟩]
    rfl
  · obtain ⟨fault, hText⟩ := Machine.textOf_of_ne_encode hBytes
    refine ⟨fault, resolve_of_read hIsRead (fun file => ?_) own⟩
    rw [layerOfFile_of_read hRead, hText]
    rfl

def undecodable : Machine := .holding [("restdsl.json", [0xff])]

theorem resolve_refuses_undecodable :
    resolve tildeMachine [] = .error (.defect .noHome) ∧ userLayer undecodable = .ok [] ∧
      ∃ fault, resolve undecodable [] = .error (.defect (.encoding fault)) := by
  have hHomeless : tildeMachine.Homeless := by
    rintro text ⟨⟩
    decide
  have hPath : userPath undecodable = .ok (.ofText "/home/.config/restdsl/config.json") := by
    decide +kernel
  have hUser : userLayer undecodable = .ok [] :=
    userLayer_eq_ok.mpr ⟨_, hPath, layerOfFile_eq_ok.mpr (.inl ⟨by decide +kernel, rfl⟩)⟩
  have hRead : undecodable.tree.read undecodable.directory (projectPath undecodable) = .ok [0xff] := by
    decide +kernel
  have hBytes : Text.Utf8.decode [0xff] = .error ⟨0, 0xff, 1, .invalidStart⟩ := by decide
  exact ⟨(resolve_refuses tildeMachine []).2.1 hHomeless fun _ => rfl, hUser,
    (resolve_refuses undecodable []).2.2 _ _ (.project hUser) hRead
      (Text.Utf8.ne_encode_of_decode hBytes)⟩

/-- Settings that are no text are neither found nor refused. -/
theorem resolve_undecodable :
    resolve undecodable [] = .error (.defect (.encoding ⟨0, 0xff, 1, .invalidStart⟩)) ∧
      (¬∃ s, resolve undecodable [] = .ok s) ∧
      ¬∃ r, resolve undecodable [] = .error (.refusal r) := by
  have hDefect : resolve undecodable [] =
      .error (.defect (.encoding ⟨0, 0xff, 1, .invalidStart⟩)) := by decide +kernel
  rw [hDefect]
  exact ⟨rfl, nofun, nofun⟩

end RestRoutes.Settings
