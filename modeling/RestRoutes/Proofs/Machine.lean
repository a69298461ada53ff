import RestRoutes.Machine
import RestRoutes.Proofs.File.Tree
import RestRoutes.Proofs.Run
import RestRoutes.Proofs.Text.Utf8

/-! Reading a text from a file fails in three ways that are no refusal: the path is too long for the
system to follow, it leads through a directory that may not be searched, or the bytes of the file are
those of no text.  Where the directories of the program are below the home directory, they can be told
just when that can. -/

namespace RestRoutes.Machine

open File

/-- What stops the reading of a text where a path leads. -/
inductive NoText (m : Machine) (p : Path) : Defect → Prop
  | nameTooLong (h : Tree.TooLong p) : NoText m p (.file ⟨.nameTooLong, p.text⟩)
  | denied (h : m.tree.Barred m.directory p) : NoText m p (.file ⟨.denied, p.text⟩)
  | encoding {bytes : List UInt8} (hRead : m.tree.read m.directory p = .ok bytes)
    (hBytes : ∀ s, bytes ≠ Text.Utf8.encode s) (fault : Text.Utf8.Fault) :
    NoText m p (.encoding fault)

theorem noText_of_isFile {m : Machine} {p : Path} {fault : Fault}
    (h : m.isFile p = .error fault) : NoText m p (.file fault) := by
  rcases Tree.entry_eq_error (Tree.isFile_eq_error.mp h) with ⟨rfl, hLong⟩ | ⟨rfl, hBarred⟩
  · exact .nameTooLong hLong
  · exact .denied hBarred

theorem textOf_eq_error {bytes : List UInt8} {fault : Text.Utf8.Fault} :
    textOf bytes = .error fault ↔ Text.Utf8.decode bytes = .error fault := by
  unfold textOf
  cases Text.Utf8.decode bytes <;> simp [Except.map]

theorem noText_of_textOf {m : Machine} {p : Path} {bytes : List UInt8} {fault : Text.Utf8.Fault}
    (hRead : m.tree.read m.directory p = .ok bytes) (h : textOf bytes = .error fault) :
    NoText m p (.encoding fault) :=
  .encoding hRead (Text.Utf8.ne_encode_of_decode (textOf_eq_error.mp h)) fault

/-- Bytes that are those of no text have no text. -/
theorem textOf_of_ne_encode {bytes : List UInt8} (h : ∀ s, bytes ≠ Text.Utf8.encode s) :
    ∃ fault, textOf bytes = .error fault := by
  simp only [textOf_eq_error]
  cases hDecode : Text.Utf8.decode bytes with
  | error fault => exact ⟨fault, rfl⟩
  | ok s => exact absurd (Text.Utf8.decode_eq_ok.mp hDecode) (h s)

/-! ### The home directory -/

/-- No text tells the home directory. -/
def Homeless (m : Machine) : Prop :=
  ∀ text, (m.environment.lookup "HOME").or m.accountHome = some text →
    Text.startsWith "~" text = true

/-- The directory that a variable may set is below the home directory. -/
def NeedsHome (m : Machine) (name : String) : Prop :=
  m.hasBaseDirectories = true → m.valueOf? name = none

section Home

variable {m : Machine} {d : Defect}

theorem home_eq_error : m.home = .error d ↔ d = .noHome ∧ m.Homeless := by
  unfold home Homeless
  cases (m.environment.lookup "HOME").or m.accountHome with
  | none => exact ⟨by rintro ⟨⟩; exact ⟨rfl, nofun⟩, by rintro ⟨rfl, -⟩; rfl⟩
  | some text =>
    dsimp only
    by_cases hTilde : Text.startsWith "~" text = true
    · rw [if_pos hTilde]
      exact ⟨by rintro ⟨⟩; exact ⟨rfl, by rintro _ ⟨⟩; exact hTilde⟩, by rintro ⟨rfl, -⟩; rfl⟩
    · rw [if_neg hTilde]
      exact ⟨nofun, fun ⟨_, h⟩ => absurd (h text rfl) hTilde⟩

theorem bind_pure_eq_error {α β : Type} {x : Except Defect α} {f : α → β} :
    (x >>= fun a => pure (f a)) = .error d ↔ x = .error d := by
  cases x with
  | ok a => exact ⟨nofun, nofun⟩
  | error e => exact ⟨by rintro ⟨⟩; rfl, by rintro ⟨⟩; rfl⟩

theorem hiddenDirectory_eq_error : m.hiddenDirectory = .error d ↔ d = .noHome ∧ m.Homeless := by
  rw [hiddenDirectory, bind_pure_eq_error, home_eq_error]

theorem baseDirectory_eq_error {name : String} {names : List String} :
    m.baseDirectory name names = .error d ↔
      d = .noHome ∧ m.Homeless ∧ m.valueOf? name = none := by
  unfold baseDirectory
  cases m.valueOf? name with
  | some text => exact ⟨nofun, nofun⟩
  | none => simp only [bind_pure_eq_error, home_eq_error, and_true]

theorem configDirectory_eq_error :
    m.configDirectory = .error d ↔
      d = .noHome ∧ m.Homeless ∧ m.NeedsHome "XDG_CONFIG_HOME" := by
  unfold configDirectory NeedsHome
  cases m.hasBaseDirectories with
  | true => simp only [bind_pure_eq_error, baseDirectory_eq_error, if_true, forall_const]
  | false => simp [hiddenDirectory_eq_error]

end Home

/-- A machine with files in its working directory, and a home that is empty. -/
def holding (files : List (String × List UInt8)) : Machine where
  system := "Linux"
  environment := []
  accountHome := some "/home"
  directory := ["work"]
  tree := ⟨(["work"], .directory) :: files.map fun (name, content) => (["work", name], .file content)⟩
  input := ""
  fetch := fun _ => .unreachable "no network"
  moment := "20240101-120000"
  charNames := fun _ => none

end RestRoutes.Machine
