import RestRoutes.Assoc
import RestRoutes.File
import RestRoutes.File.Path

/-! The files and directories of a machine.  A path is followed name by name: each name but the last
must lead to a directory that is there and may be searched. -/

namespace RestRoutes.File

/-- What stands at a place. -/
inductive Entry
  | file (content : List UInt8)
  | directory
  /-- A directory that may not be searched. -/
  | closed
deriving DecidableEq, Repr

/-- A place: the names that lead to it from the root. -/
abbrev Place := List String

/-- Files and directories by their places. The root is always a directory. -/
structure Tree where
  entries : List (Place × Entry)
deriving DecidableEq, Repr

namespace Tree

def find? (place : Place) : List (Place × Entry) → Option Entry
  | [] => none
  | (p, e) :: rest => if p = place then some e else find? place rest

def at? (t : Tree) (place : Place) : Option Entry :=
  if place = [] then some .directory else find? place t.entries

def put (t : Tree) (place : Place) (e : Entry) : Tree :=
  ⟨Assoc.put (· == ·) place e t.entries⟩

/-! ### Following paths -/

/-- The most bytes that a name may have. -/
def nameLimit : Nat := 255

/-- The most bytes that a whole path may have. -/
def pathLimit : Nat := 4095

/-- Follows names from a place. Nothing needs to stand where they lead. -/
def walk (t : Tree) : Place → List String → Except Cause Place
  | here, [] => .ok here
  | here, name :: rest =>
    match t.at? here with
    | none => .error .missing
    | some (.file _) => .error .notDirectory
    | some .closed => .error .denied
    | some .directory =>
      if name = ".." then t.walk here.dropLast rest
      else if nameLimit < name.utf8ByteSize then .error .nameTooLong
      else t.walk (here ++ [name]) rest

/-- The place that a path leads to from a directory. -/
def locate (t : Tree) (directory : Place) (p : Path) : Except Cause Place :=
  if p.names.any (·.toList.contains '\x00') then .error .nullCharacter
  else if pathLimit < p.text.utf8ByteSize then .error .nameTooLong
  else t.walk (if p.isAbsolute then [] else directory) p.names

/-- The place that a path leads to, or the fault with the path. -/
def placeOf (t : Tree) (directory : Place) (p : Path) : Except Fault Place :=
  (t.locate directory p).mapError (⟨·, p.text⟩)

/-- What stands where a path leads. Where it leads nowhere, nothing does. -/
def entry? (t : Tree) (directory : Place) (p : Path) : Except Fault (Option Entry) :=
  match t.locate directory p with
  | .ok place => .ok (t.at? place)
  | .error .nameTooLong => .error ⟨.nameTooLong, p.text⟩
  | .error .denied => .error ⟨.denied, p.text⟩
  | .error _ => .ok none

def isFile (t : Tree) (directory : Place) (p : Path) : Except Fault Bool := do
  match ← t.entry? directory p with
  | some (.file _) => return true
  | _ => return false

def isDirectory (t : Tree) (directory : Place) (p : Path) : Except Fault Bool := do
  match ← t.entry? directory p with
  | some .directory | some .closed => return true
  | _ => return false

/-! ### Reading and writing -/

def read (t : Tree) (directory : Place) (p : Path) : Except Fault (List UInt8) := do
  match t.at? (← t.placeOf directory p) with
  | some (.file content) => .ok content
  | some .directory | some .closed => .error ⟨.isDirectory, p.text⟩
  | none => .error ⟨.missing, p.text⟩

/-- The tree after a file was written. Its directory must be there. -/
def write (t : Tree) (directory : Place) (p : Path) (content : List UInt8) : Except Fault Tree := do
  let place ← t.placeOf directory p
  match t.at? place with
  | some .directory | some .closed => .error ⟨.isDirectory, p.text⟩
  | _ => .ok (t.put place (.file content))

/-- The tree after a new directory was made. -/
def makeDirectory (t : Tree) (directory : Place) (p : Path) : Except Cause Tree := do
  let place ← t.locate directory p
  match t.at? place with
  | some _ => .error .exists
  | none => .ok (t.put place .directory)

end Tree

/-! ### Several changes -/

/-- Changes to files, any of which may fail. What was changed before stays changed. -/
abbrev Filing (ε : Type) := ExceptT ε (StateM Tree)

namespace Filing

/-- Makes a directory, unless it is there. -/
def ensureDirectory (directory : Place) (p : Path) : Filing Fault Unit := do
  let t ← get
  match t.makeDirectory directory p with
  | .ok made => set made
  | .error cause => if !(← t.isDirectory directory p) then throw ⟨cause, p.text⟩

/-- Makes a directory, and before it as many of those that it is in as `levels` allows and as are
missing. -/
def ensureDirectories (directory : Place) : (levels : Nat) → Path → Filing Fault Unit
  | 0, p => ensureDirectory directory p
  | levels + 1, p => do
    match (← get).makeDirectory directory p with
    | .error .missing =>
      ensureDirectories directory levels p.parent
      ensureDirectory directory p
    | _ => ensureDirectory directory p

/-- Makes a directory with all the directories that it is in. -/
def makeDirectories (directory : Place) (p : Path) : Filing Fault Unit :=
  ensureDirectories directory p.names.length p

def write (directory : Place) (p : Path) (content : List UInt8) : Filing Fault Unit := do
  set (← (← get).write directory p content)

end Filing

end RestRoutes.File
