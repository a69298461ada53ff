import RestRoutes.Failure
import RestRoutes.File.Tree
import RestRoutes.Text.Newline

/-! What a command finds on the machine that it runs on, and the directories that it keeps its
files in. -/

namespace RestRoutes

/-- What comes back when a document is fetched from an address. -/
inductive Response
  | unreachable (reason : String)
  | answer (status : Nat) (contentType body : String)
deriving DecidableEq, Repr

structure Machine where
  /-- The name of the operating system. -/
  system : String
  environment : List (String × String)
  /-- The home directory of the account, if it has one. -/
  accountHome : Option String
  /-- The directory that paths start from. -/
  directory : File.Place
  tree : File.Tree
  /-- The standard input. -/
  input : String
  fetch : String → Response
  /-- The moment, as it is put into names of files. -/
  moment : String
  /-- The characters by the names that the character database has for them. -/
  charNames : String → Option Char

namespace Machine

open File

/-- The value of a variable, where an empty one counts as missing. -/
def valueOf? (m : Machine) (name : String) : Option String :=
  (m.environment.lookup name).filter (!·.isEmpty)

def workingPath (m : Machine) : Path := ⟨['/'], m.directory⟩

def isFile (m : Machine) (p : Path) : Except File.Fault Bool := m.tree.isFile m.directory p

/-- The bytes of a file as a text with plain line ends. -/
def textOf (content : List UInt8) : Except Text.Utf8.Fault String :=
  (Text.Utf8.decode content).map fun s => String.ofList (Text.plainNewlines s.toList)

def writeText (m : Machine) (p : Path) (text : String) : Except File.Fault Machine := do
  return { m with tree := ← m.tree.write m.directory p (Text.Utf8.encode text) }

/-! ### Directories -/

/-- The name of the directories of this program. -/
def programName : String := "restdsl"

/-- The system keeps to the base directories that are set by variables. -/
def hasBaseDirectories (m : Machine) : Bool := m.system == "Linux" || Text.endsWith "BSD" m.system

/-- The home directory. A text that begins with a tilde tells none. -/
def home (m : Machine) : Except Defect Path :=
  match (m.environment.lookup "HOME").or m.accountHome with
  | none => .error .noHome
  | some text =>
    if Text.startsWith "~" text then .error .noHome
    else .ok (.ofText (if text.toList.all Path.isSlash then "/" else text))

/-- The base directory that a variable sets, or the one with the given names below the home
directory. -/
def baseDirectory (m : Machine) (name : String) (names : List String) : Except Defect Path :=
  match m.valueOf? name with
  | some text => .ok (.ofText text)
  | none => return names.foldl Path.child (← m.home)

/-- The directory for everything on systems without base directories. -/
def hiddenDirectory (m : Machine) : Except Defect Path := do
  return (← m.home).child ("." ++ programName)

def configDirectory (m : Machine) : Except Defect Path := do
  if m.hasBaseDirectories then
    return (← m.baseDirectory "XDG_CONFIG_HOME" [".config"]).child programName
  else m.hiddenDirectory

/-- The directory of the records of crashes. -/
def dataDirectory (m : Machine) : Except Defect Path := do
  if m.hasBaseDirectories then
    return (← m.baseDirectory "XDG_DATA_HOME" [".local", "share"]).child programName
  else return (← m.hiddenDirectory).child "logs"

def makeDataDirectory (m : Machine) : Filing Defect Path := do
  let p ← m.dataDirectory
  (Filing.makeDirectories m.directory p).adapt .file
  return p

end Machine

end RestRoutes
