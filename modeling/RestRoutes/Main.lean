import RestRoutes.CommandLine.Execution
import RestRoutes.Text.Name

/-! The command line program: it looks up what a command may need, carries it out, and writes what it
leaves behind.  Documents are not fetched from addresses. -/

open RestRoutes CommandLine

namespace RestRoutes.Main

/-- The variables that commands look at. -/
def variableNames : List String :=
  ["HOME", "XDG_CONFIG_HOME", "XDG_DATA_HOME", "NO_COLOR", "TERM"] ++
    Settings.variableNames.map (·.1)

def environment : IO (List (String × String)) := do
  let values ← variableNames.mapM fun name => do return (name, ← IO.getEnv name)
  return values.filterMap fun (name, value) => value.map (name, ·)

def placeText (place : File.Place) : String := "/" ++ String.intercalate "/" place

/-- What stands at a place. What cannot be looked at counts as missing. -/
def entryAt (place : File.Place) : IO (Option File.Entry) := do
  try
    let path ← IO.FS.realPath (placeText place)
    if ← path.isDir then return some .directory
    return some (.file (← IO.FS.readBinFile path).toList)
  catch _ => return none

/-- What stands on the way along names from a place. -/
def entriesAlong (here : File.Place) : List String → IO (List (File.Place × File.Entry))
  | [] => return []
  | name :: rest => do
    let place := if name = ".." then here.dropLast else here ++ [name]
    match ← entryAt place with
    | some e => return (place, e) :: (← entriesAlong place rest)
    | none => entriesAlong place rest

def pathsOf (m : Machine) : Invocation → List File.Path
  | .run _ command =>
    let own := match command with
      | .generate o => [.ofText o.source] ++ (o.file.map File.Path.ofText).toList
      | .operations o => [.ofText o.source]
    let record := m.dataDirectory.map fun p => (p.child "logs").child (crashName m)
    (Settings.userPath m).toOption.toList ++ [Settings.projectPath m] ++ record.toOption.toList ++ own
  | _ => []

/-- The standard input, for a command that reads it. -/
def inputFor (invocation : Invocation) : IO String := do
  let source := match invocation with
    | .run _ (.generate o) => o.source
    | .run _ (.operations o) => o.source
    | _ => ""
  if source = "-" then (← IO.getStdin).readToEnd else return ""

/-- The machine as far as a command may see it. -/
def machineFor (invocation : Invocation) : IO Machine := do
  let directory := (File.Path.ofText (← IO.currentDir).toString).names
  let m : Machine :=
    { system := "Linux"
      environment := ← environment
      accountHome := some "/"
      directory
      tree := ⟨[]⟩
      input := ← inputFor invocation
      fetch := fun _ => .unreachable "no network"
      moment := toString (← IO.monoMsNow)
      charNames := Text.named? }
  let paths := m.workingPath :: pathsOf m invocation
  let entries ← paths.mapM fun p =>
    entriesAlong (if p.isAbsolute then [] else directory) p.names
  return { m with tree := ⟨entries.flatten⟩ }

def writeNew (before after : File.Tree) : IO Unit := do
  for (place, entry) in after.entries do
    if before.at? place != some entry then
      match entry with
      | .directory | .closed => IO.FS.createDirAll (placeText place)
      | .file content => IO.FS.writeBinFile (placeText place) ⟨content.toArray⟩

def perform (words : List String) : IO UInt32 := do
  let m ← machineFor ((Invocation.ofWords words).getD .help)
  let output ← IO.getStdout
  let notices ← IO.getStderr
  let outcome := run m (← output.isTty) words
  writeNew m.tree outcome.tree
  output.putStr outcome.output
  for r in outcome.log do notices.putStrLn (r.level.name ++ " " ++ r.text)
  notices.putStr outcome.notices
  for d in outcome.escaped do notices.putStrLn (crashLine d)
  return outcome.exitCode.toUInt32

end RestRoutes.Main

def main (words : List String) : IO UInt32 := RestRoutes.Main.perform words
