import RestRoutes.CommandLine.Scan
import RestRoutes.Console
import RestRoutes.Settings.Layers
import RestRoutes.Sink.Format

/-! What a command line asks for. -/

namespace RestRoutes.CommandLine

/-! ### Options before the command -/

structure Flags where
  json : Bool
  plain : Bool
  noColour : Bool
  quiet : Bool
  verbose : Bool
deriving DecidableEq, Repr

inductive FlagItem
  | version
  | help
  | json
  | plain
  | noColour
  | quiet
  | verbose
deriving DecidableEq, Repr

def flagOptions : Options FlagItem :=
  [("--version", .flag .version), ("--json", .flag .json), ("--plain", .flag .plain),
    ("--no-color", .flag .noColour), ("--quiet", .flag .quiet), ("-q", .flag .quiet),
    ("--verbose", .flag .verbose), ("-v", .flag .verbose), ("--help", .flag .help)]

def Flags.ofItems (items : List FlagItem) : Flags :=
  { json := items.contains .json
    plain := items.contains .plain
    noColour := items.contains .noColour
    quiet := items.contains .quiet
    verbose := items.contains .verbose }

/-- The console that flags ask for. The standard output may be a terminal. -/
def Flags.console (f : Flags) (m : Machine) (terminal : Bool) : Console :=
  { presentation :=
      if f.json then .json else if f.plain then .plain
      else Console.automatic m terminal f.noColour
    quiet := f.quiet
    verbose := f.verbose }

/-! ### Commands -/

/-- What to generate: from which document, into which file, and with which settings. -/
structure GenerateOptions where
  source : String
  file : Option String
  format : Option Sink.Format
  filter : Option String
  destination : Option String
  continueOnError : Option Bool
  rest : RestConfiguration
deriving DecidableEq, Repr

/-- What the command line says about the settings. -/
def GenerateOptions.overrides (o : GenerateOptions) : Settings.Overrides :=
  ⟨o.filter, o.destination, o.format.map (·.name), o.continueOnError, o.rest⟩

inductive GenerateItem
  | help
  | filter (text : String)
  | destination (text : String)
  | format (name : String)
  | file (name : String)
  | component (text : String)
  | contextPath (text : String)
  | apiContextPath (text : String)
  | host (text : String)
  | continueOnError (b : Bool)
deriving DecidableEq, Repr

def generateOptions : Options GenerateItem :=
  [("--filter", .valued .filter), ("-f", .valued .filter),
    ("--destination", .valued .destination), ("-d", .valued .destination),
    ("--format", .valued .format), ("--output", .valued .file), ("-o", .valued .file),
    ("--component", .valued .component), ("--context-path", .valued .contextPath),
    ("--api-context-path", .valued .apiContextPath), ("--host", .valued .host),
    ("--continue-on-error", .flag (.continueOnError true)),
    ("--fail-fast", .flag (.continueOnError false)), ("--help", .flag .help)]

/-- Takes in one item. A later item replaces an earlier one. `none` for an unknown format. -/
def GenerateOptions.add (o : GenerateOptions) : GenerateItem → Option GenerateOptions
  | .help => some o
  | .filter text => some { o with filter := some text }
  | .destination text => some { o with destination := some text }
  | .format name => (Sink.Format.ofName? name).map fun f => { o with format := some f }
  | .file name => some { o with file := some name }
  | .component text => some { o with rest := { o.rest with component := some text } }
  | .contextPath text => some { o with rest := { o.rest with contextPath := some text } }
  | .apiContextPath text => some { o with rest := { o.rest with apiContextPath := some text } }
  | .host text => some { o with rest := { o.rest with host := some text } }
  | .continueOnError b => some { o with continueOnError := some b }

def GenerateOptions.ofSource (source : String) : GenerateOptions :=
  ⟨source, none, none, none, none, none, .none⟩

structure ListOptions where
  source : String
  filter : Option String
deriving DecidableEq, Repr

inductive ListItem
  | help
  | filter (text : String)
deriving DecidableEq, Repr

def listOptions : Options ListItem :=
  [("--filter", .valued .filter), ("-f", .valued .filter), ("--help", .flag .help)]

def ListOptions.add (o : ListOptions) : ListItem → ListOptions
  | .help => o
  | .filter text => { o with filter := some text }

inductive Command
  | generate (o : GenerateOptions)
  | operations (o : ListOptions)
deriving DecidableEq, Repr

/-- What a command line asks for. -/
inductive Invocation
  | version
  | help
  | run (flags : Flags) (command : Command)
deriving DecidableEq, Repr

namespace Invocation

/-- The command `generate` with the words after it. A format must be a known one, of several the last;
a document must be named. -/
def generate (flags : Flags) (words : List String) : Option Invocation := do
  let scanned ← scan generateOptions true words
  if scanned.items.contains .help then return .help
  let [source] := scanned.words | none
  let formats := scanned.items.filter fun | .format _ => true | _ => false
  let others := scanned.items.filter fun | .format _ => false | _ => true
  let o ← (others ++ formats.getLast?.toList).foldlM GenerateOptions.add (.ofSource source)
  return .run flags (.generate o)

/-- The command `operations` with the words after it. -/
def operations (flags : Flags) (words : List String) : Option Invocation := do
  let scanned ← scan listOptions true words
  if scanned.items.contains .help then return .help
  let [source] := scanned.words | none
  return .run flags (.operations (scanned.items.foldl ListOptions.add ⟨source, none⟩))

/-- The first item that asks for something else than a command. -/
def instead? (items : List FlagItem) : Option Invocation :=
  items.findSome? fun
    | .version => some .version
    | .help => some .help
    | _ => none

/-- What the words of a command line ask for. `none` if they are misused. -/
def ofWords (words : List String) : Option Invocation := do
  let scanned ← scan flagOptions false words
  match instead? scanned.items with
  | some invocation => return invocation
  | none =>
    let flags := Flags.ofItems scanned.items
    match scanned.words with
    | "generate" :: rest => generate flags rest
    | "operations" :: rest => operations flags rest
    | _ => none

end Invocation

end RestRoutes.CommandLine
