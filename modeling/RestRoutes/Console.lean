import RestRoutes.Json.Writer
import RestRoutes.Log
import RestRoutes.Machine

/-! What a command shows.  Results and listings go to the standard output, notices to the other
channel; neither ever holds anything meant for the other. -/

namespace RestRoutes

/-- A listing: the names of its columns, and its rows. -/
structure Table where
  headers : List String
  rows : List (List String)
deriving DecidableEq, Repr

namespace Table

def plainRow (cells : List String) : String := String.intercalate "\t" cells ++ "\n"

/-- A line for the headers, and one for each row. -/
def plain (t : Table) : String := String.join ((t.headers :: t.rows).map plainRow)

def record (headers row : List String) : Value :=
  .ofNamed (Assoc.ofNamed (headers.zip row) |>.map fun (header, cell) => (header, .str cell))

def json (t : Table) : String :=
  Json.render Json.indented (.list (t.rows.map (record t.headers))) ++ "\n"

end Table

inductive Notice
  | info (text : String)
  | success (text : String)
  | warning (text : String)
  | error (text : String)
  | debug (text : String)
deriving DecidableEq, Repr

/-- How listings are presented. -/
inductive Presentation
  | json
  | plain
  /-- With frames and colours. -/
  | rich
deriving DecidableEq, Repr

def Presentation.name : Presentation → String
  | json => "json"
  | plain => "plain"
  | rich => "rich"

/-- How a command shows its listings and notices. -/
structure Console where
  presentation : Presentation
  quiet : Bool
  verbose : Bool
deriving DecidableEq, Repr

namespace Console

def refusesColour (m : Machine) : Bool :=
  (m.environment.lookup "NO_COLOR").isSome || m.environment.lookup "TERM" == some "dumb"

/-- The presentation where none is asked for: a rich one on a terminal that takes colours. -/
def automatic (m : Machine) (terminal noColour : Bool) : Presentation :=
  if terminal && !(noColour || refusesColour m) then .rich else .plain

/-- A listing in the presentation of a console.  How a rich listing is drawn is not described here: the
plain one stands for it. -/
def listing (c : Console) (t : Table) : String :=
  match c.presentation with
  | .json => t.json
  | .plain | .rich => t.plain

/-- A result: the text with a line end. -/
def result (text : String) : String := Text.endedLine text

/-- The line of a notice. A quiet console leaves out what is only for information, and one that is not
verbose what is for the search of errors. -/
def line (c : Console) : Notice → String
  | .info text | .success text => if c.quiet then "" else text ++ "\n"
  | .warning text => "Warning: " ++ text ++ "\n"
  | .error text => "Error: " ++ text ++ "\n"
  | .debug text => if c.verbose then "[debug] " ++ text ++ "\n" else ""

def lines (c : Console) (notices : List Notice) : String := String.join (notices.map c.line)

/-- The records that a console shows: warnings and errors, and all of them if it is verbose. -/
def shown (c : Console) (log : List Log.Record) : List Log.Record :=
  log.filter fun r => c.verbose || r.level != .debug

end Console

/-- The machine after a result was written to the file with the given name, and what is written to the
standard output instead where no name is given. An empty name is none. -/
def Machine.writeResult (m : Machine) (text : String) (file : Option String) :
    Except File.Fault (Machine × String) :=
  match file.filter (!·.isEmpty) with
  | none => .ok (m, Console.result text)
  | some name => do return (← m.writeText (.ofText name) (Console.result text), "")

end RestRoutes
