import RestRoutes.Text.Split
import RestRoutes.Text.Case

/-! Paths as they are written: names between slashes.  Empty names and single dots say nothing and are
dropped; two dots stay, because what they lead to depends on the files that are there. -/

namespace RestRoutes.File

/-- A path: the slashes it starts with, of which one or two are told apart, and its names. -/
structure Path where
  root : List Char
  names : List String
deriving DecidableEq, Repr

namespace Path

def isSlash (c : Char) : Bool := c == '/'

/-- The start of a path that begins with `count` slashes. -/
def rootOf (count : Nat) : List Char :=
  if count = 0 then [] else if count = 2 then ['/', '/'] else ['/']

/-- The names that a text has between its slashes. -/
def namesIn (cs : List Char) : List String :=
  ((Text.splitAll isSlash cs).map String.ofList).filter fun name => name != "" && name != "."

def ofText (text : String) : Path :=
  ⟨rootOf (text.toList.takeWhile isSlash).length, namesIn text.toList⟩

/-- A path as text. The path without names that starts nowhere is a single dot. -/
def text (p : Path) : String :=
  if p.root.isEmpty && p.names.isEmpty then "."
  else String.ofList p.root ++ String.intercalate "/" p.names

def isAbsolute (p : Path) : Bool := !p.root.isEmpty

def child (p : Path) (name : String) : Path := { p with names := p.names ++ [name] }

/-- The directory that a path is in. The root and the empty path are in themselves. -/
def parent (p : Path) : Path := { p with names := p.names.dropLast }

/-- The ending of a name: what follows its last point, and the point, when there is something before
and behind it. -/
def suffixOf (name : String) : String :=
  match Text.cutLast (· == '.') name.toList with
  | some (_ :: _, tail@(_ :: _)) => String.ofList ('.' :: tail)
  | _ => ""

/-- The ending of the last name of a path, in small letters. -/
def suffix (p : Path) : String :=
  String.ofList (Text.lowerText (suffixOf (p.names.getLast?.getD "")).toList)

end Path

end RestRoutes.File
