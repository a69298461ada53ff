import RestRoutes.Api.Operation
import RestRoutes.Run
import RestRoutes.Text.Blank
import RestRoutes.Text.Split

/-! Where operations are routed to. -/

namespace RestRoutes

/-- Gives each operation its destination. -/
abbrev Destination := Api.Operation → Logged Argument

namespace Destination

open Text

/-! ### Names from paths -/

/-- A letter or digit of ASCII, of which names made from paths consist. -/
def isNameChar (c : Char) : Bool := c.isAlphanum

/-- The name made from a path: a dash in the place of everything between its letters and digits, but
none at its ends. A path without any has none. -/
def slug (path : String) : Except Failure String :=
  match trimBoth (· == '-') (markRuns (!isNameChar ·) '-' false path.toList) with
  | [] => .error (.refusal (.destination (.path path)))
  | name => .ok (String.ofList name)

/-! ### Templates -/

/-- A text with places that the name of an operation is put into. -/
structure Template where
  text : String
deriving DecidableEq, Repr

namespace Template

def direct : Template := ⟨"direct:" ++ placeholder⟩

/-- The pieces of a template between its placeholders. -/
def pieces (t : Template) : List (List Char) :=
  piecesBetween placeholder.toList 0 t.text.toList

/-- The template with a text, which must have a placeholder. -/
def ofText (text : String) : Except Failure Template :=
  if mentions placeholder text then .ok ⟨text⟩
  else .error (.refusal (.destination (.template text)))

/-- The text of a template with a name in every place for it. -/
def fill (t : Template) (name : String) : String :=
  String.ofList (List.intercalate name.toList t.pieces)

/-- Routes an operation to the template filled with its id, or with a name made from its path where it
has none. -/
def destination (t : Template) : Destination := fun op =>
  match op.name? with
  | some name => pure (.text (t.fill name))
  | none => do
    let name ← Logged.ofExcept (slug op.path)
    Logged.record .debug
      ("Operation on '" ++ op.path ++ "' has no id, using '" ++ name ++ "'")
    return .text (t.fill name)

end Template

end Destination

end RestRoutes
