import RestRoutes.Text.Hex
import RestRoutes.Value.Text

/-! Writing JSON.  Characters outside ASCII are written as they are; control characters, the
quotation mark and the reverse solidus are escaped. -/

namespace RestRoutes.Json

def escapeChar (c : Char) : List Char :=
  if c = '"' then ['\\', '"']
  else if c = '\\' then ['\\', '\\']
  else if c = '\n' then ['\\', 'n']
  else if c = '\r' then ['\\', 'r']
  else if c = '\t' then ['\\', 't']
  else if c = '\x08' then ['\\', 'b']
  else if c = '\x0c' then ['\\', 'f']
  else if c.toNat < 0x20 then '\\' :: 'u' :: Text.hex false 4 c.toNat
  else [c]

def quote (cs : List Char) : List Char := '"' :: cs.flatMap escapeChar ++ ['"']

def quoted (s : String) : String := String.ofList (quote s.toList)

/-- A scalar on its own; what JSON has no form for is written as a string. -/
def scalar : Value → List Char
  | .null => "null".toList
  | .bool true => "true".toList
  | .bool false => "false".toList
  | .int n => ((integerText? n).getD "").toList
  | .float .nan => "NaN".toList
  | .float (.infinity false) => "Infinity".toList
  | .float (.infinity true) => "-Infinity".toList
  | .float x => x.text.toList
  | .str s => quote s.toList
  | v => quote ((v.text?).getD "").toList

def nameChars : Value → List Char
  | .str s => quote s.toList
  | k => '"' :: scalar k ++ ['"']

/-- How a collection is laid out: what stands before its first item, between two items, before its
closing bracket, and between a name and its value. -/
structure Layout where
  opening : Nat → List Char
  between : Nat → List Char
  closing : Nat → List Char
  colon : List Char

/-- A new line, indented two blanks a level. -/
def newLine (depth : Nat) : List Char := '\n' :: List.replicate (2 * depth) ' '

/-- One item a line. -/
def indented : Layout :=
  { opening := fun depth => newLine (depth + 1)
    between := fun depth => ',' :: newLine (depth + 1)
    closing := newLine
    colon := [':', ' '] }

/-- Everything in one line, without blanks. -/
def compact : Layout :=
  { opening := fun _ => [], between := fun _ => [','], closing := fun _ => [], colon := [':'] }

mutual

/-- A value at a depth of nesting. -/
def write (layout : Layout) (depth : Nat) : Value → List Char
  | .list [] => ['[', ']']
  | .list (x :: xs) =>
    '[' :: layout.opening depth ++ write layout (depth + 1) x ++ writeItems layout depth xs ++
      layout.closing depth ++ [']']
  | .tuple [] => ['[', ']']
  | .tuple (x :: xs) =>
    '[' :: layout.opening depth ++ write layout (depth + 1) x ++ writeItems layout depth xs ++
      layout.closing depth ++ [']']
  | .map [] => ['\x7b', '\x7d']
  | .map ((k, v) :: es) =>
    '\x7b' :: layout.opening depth ++ nameChars k ++ layout.colon ++ write layout (depth + 1) v ++
      writeMembers layout depth es ++ layout.closing depth ++ ['\x7d']
  | v => scalar v

def writeItems (layout : Layout) (depth : Nat) : List Value → List Char
  | [] => []
  | x :: xs => layout.between depth ++ write layout (depth + 1) x ++ writeItems layout depth xs

def writeMembers (layout : Layout) (depth : Nat) : List (Value × Value) → List Char
  | [] => []
  | (k, v) :: es =>
    layout.between depth ++ nameChars k ++ layout.colon ++ write layout (depth + 1) v ++
      writeMembers layout depth es

end

def render (layout : Layout) (v : Value) : String := String.ofList (write layout 0 v)

end RestRoutes.Json
