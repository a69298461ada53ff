import RestRoutes.Yaml.Error

/-! A place in a YAML text, and the primitive steps of a reader over it. -/

namespace RestRoutes.Yaml

/-- The characters that end a line. -/
def isBreak (c : Char) : Bool :=
  c == '\r' || c == '\n' || c == '\x85' || c == '\u2028' || c == '\u2029'

/-- The end of the line, or of the text. -/
def endsLine : Option Char → Bool
  | none => true
  | some c => isBreak c

/-- A blank, or the end of the line. -/
def endsWord : Option Char → Bool
  | none => true
  | some c => c == ' ' || isBreak c

/-- A blank or a tab, or the end of the line. -/
def endsPlain : Option Char → Bool
  | none => true
  | some c => c == ' ' || c == '\t' || isBreak c

/-- What is still to be read, with the number of characters before it and the place in the lines
of the text. -/
structure Cursor where
  rest : List Char
  index : Nat
  line : Nat
  column : Nat

namespace Cursor

def ofText (cs : List Char) : Cursor := ⟨cs, 0, 0, 0⟩

/-- The place after the next character. A carriage return before a line feed ends no line of its
own, and a byte order mark takes no column. -/
def next (c : Cursor) : Cursor :=
  match c.rest with
  | [] => c
  | '\r' :: '\n' :: rest => ⟨'\n' :: rest, c.index + 1, c.line, c.column + 1⟩
  | x :: rest =>
    if isBreak x then ⟨rest, c.index + 1, c.line + 1, 0⟩
    else ⟨rest, c.index + 1, c.line, if x == '\uFEFF' then c.column else c.column + 1⟩

def skip : Nat → Cursor → Cursor
  | 0, c => c
  | n + 1, c => c.next.skip n

end Cursor

/-- A reader over a text. -/
abbrev Scan := StateT Cursor (Except Error)

namespace Scan

def fail {α : Type} (what : Problem) : Scan α := throw (.problem what)

def peekAt (n : Nat) : Scan (Option Char) := return (← get).rest[n]?

def peek : Scan (Option Char) := return (← get).rest.head?

def skip (n : Nat) : Scan Unit := modify (·.skip n)

/-- Reads the longest run of characters that satisfy `p`. -/
def takeWhile (p : Char → Bool) : Scan (List Char) := do
  let cs := (← get).rest.takeWhile p
  skip cs.length
  return cs

def skipBlanks : Scan Unit := do let _ ← takeWhile (· == ' ')

/-- Reads a line break, if one is next, as the characters it stands for: only the line and paragraph
separators are kept. -/
def lineBreak : Scan (List Char) := do
  match (← get).rest with
  | '\r' :: '\n' :: _ => skip 2; return ['\n']
  | c :: _ =>
    if c == '\u2028' || c == '\u2029' then skip 1; return [c]
    else if isBreak c then skip 1; return ['\n']
    else return []
  | [] => return []

/-- Passes over a comment, if one is next. -/
def skipComment : Scan Unit := do
  if (← peek) == some '#' then
    let _ ← takeWhile fun c => !isBreak c

/-- Passes over blanks, a comment and the end of the line, which must follow. -/
def finishLine (what : Problem) : Scan Unit := do
  skipBlanks
  skipComment
  if !endsLine (← peek) then fail what
  let _ ← lineBreak

/-- A document mark is next: three dashes or points with a blank or the end of the line after
them. -/
def atDocumentMark : Scan Bool := do
  match (← get).rest with
  | a :: b :: c :: rest =>
    return ((a == '-' && b == '-' && c == '-') || (a == '.' && b == '.' && c == '.')) &&
      endsPlain rest.head?
  | _ => return false

end Scan

end RestRoutes.Yaml
