import RestRoutes.Pattern.RegexReader
import RestRoutes.Text.Split

/-! Shell-style wildcards: a star for any text, a question mark for any character, and brackets for
one character of a set. -/

namespace RestRoutes.Pattern

/-- A part of a wildcard. -/
inductive GlobItem
  | star
  | one (set : CharSet)
deriving DecidableEq, Repr

namespace Glob

/-! ### Sets in brackets -/

/-- The text between brackets is cut at the hyphens that may write a range: each has at least one
character before it, and at least two stand between two of them.  `run` is what was read of the
current piece, last first, and `skip` the number of characters that are no such hyphen. -/
def pieces : (skip : Nat) → (run : List Char) → List Char → List (List Char)
  | _, run, [] => [run.reverse]
  | 0, run, '-' :: rest => run.reverse :: pieces 2 [] rest
  | skip, run, c :: rest => pieces (skip - 1) (c :: run) rest

/-- The pieces without an empty one at the end, whose hyphen goes to the piece before. -/
def closeHyphen : List (List Char) → List (List Char)
  | [] => []
  | [piece, []] => [piece ++ ['-']]
  | piece :: rest => piece :: closeHyphen rest

/-- The pieces joined where the range between two of them would be empty; the ends of that range
are dropped. -/
def joinEmptyRanges : List (List Char) → List (List Char)
  | [] => []
  | piece :: rest =>
    match joinEmptyRanges rest with
    | [] => [piece]
    | next :: others =>
      match piece.getLast?, next.head? with
      | some low, some high =>
        if high < low then (piece.dropLast ++ next.drop 1) :: others
        else piece :: next :: others
      | _, _ => piece :: next :: others

/-- A character that must be escaped in the text of a set. -/
def escapeIn (c : Char) : List Char :=
  if c == '\\' || c == '-' || c == '&' || c == '~' || c == '|' then ['\\', c] else [c]

/-- The text of a set with the given pieces, a range between each two of them. -/
def setText (pieces : List (List Char)) : List Char :=
  List.intercalate ['-'] (pieces.map fun piece => piece.flatMap escapeIn)

/-- The characters between brackets as the text of a set. -/
def bracketText (cs : List Char) : List Char :=
  let skip := if cs.head? == some '!' then 2 else 1
  if cs.contains '-' then setText (joinEmptyRanges (closeHyphen (pieces skip [] cs)))
  else setText [cs]

/-- The set that the text of a set writes, with the mark for its complement. -/
def bracketSet (text : List Char) : CharSet :=
  match text with
  | [] => ⟨false, [], .exact⟩
  | ['!'] => .any
  | _ =>
    let body := match text with
      | '!' :: rest => '^' :: rest
      | '^' :: rest => '\\' :: '^' :: rest
      | cs => cs
    -- Every reverse solidus of the body is escaped, so that it names no character.
    match Regex.read .none (String.ofList ('[' :: body ++ [']'])) with
    | .ok (.one set) => set
    | _ => ⟨false, [], .exact⟩

/-! ### Reading -/

/-- The characters after an opening bracket up to the closing one, and the rest.  A closing bracket
at the front, or after the mark for the complement, is a member. -/
def bracketed? (cs : List Char) : Option (List Char × List Char) :=
  let (mark, cs) := match cs with
    | '!' :: rest => (['!'], rest)
    | cs => ([], cs)
  let (first, cs) := match cs with
    | ']' :: rest => ([']'], rest)
    | cs => ([], cs)
  (Text.cutFirst (· == ']') cs).map fun (inner, rest) => (mark ++ first ++ inner, rest)

/-- The parts of a wildcard. The fuel bounds the characters. -/
def items : (fuel : Nat) → List Char → List GlobItem
  | 0, _ | _, [] => []
  | fuel + 1, '*' :: rest => .star :: items fuel rest
  | fuel + 1, '?' :: rest => .one .any :: items fuel rest
  | fuel + 1, '[' :: rest =>
    match bracketed? rest with
    | some (inner, rest) => .one (bracketSet (bracketText inner)) :: items fuel rest
    | none => .one (.single .exact '[') :: items fuel rest
  | fuel + 1, c :: rest => .one (.single .exact c) :: items fuel rest

def read (text : String) : List GlobItem := items text.length text.toList

/-! ### Matching -/

/-- The rests of a text that its characters may leave, longest first. -/
def tails : List Char → List (List Char)
  | [] => [[]]
  | c :: rest => (c :: rest) :: tails rest

/-- What may be left of the given rests, longest first, after one part. -/
def advance (rests : List (List Char)) : GlobItem → List (List Char)
  | .star => ((rests.head?).map tails).getD []
  | .one set => rests.filterMap fun
    | c :: rest => if set.has c then some rest else none
    | [] => none

/-- A wildcard matches a text from its start to its end. -/
def matchesAll (glob : List GlobItem) (text : String) : Bool :=
  (glob.foldl advance [text.toList]).contains []

end Glob

end RestRoutes.Pattern
