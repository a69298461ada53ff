import RestRoutes.Text.Hex
import RestRoutes.Value.Text
import RestRoutes.Yaml.Cursor
import RestRoutes.Yaml.Tag

/-! Writing YAML in block style.  Lists are not indented inside maps, lines are folded after eighty
columns, and a text is quoted where it would be read as something else. Characters outside ASCII are
escaped. -/

namespace RestRoutes.Yaml.Writer

def width : Nat := 80

def blanks (n : Nat) : List Char := List.replicate n ' '

def newLine (indent : Nat) : List Char := '\n' :: blanks indent

/-! ### Choosing a style -/

/-- A character that is written as itself without double quotes. -/
def isSimple (c : Char) : Bool := c == '\n' || (0x20 ≤ c.toNat && c.toNat ≤ 0x7E)

/-- The text starts like a document mark. -/
def startsLikeMark (cs : List Char) : Bool :=
  "---".toList.isPrefixOf cs || "...".toList.isPrefixOf cs

/-- The first character means something else at the start of a plain scalar. -/
def startsLikeMarkup : List Char → Bool
  | [] => false
  | c :: rest =>
    "#,[]\x7b\x7d&*!|>'\"%@".toList.contains c || c.toNat == 0x60 ||
      ((c == '?' || c == ':' || c == '-') && endsPlain rest.head?)

/-- A colon before a blank, or a number sign after one. -/
def hasMarkup : List Char → Bool
  | [] => false
  | c :: rest =>
    (c == ':' && endsPlain rest.head?) ||
      (endsPlain (some c) && rest.head? == some '#') || hasMarkup rest

/-- The character `a` stands somewhere with `b` right after it. -/
def hasNextTo (a b : Char) : List Char → Bool
  | [] => false
  | c :: rest => (c == a && rest.head? == some b) || hasNextTo a b rest

inductive Style
  | plain
  | single
  | double
deriving DecidableEq, Repr

/-- The text can be written without quotes. -/
def allowsPlain (cs : List Char) : Bool :=
  let ends (c : Option Char) : Bool := c == some ' ' || c == some '\n'
  cs.all isSimple && !cs.contains '\n' && !ends cs.head? && !ends cs.getLast? &&
    !startsLikeMark cs && !startsLikeMarkup cs && !hasMarkup cs

/-- The text can be written in single quotes. -/
def allowsSingle (cs : List Char) : Bool :=
  cs.all isSimple && !hasNextTo '\n' ' ' cs && !hasNextTo ' ' '\n' cs

/-- The style of a text, of which a key must not have line breaks. -/
def styleOf (isKey : Bool) (text : String) : Style :=
  let cs := text.toList
  if Tag.ofPlain text == .str && allowsPlain cs then .plain
  else if allowsSingle cs && !(isKey && cs.contains '\n') then .single
  else .double

/-! ### Scalars

Every writer of a scalar starts at a column and folds to an indentation. -/

/-- The runs of blanks, of line breaks and of other characters. -/
def runs (cs : List Char) : List (List Char) :=
  let kind (c : Char) : Nat := if c == ' ' then 0 else if c == '\n' then 1 else 2
  cs.splitBy fun a b => kind a == kind b

/-- A plain scalar by its runs: a single blank beyond the width folds the line. -/
def plainRuns (fold : Bool) (indent : Nat) : (column : Nat) → List (List Char) → List Char
  | _, [] => []
  | column, run :: rest =>
    if fold && run == [' '] && width < column then
      newLine indent ++ plainRuns fold indent indent rest
    else run ++ plainRuns fold indent (column + run.length) rest

/-- The characters of a run in single quotes, in which a quote is written twice. -/
def doubleQuotes (cs : List Char) : List Char :=
  cs.flatMap fun c => if c == '\'' then ['\'', '\''] else [c]

/-- A text in single quotes by its runs: a single blank beyond the width folds the line unless it is
first or last, and line breaks are written once more than they count. -/
def singleRuns (fold : Bool) (indent : Nat) : (first : Bool) → (column : Nat) → List (List Char) → List Char
  | _, _, [] => []
  | first, column, run :: rest =>
    if run.head? == some '\n' then
      List.replicate (run.length + 1) '\n' ++ blanks indent ++ singleRuns fold indent false indent rest
    else if fold && run == [' '] && width < column && !first && !rest.isEmpty then
      newLine indent ++ singleRuns fold indent false indent rest
    else
      let written := doubleQuotes run
      written ++ singleRuns fold indent false (column + written.length) rest

def escape (c : Char) : List Char :=
  let named := [('\x00', '0'), ('\x07', 'a'), ('\x08', 'b'), ('\t', 't'), ('\n', 'n'), ('\x0b', 'v'),
    ('\x0c', 'f'), ('\r', 'r'), ('\x1b', 'e'), ('"', '"'), ('\\', '\\'), ('\x85', 'N'),
    ('\xa0', '_'), ('\u2028', 'L'), ('\u2029', 'P')]
  match named.lookup c with
  | some letter => ['\\', letter]
  | none =>
    if c.toNat ≤ 0xFF then '\\' :: 'x' :: Text.hex true 2 c.toNat
    else if c.toNat ≤ 0xFFFF then '\\' :: 'u' :: Text.hex true 4 c.toNat
    else '\\' :: 'U' :: Text.hex true 8 c.toNat

/-- A character that is escaped in double quotes. -/
def needsEscape (c : Char) : Bool :=
  c == '"' || c == '\\' || !(0x20 ≤ c.toNat && c.toNat ≤ 0x7E)

/-- A fold inside double quotes. A blank after it is escaped. -/
def quotedFold (indent : Nat) (following : Option Char) : List Char :=
  '\\' :: newLine indent ++ (if following == some ' ' then ['\\'] else [])

/-- The column after a fold inside double quotes. -/
def afterFold (indent : Nat) (following : Option Char) : Nat :=
  if following == some ' ' then indent + 1 else indent

/-- A text in double quotes.  `pending` are the characters since the last escape or fold, last first,
and `column` is where they start. Lines are folded before blanks, and next to escapes. -/
def doubleChars (fold : Bool) (indent : Nat) :
    (first : Bool) → (column : Nat) → (pending : List Char) → List Char → List Char
  | _, _, pending, [] => pending.reverse
  | first, column, pending, c :: rest =>
    let inside := fold && !first && !rest.isEmpty
    if needsEscape c then
      let written := pending.reverse ++ escape c
      let column := column + written.length
      if inside && width + 1 < column then
        written ++ quotedFold indent rest.head? ++
          doubleChars fold indent false (afterFold indent rest.head?) [] rest
      else written ++ doubleChars fold indent false column [] rest
    else if inside && (c == ' ' || pending.isEmpty) && width < column + pending.length then
      pending.reverse ++ quotedFold indent (some c) ++
        doubleChars fold indent false (afterFold indent (some c)) [c] rest
    else doubleChars fold indent false column (c :: pending) rest

/-- A text from a column on, in the style that it needs. -/
def text (isKey : Bool) (indent column : Nat) (s : String) : List Char :=
  let cs := s.toList
  let fold := !isKey
  match styleOf isKey s with
  | .plain => plainRuns fold indent column (runs cs)
  | .single => '\'' :: singleRuns fold indent true (column + 1) (runs cs) ++ ['\'']
  | .double => '"' :: doubleChars fold indent true (column + 1) [] cs ++ ['"']

def scalar (indent column : Nat) : Value → List Char
  | .null => "null".toList
  | .bool b => (if b then "true" else "false").toList
  | .str s => text false indent column s
  | v => (v.text?.getD "").toList

def key : Value → List Char
  | .str s => text true 0 0 s
  | k => scalar 0 0 k

/-! ### Collections -/

mutual

/-- What stands after the colon of an entry whose key starts at `indent` and ends before `column`. -/
def entryValue (indent column : Nat) : Value → List Char
  | .map [] => " \x7b\x7d".toList
  | .list [] => " []".toList
  | .map ((k, v) :: es) =>
    newLine (indent + 2) ++ key k ++ ':' :: entryValue (indent + 2) (indent + 3 + (key k).length) v ++
      moreEntries (indent + 2) es
  | .list (x :: xs) =>
    newLine indent ++ '-' :: itemValue indent x ++ moreItems indent xs
  | v => ' ' :: scalar (indent + 2) (column + 1) v

/-- What stands after the dash of an item at `indent`. -/
def itemValue (indent : Nat) : Value → List Char
  | .map [] => " \x7b\x7d".toList
  | .list [] => " []".toList
  | .map ((k, v) :: es) =>
    ' ' :: key k ++ ':' :: entryValue (indent + 2) (indent + 3 + (key k).length) v ++
      moreEntries (indent + 2) es
  | .list (x :: xs) => ' ' :: '-' :: itemValue (indent + 2) x ++ moreItems (indent + 2) xs
  | v => ' ' :: scalar (indent + 2) (indent + 2) v

def moreEntries (indent : Nat) : List (Value × Value) → List Char
  | [] => []
  | (k, v) :: es =>
    newLine indent ++ key k ++ ':' :: entryValue indent (indent + 1 + (key k).length) v ++
      moreEntries indent es

def moreItems (indent : Nat) : List Value → List Char
  | [] => []
  | x :: xs => newLine indent ++ '-' :: itemValue indent x ++ moreItems indent xs

end

def render (entries : List (Value × Value)) : String :=
  match entries with
  | [] => "\x7b\x7d\n"
  | (k, v) :: es =>
    String.ofList (key k ++ ':' :: entryValue 0 (1 + (key k).length) v ++ moreEntries 0 es ++ ['\n'])

end RestRoutes.Yaml.Writer
