import RestRoutes.Yaml.Lexeme

/-! Cutting a YAML text into tokens.  A scalar may turn out to be the key of a mapping only when the
colon after it is read; the place of its token is remembered until then, and the tokens that open
the key are put in front of it. -/

namespace RestRoutes.Yaml

/-- A node that may be a key without the mark for it: the number of its first token, its place, and
whether nothing but a key can stand there. -/
structure PossibleKey where
  token : Nat
  index : Nat
  line : Nat
  column : Nat
  required : Bool

/-- The state of a lexer.  `keys` has an entry for every flow collection that is open, innermost
first, and one more for the block around them; `indents` are the columns of the open block
collections, innermost first, above -1. -/
structure Lexer where
  cursor : Cursor
  tokens : Array Token
  indents : List Nat
  keyAllowed : Bool
  keys : List (Option PossibleKey)

namespace Lexer

def ofText (cs : List Char) : Lexer := ⟨.ofText cs, #[], [], true, [none]⟩

/-- A step of a lexer. -/
abbrev Step := StateT Lexer (Except Error)

def fail {α : Type} (what : Problem) : Step α := throw (.problem what)

/-- Runs a reader at the cursor. -/
def scan {α : Type} (reader : Scan α) : Step α := fun s => do
  let (a, cursor) ← reader s.cursor
  return (a, { s with cursor })

def emit (token : Token) : Step Unit := modify fun s => { s with tokens := s.tokens.push token }

/-- Puts a token in front of the one with number `n`. -/
def emitAt (n : Nat) (token : Token) : Step Unit :=
  modify fun s => { s with tokens := s.tokens.insertIdxIfInBounds n token }

def allowKey (allowed : Bool) : Step Unit := modify fun s => { s with keyAllowed := allowed }

/-- The cursor stands inside a flow collection. -/
def inFlow : Step Bool := return 1 < (← get).keys.length

/-- The column of the innermost block collection, -1 outside all of them. -/
def indent : Step Int := return ((← get).indents.head?.map Int.ofNat).getD (-1)

def column : Step Nat := return (← get).cursor.column

/-- A possible key can no longer be one: it stands on an earlier line or too far back. -/
def PossibleKey.isStale (key : PossibleKey) (c : Cursor) : Bool :=
  key.line != c.line || 1024 < c.index - key.index

def dropStaleKeys : Step Unit := do
  let s ← get
  let stale (key : Option PossibleKey) : Bool := key.any (PossibleKey.isStale · s.cursor)
  if s.keys.any fun key => stale key && key.any (·.required) then fail .missingColon
  set { s with keys := s.keys.map fun key => if stale key then none else key }

def dropKey : Step Unit := do
  let s ← get
  match s.keys with
  | some key :: outer =>
    if key.required then fail .missingColon
    set { s with keys := none :: outer }
  | _ => return ()

/-- Remembers that the next token may start a key. -/
def saveKey : Step Unit := do
  if (← get).keyAllowed then
    let required := !(← inFlow) && (← indent) == (← column)
    dropKey
    let s ← get
    let key : PossibleKey :=
      ⟨s.tokens.size, s.cursor.index, s.cursor.line, s.cursor.column, required⟩
    set { s with keys := some key :: s.keys.drop 1 }

/-- Closes the block collections that are indented deeper than `column`. -/
def unwind (column : Int) : Step Unit := do
  if ← inFlow then return
  let s ← get
  let closed := s.indents.takeWhile fun (n : Nat) => decide (column < n)
  set { s with
    indents := s.indents.drop closed.length
    tokens := s.tokens ++ Array.replicate closed.length Token.blockEnd }

/-- Opens a block collection at a column, if the innermost one is indented less. -/
def openBlock (column : Nat) : Step Bool := do
  if (← indent) < column then
    modify fun s => { s with indents := column :: s.indents }
    return true
  else return false

/-- Passes over blanks, comments and line breaks.  Outside flow collections a key may follow a line
break. -/
def skipToToken : (fuel : Nat) → Step Unit
  | 0 => return ()
  | fuel + 1 => do
    scan Scan.skipBlanks
    scan Scan.skipComment
    let b ← scan Scan.lineBreak
    if !b.isEmpty then
      if !(← inFlow) then allowKey true
      skipToToken fuel

/-- Passes over a byte order mark at the start of the text. -/
def skipByteOrderMark : Step Unit := do
  let c := (← get).cursor
  if c.index == 0 && c.rest.head? == some '\uFEFF' then scan (Scan.skip 1)

/-! ### Tokens -/

def streamEnd : Step Unit := do
  unwind (-1)
  dropKey
  emit .streamEnd

def directive (fuel : Nat) : Step Unit := do
  unwind (-1)
  dropKey
  allowKey false
  emit (← scan (Scan.directive fuel))

def documentMark (token : Token) : Step Unit := do
  unwind (-1)
  dropKey
  allowKey false
  scan (Scan.skip 3)
  emit token

def flowStart (token : Token) : Step Unit := do
  saveKey
  modify fun s => { s with keys := none :: s.keys }
  allowKey true
  scan (Scan.skip 1)
  emit token

def flowEnd (token : Token) : Step Unit := do
  dropKey
  if !(← inFlow) then fail .unexpectedToken
  modify fun s => { s with keys := s.keys.drop 1 }
  allowKey false
  scan (Scan.skip 1)
  emit token

def flowEntry : Step Unit := do
  allowKey true
  dropKey
  scan (Scan.skip 1)
  emit .flowEntry

def blockEntry : Step Unit := do
  if !(← inFlow) then
    if !(← get).keyAllowed then fail .misplacedEntry
    if ← openBlock (← column) then emit .blockSequenceStart
  allowKey true
  dropKey
  scan (Scan.skip 1)
  emit .blockEntry

def key : Step Unit := do
  if !(← inFlow) then
    if !(← get).keyAllowed then fail .misplacedKey
    if ← openBlock (← column) then emit .blockMappingStart
  allowKey (!(← inFlow))
  dropKey
  scan (Scan.skip 1)
  emit .key

def value : Step Unit := do
  let s ← get
  match s.keys with
  | some key :: outer =>
    set { s with keys := none :: outer }
    emitAt key.token .key
    if !(← inFlow) then
      if ← openBlock key.column then emitAt key.token .blockMappingStart
    allowKey false
  | _ =>
    if !(← inFlow) then
      if !(← get).keyAllowed then fail .misplacedValue
      if ← openBlock (← column) then emit .blockMappingStart
    allowKey (!(← inFlow))
    dropKey
  scan (Scan.skip 1)
  emit .value

/-- A token that may start a key. -/
def keyStart (reader : Scan Token) : Step Unit := do
  saveKey
  allowKey false
  emit (← scan reader)

def blockScalar (folded : Bool) (fuel : Nat) : Step Unit := do
  allowKey true
  dropKey
  emit (← scan (Scan.blockScalar folded (← indent) fuel))

def plainScalar (fuel : Nat) : Step Unit := do
  saveKey
  let (token, broken) ← scan (Scan.plainScalar (← inFlow) (← indent) fuel)
  allowKey broken
  emit token

/-- A plain scalar can start with `c` when `following` comes after it. -/
def startsPlain (flow : Bool) (c : Char) (following : Option Char) : Bool :=
  !(endsPlain (some c) || "-?:,[]\x7b\x7d#&*!|>'\"%@".toList.contains c || c.toNat == 0x60) ||
    (!endsPlain following && (c == '-' || (!flow && (c == '?' || c == ':'))))

/-- Reads the next token, and the tokens it brings with it.  The answer is false at the end of the
text. -/
def step (fuel : Nat) : Step Bool := do
  skipByteOrderMark
  skipToToken fuel
  dropStaleKeys
  unwind (← column)
  let flow ← inFlow
  let cs := (← get).cursor.rest
  match cs with
  | [] => streamEnd; return false
  | c :: rest =>
    let following := rest.head?
    let atMark := (← column) == 0 && (← scan Scan.atDocumentMark)
    if c == '%' && (← column) == 0 then directive fuel
    else if c == '-' && atMark then documentMark .documentStart
    else if c == '.' && atMark then documentMark .documentEnd
    else if c == '[' then flowStart .flowSequenceStart
    else if c == '\x7b' then flowStart .flowMappingStart
    else if c == ']' then flowEnd .flowSequenceEnd
    else if c == '\x7d' then flowEnd .flowMappingEnd
    else if c == ',' then flowEntry
    else if c == '-' && endsPlain following then blockEntry
    else if c == '?' && (flow || endsPlain following) then key
    else if c == ':' && (flow || endsPlain following) then value
    else if c == '*' then keyStart (return .alias (← Scan.anchorName))
    else if c == '&' then keyStart (return .anchor (← Scan.anchorName))
    else if c == '!' then keyStart (Scan.tag fuel)
    else if c == '|' && !flow then blockScalar false fuel
    else if c == '>' && !flow then blockScalar true fuel
    else if c == '\'' then keyStart (Scan.quotedScalar false fuel)
    else if c == '"' then keyStart (Scan.quotedScalar true fuel)
    else if startsPlain flow c following then plainScalar fuel
    else fail .strayCharacter
    return true

/-- Reads tokens up to the end of the text or the first fault. -/
def run (bound : Nat) : (fuel : Nat) → Lexer → Array Token × Option Error
  | 0, s => (s.tokens, none)
  | fuel + 1, s =>
    match step bound s with
    | .error e => (s.tokens, some e)
    | .ok (true, s) => run bound fuel s
    | .ok (false, s) => (s.tokens, none)

end Lexer

/-- A character that may stand in a YAML text. -/
def isAllowed (c : Char) : Bool :=
  let n := c.toNat
  n == 0x09 || n == 0x0A || n == 0x0D || (0x20 ≤ n && n ≤ 0x7E) || n == 0x85 ||
    (0xA0 ≤ n && n ≤ 0xD7FF) || (0xE000 ≤ n && n ≤ 0xFFFD) || 0x10000 ≤ n

/-- The tokens of a text up to the first fault, and that fault. -/
def tokens (text : String) : List Token × Option Error :=
  let cs := text.toList
  if cs.all isAllowed then
    let bound := cs.length + 1
    let (tokens, fault) := Lexer.run bound (bound + 1) (.ofText cs)
    (tokens.toList, fault)
  else ([], some (.problem .unprintable))

end RestRoutes.Yaml
