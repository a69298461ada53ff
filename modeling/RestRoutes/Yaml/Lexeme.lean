import RestRoutes.Number.Digits
import RestRoutes.Text.Utf8
import RestRoutes.Value.Text
import RestRoutes.Yaml.Cursor
import RestRoutes.Yaml.Token

/-! The longer tokens of YAML: directives, anchors, tags and scalars.  Every loop is bounded by a
fuel that is at least the number of characters left. -/

namespace RestRoutes.Yaml

namespace Scan

/-- A character of an anchor or of a handle. -/
def isNameChar (c : Char) : Bool := c.isAlphanum || c == '-' || c == '_'

/-- Reads a run of name characters that is not empty. -/
def name (what : Problem) : Scan (List Char) := do
  let cs ← takeWhile isNameChar
  if cs.isEmpty then fail what
  return cs

/-! ### Tags -/

/-- The bytes of a run of percent escapes at the front, and how many characters it takes. -/
def escapedBytes? : List Char → Option (List UInt8 × Nat)
  | '%' :: a :: b :: rest => do
    let high ← Text.hexValue? a
    let low ← Text.hexValue? b
    let (bytes, used) ← escapedBytes? rest
    return ((high * 16 + low).toUInt8 :: bytes, used + 3)
  | '%' :: _ => none
  | _ => some ([], 0)

/-- A character of a tag that stands for itself. -/
def isUriChar (c : Char) : Bool := c.isAlphanum || "-;/?:@&=+$,_.!~*'()[]".toList.contains c

/-- Reads the pieces of a tag's name. -/
def uriPieces (what : Problem) : (fuel : Nat) → Scan (List Char)
  | 0 => return []
  | fuel + 1 => do
    let plain ← takeWhile isUriChar
    if (← peek) == some '%' then
      match escapedBytes? (← get).rest with
      | none => fail what
      | some (bytes, used) =>
        match Text.Utf8.decode bytes with
        | .error _ => fail what
        | .ok text =>
          skip used
          return plain ++ text.toList ++ (← uriPieces what fuel)
    else return plain

/-- Reads the name of a tag, in which percent escapes write UTF-8. -/
def uri (what : Problem) (fuel : Nat) : Scan String := do
  let start := (← get).index
  let cs ← uriPieces what fuel
  if (← get).index == start then fail what
  return String.ofList cs

/-- Reads a handle: an exclamation mark, or a name between two of them. -/
def handle (what : Problem) : Scan String := do
  if (← peek) != some '!' then fail what
  skip 1
  if (← peek) == some ' ' then return "!"
  let cs ← takeWhile isNameChar
  if (← peek) == some '!' then
    skip 1
    return String.ofList ('!' :: cs ++ ['!'])
  else fail what

/-- Reads a tag: its handle, unless it is written in full, and the rest of its name. -/
def tag (fuel : Nat) : Scan Token := do
  let following ← peekAt 1
  let token ←
    if following == some '<' then do
      skip 2
      let suffix ← uri .badTag fuel
      if (← peek) != some '>' then fail .badTag
      skip 1
      pure (Token.tag none suffix)
    else if endsPlain following then do
      skip 1
      pure (Token.tag none "!")
    else do
      let word := ((← get).rest.drop 1).takeWhile fun c => !endsWord (some c)
      if word.contains '!' then do
        let h ← handle .badTag
        pure (Token.tag (some h) (← uri .badTag fuel))
      else do
        skip 1
        pure (Token.tag (some "!") (← uri .badTag fuel))
  if !endsWord (← peek) then fail .badTag
  return token

/-! ### Directives and anchors -/

/-- Reads a number of a version. -/
def versionNumber : Scan Nat := do
  let ds ← takeWhile fun c => '0' ≤ c && c ≤ '9'
  if ds.isEmpty then fail .badDirective
  if integerDigitLimit < ds.length then throw (.scalar (.longInteger ds.length))
  return Number.ofDigits ds

/-- Reads a directive and the end of its line. -/
def directive (fuel : Nat) : Scan Token := do
  skip 1
  let title := String.ofList (← name .badDirective)
  if !endsWord (← peek) then fail .badDirective
  let d ←
    if title = "YAML" then do
      skipBlanks
      let major ← versionNumber
      if (← peek) != some '.' then fail .badDirective
      skip 1
      let _ ← versionNumber
      if !endsWord (← peek) then fail .badDirective
      pure (Directive.version major)
    else if title = "TAG" then do
      skipBlanks
      let h ← handle .badDirective
      if (← peek) != some ' ' then fail .badDirective
      skipBlanks
      let target ← uri .badDirective fuel
      if !endsWord (← peek) then fail .badDirective
      pure (Directive.handle h target)
    else do
      let _ ← takeWhile fun c => !isBreak c
      pure Directive.other
  finishLine .badDirective
  return .directive d

def anchorName : Scan String := do
  skip 1
  let cs ← name .badAnchor
  match ← peek with
  | none => return String.ofList cs
  | some c =>
    if endsPlain (some c) || "?:,]\x7d%@".toList.contains c || c.toNat == 0x60 then
      return String.ofList cs
    else fail .badAnchor

/-! ### Block scalars -/

/-- What happens to the line breaks at the end of a block scalar. -/
inductive Chomping
  | strip
  | clip
  | keep

def chompingMark? : Option Char → Option Chomping
  | some '+' => some .keep
  | some '-' => some .strip
  | _ => none

def indentationDigit? : Option Char → Option Nat
  | some c => if '0' ≤ c ∧ c ≤ '9' then some (c.toNat - '0'.toNat) else none
  | none => none

def indentation : Scan (Option Nat) := do
  match indentationDigit? (← peek) with
  | some 0 => fail .badBlockHeader
  | some n => skip 1; return some n
  | none => return none

def chomping : Scan (Option Chomping) := do
  match chompingMark? (← peek) with
  | some mark => skip 1; return some mark
  | none => return none

/-- Reads the header of a block scalar: a chomping and an indentation in either order. -/
def blockHeader : Scan (Chomping × Option Nat) := do
  match ← chomping with
  | some mark => return (mark, ← indentation)
  | none =>
    match ← indentation with
    | none => return (.clip, none)
    | some n => return ((← chomping).getD .clip, some n)

/-- Reads the blank lines before a block scalar, and the widest indentation among them. -/
def leadingBreaks : (fuel widest : Nat) → Scan (List Char × Nat)
  | 0, widest => return ([], widest)
  | fuel + 1, widest => do
    match ← peek with
    | none => return ([], widest)
    | some c =>
      if c == ' ' then
        skip 1
        leadingBreaks fuel (max widest (← get).column)
      else if isBreak c then
        let b ← lineBreak
        let (bs, w) ← leadingBreaks fuel widest
        return (b ++ bs, w)
      else return ([], widest)

/-- Passes over blanks up to a column. -/
def skipIndent (indent : Nat) : Scan Unit := do
  let c ← get
  let blanks := (c.rest.takeWhile (· == ' ')).length
  skip (min blanks (indent - c.column))

/-- Reads the blank lines between two lines of a block scalar. -/
def breaksWithin (indent : Nat) : (fuel : Nat) → Scan (List Char)
  | 0 => return []
  | fuel + 1 => do
    skipIndent indent
    match ← peek with
    | none => return []
    | some c =>
      if isBreak c then
        let b ← lineBreak
        return b ++ (← breaksWithin indent fuel)
      else return []

/-- A line of a block scalar continues at the cursor. -/
def atBlockLine (indent : Nat) : Scan Bool := do
  let c ← get
  return c.column == indent && !c.rest.isEmpty

/-- Reads the lines of a block scalar from its first character on.  Gives the text up to the last
line's end, that line's break and the blank lines after it. -/
def blockLines (folded : Bool) (indent : Nat) :
    (fuel : Nat) → Scan (List Char × List Char × List Char)
  | 0 => return ([], [], [])
  | fuel + 1 => do
    let flush := !((← peek) == some ' ' || (← peek) == some '\t')
    let line ← takeWhile fun c => !isBreak c
    let ending ← lineBreak
    let breaks ← breaksWithin indent fuel
    if ← atBlockLine indent then
      let flushNext := !((← peek) == some ' ' || (← peek) == some '\t')
      let joint :=
        if folded && ending == ['\n'] && flush && flushNext then
          if breaks.isEmpty then [' '] else []
        else ending
      let (text, lastBreak, trailing) ← blockLines folded indent fuel
      return (line ++ joint ++ breaks ++ text, lastBreak, trailing)
    else return (line, ending, breaks)

def blockScalar (folded : Bool) (parentIndent : Int) (fuel : Nat) : Scan Token := do
  skip 1
  let (chomp, increment) ← blockHeader
  if !endsWord (← peek) then fail .badBlockHeader
  finishLine .badBlockHeader
  let least := max 1 (parentIndent + 1).toNat
  let (indent, breaks) ←
    match increment with
    | some n => do
      let indent := least + n - 1
      pure (indent, ← breaksWithin indent fuel)
    | none => do
      let (breaks, widest) ← leadingBreaks fuel 0
      pure (max least widest, breaks)
  let (text, lastBreak, trailing) ←
    if ← atBlockLine indent then do
      let (text, lastBreak, trailing) ← blockLines folded indent fuel
      pure (breaks ++ text, lastBreak, trailing)
    else pure ([], [], breaks)
  let ending := match chomp with
    | .strip => []
    | .clip => lastBreak
    | .keep => lastBreak ++ trailing
  return .scalar (String.ofList (text ++ ending)) false

/-! ### Quoted scalars -/

/-- The character that a one-letter escape stands for. -/
def escape? (c : Char) : Option Char :=
  [('0', '\x00'), ('a', '\x07'), ('b', '\x08'), ('t', '\t'), ('\t', '\t'), ('n', '\n'),
    ('v', '\x0b'), ('f', '\x0c'), ('r', '\r'), ('e', '\x1b'), (' ', ' '), ('"', '"'), ('\\', '\\'),
    ('/', '/'), ('N', '\x85'), ('_', '\xa0'), ('L', '\u2028'), ('P', '\u2029')].lookup c

/-- The number of digits after the letter of a numeric escape. -/
def escapeWidth? : Char → Option Nat
  | 'x' => some 2
  | 'u' => some 4
  | 'U' => some 8
  | _ => none

def codePoint (width : Nat) : Scan Nat := do
  let ds := (← get).rest.take width
  if ds.length < width || !ds.all (Text.hexValue? · |>.isSome) then fail .badEscape
  let n := Number.ofDigitsIn 16 ds
  if 0x110000 ≤ n then throw (.scalar (.codePoint (decide (0x80000000 ≤ n))))
  skip width
  return n

/-- Reads line breaks and the blanks around them inside a quoted scalar. -/
def quotedBreaks : (fuel : Nat) → Scan (List Char)
  | 0 => return []
  | fuel + 1 => do
    if ← atDocumentMark then fail .documentMark
    let _ ← takeWhile fun c => c == ' ' || c == '\t'
    let b ← lineBreak
    if b.isEmpty then return []
    return b ++ (← quotedBreaks fuel)

/-- The low surrogate that an escape of four digits at the front writes. -/
def lowSurrogate? : List Char → Option Nat
  | '\\' :: 'u' :: a :: b :: c :: d :: _ =>
    let n := Number.ofDigitsIn 16 [a, b, c, d]
    if [a, b, c, d].all (Text.hexValue? · |>.isSome) && 0xDC00 ≤ n && n < 0xE000 then some n
    else none
  | _ => none

/-- Reads a numeric escape, after its letter.  Two escapes that write a surrogate pair are one
character; a surrogate on its own is replaced. -/
def numericEscape (width : Nat) : Scan Char := do
  let n ← codePoint width
  if 0xD800 ≤ n && n < 0xDC00 then
    if let some low := lowSurrogate? (← get).rest then
      skip 6
      return Char.ofNat (0x10000 + (n - 0xD800) * 0x400 + (low - 0xDC00))
  return if n.isValidChar then Char.ofNat n else '\uFFFD'

/-- Reads an escape, from its reverse solidus on. -/
def quotedEscape (fuel : Nat) : Scan (List Char) := do
  skip 1
  match ← peek with
  | none => fail .badEscape
  | some c =>
    if let some e := escape? c then
      skip 1
      return [e]
    else if let some width := escapeWidth? c then
      skip 1
      return [← numericEscape width]
    else if isBreak c then
      let _ ← lineBreak
      quotedBreaks fuel
    else fail .badEscape

/-- Reads blanks inside a quoted scalar: a line break in them folds to a blank, blank lines are
kept. -/
def quotedBlanks (fuel : Nat) : Scan (List Char) := do
  let blanks ← takeWhile fun c => c == ' ' || c == '\t'
  match ← peek with
  | none => fail .unclosedQuote
  | some c =>
    if isBreak c then
      let b ← lineBreak
      let breaks ← quotedBreaks fuel
      let joint := if b != ['\n'] then b else if breaks.isEmpty then [' '] else []
      return joint ++ breaks
    else return blanks

def quotedText (double : Bool) : (fuel : Nat) → Scan (List Char)
  | 0 => fail .unclosedQuote
  | fuel + 1 => do
    let plain ← takeWhile fun c =>
      !(c == '\'' || c == '"' || c == '\\' || c == ' ' || c == '\t' || isBreak c)
    match ← peek with
    | none => fail .unclosedQuote
    | some c =>
      if !double && c == '\'' && (← peekAt 1) == some '\'' then
        skip 2
        return plain ++ '\'' :: (← quotedText double fuel)
      else if c == (if double then '"' else '\'') then
        skip 1
        return plain
      else if double && c == '\\' then
        let e ← quotedEscape fuel
        return plain ++ e ++ (← quotedText double fuel)
      else if c == '\'' || c == '"' || c == '\\' then
        skip 1
        return plain ++ c :: (← quotedText double fuel)
      else
        let blanks ← quotedBlanks fuel
        return plain ++ blanks ++ (← quotedText double fuel)

def quotedScalar (double : Bool) (fuel : Nat) : Scan Token := do
  skip 1
  return .scalar (String.ofList (← quotedText double fuel)) false

/-! ### Plain scalars -/

/-- The characters of a plain scalar up to a blank or an indicator. -/
def plainChunk (flow : Bool) : List Char → List Char
  | [] => []
  | c :: rest =>
    let ends :=
      endsPlain (some c) ||
      (c == ':' &&
        (endsPlain rest.head? || (flow && rest.head?.any fun d => ",[]\x7b\x7d".toList.contains d))) ||
      (flow && ",?[]\x7b\x7d".toList.contains c)
    if ends then [] else c :: plainChunk flow rest

/-- Reads the line breaks and blanks after the first break inside a plain scalar. `none` at a
document mark. -/
def plainBreaks : (fuel : Nat) → Scan (Option (List Char))
  | 0 => return some []
  | fuel + 1 => do
    if ← atDocumentMark then return none
    skipBlanks
    let b ← lineBreak
    if b.isEmpty then return some []
    return (← plainBreaks fuel).map (b ++ ·)

/-- Reads the blanks after a chunk of a plain scalar: what they stand for, when the scalar may go on
after them, and whether they hold a line break. -/
def plainBlanks (fuel : Nat) : Scan (List Char × Bool) := do
  let blanks ← takeWhile (· == ' ')
  let b ← lineBreak
  if b.isEmpty then return (blanks, false)
  match ← plainBreaks fuel with
  | none => return ([], true)
  | some breaks =>
    let joint := if b != ['\n'] then b else if breaks.isEmpty then [' '] else []
    return (joint ++ breaks, true)

/-- Reads the chunks of a plain scalar, of which the first is not empty.  Also tells whether the last
blanks before the scalar's end held a line break. -/
def plainText (flow : Bool) (indent : Nat) : (fuel : Nat) → Scan (List Char × Bool)
  | 0 => return ([], false)
  | fuel + 1 => do
    let chunk := plainChunk flow (← get).rest
    skip chunk.length
    let (blanks, broken) ← plainBlanks fuel
    let c ← get
    if blanks.isEmpty || c.rest.head? == some '#' || (!flow && c.column < indent) ||
        (plainChunk flow c.rest).isEmpty then
      return (chunk, broken)
    let (more, broken) ← plainText flow indent fuel
    return (chunk ++ blanks ++ more, broken)

def plainScalar (flow : Bool) (parentIndent : Int) (fuel : Nat) : Scan (Token × Bool) := do
  let (cs, broken) ← plainText flow (parentIndent + 1).toNat fuel
  return (.scalar (String.ofList cs) true, broken)

end Scan

end RestRoutes.Yaml
