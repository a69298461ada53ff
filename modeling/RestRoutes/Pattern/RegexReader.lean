import RestRoutes.Number.Digits
import RestRoutes.Pattern.Regex
import RestRoutes.Text.Identifier
import RestRoutes.Text.Split

/-! Reading regular expressions.  A reverse solidus and the character after it are one token. Flags
for the whole expression may stand only at its start, so the tests for characters are built with the
flags that hold where they stand.  Whether an expression can be used is only asked once all of it is
read. -/

namespace RestRoutes.Pattern

inductive RegexFault
  | malformed
  /-- A bound of a repetition is too large to be counted. -/
  | hugeBound
  /-- A bound of a repetition has too many digits to be read. -/
  | longBound (digits : Nat)
  /-- The whole expression is asked to be in ASCII and in every script. -/
  | scripts
deriving DecidableEq, Repr

/-- A token. The `dangling` one is a reverse solidus at the end of the text. -/
inductive RegexToken
  | plain (c : Char)
  | escaped (c : Char)
  | dangling
deriving DecidableEq, Repr

def regexTokens : List Char → List RegexToken
  | [] => []
  | ['\\'] => [.dangling]
  | '\\' :: c :: rest => .escaped c :: regexTokens rest
  | c :: rest => .plain c :: regexTokens rest

/-- What holds for a part of an expression. -/
structure Flags where
  ignoreCase : Bool
  multiline : Bool
  dotAll : Bool
  verbose : Bool
  ascii : Bool
  unicode : Bool
  noRepeats : Bool
deriving DecidableEq, Repr

namespace Flags

def none : Flags := ⟨false, false, false, false, false, false, false⟩

/-- The flag with a letter. -/
def ofLetter? : Char → Option Flags
  | 'i' => some { none with ignoreCase := true }
  | 'm' => some { none with multiline := true }
  | 's' => some { none with dotAll := true }
  | 'x' => some { none with verbose := true }
  | 'a' => some { none with ascii := true }
  | 'u' => some { none with unicode := true }
  | 't' => some { none with noRepeats := true }
  | _ => Option.none

def both (a b : Flags) : Flags :=
  ⟨a.ignoreCase || b.ignoreCase, a.multiline || b.multiline, a.dotAll || b.dotAll,
    a.verbose || b.verbose, a.ascii || b.ascii, a.unicode || b.unicode, a.noRepeats || b.noRepeats⟩

def without (a b : Flags) : Flags :=
  ⟨a.ignoreCase && !b.ignoreCase, a.multiline && !b.multiline, a.dotAll && !b.dotAll,
    a.verbose && !b.verbose, a.ascii && !b.ascii, a.unicode && !b.unicode,
    a.noRepeats && !b.noRepeats⟩

def meets (a b : Flags) : Bool := a.without b != a

/-- Says which script letters are taken from. -/
def isScript (f : Flags) : Bool := f.ascii || f.unicode

def within (outer on off : Flags) : Flags :=
  let outer := if on.isScript then { outer with ascii := false, unicode := false } else outer
  (outer.both on).without off

def folding (f : Flags) : Folding :=
  if f.ignoreCase then (if f.ascii then .ascii else .full) else .exact

end Flags

/-- The characters that have names. -/
abbrev CharNames := String → Option Char

def CharNames.none : CharNames := fun _ => Option.none

/-- The state of a reader: the names of characters, the tokens left, the flags for the whole expression,
the number of groups so far, the names among them, the widths of those that are complete, the groups
that conditions ask for, and, inside a condition on what comes before, the number of groups at its
start. -/
structure RegexReading where
  charNames : CharNames
  tokens : List RegexToken
  flags : Flags
  count : Nat
  names : List (String × Nat)
  widths : List (Nat × (Nat × Nat))
  asked : List Nat
  limit : Option Nat

abbrev RegexRead := StateT RegexReading (Except RegexFault)

namespace RegexRead

def malformed {α : Type} : RegexRead α := throw .malformed

def peek : RegexRead (Option RegexToken) := return (← get).tokens.head?

/-- Passes over the next token.  A dangling reverse solidus must not come next. -/
def skip : RegexRead Unit := do
  let s ← get
  let rest := s.tokens.drop 1
  if rest.head? == some .dangling then malformed
  set { s with tokens := rest }

def next : RegexRead (Option RegexToken) := do
  let token ← peek
  skip
  return token

/-- Passes over a character, if it is next. -/
def skipIf (c : Char) : RegexRead Bool := do
  if (← peek) == some (.plain c) then
    skip
    return true
  else return false

def expect (c : Char) : RegexRead Unit := do
  if !(← skipIf c) then malformed

/-- Reads at most `n` characters that satisfy `p`. -/
def takeUpTo (p : Char → Bool) : (n : Nat) → RegexRead (List Char)
  | 0 => return []
  | n + 1 => do
    match ← peek with
    | some (.plain c) =>
      if p c then
        skip
        return c :: (← takeUpTo p n)
      else return []
    | _ => return []

/-- Reads all characters up to one that ends them, and that one. -/
def takeUntil (ender : Char) : (fuel : Nat) → RegexRead (List Char)
  | 0 => malformed
  | fuel + 1 => do
    match ← next with
    | none | some .dangling => malformed
    | some (.plain c) => if c == ender then return [] else return c :: (← takeUntil ender fuel)
    | some (.escaped c) => return '\\' :: c :: (← takeUntil ender fuel)

/-- Reads the text up to a character. It must not be empty. -/
def nameUntil (ender : Char) (fuel : Nat) : RegexRead (List Char) := do
  let cs ← takeUntil ender fuel
  if cs.isEmpty then malformed
  return cs

def isDigit (c : Char) : Bool := '0' ≤ c && c ≤ '9'

def isOctal (c : Char) : Bool := '0' ≤ c && c ≤ '7'

def isHex (c : Char) : Bool := (Text.hexValue? c).isSome

/-! ### Escapes -/

/-- Reads exactly `n` hexadecimal digits, which write a code point. -/
def hexCode (n : Nat) : RegexRead Nat := do
  let ds ← takeUpTo isHex n
  if ds.length != n then malformed
  let code := Number.ofDigitsIn 16 ds
  if 0x110000 ≤ code then malformed
  return code

/-- Reads the name of a character in braces. -/
def namedCode (fuel : Nat) : RegexRead Nat := do
  expect '\x7b'
  let name ← nameUntil '\x7d' fuel
  match (← get).charNames (String.ofList name) with
  | some c => return c.toNat
  | none => malformed

/-- The character that a letter stands for after a reverse solidus. -/
def control? (c : Char) : Option Char :=
  [('a', '\x07'), ('f', '\x0c'), ('n', '\n'), ('r', '\r'), ('t', '\t'), ('v', '\x0b'),
    ('\\', '\\')].lookup c

def category? (ascii : Bool) (c : Char) : Option SetItem :=
  [('d', SetItem.category .digit ascii false), ('D', .category .digit ascii true),
    ('s', .category .space ascii false), ('S', .category .space ascii true),
    ('w', .category .word ascii false), ('W', .category .word ascii true)].lookup c

/-- Reads the number or the name of a code point, after the letter that says which. `none` for another
letter. -/
def code? (c : Char) (fuel : Nat) : RegexRead (Option Nat) := do
  match c with
  | 'x' => return some (← hexCode 2)
  | 'u' => return some (← hexCode 4)
  | 'U' => return some (← hexCode 8)
  | 'N' => return some (← namedCode fuel)
  | _ => return none

/-- The character that stands for itself after a reverse solidus: none that is an ASCII letter or
digit. -/
def itself (c : Char) : RegexRead Char := do
  if c.isAlphanum then malformed
  return c

/-- Reads an escape inside a set, after its first character. -/
def setEscape (ascii : Bool) (c : Char) (fuel : Nat) : RegexRead SetItem := do
  if c == 'b' then return .single '\x08'
  if let some e := control? c then return .single e
  if let some item := category? ascii c then return item
  if let some code ← code? c fuel then return .code code
  if isOctal c then
    let value := Number.ofDigitsIn 8 (c :: (← takeUpTo isOctal 2))
    if 0o377 < value then malformed
    return .code value
  return .single (← itself c)

/-! ### Sets -/

/-- Reads one member of a set, from its first token. -/
def setMember (ascii : Bool) (token : RegexToken) (fuel : Nat) : RegexRead SetItem := do
  match token with
  | .plain c => return .single c
  | .escaped c => setEscape ascii c fuel
  | .dangling => malformed

/-- The range between two members, which must be single characters in order. -/
def rangeBetween : SetItem → SetItem → RegexRead SetItem
  | .range low low', .range high high' => do
    if low != low' || high != high' || high < low then malformed
    return .range low high
  | _, _ => malformed

/-- Reads the members of a set and its closing bracket, which does not close an empty set. -/
def setItems (ascii : Bool) (first : Bool) : (fuel : Nat) → RegexRead (List SetItem)
  | 0 => malformed
  | fuel + 1 => do
    match ← next with
    | none => malformed
    | some token =>
      if token == .plain ']' && !first then return []
      let item ← setMember ascii token fuel
      if ← skipIf '-' then
        match ← next with
        | none => malformed
        | some (.plain ']') => return [item, .single '-']
        | some token =>
          let item ← rangeBetween item (← setMember ascii token fuel)
          return item :: (← setItems ascii false fuel)
      else return item :: (← setItems ascii false fuel)

def charSet (flags : Flags) (fuel : Nat) : RegexRead CharSet := do
  let negated ← skipIf '^'
  return ⟨negated, ← setItems flags.ascii true fuel, flags.folding⟩

/-! ### Groups and references -/

def openGroup (name : Option String) : RegexRead Nat := do
  let s ← get
  let number := s.count + 1
  if let some name := name then
    if (s.names.lookup name).isSome then malformed
    set { s with count := number, names := (name, number) :: s.names }
  else set { s with count := number }
  return number

def closeGroup (number : Nat) (body : Regex) : RegexRead Unit :=
  modify fun s => { s with widths := (number, body.width) :: s.widths }

/-- Checks that a condition on what comes before refers only to groups that are complete and stand
outside of it. -/
def checkLimit (number : Nat) : RegexRead Unit := do
  let s ← get
  if let some limit := s.limit then
    if (s.widths.lookup number).isNone || limit < number then malformed

/-- The reference to a group, which must be complete. -/
def reference (flags : Flags) (number : Nat) : RegexRead Regex := do
  match (← get).widths.lookup number with
  | none => malformed
  | some (least, most) =>
    checkLimit number
    return .again number flags.folding least most

/-- Reads an escape that starts with a digit other than zero: three octal digits write a character,
else the number refers to a group. -/
def digitEscape (flags : Flags) (c : Char) : RegexRead Regex := do
  let second ← takeUpTo isDigit 1
  match second with
  | [d] =>
    if isOctal c && isOctal d then
      match ← takeUpTo isOctal 1 with
      | [e] =>
        let value := Number.ofDigitsIn 8 [c, d, e]
        if 0o377 < value then malformed
        return .one (.code flags.folding value)
      | _ => reference flags (Number.ofDigits [c, d])
    else reference flags (Number.ofDigits [c, d])
  | _ => reference flags (Number.ofDigits [c])

def escape (flags : Flags) (c : Char) (fuel : Nat) : RegexRead Regex := do
  match c with
  | 'A' => return .anchor .textStart
  | 'Z' => return .anchor .textEnd
  | 'b' => return .anchor (.wordEdge flags.ascii)
  | 'B' => return .anchor (.noWordEdge flags.ascii)
  | _ =>
    if let some item := category? flags.ascii c then return .one ⟨false, [item], flags.folding⟩
    if let some e := control? c then return .one (.single flags.folding e)
    if let some code ← code? c fuel then return .one (.code flags.folding code)
    if c == '0' then
      return .one (.code flags.folding (Number.ofDigitsIn 8 (← takeUpTo isOctal 2)))
    if isDigit c then digitEscape flags c
    else return .one (.single flags.folding (← itself c))

/-! ### Flags -/

/-- Reads the letters of flags from the first on, and the character that ends them. -/
def flagLetters (enders : List Char) :
    (fuel : Nat) → (letter : Char) → (sofar : Flags) → RegexRead (Flags × Char)
  | 0, _, _ => malformed
  | fuel + 1, letter, sofar => do
    match Flags.ofLetter? letter with
    | none => malformed
    | some flag =>
      if flag.isScript && sofar.isScript && !sofar.meets flag then malformed
      let sofar := sofar.both flag
      match ← next with
      | some (.plain c) =>
        if enders.contains c then return (sofar, c) else flagLetters enders fuel c sofar
      | _ => malformed

/-- What flags in a group are for. -/
inductive FlagScope
  | whole
  | part (inner : Flags)

/-- Reads flags, of which `letter` comes first, and the character that ends them. -/
def flagScope (outer : Flags) (fuel : Nat) (letter : Char) : RegexRead FlagScope := do
  let (on, ender) ←
    if letter == '-' then pure (Flags.none, '-') else flagLetters [')', '-', ':'] fuel letter .none
  if ender == ')' then
    modify fun s => { s with flags := s.flags.both on }
    return .whole
  if on.noRepeats then malformed
  if ender == ':' then return .part (outer.within on .none)
  match ← next with
  | some (.plain c) =>
    let (off, _) ← flagLetters [':'] fuel c .none
    if off.isScript || off.noRepeats || on.meets off then malformed
    return .part (outer.within on off)
  | _ => malformed

/-! ### Repetitions -/

/-- How many rounds a repetition has. -/
structure Bounds where
  least : Nat
  most : Option Nat

def bound (ds : List Char) : RegexRead (Option Nat) := do
  if ds.isEmpty then return none
  if integerDigitLimit < ds.length then throw (.longBound ds.length)
  let n := Number.ofDigits ds
  if Regex.unbounded ≤ n then throw .hugeBound
  return some n

/-- Reads bounds in braces, after the opening one. `none`, with nothing read, where the brace stands
for itself. -/
def braces (fuel : Nat) : RegexRead (Option Bounds) := do
  let start ← get
  if (← peek) == some (.plain '\x7d') then return none
  let low ← takeUpTo isDigit fuel
  let high ← if ← skipIf ',' then takeUpTo isDigit fuel else pure low
  if ← skipIf '\x7d' then
    let least := (← bound low).getD 0
    let most ← bound high
    if most.any (· < least) then malformed
    return some ⟨least, most⟩
  else
    set start
    return none

/-- Reads the bounds that a character stands for.  `none` where it stands for itself. -/
def bounds? (c : Char) (fuel : Nat) : RegexRead (Option Bounds) := do
  match c with
  | '?' => return some ⟨0, some 1⟩
  | '*' => return some ⟨0, none⟩
  | '+' => return some ⟨1, none⟩
  | '\x7b' => braces fuel
  | _ => return none

/-- Reads the mark after the bounds of a repetition. -/
def greed : RegexRead Greed := do
  if ← skipIf '?' then return .lazy
  if ← skipIf '+' then return .possessive
  return .greedy

def repeated (bounds : Bounds) : Option Regex → RegexRead Regex
  | none | some (.anchor _) | some (.rep _ _ _ _) => malformed
  | some body => return .rep (← greed) bounds.least bounds.most body

/-! ### Expressions -/

/-- The parts of a sequence, last first, put together. -/
def sequence (parts : List Regex) : Regex :=
  match parts with
  | [] => .empty
  | last :: before => before.foldl (fun rest part => .seq part rest) last

/-- A part in a group of its own, which is not taken for the repetition or the condition it may be. -/
def enclosed (body : Regex) : Regex := .seq .empty body

/-- White space that verbose expressions may hold. -/
def isLayout (c : Char) : Bool := c == ' ' || (0x09 ≤ c.toNat && c.toNat ≤ 0x0D)

/-- Passes over the rest of a comment in a verbose expression. -/
def skipLine : (fuel : Nat) → RegexRead Unit
  | 0 => return ()
  | fuel + 1 => do
    match ← next with
    | none | some (.plain '\n') => return ()
    | _ => skipLine fuel

/-- The number of a group that is written as an integer: digits, with single low lines between them,
and around them padding and perhaps a sign in front. -/
def groupNumber? (cs : List Char) : Option Nat :=
  let body := match Text.trimBoth Text.isPadding cs with
    | '+' :: rest => rest
    | body => body
  let runs := Text.splitAll (· == '_') body
  let ds := runs.flatten
  if runs.all (fun run => !run.isEmpty && run.all Text.isDigit) && ds.length ≤ integerDigitLimit then
    some (Number.ofDigits ds)
  else none

/-- The least number that is too large for a group. -/
def groupLimit : Nat := 1073741823

def askedGroup (cs : List Char) : RegexRead Nat := do
  if Text.isIdentifier cs then
    match (← get).names.lookup (String.ofList cs) with
    | some number => return number
    | none => malformed
  else
    match groupNumber? cs with
    | none | some 0 => malformed
    | some number =>
      if groupLimit ≤ number then malformed
      modify fun s => { s with asked := number :: s.asked }
      return number

/-- What the characters after the opening of a group say about it. -/
inductive GroupKind
  | capturing (name : Option String)
  | plain (flags : Flags)
  | once
  | ahead (wanted : Bool)
  | behind (wanted : Bool)
  | choice
  /-- Nothing to read but this. -/
  | done (part : Option Regex)
  | wholeFlags

/-- Reads what stands after the letter `P` that opens a group. -/
def namedGroup (flags : Flags) (fuel : Nat) : RegexRead GroupKind := do
  if ← skipIf '<' then
    let name ← nameUntil '>' fuel
    if !Text.isIdentifier name then malformed
    return .capturing (some (String.ofList name))
  expect '='
  let name ← nameUntil ')' fuel
  if !Text.isIdentifier name then malformed
  match (← get).names.lookup (String.ofList name) with
  | some number => return .done (some (← reference flags number))
  | none => malformed

/-- Reads the characters after the opening of a group. -/
def groupKind (flags : Flags) (fuel : Nat) : RegexRead GroupKind := do
  if !(← skipIf '?') then return .capturing none
  match ← next with
  | some (.plain c) =>
    match c with
    | 'P' => namedGroup flags fuel
    | ':' => return .plain flags
    | '#' =>
      let _ ← takeUntil ')' fuel
      return .done none
    | '=' => return .ahead true
    | '!' => return .ahead false
    | '<' =>
      match ← next with
      | some (.plain '=') => return .behind true
      | some (.plain '!') => return .behind false
      | _ => malformed
    | '(' => return .choice
    | '>' => return .once
    | c =>
      match ← flagScope flags fuel c with
      | .whole => return .wholeFlags
      | .part inner => return .plain inner
  | _ => malformed

mutual

/-- Reads alternatives up to a closing parenthesis or the end. `start` where nothing but flags stands
before the first of them. -/
def alternatives (start : Bool) (flags : Flags) : (fuel : Nat) → RegexRead Regex
  | 0 => malformed
  | fuel + 1 => do
    let first ← branch start flags [] fuel
    if ← skipIf '|' then
      let whole := (← get).flags
      return .alt first (← laterAlternatives (if start then whole else flags) fuel)
    else return first

/-- Reads the alternatives after the first. -/
def laterAlternatives (flags : Flags) : (fuel : Nat) → RegexRead Regex
  | 0 => malformed
  | fuel + 1 => do
    let first ← branch false flags [] fuel
    if ← skipIf '|' then return .alt first (← laterAlternatives flags fuel)
    else return first

/-- Reads one alternative. `parts` are its parts so far, last first. -/
def branch (start : Bool) (flags : Flags) (parts : List Regex) : (fuel : Nat) → RegexRead Regex
  | 0 => malformed
  | fuel + 1 => do
    match ← peek with
    | none | some (.plain '|') | some (.plain ')') => return sequence parts
    | some .dangling => malformed
    | some (.escaped c) =>
      skip
      let part ← escape flags c fuel
      branch start flags (part :: parts) fuel
    | some (.plain c) =>
      skip
      if flags.verbose && isLayout c then branch start flags parts fuel
      else if flags.verbose && c == '#' then
        skipLine fuel
        branch start flags parts fuel
      else if c == '[' then
        let set ← charSet flags fuel
        branch start flags (.one set :: parts) fuel
      else if c == '.' then
        branch start flags (.one (if flags.dotAll then .any else .anyInLine) :: parts) fuel
      else if c == '^' then
        let kind := if flags.multiline then Anchor.lineStart else .textStart
        branch start flags (.anchor kind :: parts) fuel
      else if c == '$' then
        let kind := if flags.multiline then Anchor.lineEnd else .lastLineEnd
        branch start flags (.anchor kind :: parts) fuel
      else if c == '(' then
        match ← groupKind flags fuel with
        | .wholeFlags =>
          if !start || !parts.isEmpty then malformed
          let whole := (← get).flags
          branch start whole parts fuel
        | .done none => branch start flags parts fuel
        | .done (some part) => branch start flags (part :: parts) fuel
        | kind =>
          let part ← group flags kind fuel
          branch start flags (part :: parts) fuel
      else if let some bounds ← bounds? c fuel then
        let part ← repeated bounds parts.head?
        branch start flags (part :: parts.drop 1) fuel
      else branch start flags (.one (.single flags.folding c) :: parts) fuel

/-- Reads the body of a group and its closing parenthesis. -/
def group (flags : Flags) (kind : GroupKind) : (fuel : Nat) → RegexRead Regex
  | 0 => malformed
  | fuel + 1 => do
    match kind with
    | .capturing name =>
      let number ← openGroup name
      let body ← alternatives false flags fuel
      expect ')'
      closeGroup number body
      return .group number body
    | .plain inner =>
      let body ← alternatives false inner fuel
      expect ')'
      return enclosed body
    | .once =>
      let body ← alternatives false flags fuel
      expect ')'
      return .atomic body
    | .ahead wanted =>
      let body ← alternatives false flags fuel
      expect ')'
      return .ahead wanted body
    | .behind wanted =>
      let limit := (← get).limit
      modify fun s => { s with limit := some (limit.getD s.count) }
      let body ← alternatives false flags fuel
      modify fun s => { s with limit }
      expect ')'
      return .behind wanted body.width.1 body
    | .choice =>
      let number ← askedGroup (← nameUntil ')' fuel)
      checkLimit number
      let yes ← branch false flags [] fuel
      let no ← if ← skipIf '|' then branch false flags [] fuel else pure .empty
      expect ')'
      return .ifGroup number yes no
    | .done _ | .wholeFlags => malformed

end

def expression (fuel : Nat) : RegexRead Regex := do
  if (← peek) == some .dangling then malformed
  let r ← alternatives true .none fuel
  let s ← get
  if s.flags.ascii && s.flags.unicode then throw .scripts
  if !s.tokens.isEmpty then malformed
  if s.asked.any (s.count < ·) then malformed
  if !r.isUsable s.flags.noRepeats then malformed
  return r

end RegexRead

def Regex.read (charNames : CharNames) (text : String) : Except RegexFault Regex :=
  let tokens := regexTokens text.toList
  ((RegexRead.expression (4 * tokens.length + 8)).run
    ⟨charNames, tokens, .none, 0, [], [], [], none⟩).map (·.1)

end RestRoutes.Pattern
