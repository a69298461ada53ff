import RestRoutes.Json.Fault
import RestRoutes.Value.Text

/-! Reading JSON.  Besides the standard grammar the names `NaN`, `Infinity` and `-Infinity` are
numbers, and an object with a repeated name keeps the first place and the last value.  Every reader
gives what it read together with the characters after it. -/

namespace RestRoutes.Json

open Number

/-- A fault where `left` is still to be read. -/
def fail {α : Type} (expected : Expected) (left : List Char) : Except Stop α :=
  .error (.grammar expected left.length)

def isSpace (c : Char) : Bool := c == ' ' || c == '\t' || c == '\n' || c == '\r'

def skipSpace (cs : List Char) : List Char := cs.dropWhile isSpace

/-! ### Strings -/

/-- The value of four hexadecimal digits. -/
def unit? (a b c d : Char) : Option Nat := do
  let a ← Text.hexValue? a
  let b ← Text.hexValue? b
  let c ← Text.hexValue? c
  let d ← Text.hexValue? d
  return ((a * 16 + b) * 16 + c) * 16 + d

def isHighSurrogate (n : Nat) : Bool := 0xD800 ≤ n && n < 0xDC00

def isLowSurrogate (n : Nat) : Bool := 0xDC00 ≤ n && n < 0xE000

/-- The character of a code unit. A surrogate on its own has none and is replaced. -/
def unitChar (n : Nat) : Char := if n.isValidChar then Char.ofNat n else '\uFFFD'

/-- The character of a surrogate pair. -/
def pairChar (high low : Nat) : Char :=
  Char.ofNat (0x10000 + (high - 0xD800) * 0x400 + (low - 0xDC00))

/-- The character after a reverse solidus. -/
def escape? : Char → Option Char
  | '"' => some '"'
  | '\\' => some '\\'
  | '/' => some '/'
  | 'b' => some '\x08'
  | 'f' => some '\x0c'
  | 'n' => some '\n'
  | 'r' => some '\r'
  | 't' => some '\t'
  | _ => none

/-- Reads four hexadecimal digits, which another character must follow. `left` are the characters
from the letter in front of them on. -/
def unit (left : List Char) : List Char → Except Stop (Nat × List Char)
  | a :: b :: c :: d :: next :: rest =>
    match unit? a b c d with
    | some n => .ok (n, next :: rest)
    | none => fail .unicodeEscape left
  | _ => fail .unicodeEscape left

/-- The low surrogate written by an escape at the front, with the characters after it.  `none`
where there is no escape that another character follows, or it writes no low surrogate. -/
def lowSurrogate? : List Char → Except Stop (Option (Nat × List Char))
  | '\\' :: 'u' :: a :: b :: c :: d :: next :: rest =>
    match unit? a b c d with
    | none => fail .unicodeEscape ('u' :: a :: b :: c :: d :: next :: rest)
    | some n => .ok (if isLowSurrogate n then some (n, next :: rest) else none)
  | _ => .ok none

/-- Reads an escape, after its reverse solidus. -/
def escaped : List Char → Except Stop (Char × List Char)
  | 'u' :: rest => do
    let (n, rest) ← unit ('u' :: rest) rest
    if isHighSurrogate n then
      match ← lowSurrogate? rest with
      | some (low, rest) => .ok (pairChar n low, rest)
      | none => .ok (unitChar n, rest)
    else .ok (unitChar n, rest)
  | c :: rest =>
    match escape? c with
    | some e => .ok (e, rest)
    | none => fail .escape ('\\' :: c :: rest)
  | [] => fail .escape ['\\']

/-- Reads a string up to its closing quote; `start` characters were left at its opening quote. The
fuel bounds the characters left. -/
def string (start : Nat) : (fuel : Nat) → List Char → Except Stop (List Char × List Char)
  | 0, _ | _, [] | _, ['\\'] => .error (.grammar .stringEnd start)
  | _ + 1, '"' :: rest => .ok ([], rest)
  | fuel + 1, '\\' :: rest => do
    let (c, rest) ← escaped rest
    let (cs, rest) ← string start fuel rest
    .ok (c :: cs, rest)
  | fuel + 1, c :: rest =>
    if c.toNat ≤ 0x1F then fail .plainCharacter (c :: rest)
    else do
      let (cs, rest) ← string start fuel rest
      .ok (c :: cs, rest)

/-! ### Numbers -/

/-- The digits that a number continues with after its integer part. -/
def isAsciiDigit (c : Char) : Bool := '0' ≤ c && c ≤ '9'

def takeDigits (cs : List Char) : List Char × List Char :=
  (cs.takeWhile isAsciiDigit, cs.dropWhile isAsciiDigit)

/-- The fraction of a number: a point with digits after it. -/
def fraction? : List Char → Option (List Char × List Char)
  | '.' :: rest =>
    match takeDigits rest with
    | ([], _) => none
    | found => some found
  | _ => none

/-- The exponent of a number: a letter, a sign or none, and digits. -/
def exponent? : List Char → Option (Int × List Char)
  | c :: rest =>
    if c = 'e' ∨ c = 'E' then
      let (negative, rest) := match rest with
        | '-' :: rest => (true, rest)
        | '+' :: rest => (false, rest)
        | rest => (false, rest)
      match takeDigits rest with
      | ([], _) => none
      | (ds, rest) => some (if negative then -(ofDigits ds : Int) else ofDigits ds, rest)
    else none
  | [] => none

/-- The number after its sign; `all` are the characters from the sign on. -/
def unsigned (negative : Bool) (all cs : List Char) : Except Stop (Value × List Char) :=
  let whole := match cs with
    | '0' :: rest => (['0'], rest)
    | _ => takeDigits cs
  if whole.1.isEmpty then fail .value all
  else
    let (fractionDigits, rest) := (fraction? whole.2).getD ([], whole.2)
    match exponent? rest with
    | some (exponent, rest) =>
      let x := Binary64.ofDecimal negative (ofDigits (whole.1 ++ fractionDigits))
        (exponent - fractionDigits.length)
      .ok (.float x, rest)
    | none =>
      if fractionDigits.isEmpty then
        if integerDigitLimit < whole.1.length then .error (.longInteger whole.1.length)
        else
          let n : Int := ofDigits whole.1
          .ok (.int (if negative then -n else n), rest)
      else
        let x := Binary64.ofDecimal negative (ofDigits (whole.1 ++ fractionDigits))
          (-(fractionDigits.length : Int))
        .ok (.float x, rest)

def number : List Char → Except Stop (Value × List Char)
  | '-' :: rest => unsigned true ('-' :: rest) rest
  | cs => unsigned false cs cs

/-! ### Values -/

mutual

/-- Reads a value, at the first character of it.  The fuel bounds the characters left. -/
def value : (fuel : Nat) → List Char → Except Stop (Value × List Char)
  | 0, cs => fail .value cs
  | fuel + 1, cs =>
    match cs with
    | [] => fail .value []
    | '"' :: rest => (string cs.length cs.length rest).map fun (s, left) => (.str (String.ofList s), left)
    | '\x7b' :: rest =>
      match skipSpace rest with
      | '\x7d' :: rest => .ok (.map [], rest)
      | rest => (members fuel rest).map fun (es, left) => (Value.ofEntries es, left)
    | '[' :: rest =>
      match skipSpace rest with
      | ']' :: rest => .ok (.list [], rest)
      | rest => (elements fuel rest).map fun (xs, left) => (.list xs, left)
    | 'n' :: 'u' :: 'l' :: 'l' :: rest => .ok (.null, rest)
    | 't' :: 'r' :: 'u' :: 'e' :: rest => .ok (.bool true, rest)
    | 'f' :: 'a' :: 'l' :: 's' :: 'e' :: rest => .ok (.bool false, rest)
    | 'N' :: 'a' :: 'N' :: rest => .ok (.float .nan, rest)
    | 'I' :: 'n' :: 'f' :: 'i' :: 'n' :: 'i' :: 't' :: 'y' :: rest =>
      .ok (.float (.infinity false), rest)
    | '-' :: 'I' :: 'n' :: 'f' :: 'i' :: 'n' :: 'i' :: 't' :: 'y' :: rest =>
      .ok (.float (.infinity true), rest)
    | cs => number cs

/-- Reads the items of an array that is not empty, and its closing bracket. -/
def elements : (fuel : Nat) → List Char → Except Stop (List Value × List Char)
  | 0, cs => fail .value cs
  | fuel + 1, cs => do
    let (x, rest) ← value fuel cs
    match skipSpace rest with
    | ']' :: rest => .ok ([x], rest)
    | ',' :: rest => do
      let (xs, left) ← elements fuel (skipSpace rest)
      .ok (x :: xs, left)
    | rest => fail .comma rest

/-- Reads the members of an object that is not empty, and its closing brace. -/
def members : (fuel : Nat) → List Char → Except Stop (List (Value × Value) × List Char)
  | 0, cs => fail .name cs
  | fuel + 1, cs =>
    match cs with
    | '"' :: rest => do
      let (name, rest) ← string cs.length cs.length rest
      match skipSpace rest with
      | ':' :: rest => do
        let (v, rest) ← value fuel (skipSpace rest)
        match skipSpace rest with
        | '\x7d' :: rest => .ok ([(.str (String.ofList name), v)], rest)
        | ',' :: rest => do
          let (es, left) ← members fuel (skipSpace rest)
          .ok ((.str (String.ofList name), v) :: es, left)
        | rest => fail .comma rest
      | rest => fail .colon rest
    | cs => fail .name cs

end

/-- Reads a whole text, white space around its value included. -/
def document (cs : List Char) : Except Stop Value :=
  match cs with
  | '\uFEFF' :: _ => .error (.grammar .noByteOrderMark cs.length)
  | _ => do
    let (v, rest) ← value (cs.length + 1) (skipSpace cs)
    match skipSpace rest with
    | [] => .ok v
    | rest => .error (.grammar .documentEnd rest.length)

def read (text : String) : Except Error Value :=
  match document text.toList with
  | .ok v => .ok v
  | .error (.longInteger digits) => .error (.longInteger digits)
  | .error (.grammar expected left) =>
    .error (.fault (.at expected text.toList (text.toList.length - left)))

end RestRoutes.Json
