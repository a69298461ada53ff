import RestRoutes.Text.Case
import RestRoutes.Value.Text
import RestRoutes.Yaml.Error
import RestRoutes.Yaml.Tag

/-! The values of scalars under their tags. -/

namespace RestRoutes.Yaml

open Number

namespace Scalar

/-- The text of a number with the digits of all scripts written in ASCII. -/
def plainDigits (cs : List Char) : List Char :=
  cs.map fun c =>
    match Text.digitValue? c with
    | some n => Text.hexDigit false n
    | none => c

/-- A sign and the text after it. -/
def sign : List Char → Bool × List Char
  | '-' :: rest => (true, rest)
  | '+' :: rest => (false, rest)
  | cs => (false, cs)

/-- The text after the mark of a base, if it stands in front. -/
def afterBaseMark (base : Nat) : List Char → List Char
  | '0' :: c :: rest =>
    let isMark :=
      (base == 16 && (c == 'x' || c == 'X')) || (base == 8 && (c == 'o' || c == 'O')) ||
      (base == 2 && (c == 'b' || c == 'B'))
    if isMark then rest else '0' :: c :: rest
  | cs => cs

def isDigitOf (base : Nat) (c : Char) : Bool := (Text.hexValue? c).any (· < base)

/-- The integer that a text writes in a base.  In base ten the number of digits is limited. -/
def integer (base : Nat) (cs : List Char) : Except Error Int :=
  let (negative, body) := sign (Text.trimBoth Text.isPadding (plainDigits cs))
  let (ds, rest) := Text.spanWhile (isDigitOf base) (afterBaseMark base body)
  if base == 10 && integerDigitLimit < ds.length then .error (.scalar (.longInteger ds.length))
  else if ds.isEmpty || !rest.isEmpty then
    .error (.scalar (.notInteger base (String.ofList cs)))
  else
    let n : Int := ofDigitsIn base ds
    .ok (if negative then -n else n)

/-- The parts of a number in base sixty, most significant first, put together. -/
def sexagesimal (parts : List Int) : Int := parts.foldl (fun n part => n * 60 + part) 0

def int (text : String) : Except Error Int := do
  let (negative, cs) := sign (text.toList.filter (· != '_'))
  let signed (n : Int) : Int := if negative then -n else n
  match cs with
  | [] => throw (.scalar .emptyNumber)
  | ['0'] => return 0
  | '0' :: 'b' :: rest => return signed (← integer 2 rest)
  | '0' :: 'x' :: rest => return signed (← integer 16 rest)
  | '0' :: _ => return signed (← integer 8 cs)
  | cs =>
    if cs.contains ':' then
      return signed (sexagesimal (← (Text.splitAll (· == ':') cs).mapM (integer 10)))
    else return signed (← integer 10 cs)

/-- The exponent at the end of a float. -/
def exponent? : List Char → Option Int
  | [] => some 0
  | e :: rest =>
    let (negative, ds) := sign rest
    if e == 'e' && !ds.isEmpty && ds.all Tag.isDigit then
      some (if negative then -(ofDigits ds : Int) else ofDigits ds)
    else none

/-- The double that a text in small letters writes. -/
def float? (cs : List Char) : Option Binary64 :=
  let (negative, body) := sign (Text.trimBoth Text.isPadding (plainDigits cs))
  if body == "inf".toList || body == "infinity".toList then some (.infinity negative)
  else if body == "nan".toList then some .nan
  else
    let (whole, rest) := Text.spanWhile Tag.isDigit body
    let (fraction, rest) := match rest with
      | '.' :: rest => Text.spanWhile Tag.isDigit rest
      | rest => ([], rest)
    if whole.isEmpty && fraction.isEmpty then none
    else
      (exponent? rest).map fun e =>
        Binary64.ofDecimal negative (ofDigits (whole ++ fraction)) (e - fraction.length)

def floatPart (cs : List Char) : Except Error Binary64 :=
  match float? cs with
  | some x => .ok x
  | none => .error (.scalar (.notFloat (String.ofList cs)))

/-- The sum of the parts of a float in base sixty, least significant first, each times a power of
sixty. -/
def sumSixtieths : (base : Nat) → (sum : Binary64) → List Binary64 → Except Error Binary64
  | _, sum, [] => .ok sum
  | base, sum, x :: rest =>
    match Binary64.ofInt base with
    | .infinity _ => .error (.scalar .hugeFloat)
    | scale => sumSixtieths (base * 60) (sum.add (x.mul scale)) rest

def float (text : String) : Except Error Binary64 := do
  let (negative, cs) := sign (Text.lowerText (text.toList.filter (· != '_')))
  let signed (x : Binary64) : Binary64 := if negative then x.negate else x
  if text.toList.all (· == '_') then throw (.scalar .emptyNumber)
  if cs == ".inf".toList then return .infinity negative
  if cs == ".nan".toList then return .nan
  if cs.contains ':' then
    let parts ← (Text.splitAll (· == ':') cs).mapM floatPart
    return signed (← sumSixtieths 1 (.finite false 0 (-1074)) parts.reverse)
  return signed (← floatPart cs)

def bool (text : String) : Except Error Bool :=
  let word := String.ofList (Text.lowerText text.toList)
  if ["yes", "true", "on"].contains word then .ok true
  else if ["no", "false", "off"].contains word then .ok false
  else .error (.scalar (.notBoolean word))

/-- The offset of a moment in minutes. -/
def offset : Option (Bool × List Char × List Char) → Int
  | none => 0
  | some (negative, hours, minutes) =>
    let n : Int := ofDigits hours * 60 + ofDigits minutes
    if negative then -n else n

/-- The microseconds of a fraction of a second, of which six digits count. -/
def microseconds (fraction : List Char) : Nat :=
  ofDigits ((fraction ++ List.replicate 6 '0').take 6)

def timestamp (text : String) : Except Error Value :=
  match Tag.momentText? (Tag.withoutFinalBreak text.toList) with
  | none => .error (.scalar .noMoment)
  | some m =>
    let (year, month, day) := (ofDigits m.year, ofDigits m.month, ofDigits m.day)
    match m.time with
    | none => ((Date.ofNumbers? year month day).map Value.date).mapError (.scalar ∘ .calendar)
    | some (hour, minute, second) =>
      ((Timestamp.ofNumbers? year month day (ofDigits hour) (ofDigits minute) (ofDigits second)
        (microseconds m.fraction) (m.zone.map offset)).map Value.timestamp).mapError (.scalar ∘ .calendar)

/-- The value of a character in base 64. -/
def sextet? (c : Char) : Option Nat :=
  if 'A' ≤ c ∧ c ≤ 'Z' then some (c.toNat - 'A'.toNat)
  else if 'a' ≤ c ∧ c ≤ 'z' then some (c.toNat - 'a'.toNat + 26)
  else if '0' ≤ c ∧ c ≤ '9' then some (c.toNat - '0'.toNat + 52)
  else if c = '+' then some 62
  else if c = '/' then some 63
  else none

/-- The bytes of a text in base 64.  `bits` are the low `2 * (4 - place)` bits of the last
character of a group, at `place` in it, and `pads` counts the padding after it.  Other characters
are passed over. -/
def base64 : (place bits pads : Nat) → List Char → Option (List UInt8)
  | 0, _, _, [] => some []
  | _ + 1, _, _, [] => none
  | place, bits, pads, c :: rest =>
    if c = '=' then
      if 2 ≤ place ∧ 4 ≤ place + pads + 1 then some []
      else base64 place bits (if 2 ≤ place then pads + 1 else pads) rest
    else
      match sextet? c with
      | none => base64 place bits pads rest
      | some n =>
        match place with
        | 0 => base64 1 n 0 rest
        | 1 => (base64 2 (n % 16) 0 rest).map ((bits * 4 + n / 16).toUInt8 :: ·)
        | 2 => (base64 3 (n % 4) 0 rest).map ((bits * 16 + n / 4).toUInt8 :: ·)
        | _ => (base64 0 0 0 rest).map ((bits * 64 + n).toUInt8 :: ·)

def binary (text : String) : Except Error (List UInt8) :=
  let cs := text.toList
  if cs.all (·.toNat < 0x80) then
    match base64 0 0 0 cs with
    | some bytes => .ok bytes
    | none => .error (.problem .badBinary)
  else .error (.problem .badBinary)

end Scalar

def Tag.scalarValue (tag : Tag) (text : String) : Except Error Value :=
  match tag with
  | .null => .ok .null
  | .bool => (Scalar.bool text).map .bool
  | .int => (Scalar.int text).map .int
  | .float => (Scalar.float text).map .float
  | .timestamp => Scalar.timestamp text
  | .binary => (Scalar.binary text).map .bytes
  | .str => .ok (.str text)
  | .seq | .map | .set | .omap | .pairs => .error (.problem .wrongKind)
  | .merge | .value | .unknown => .error (.problem .unknownTag)

end RestRoutes.Yaml
