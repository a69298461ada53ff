import RestRoutes.Text.Split

/-! The tags of nodes, and the tag that a plain scalar has by its text. -/

namespace RestRoutes.Yaml

inductive Tag
  | null
  | bool
  | int
  | float
  | timestamp
  | binary
  | str
  | seq
  | map
  | set
  | omap
  | pairs
  /-- The key `<<`, under which mappings are merged into the one that holds it. -/
  | merge
  /-- The key `=`, under which a mapping has the scalar it stands for. -/
  | value
  | unknown
deriving DecidableEq, Repr

namespace Tag

def stem : String := "tag:yaml.org,2002:"

def named : List (String × Tag) :=
  [("null", null), ("bool", bool), ("int", int), ("float", float), ("timestamp", timestamp),
    ("binary", binary), ("str", str), ("seq", seq), ("map", map), ("set", set), ("omap", omap),
    ("pairs", pairs), ("merge", merge), ("value", value)]

def ofName (name : String) : Tag :=
  ((named.find? fun entry => stem ++ entry.1 == name).map (·.2)).getD unknown

/-- A tag whose nodes are collections. -/
def isCollection : Tag → Bool
  | .seq | .map | .set | .omap | .pairs => true
  | _ => false

/-! ### Plain scalars -/

def isDigit (c : Char) : Bool := '0' ≤ c && c ≤ '9'

/-- A digit, or the low line that may stand between digits. -/
def isDigitOrLine (c : Char) : Bool := isDigit c || c == '_'

def isOctalOrLine (c : Char) : Bool := ('0' ≤ c && c ≤ '7') || c == '_'

def isHexOrLine (c : Char) : Bool := isDigitOrLine c || ('a' ≤ c && c ≤ 'f') || ('A' ≤ c && c ≤ 'F')

def isBinaryOrLine (c : Char) : Bool := c == '0' || c == '1' || c == '_'

/-- The text without a sign at its front. -/
def unsigned : List Char → List Char
  | '-' :: rest => rest
  | '+' :: rest => rest
  | cs => cs

/-- A digit, then digits and low lines. -/
def isGrouped : List Char → Bool
  | [] => false
  | c :: rest => isDigit c && rest.all isDigitOrLine

/-- One or two digits of a number below sixty. -/
def isSixtieth : List Char → Bool
  | [c] => isDigit c
  | [c, d] => '0' ≤ c && c ≤ '5' && isDigit d
  | _ => false

/-- An integer: binary, octal, decimal, hexadecimal, or in base sixty with colons. -/
def isInt (cs : List Char) : Bool :=
  match unsigned cs with
  | ['0'] => true
  | '0' :: 'b' :: ds => !ds.isEmpty && ds.all isBinaryOrLine
  | '0' :: 'x' :: ds => !ds.isEmpty && ds.all isHexOrLine
  | '0' :: ds => ds.all isOctalOrLine
  | ds =>
    match Text.splitAll (· == ':') ds with
    | first :: rest => isGrouped first && rest.all isSixtieth
    | [] => false

/-- Nothing, or an exponent with its sign. -/
def isExponent : List Char → Bool
  | [] => true
  | e :: sign :: ds =>
    (e == 'e' || e == 'E') && (sign == '+' || sign == '-') && !ds.isEmpty && ds.all isDigit
  | _ => false

/-- What may follow the point of a float. -/
def isFraction (cs : List Char) : Bool := isExponent (cs.dropWhile isDigitOrLine)

/-- A float: decimal with a point, in base sixty with colons and a point, or a named one. -/
def isFloat (cs : List Char) : Bool :=
  let body := unsigned cs
  let named :=
    [".inf", ".Inf", ".INF"].any (·.toList == body) || [".nan", ".NaN", ".NAN"].any (·.toList == cs)
  let pointed := match cs with
    | '.' :: c :: rest => isDigit c && isFraction rest
    | _ => false
  let decimal := match Text.cutFirst (· == '.') body with
    | none => false
    | some (whole, fraction) =>
      match Text.splitAll (· == ':') whole with
      | [first] => isGrouped first && isFraction fraction
      | first :: rest => isGrouped first && rest.all isSixtieth && fraction.all isDigitOrLine
      | [] => false
  named || pointed || decimal

structure MomentText where
  year : List Char
  month : List Char
  day : List Char
  time : Option (List Char × List Char × List Char)
  fraction : List Char
  /-- The offset: its sign, hours and minutes; `Z` has none of them. -/
  zone : Option (Option (Bool × List Char × List Char))

/-- The minutes of an offset, after its hours. -/
def zoneMinutes? : List Char → Option (List Char)
  | [] => some []
  | [':', a, b] => if isDigit a && isDigit b then some [a, b] else none
  | _ => none

/-- An offset at the end of a moment. -/
def zone? : List Char → Option (Option (Option (Bool × List Char × List Char)))
  | [] => some none
  | cs =>
    match cs.dropWhile fun c => c == ' ' || c == '\t' with
    | ['Z'] => some (some none)
    | sign :: rest =>
      let (hours, rest) := Text.spanWhile isDigit rest
      if (sign == '+' || sign == '-') && (hours.length == 1 || hours.length == 2) then
        (zoneMinutes? rest).map fun minutes => some (some (sign == '-', hours, minutes))
      else none
    | [] => none

/-- What comes after the separator between day and time. -/
def afterDay? : List Char → Option (List Char)
  | 'T' :: rest | 't' :: rest => some rest
  | c :: rest =>
    if c == ' ' || c == '\t' then some (rest.dropWhile fun c => c == ' ' || c == '\t') else none
  | [] => none

/-- The numbers of a moment: year, month and day, then perhaps a time, a fraction of a second and an
offset. -/
def momentText? (cs : List Char) : Option MomentText := do
  let (year, rest) := Text.spanWhile isDigit cs
  guard (year.length == 4 && rest.head? == some '-')
  let (month, rest) := Text.spanWhile isDigit (rest.drop 1)
  guard ((month.length == 1 || month.length == 2) && rest.head? == some '-')
  let (day, rest) := Text.spanWhile isDigit (rest.drop 1)
  guard (day.length == 1 || day.length == 2)
  if rest.isEmpty then return ⟨year, month, day, none, [], none⟩
  let rest ← afterDay? rest
  let (hour, rest) := Text.spanWhile isDigit rest
  guard ((hour.length == 1 || hour.length == 2) && rest.head? == some ':')
  let (minute, rest) := Text.spanWhile isDigit (rest.drop 1)
  guard (minute.length == 2 && rest.head? == some ':')
  let (second, rest) := Text.spanWhile isDigit (rest.drop 1)
  guard (second.length == 2)
  let (fraction, rest) := match rest with
    | '.' :: rest => Text.spanWhile isDigit rest
    | rest => ([], rest)
  let zone ← zone? rest
  return ⟨year, month, day, some (hour, minute, second), fraction, zone⟩

/-- A moment as plain scalars write it: a day alone has two digits for month and day. -/
def isTimestamp (cs : List Char) : Bool :=
  match momentText? cs with
  | none => false
  | some m => m.time.isSome || (m.month.length == 2 && m.day.length == 2)

def boolSpellings : List String :=
  ["yes", "Yes", "YES", "no", "No", "NO", "true", "True", "TRUE", "false", "False", "FALSE", "on",
    "On", "ON", "off", "Off", "OFF"]

/-- The text without one line break at its end. -/
def withoutFinalBreak (cs : List Char) : List Char :=
  if cs.getLast? == some '\n' then cs.dropLast else cs

def ofPlain (text : String) : Tag :=
  if text.isEmpty then null
  else
    let cs := withoutFinalBreak text.toList
    let line := String.ofList cs
    if cs.isEmpty then str
    else if boolSpellings.contains line then bool
    else if isFloat cs then float
    else if isInt cs then int
    else if line == "<<" then merge
    else if ["~", "null", "Null", "NULL"].contains line then null
    else if isTimestamp cs then timestamp
    else if line == "=" then value
    else if ["!", "&", "*"].contains line then unknown
    else str

end Tag

end RestRoutes.Yaml
