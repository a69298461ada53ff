import RestRoutes.Number.Digits
import RestRoutes.Text.Split

/-! Network addresses in the texts that name hosts. -/

namespace RestRoutes.Url

open Text

/-- One number of an address of four: up to 255, without zeros in front. -/
def isOctet (cs : List Char) : Bool :=
  !cs.isEmpty && cs.length ≤ 3 && cs.all (fun c => '0' ≤ c && c ≤ '9') &&
    (cs.length == 1 || cs.head? != some '0') && Number.ofDigits cs ≤ 255

/-- An address of four numbers with points between them. -/
def isIPv4 (cs : List Char) : Bool :=
  let parts := splitAll (· == '.') cs
  parts.length == 4 && parts.all isOctet

/-- One group of an address of eight: up to four hexadecimal digits. -/
def isHextet (cs : List Char) : Bool :=
  !cs.isEmpty && cs.length ≤ 4 && cs.all (hexValue? · |>.isSome)

/-- The groups of an address of eight, in which one of four numbers at the end stands for two. -/
def hextets? (cs : List Char) : Option (List (List Char)) :=
  let parts := splitAll (· == ':') cs
  match parts.getLast? with
  | none => none
  | some last =>
    if parts.length < 3 then none
    else if last.contains '.' then
      if isIPv4 last then some (parts.dropLast ++ [['0'], ['0']]) else none
    else some parts

/-- Groups that fill an address with the empty ones at `gap`, which is neither the first nor the last
place: an empty group at an end is allowed only next to the gap. -/
def fillsWithGap (parts : List (List Char)) (gap : Nat) : Bool :=
  let high := parts.take gap
  let low := parts.drop (gap + 1)
  let high := if high.head? == some [] then high.drop 1 else high
  let low := if low.getLast? == some [] then low.dropLast else low
  let highAligned := parts.head? != some [] || high.isEmpty
  let lowAligned := parts.getLast? != some [] || low.isEmpty
  highAligned && lowAligned && high.length + low.length < 8 && (high ++ low).all isHextet

/-- The places of the empty groups between the first and the last. -/
def gaps (parts : List (List Char)) : List Nat :=
  (List.range parts.length).filter fun i =>
    0 < i && i + 1 < parts.length && parts[i]? == some []

/-- Groups that make up an address of eight. -/
def areHextets (parts : List (List Char)) : Bool :=
  parts.length ≤ 9 &&
    match gaps parts with
    | [] => parts.length == 8 && parts.all isHextet
    | [gap] => fillsWithGap parts gap
    | _ => false

/-- An address of eight groups, with a zone after a percent sign or none. -/
def isIPv6 (cs : List Char) : Bool :=
  let (address, zoned) := match cutFirst (· == '%') cs with
    | none => (cs, true)
    | some (address, zone) => (address, !zone.isEmpty && !zone.contains '%')
  zoned && (hextets? address).any areHextets

/-- An address of a version to come: its number and something after a point. -/
def isFutureAddress (cs : List Char) : Bool :=
  match cs with
  | 'v' :: rest =>
    let (version, rest) := spanWhile (hexValue? · |>.isSome) rest
    !version.isEmpty && rest.head? == some '.' && 2 ≤ rest.length
  | _ => false

end RestRoutes.Url
