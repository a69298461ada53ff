import RestRoutes.Number.Digits

/-! Double-precision numbers as exact values: `significand * 2 ^ exponent` with a sign.  Reading a
decimal rounds to the nearest double, ties to the even significand; `shortest` finds the fewest
decimal digits that read back as the same double. -/

namespace RestRoutes.Number

/-- A double.  Numbers built here have a significand below `2 ^ 53` and an exponent of at least
`-1074`, and the significand is at least `2 ^ 52` unless the exponent is `-1074`. -/
inductive Binary64
  | nan
  | infinity (negative : Bool)
  | finite (negative : Bool) (significand : Nat) (exponent : Int)
deriving DecidableEq, Repr

namespace Binary64

/-- `num / den` rounded to the nearest natural number, a tie to the even one. -/
def roundDiv (num den : Nat) : Nat :=
  let quotient := num / den
  let rest := num % den
  if 2 * rest < den then quotient
  else if den < 2 * rest then quotient + 1
  else quotient + quotient % 2

/-- The fraction `num / den / 2 ^ exponent` as a numerator and a denominator. -/
def scaled (num den : Nat) (exponent : Int) : Nat × Nat :=
  if 0 ≤ exponent then (num, den * pow2 exponent.toNat) else (num * pow2 (-exponent).toNat, den)

/-- The exponent of the double nearest to `num / den`, before a carry. -/
def exponentOf (num den : Nat) : Int :=
  let guess : Int := (num.log2 : Int) - den.log2 - 53
  let (n, d) := scaled num den guess
  max (if n < d * pow2 53 then guess else guess + 1) (-1074)

def ofQuotient (negative : Bool) (num den : Nat) : Binary64 :=
  if num = 0 then .finite negative 0 (-1074)
  else
    let exponent := exponentOf num den
    let (n, d) := scaled num den exponent
    let significand := roundDiv n d
    let (significand, exponent) :=
      if significand = pow2 53 then (pow2 52, exponent + 1) else (significand, exponent)
    if exponent ≤ 971 then .finite negative significand exponent else .infinity negative

/-- The double nearest to `significand * 10 ^ exponent`.  Decimals beyond all doubles are decided
by their size alone. -/
def ofDecimal (negative : Bool) (significand : Nat) (exponent : Int) : Binary64 :=
  let size : Int := (digits significand).length + exponent
  if significand = 0 ∨ size < -330 then .finite negative 0 (-1074)
  else if 310 < size then .infinity negative
  else if 0 ≤ exponent then ofQuotient negative (significand * pow10 exponent.toNat) 1
  else ofQuotient negative significand (pow10 (-exponent).toNat)

def ofInt (n : Int) : Binary64 := ofQuotient (decide (n < 0)) n.natAbs 1

/-- The value `(-1)^negative * significand * 2 ^ exponent` as a numerator and a denominator. -/
def fraction (significand : Nat) (exponent : Int) : Nat × Nat :=
  if 0 ≤ exponent then (significand * pow2 exponent.toNat, 1)
  else (significand, pow2 (-exponent).toNat)

/-- The integer that a double is, if it is one. -/
def toInt? : Binary64 → Option Int
  | .finite negative significand exponent =>
    let (n, d) := fraction significand exponent
    if n % d = 0 then some (if negative then -(n / d : Nat) else (n / d : Nat)) else none
  | _ => none

/-- Either zero. -/
def isZero : Binary64 → Bool
  | .finite _ 0 _ => true
  | _ => false

def negate : Binary64 → Binary64
  | .nan => .nan
  | .infinity negative => .infinity (!negative)
  | .finite negative significand exponent => .finite (!negative) significand exponent

/-- The double with numerator `n` over `d`; a zero keeps the sign `negative`. -/
def ofSigned (negative : Bool) (n : Int) (d : Nat) : Binary64 :=
  if n = 0 then .finite negative 0 (-1074) else ofQuotient (decide (n < 0)) n.natAbs d

def signed (negative : Bool) (n : Nat) : Int := if negative then -(n : Int) else n

def add : Binary64 → Binary64 → Binary64
  | .nan, _ | _, .nan => .nan
  | .infinity s, .infinity t => if s = t then .infinity s else .nan
  | .infinity s, _ | _, .infinity s => .infinity s
  | .finite s m e, .finite t n f =>
    let (a, b) := fraction m e
    let (c, d) := fraction n f
    ofSigned (s && t) (signed s a * d + signed t c * b) (b * d)

def mul : Binary64 → Binary64 → Binary64
  | .nan, _ | _, .nan => .nan
  | .infinity s, .infinity t => .infinity (s ^^ t)
  | .infinity s, .finite t n _ | .finite t n _, .infinity s =>
    if n = 0 then .nan else .infinity (s ^^ t)
  | .finite s m e, .finite t n f =>
    let (a, b) := fraction m e
    let (c, d) := fraction n f
    ofQuotient (s ^^ t) (a * c) (b * d)

/-! ### The shortest decimal -/

/-- The largest `k` with `10 ^ k ≤ num / den`, found upward from `k`. -/
def decimalExponentFrom (num den : Nat) : (fuel : Nat) → (k : Int) → Int
  | 0, k => k
  | fuel + 1, k =>
    let next := k + 1
    let reached :=
      if 0 ≤ next then decide (den * pow10 next.toNat ≤ num)
      else decide (den ≤ num * pow10 (-next).toNat)
    if reached then decimalExponentFrom num den fuel next else k

/-- The largest `k` with `10 ^ k ≤ num / den`. -/
def decimalExponent (num den : Nat) : Int :=
  let binary : Int := (num.log2 : Int) - den.log2
  decimalExponentFrom num den 8 (binary * 30103 / 100000 - 3)

/-- The reals that read as one double: between two numerators over a common denominator, with or
without the ends. -/
structure Interval where
  low : Nat
  value : Nat
  high : Nat
  den : Nat
  closed : Bool

/-- The reals that round to `significand * 2 ^ exponent`.  Below a power of two the gap to the next
smaller double is half as wide. -/
def interval (significand : Nat) (exponent : Int) : Interval :=
  let (n, d) := fraction significand exponent
  let (unit, _) := fraction 1 exponent
  let narrow := significand = pow2 52 ∧ -1074 < exponent
  ⟨4 * n - (if narrow then unit else 2 * unit), 4 * n, 4 * n + 2 * unit, 4 * d,
    significand % 2 == 0⟩

/-- The multiple `count * 10 ^ k` lies in the interval. -/
def Interval.holds (r : Interval) (count : Nat) (k : Int) : Bool :=
  let (n, d) := if 0 ≤ k then (count * pow10 k.toNat, 1) else (count, pow10 (-k).toNat)
  let value := n * r.den
  if r.closed then decide (r.low * d ≤ value) && decide (value ≤ r.high * d)
  else decide (r.low * d < value) && decide (value < r.high * d)

/-- The multiple of `10 ^ k` in the interval that is nearest to its double, if one is. -/
def Interval.multiple? (r : Interval) (k : Int) : Option Nat :=
  let (n, d) :=
    if 0 ≤ k then (r.value, r.den * pow10 k.toNat) else (r.value * pow10 (-k).toNat, r.den)
  let below := n / d
  let nearest := roundDiv n d
  let other := if nearest = below then below + 1 else below
  if r.holds nearest k then some nearest else if r.holds other k then some other else none

/-- The nearest decimal in the interval with the fewest digits, from `count` digits upward. -/
def shortestFrom (r : Interval) (top : Int) : (fuel count : Nat) → Nat × Int
  | 0, count => (roundDiv r.value r.den, top + 1 - count)
  | fuel + 1, count =>
    match r.multiple? (top + 1 - count) with
    | some n => (n, top + 1 - count)
    | none => shortestFrom r top fuel (count + 1)

/-- The shortest decimal `n * 10 ^ k` that reads as `significand * 2 ^ exponent`. -/
def shortest (significand : Nat) (exponent : Int) : Nat × Int :=
  let r := interval significand exponent
  shortestFrom r (decimalExponent r.value r.den) 20 1

/-- Digits without their trailing zeros, and how many these were. -/
def trimZeros (cs : List Char) : List Char × Nat :=
  let kept := (cs.reverse.dropWhile (· == '0')).reverse
  (kept, cs.length - kept.length)

/-- How a positive double is laid out: positional while the leading digit stands between the
sixteenth place before and the fourth place after the point, otherwise with an exponent of at least
two digits.  A positional number always shows a digit on both sides of the point. -/
def layout (significand : Nat) (exponent : Int) : List Char :=
  let (n, k) := shortest significand exponent
  let (ds, zeros) := trimZeros (digits n)
  let k := k + zeros
  let point : Int := ds.length + k
  if -3 ≤ point ∧ point ≤ 16 then
    if point ≤ 0 then
      '0' :: '.' :: (List.replicate (-point).toNat '0' ++ ds)
    else if (ds.length : Int) ≤ point then
      ds ++ List.replicate (point - ds.length).toNat '0' ++ ['.', '0']
    else ds.take point.toNat ++ '.' :: ds.drop point.toNat
  else
    let e := point - 1
    let tail := if ds.length = 1 then ds else ds.take 1 ++ '.' :: ds.drop 1
    let size := digits e.natAbs
    let padded := if size.length = 1 then '0' :: size else size
    tail ++ 'e' :: (if e < 0 then '-' else '+') :: padded

def text : Binary64 → String
  | .nan => "nan"
  | .infinity negative => if negative then "-inf" else "inf"
  | .finite negative significand exponent =>
    let body := if significand = 0 then ['0', '.', '0'] else layout significand exponent
    String.ofList (if negative then '-' :: body else body)

end Binary64

end RestRoutes.Number
