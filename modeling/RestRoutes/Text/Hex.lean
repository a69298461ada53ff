/-! Hexadecimal text of a fixed width. -/

namespace RestRoutes.Text

/-- The sixteen digits, with small or capital letters. -/
def hexDigit (capital : Bool) (n : Nat) : Char :=
  if n < 10 then Char.ofNat ('0'.toNat + n)
  else Char.ofNat ((if capital then 'A'.toNat else 'a'.toNat) + (n - 10))

/-- The last `width` hexadecimal digits of `n`. -/
def hex (capital : Bool) : (width : Nat) → (n : Nat) → List Char
  | 0, _ => []
  | width + 1, n => hex capital width (n / 16) ++ [hexDigit capital (n % 16)]

end RestRoutes.Text
