import RestRoutes.Text.Digit

/-! Powers of two and ten, the decimal digits of natural numbers, and the limit on the digits of
integers that are read and written. -/

namespace RestRoutes

namespace Number

def pow2 (n : Nat) : Nat := Nat.pow 2 n

def pow10 (n : Nat) : Nat := Nat.pow 10 n

def digits (n : Nat) : List Char := Nat.toDigits 10 n

/-- The number that decimal digits of any script write. Other characters count as zero. -/
def ofDigits (cs : List Char) : Nat :=
  cs.foldl (fun n c => n * 10 + (Text.digitValue? c).getD 0) 0

/-- The number that hexadecimal digits write in base `base`. -/
def ofDigitsIn (base : Nat) (cs : List Char) : Nat :=
  cs.foldl (fun n c => n * base + (Text.hexValue? c).getD 0) 0

end Number

/-- The most digits an integer may have to be written or read in decimal. -/
def integerDigitLimit : Nat := 4300

def longIntegerMessage (digits : Nat) : String :=
  "Exceeds the limit (4300 digits) for integer string conversion: value has " ++ toString digits ++
    " digits; use sys.set_int_max_str_digits() to increase the limit"

/-- The text of an integer within the digit limit. -/
def integerText? (n : Int) : Option String :=
  if n.natAbs < Number.pow10 integerDigitLimit then
    let ds := Number.digits n.natAbs
    some (String.ofList (if n < 0 then '-' :: ds else ds))
  else none

end RestRoutes
