import RestRoutes.Text.Hex

/-! Reading bytes as UTF-8 text.  A byte sequence is well formed when every character is encoded in
the fewest bytes and none is a surrogate; the first fault is reported with the bytes it covers. -/

namespace RestRoutes.Text.Utf8

/-- Why a byte sequence is no text. -/
inductive Reason
  | invalidStart
  | invalidContinuation
  | unexpectedEnd
deriving DecidableEq, Repr

def Reason.message : Reason → String
  | .invalidStart => "invalid start byte"
  | .invalidContinuation => "invalid continuation byte"
  | .unexpectedEnd => "unexpected end of data"

/-- The first fault: the position of its first byte, that byte, the number of bytes it covers and
the reason. -/
structure Fault where
  position : Nat
  byte : UInt8
  length : Nat
  reason : Reason
deriving DecidableEq, Repr

def Fault.message (fault : Fault) : String :=
  let place :=
    if fault.length = 1 then
      "byte 0x" ++ String.ofList (hex false 2 fault.byte.toNat) ++ " in position " ++
        toString fault.position
    else
      "bytes in position " ++ toString fault.position ++ "-" ++
        toString (fault.position + fault.length - 1)
  "'utf-8' codec can't decode " ++ place ++ ": " ++ fault.reason.message

/-- The number of continuation bytes after a first byte, and the bounds of the first of them.
`none` for a byte that starts no character. -/
def lead? (b : UInt8) : Option (Nat × Nat × Nat) :=
  let n := b.toNat
  if n < 0x80 then some (0, 0x80, 0xBF)
  else if n < 0xC2 then none
  else if n < 0xE0 then some (1, 0x80, 0xBF)
  else if n < 0xF0 then
    some (2, if n = 0xE0 then 0xA0 else 0x80, if n = 0xED then 0x9F else 0xBF)
  else if n < 0xF5 then
    some (3, if n = 0xF0 then 0x90 else 0x80, if n = 0xF4 then 0x8F else 0xBF)
  else none

/-- The value of the first byte's own bits, when `more` continuation bytes follow it. -/
def leadBits (more : Nat) (b : UInt8) : Nat :=
  match more with
  | 0 => b.toNat
  | 1 => b.toNat % 0x20
  | 2 => b.toNat % 0x10
  | _ => b.toNat % 0x08

/-- Reads `more` continuation bytes, the first of them between `low` and `high`.  Gives the code
point and the number of bytes read, or the fault and the number of bytes it covers. -/
def continuation (low high : Nat) :
    (more : Nat) → (value seen : Nat) → List UInt8 → Except (Nat × Reason) (Nat × Nat)
  | 0, value, seen, _ => .ok (value, seen)
  | _ + 1, _, seen, [] => .error (seen, .unexpectedEnd)
  | more + 1, value, seen, b :: rest =>
    if low ≤ b.toNat ∧ b.toNat ≤ high then
      continuation 0x80 0xBF more (value * 0x40 + b.toNat % 0x40) (seen + 1) rest
    else .error (seen, .invalidContinuation)

/-- Reads the characters of `bytes`, which stand at `position`. `skip` bytes of the character
before are still to be passed over. -/
def decodeFrom : (position skip : Nat) → List UInt8 → Except Fault (List Char)
  | _, _, [] => .ok []
  | position, skip + 1, _ :: rest => decodeFrom (position + 1) skip rest
  | position, 0, b :: rest =>
    match lead? b with
    | none => .error ⟨position, b, 1, .invalidStart⟩
    | some (more, low, high) =>
      match continuation low high more (leadBits more b) 1 rest with
      | .error (length, reason) => .error ⟨position, b, length, reason⟩
      | .ok (value, seen) =>
        (decodeFrom (position + 1) (seen - 1) rest).map (Char.ofNat value :: ·)

def decode (bytes : List UInt8) : Except Fault String :=
  (decodeFrom 0 0 bytes).map String.ofList

def encode (s : String) : List UInt8 := s.toUTF8.toList

end RestRoutes.Text.Utf8
