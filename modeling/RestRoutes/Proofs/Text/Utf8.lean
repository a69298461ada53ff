import RestRoutes.Proofs.Run
import RestRoutes.Text.Utf8

/-! Reading UTF-8 is the inverse of writing it: exactly the bytes of texts are read, and as the texts
that they are the bytes of.  A first byte says how many bytes continue it and where the first of these
may lie; within these bounds the bytes are those of one character, and the bytes of every character lie
within them. -/

namespace RestRoutes.Text.Utf8

/-! ### Writing -/

theorem toList_loop (bytes : ByteArray) (i : Nat) (read : List UInt8) :
    ByteArray.toList.loop bytes i read = read.reverse ++ bytes.data.toList.drop i := by
  fun_induction ByteArray.toList.loop bytes i read with
  | case1 i read h ih =>
    have hBound : i < bytes.data.toList.length := h
    rw [ih, List.reverse_cons, List.append_assoc, List.drop_eq_getElem_cons hBound]
    simp [ByteArray.get!, getElem!_pos bytes.data i h]
  | case2 i read h =>
    have hEnd : bytes.data.toList.length ≤ i := Nat.le_of_not_lt h
    rw [List.drop_eq_nil_of_le hEnd, List.append_nil]

theorem encode_eq (s : String) : encode s = s.toList.flatMap String.utf8EncodeChar := by
  rw [encode, ByteArray.toList, toList_loop, String.toUTF8_eq_toByteArray, ← String.utf8Encode_toList,
    List.utf8Encode, List.toList_data_toByteArray]
  rfl

/-! ### Characters -/

/-- The bytes that continue a character, the first of them between bounds of its own. -/
def Continues (low high : Nat) : List UInt8 → Prop
  | [] => True
  | b :: rest => (low ≤ b.toNat ∧ b.toNat ≤ high) ∧ Continues 0x80 0xBF rest

/-- A code point from the bits of a first byte on. -/
def codeFrom (value : Nat) (tail : List UInt8) : Nat :=
  tail.foldl (fun n b => n * 0x40 + b.toNat % 0x40) value

theorem continuation_eq_ok {low high more value seen n : Nat} {bytes : List UInt8} {v : Nat} :
    continuation low high more value seen bytes = .ok (v, n) ↔
      ∃ tail rest, bytes = tail ++ rest ∧ tail.length = more ∧ Continues low high tail ∧
        v = codeFrom value tail ∧ n = seen + more := by
  induction more generalizing low high value seen bytes with
  | zero =>
    simp only [continuation, Except.ok.injEq, Prod.mk.injEq]
    constructor
    · rintro ⟨rfl, rfl⟩
      exact ⟨[], bytes, rfl, rfl, trivial, rfl, rfl⟩
    · rintro ⟨tail, rest, -, hLength, -, rfl, rfl⟩
      obtain rfl := List.eq_nil_of_length_eq_zero hLength
      exact ⟨rfl, rfl⟩
  | succ more ih =>
    cases bytes with
    | nil =>
      refine iff_of_false nofun ?_
      rintro ⟨tail, rest, hBytes, hLength, -⟩
      rw [(List.append_eq_nil_iff.mp hBytes.symm).1] at hLength
      cases hLength
    | cons b bytes =>
      rw [continuation]
      split
      · rename_i hBounds
        rw [ih]
        constructor
        · rintro ⟨tail, rest, rfl, rfl, hTail, rfl, rfl⟩
          exact ⟨b :: tail, rest, rfl, rfl, ⟨hBounds, hTail⟩, rfl, by omega⟩
        · rintro ⟨tail, rest, hBytes, hLength, hTail, rfl, rfl⟩
          cases tail with
          | nil => cases hLength
          | cons c tail =>
            obtain ⟨rfl, rfl⟩ := List.cons.inj hBytes
            exact ⟨tail, rest, rfl, Nat.succ.inj hLength, hTail.2, rfl, by omega⟩
      · rename_i hBounds
        refine iff_of_false nofun ?_
        rintro ⟨tail, rest, hBytes, hLength, hTail, -⟩
        cases tail with
        | nil => cases hLength
        | cons c tail =>
          obtain ⟨rfl, -⟩ := List.cons.inj hBytes
          exact hBounds hTail.1

theorem lead?_eq_some {b : UInt8} {more low high : Nat} :
    lead? b = some (more, low, high) ↔
      (b.toNat < 0x80 ∧ more = 0 ∧ low = 0x80 ∧ high = 0xBF) ∨
      (0xC2 ≤ b.toNat ∧ b.toNat < 0xE0 ∧ more = 1 ∧ low = 0x80 ∧ high = 0xBF) ∨
      (0xE0 ≤ b.toNat ∧ b.toNat < 0xF0 ∧ more = 2 ∧
        low = (if b.toNat = 0xE0 then 0xA0 else 0x80) ∧
        high = if b.toNat = 0xED then 0x9F else 0xBF) ∨
      (0xF0 ≤ b.toNat ∧ b.toNat < 0xF5 ∧ more = 3 ∧
        low = (if b.toNat = 0xF0 then 0x90 else 0x80) ∧
        high = if b.toNat = 0xF4 then 0x8F else 0xBF) := by
  unfold lead?
  dsimp only
  grind

/-- A first byte and the bytes that continue it are those of a character. -/
structure Encodes (c : Char) (b : UInt8) (tail : List UInt8) (more low high : Nat) : Prop where
  lead : lead? b = some (more, low, high)
  length : tail.length = more
  continues : Continues low high tail
  code : codeFrom (leadBits more b) tail = c.toNat

theorem encodes_of_char (c : Char) :
    ∃ b tail more low high, String.utf8EncodeChar c = b :: tail ∧ Encodes c b tail more low high := by
  have hValid : c.toNat < 0xD800 ∨ 0xDFFF < c.toNat ∧ c.toNat < 0x110000 := c.valid
  have hCode : c.val.toNat = c.toNat := rfl
  unfold String.utf8EncodeChar
  rw [hCode]
  dsimp only
  split
  · refine ⟨_, _, 0, _, _, rfl, lead?_eq_some.mpr (.inl ⟨?_, rfl, rfl, rfl⟩), rfl, trivial, ?_⟩
    · rw [UInt8.toNat_ofNat']
      omega
    · simp only [codeFrom, leadBits, List.foldl_nil, UInt8.toNat_ofNat']
      omega
  split
  · refine ⟨_, _, 1, _, _, rfl, lead?_eq_some.mpr (.inr (.inl ⟨?_, ?_, rfl, rfl, rfl⟩)), rfl, ?_, ?_⟩
    · rw [UInt8.toNat_ofNat']
      omega
    · rw [UInt8.toNat_ofNat']
      omega
    · simp only [Continues, UInt8.toNat_ofNat', and_true]
      omega
    · simp only [codeFrom, leadBits, List.foldl_cons, List.foldl_nil, UInt8.toNat_ofNat']
      omega
  split
  · refine ⟨_, _, 2, _, _, rfl, lead?_eq_some.mpr (.inr (.inr (.inl ⟨?_, ?_, rfl, rfl, rfl⟩))), rfl, ?_, ?_⟩
    · rw [UInt8.toNat_ofNat']
      omega
    · rw [UInt8.toNat_ofNat']
      omega
    · simp only [Continues, UInt8.toNat_ofNat', and_true]
      split <;> split <;> omega
    · simp only [codeFrom, leadBits, List.foldl_cons, List.foldl_nil, UInt8.toNat_ofNat']
      omega
  · refine ⟨_, _, 3, _, _, rfl, lead?_eq_some.mpr (.inr (.inr (.inr ⟨?_, ?_, rfl, rfl, rfl⟩))), rfl, ?_, ?_⟩
    · rw [UInt8.toNat_ofNat']
      omega
    · rw [UInt8.toNat_ofNat']
      omega
    · simp only [Continues, UInt8.toNat_ofNat', and_true]
      split <;> split <;> omega
    · simp only [codeFrom, leadBits, List.foldl_cons, List.foldl_nil, UInt8.toNat_ofNat']
      omega

theorem toNat_ofNat_of_valid {n : Nat} (h : n.isValidChar) : (Char.ofNat n).toNat = n := by
  rw [Char.ofNat, dif_pos h]
  rfl

theorem utf8EncodeChar_codeFrom {b : UInt8} {tail : List UInt8} {more low high : Nat}
    (hLead : lead? b = some (more, low, high)) (hLength : tail.length = more)
    (hTail : Continues low high tail) :
    String.utf8EncodeChar (Char.ofNat (codeFrom (leadBits more b) tail)) = b :: tail := by
  have hWritten {n : Nat} (h : n.isValidChar) : (Char.ofNat n).val.toNat = n :=
    toNat_ofNat_of_valid h
  rcases lead?_eq_some.mp hLead with ⟨hb, rfl, rfl, rfl⟩ | ⟨hb, hb', rfl, rfl, rfl⟩ |
    ⟨hb, hb', rfl, rfl, rfl⟩ | ⟨hb, hb', rfl, rfl, rfl⟩
  · match tail, hLength with
    | [], _ =>
      have hCode : codeFrom (leadBits 0 b) [] = b.toNat := rfl
      have hValid : b.toNat.isValidChar := .inl (by omega)
      rw [hCode, String.utf8EncodeChar, hWritten hValid]
      rw [if_pos (by omega), UInt8.ofNat_toNat]
  · match tail, hLength with
    | [c], _ =>
      have hCode : codeFrom (leadBits 1 b) [c] = b.toNat % 32 * 64 + c.toNat % 64 := rfl
      have hValid : (b.toNat % 32 * 64 + c.toNat % 64).isValidChar := .inl (by omega)
      simp only [Continues, and_true] at hTail
      rw [hCode, String.utf8EncodeChar, hWritten hValid]
      rw [if_neg (by omega), if_pos (by omega)]
      simp only [List.cons.injEq, and_true, ← UInt8.toNat_inj, UInt8.toNat_ofNat']
      omega
  · match tail, hLength with
    | [c, d], _ =>
      have hCode : codeFrom (leadBits 2 b) [c, d] =
          (b.toNat % 16 * 64 + c.toNat % 64) * 64 + d.toNat % 64 := rfl
      simp only [Continues, and_true] at hTail
      -- The bounds of the second byte keep out what two bytes can write, and the surrogates.
      have hBounds : 0x800 ≤ (b.toNat % 16 * 64 + c.toNat % 64) * 64 + d.toNat % 64 ∧
          ((b.toNat % 16 * 64 + c.toNat % 64) * 64 + d.toNat % 64).isValidChar := by
        simp only [Nat.isValidChar]
        split at hTail <;> split at hTail <;> omega
      have hByte : 0x80 ≤ c.toNat ∧ c.toNat ≤ 0xBF := by
        split at hTail <;> split at hTail <;> omega
      rw [hCode, String.utf8EncodeChar, hWritten hBounds.2]
      rw [if_neg (by omega), if_neg (by omega), if_pos (by omega)]
      simp only [List.cons.injEq, and_true, ← UInt8.toNat_inj, UInt8.toNat_ofNat']
      omega
  · match tail, hLength with
    | [c, d, e], _ =>
      have hCode : codeFrom (leadBits 3 b) [c, d, e] =
          ((b.toNat % 8 * 64 + c.toNat % 64) * 64 + d.toNat % 64) * 64 + e.toNat % 64 := rfl
      simp only [Continues, and_true] at hTail
      have hBounds :
          0x10000 ≤ ((b.toNat % 8 * 64 + c.toNat % 64) * 64 + d.toNat % 64) * 64 + e.toNat % 64 ∧
          ((b.toNat % 8 * 64 + c.toNat % 64) * 64 + d.toNat % 64) * 64 + e.toNat % 64 <
            0x110000 := by
        split at hTail <;> split at hTail <;> omega
      have hByte : 0x80 ≤ c.toNat ∧ c.toNat ≤ 0xBF := by
        split at hTail <;> split at hTail <;> omega
      rw [hCode, String.utf8EncodeChar, hWritten (.inr ⟨by omega, hBounds.2⟩)]
      rw [if_neg (by omega), if_neg (by omega), if_neg (by omega)]
      simp only [List.cons.injEq, and_true, ← UInt8.toNat_inj, UInt8.toNat_ofNat']
      omega

/-! ### Texts -/

/-- The bytes of a character that are already read are passed over. -/
theorem decodeFrom_append (position : Nat) (tail bytes : List UInt8) :
    decodeFrom position tail.length (tail ++ bytes) = decodeFrom (position + tail.length) 0 bytes := by
  induction tail generalizing position with
  | nil => rfl
  | cons b tail ih =>
    rw [List.cons_append, List.length_cons, decodeFrom, ih, Nat.add_right_comm, Nat.add_assoc]

theorem flatMap_of_decodeFrom {position skip : Nat} {bytes : List UInt8} {cs : List Char}
    (h : decodeFrom position skip bytes = .ok cs) :
    bytes.drop skip = cs.flatMap String.utf8EncodeChar := by
  induction bytes generalizing position skip cs with
  | nil =>
    obtain rfl : [] = cs := Except.ok.inj h
    exact List.drop_nil
  | cons b rest ih =>
    cases skip with
    | succ skip => exact ih h
    | zero =>
      rw [decodeFrom] at h
      split at h
      · cases h
      · rename_i more low high hLead
        split at h
        · cases h
        · rename_i value seen hTail
          obtain ⟨tail, others, rfl, hLength, hContinues, rfl, rfl⟩ := continuation_eq_ok.mp hTail
          obtain ⟨read, hRead, rfl⟩ := except_map_eq_ok.mp h
          have hOthers := ih hRead
          rw [Nat.add_sub_cancel_left, ← hLength, List.drop_left] at hOthers
          rw [List.drop_zero, List.flatMap_cons, ← hOthers,
            utf8EncodeChar_codeFrom hLead hLength hContinues, List.cons_append]

theorem decodeFrom_flatMap (position : Nat) (cs : List Char) :
    decodeFrom position 0 (cs.flatMap String.utf8EncodeChar) = .ok cs := by
  induction cs generalizing position with
  | nil => rfl
  | cons c cs ih =>
    obtain ⟨b, tail, more, low, high, hBytes, hLead, hLength, hContinues, hCode⟩ :=
      encodes_of_char c
    have hTail : continuation low high more (leadBits more b) 1
        (tail ++ cs.flatMap String.utf8EncodeChar) = .ok (c.toNat, 1 + more) :=
      continuation_eq_ok.mpr ⟨tail, _, rfl, hLength, hContinues, hCode.symm, rfl⟩
    rw [List.flatMap_cons, hBytes, List.cons_append, decodeFrom, hLead]
    simp only [hTail, Nat.add_sub_cancel_left, Char.ofNat_toNat]
    rw [← hLength, decodeFrom_append, ih]
    rfl

/-- Exactly the bytes of a text are read, and as that text. -/
theorem decode_eq_ok {bytes : List UInt8} {s : String} :
    decode bytes = .ok s ↔ bytes = encode s := by
  rw [encode_eq, decode, except_map_eq_ok]
  constructor
  · rintro ⟨cs, hRead, rfl⟩
    rw [String.toList_ofList, ← flatMap_of_decodeFrom hRead, List.drop_zero]
  · rintro rfl
    exact ⟨s.toList, decodeFrom_flatMap 0 s.toList, String.ofList_toList⟩

/-- Bytes that are refused are those of no text. -/
theorem ne_encode_of_decode {bytes : List UInt8} {fault : Fault} (h : decode bytes = .error fault)
    (s : String) : bytes ≠ encode s := by
  rintro rfl
  rw [decode_eq_ok.mpr rfl] at h
  cases h

end RestRoutes.Text.Utf8
