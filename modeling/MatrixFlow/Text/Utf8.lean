/-!
# Characters from bytes

* `decode?`: the text that a list of bytes is in UTF-8, if it is one.
* `decodeLossy`: the same for any bytes; each longest beginning of a character that no character
  completes, and each byte that begins none, becomes one replacement character.
-/

namespace MatrixFlow.Text

/-- What a leading byte announces: the count of bytes to follow, the bits it contributes, and the
range of the next byte, which excludes overlong forms, surrogates and numbers that are too great. -/
def leadingByte? (b : Nat) : Option (Nat × Nat × Nat × Nat) :=
  if 0xC2 ≤ b ∧ b ≤ 0xDF then some (1, b - 0xC0, 0x80, 0xBF)
  else if b = 0xE0 then some (2, 0, 0xA0, 0xBF)
  else if b = 0xED then some (2, 13, 0x80, 0x9F)
  else if 0xE1 ≤ b ∧ b ≤ 0xEF then some (2, b - 0xE0, 0x80, 0xBF)
  else if b = 0xF0 then some (3, 0, 0x90, 0xBF)
  else if 0xF1 ≤ b ∧ b ≤ 0xF3 then some (3, b - 0xF0, 0x80, 0xBF)
  else if b = 0xF4 then some (3, 4, 0x80, 0x8F)
  else none

/-- A character under way: bytes still to come, bits so far, and the range of the next byte. -/
structure PendingChar where
  left : Nat
  value : Nat
  low : Nat
  high : Nat

/-- The characters of the bytes, `none` for each place where they are not UTF-8. -/
def decodeMarked : Option PendingChar → List UInt8 → List (Option Char)
  | none, [] => []
  | some _, [] => [none]
  | none, b :: rest =>
    if b.toNat < 0x80 then some (Char.ofNat b.toNat) :: decodeMarked none rest
    else match leadingByte? b.toNat with
      | some (left, value, low, high) => decodeMarked (some ⟨left, value, low, high⟩) rest
      | none => none :: decodeMarked none rest
  | some p, b :: rest =>
    if p.low ≤ b.toNat ∧ b.toNat ≤ p.high then
      let value := p.value * 64 + (b.toNat - 0x80)
      if p.left ≤ 1 then some (Char.ofNat value) :: decodeMarked none rest
      else decodeMarked (some ⟨p.left - 1, value, 0x80, 0xBF⟩) rest
    else if b.toNat < 0x80 then none :: some (Char.ofNat b.toNat) :: decodeMarked none rest
    else match leadingByte? b.toNat with
      | some (left, value, low, high) =>
        none :: decodeMarked (some ⟨left, value, low, high⟩) rest
      | none => none :: none :: decodeMarked none rest

/-- The text that the bytes are, if they are UTF-8. -/
def decode? (bytes : List UInt8) : Option (List Char) :=
  (decodeMarked none bytes).mapM id

/-- The text of the bytes, with replacement characters where they are not UTF-8. -/
def decodeLossy (bytes : List UInt8) : List Char :=
  (decodeMarked none bytes).map fun c => c.getD '\ufffd'

/-- The bytes of a character. -/
def encodeChar (c : Char) : List UInt8 :=
  let n := c.toNat
  if n < 0x80 then [n.toUInt8]
  else if n < 0x800 then [(0xC0 + n / 64).toUInt8, (0x80 + n % 64).toUInt8]
  else if n < 0x10000 then
    [(0xE0 + n / 4096).toUInt8, (0x80 + n / 64 % 64).toUInt8, (0x80 + n % 64).toUInt8]
  else
    [(0xF0 + n / 262144).toUInt8, (0x80 + n / 4096 % 64).toUInt8, (0x80 + n / 64 % 64).toUInt8,
      (0x80 + n % 64).toUInt8]

/-- The bytes of a text. -/
def encode (cs : List Char) : List UInt8 :=
  cs.flatMap encodeChar

end MatrixFlow.Text
