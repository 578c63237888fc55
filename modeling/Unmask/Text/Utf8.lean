import Unmask.Text.Basic

/-!
UTF-8, read strictly: no overlong form, no surrogate, nothing above U+10FFFF.

The reader is a machine over octets. Between characters it owes nothing; inside one it knows how
many octets are still owed and in which range the next one has to lie.
-/

namespace Unmask.Text.Utf8

/-- A character under way: octets owed, the range of the next one, and the bits read so far. -/
structure Pending where
  owed : Nat
  low : UInt8
  high : UInt8
  bits : Nat

/-- What an octet of 0x80 or above begins. -/
def lead (b : UInt8) : Option Pending :=
  if 0xc2 ≤ b ∧ b ≤ 0xdf then some ⟨1, 0x80, 0xbf, b.toNat - 0xc0⟩
  else if b = 0xe0 then some ⟨2, 0xa0, 0xbf, 0⟩
  else if b = 0xed then some ⟨2, 0x80, 0x9f, 0xd⟩
  else if 0xe1 ≤ b ∧ b ≤ 0xef then some ⟨2, 0x80, 0xbf, b.toNat - 0xe0⟩
  else if b = 0xf0 then some ⟨3, 0x90, 0xbf, 0⟩
  else if 0xf1 ≤ b ∧ b ≤ 0xf3 then some ⟨3, 0x80, 0xbf, b.toNat - 0xf0⟩
  else if b = 0xf4 then some ⟨3, 0x80, 0x8f, 4⟩
  else none

def feed : Option Pending → List UInt8 → Option Text
  | none, [] => some []
  | some _, [] => none
  | none, b :: r =>
    if b < 0x80 then (feed none r).map (Char.ofNat b.toNat :: ·)
    else
      match lead b with
      | some p => feed (some p) r
      | none => none
  | some p, b :: r =>
    if p.low ≤ b ∧ b ≤ p.high then
      let bits := p.bits * 64 + (b.toNat - 0x80)
      if p.owed ≤ 1 then (feed none r).map (Char.ofNat bits :: ·)
      else feed (some ⟨p.owed - 1, 0x80, 0xbf, bits⟩) r
    else none

/-- The text that the octets spell, if they are UTF-8. -/
def decode (bytes : List UInt8) : Option Text := feed none bytes

def encode (s : Text) : List UInt8 := s.flatMap String.utf8EncodeChar

end Unmask.Text.Utf8
