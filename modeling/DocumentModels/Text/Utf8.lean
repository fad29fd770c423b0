/-
Reading bytes as UTF-8 when some of them may be wrong: a maximal run of bytes that begins a character but does not finish
it, and every other wrong byte, is read as the replacement character.
-/
namespace DocumentModels.Text

/-- the character that stands for bytes that are none -/
def replacement : Char := '\uFFFD'

/-- how a character goes on after its first byte: the bits so far, the bytes to come, and the range of the next one -/
structure Pending where
  bits : Nat
  left : Nat
  low : Nat
  high : Nat

/-- the character of a first byte, or how it goes on -/
def firstByte (byte : Nat) : Except Char Pending :=
  if byte < 0x80 then .error (Char.ofNat byte)
  else if 0xC2 ≤ byte ∧ byte ≤ 0xDF then .ok ⟨byte - 0xC0, 1, 0x80, 0xBF⟩
  else if byte = 0xE0 then .ok ⟨0, 2, 0xA0, 0xBF⟩
  else if byte = 0xED then .ok ⟨0xD, 2, 0x80, 0x9F⟩
  else if 0xE1 ≤ byte ∧ byte ≤ 0xEF then .ok ⟨byte - 0xE0, 2, 0x80, 0xBF⟩
  else if byte = 0xF0 then .ok ⟨0, 3, 0x90, 0xBF⟩
  else if 0xF1 ≤ byte ∧ byte ≤ 0xF3 then .ok ⟨byte - 0xF0, 3, 0x80, 0xBF⟩
  else if byte = 0xF4 then .ok ⟨4, 3, 0x80, 0x8F⟩
  else .error replacement

/-- what the decoder has: characters in reverse, and a character that goes on -/
structure Decoder where
  reversed : List Char := []
  pending : Option Pending := none

namespace Decoder

/-- take a byte that begins a character -/
def begin (decoder : Decoder) (byte : Nat) : Decoder :=
  match firstByte byte with
  | .error c => ⟨c :: decoder.reversed, none⟩
  | .ok pending => ⟨decoder.reversed, some pending⟩

def step (decoder : Decoder) (byte : UInt8) : Decoder :=
  let byte := byte.toNat
  match decoder.pending with
  | none => decoder.begin byte
  | some pending =>
    if pending.low ≤ byte ∧ byte ≤ pending.high then
      let bits := pending.bits * 64 + (byte - 0x80)
      if pending.left ≤ 1 then ⟨Char.ofNat bits :: decoder.reversed, none⟩
      else ⟨decoder.reversed, some ⟨bits, pending.left - 1, 0x80, 0xBF⟩⟩
    else begin ⟨replacement :: decoder.reversed, none⟩ byte

end Decoder

def decodeLossy (bytes : List UInt8) : String :=
  let decoder := bytes.foldl Decoder.step {}
  let last := if decoder.pending.isSome then [replacement] else []
  String.ofList (decoder.reversed.reverse ++ last)

end DocumentModels.Text
