import CannedHttp.Text.Basic

/-!
UTF-8 in both directions. Decoding never fails: each maximal beginning of a well-formed sequence
that is not completed, and each other byte out of place, becomes one replacement character.
-/
namespace CannedHttp.Utf8

def encode (t : Text) : Bytes :=
  t.flatMap String.utf8EncodeChar

def replacement : Char := '\ufffd'

/-- What a decoder is waiting for: `need` more bytes, the next of them between `low` and `high`,
after bytes that contributed `bits`. -/
inductive Pending where
  | nothing
  | bytes (need : Nat) (low high : UInt8) (bits : Nat)
  deriving DecidableEq

/-- Characters decoded so far, the latest first, and the sequence under way. -/
structure Decoder where
  decoded : Text
  pending : Pending

def Decoder.first (decoded : Text) (b : UInt8) : Decoder :=
  let n := b.toNat
  if n < 0x80 then ⟨Char.ofNat n :: decoded, .nothing⟩
  else if n < 0xc2 then ⟨replacement :: decoded, .nothing⟩
  else if n < 0xe0 then ⟨decoded, .bytes 1 0x80 0xbf (n - 0xc0)⟩
  else if n < 0xf0 then
    let low := if n = 0xe0 then 0xa0 else 0x80
    let high := if n = 0xed then 0x9f else 0xbf
    ⟨decoded, .bytes 2 low high (n - 0xe0)⟩
  else if n < 0xf5 then
    let low := if n = 0xf0 then 0x90 else 0x80
    let high := if n = 0xf4 then 0x8f else 0xbf
    ⟨decoded, .bytes 3 low high (n - 0xf0)⟩
  else ⟨replacement :: decoded, .nothing⟩

def Decoder.push (d : Decoder) (b : UInt8) : Decoder :=
  match d.pending with
  | .nothing => .first d.decoded b
  | .bytes need low high bits =>
    if low ≤ b ∧ b ≤ high then
      let bits := bits * 64 + (b.toNat - 0x80)
      if need ≤ 1 then ⟨Char.ofNat bits :: d.decoded, .nothing⟩
      else ⟨d.decoded, .bytes (need - 1) 0x80 0xbf bits⟩
    else .first (replacement :: d.decoded) b

def Decoder.finish (d : Decoder) : Text :=
  match d.pending with
  | .nothing => d.decoded.reverse
  | .bytes .. => (replacement :: d.decoded).reverse

def decodeLossy (bs : Bytes) : Text :=
  (bs.foldl Decoder.push ⟨[], .nothing⟩).finish

/-- The text of well-formed bytes: decoding lost nothing iff encoding gives the bytes back. -/
def decode? (bs : Bytes) : Option Text :=
  let t := decodeLossy bs
  if encode t = bs then some t else none

end CannedHttp.Utf8
