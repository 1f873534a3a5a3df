import CannedHttp.Text.Utf8
import CannedHttp.Text.Number

/-!
Percent decoding: a percent sign and two hexadecimal digits stand for one byte, and a percent sign
that is not so followed stands for itself.
-/
namespace CannedHttp.Percent

def hexValue? (b : UInt8) : Option UInt8 :=
  (Text.digitValue? 16 (Char.ofNat b.toNat)).map UInt8.ofNat

def decodeBytes : Bytes → Bytes
  | [] => []
  | b :: bs =>
    match bs with
    | high :: low :: rest =>
      if b = 0x25 then
        match hexValue? high, hexValue? low with
        | some h, some l => (h * 16 + l) :: decodeBytes rest
        | _, _ => b :: decodeBytes (high :: low :: rest)
      else b :: decodeBytes (high :: low :: rest)
    | rest => b :: decodeBytes rest

/-- The text that a percent-encoded text stands for, malformed UTF-8 replaced. -/
def decode (t : Text) : Text :=
  Utf8.decodeLossy (decodeBytes (Utf8.encode t))

end CannedHttp.Percent
