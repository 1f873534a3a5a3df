import CannedHttp.Percent
import CannedHttp.Proofs.Text.Trimming
import CannedHttp.Proofs.Text.Utf8

/-!
Percent encoding and its inverse. Each byte of the text is kept or escaped on its own, so decoding is
followed byte by byte, before anything is read as UTF-8.
-/
namespace CannedHttp.Percent

def hexDigit (n : Nat) : Char :=
  Char.ofNat (if n < 10 then n + 0x30 else n + 0x37)

def escape (b : UInt8) : Text :=
  ['%', hexDigit (b.toNat / 16), hexDigit (b.toNat % 16)]

def encodeByte (kept : Char → Bool) (b : UInt8) : Text :=
  if kept (Char.ofNat b.toNat) then [Char.ofNat b.toNat] else escape b

def isUnreserved (c : Char) : Bool :=
  c.isAlphanum || c == '-' || c == '.' || c == '_' || c == '~'

/-- The UTF-8 of the text, every byte escaped that is not an unreserved character. -/
def encode (t : Text) : Text :=
  (Utf8.encode t).flatMap (encodeByte isUnreserved)

section Escapes

private theorem hexDigit_ascii : ∀ n < 16, (hexDigit n).toNat < 0x80 := by decide

private theorem hexDigit_alphanum : ∀ n < 16, (hexDigit n).isAlphanum = true := by decide

theorem hexValue_hexDigit : ∀ n < 16, hexValue? (.ofNat (hexDigit n).toNat) = some (.ofNat n) := by
  decide

theorem halves (b : UInt8) : b.toNat / 16 < 16 ∧ b.toNat % 16 < 16 := by
  have bound := b.toNat_lt
  omega

private theorem encode_escape (b : UInt8) : Utf8.encode (escape b) =
    [0x25,.ofNat (hexDigit (b.toNat / 16)).toNat,.ofNat (hexDigit (b.toNat % 16)).toNat] := by
  have high := Utf8.encodeChar_ascii _ (hexDigit_ascii _ (halves b).1)
  have low := Utf8.encodeChar_ascii _ (hexDigit_ascii _ (halves b).2)
  simp only [escape,Utf8.encode,List.flatMap_cons,List.flatMap_nil,high,low]
  rfl

theorem decodeBytes_cons (b : UInt8) (bs : Bytes) (not_percent : b ≠ 0x25) :
    decodeBytes (b :: bs) = b :: decodeBytes bs := by
  rcases bs with _ | ⟨high,_ | ⟨low,rest⟩⟩
  · rfl
  · rfl
  · rw [decodeBytes]
    exact if_neg not_percent

theorem decodeBytes_hex (high low h l : UInt8) (rest : Bytes) (first : hexValue? high = some h)
    (second : hexValue? low = some l) :
    decodeBytes (0x25 :: high :: low :: rest) = (h * 16 + l) :: decodeBytes rest := by
  rw [decodeBytes]
  simp only [if_true,first,second]

theorem whole_of_halves (b : UInt8) : UInt8.ofNat (b.toNat / 16) * 16 + UInt8.ofNat (b.toNat % 16) = b := by
  rw [← UInt8.toNat_inj]
  have bound := b.toNat_lt
  simp
  omega

theorem decodeBytes_escape (b : UInt8) (rest : Bytes) :
    decodeBytes (Utf8.encode (escape b) ++ rest) = b :: decodeBytes rest := by
  have high := hexValue_hexDigit _ (halves b).1
  have low := hexValue_hexDigit _ (halves b).2
  rw [encode_escape,List.cons_append,List.cons_append,List.cons_append,List.nil_append]
  rw [decodeBytes_hex _ _ _ _ rest high low,whole_of_halves]

end Escapes

section Kept
variable (kept : Char → Bool) (plain : ∀ c, kept c = true → c.toNat < 0x80 ∧ c ≠ '%')

theorem mem_encodeByte (b : UInt8) (c : Char) (member : c ∈ encodeByte kept b) :
    kept c = true ∨ c = '%' ∨ c.isAlphanum = true := by
  unfold encodeByte at member
  split at member
  next stays =>
    obtain rfl := List.mem_singleton.mp member
    exact .inl stays
  next =>
    right
    rcases List.mem_cons.mp member with percent | digit
    · exact .inl percent
    · right
      rcases List.mem_cons.mp digit with rfl | low
      · exact hexDigit_alphanum _ (halves b).1
      · obtain rfl := List.mem_singleton.mp low
        exact hexDigit_alphanum _ (halves b).2

include plain

theorem decodeBytes_encodeByte (b : UInt8) (rest : Bytes) :
    decodeBytes (Utf8.encode (encodeByte kept b) ++ rest) = b :: decodeBytes rest := by
  unfold encodeByte
  split
  next stays =>
    have number : (Char.ofNat b.toNat).toNat = b.toNat := by
      have bound := b.toNat_lt
      exact Utf8.toNat_char _ (.inl (by omega))
    have ⟨ascii,not_percent⟩ := plain _ stays
    have byte : Utf8.encode [Char.ofNat b.toNat] = [b] := by
      rw [Utf8.encode_separator _ ascii,number,UInt8.ofNat_toNat]
      rfl
    have other : b ≠ 0x25 := by
      rintro rfl
      exact not_percent rfl
    rw [byte]
    exact decodeBytes_cons b rest other
  next => exact decodeBytes_escape b rest

theorem decodeBytes_encodeBytes (bs : Bytes) :
    decodeBytes (Utf8.encode (bs.flatMap (encodeByte kept))) = bs := by
  induction bs with
  | nil => rfl
  | cons b bs ih =>
    rw [List.flatMap_cons,Utf8.encode_append,decodeBytes_encodeByte kept plain,ih]

end Kept

theorem alphanum_plain (c : Char) (alphanum : c.isAlphanum = true) : c.toNat < 0x80 ∧ c ≠ '%' := by
  have bounds := Text.isAlphanum_bounds c alphanum
  refine ⟨by omega,?_⟩
  rintro rfl
  exact absurd alphanum (by decide)

private theorem unreserved_plain (c : Char) (member : isUnreserved c = true) : c.toNat < 0x80 ∧ c ≠ '%' := by
  simp only [isUnreserved,Bool.or_eq_true,beq_iff_eq] at member
  rcases member with (((alphanum | rfl) | rfl) | rfl) | rfl
  · exact alphanum_plain c alphanum
  all_goals decide

/-- Decoding a percent-encoded text gives the text back, whatever its characters. -/
theorem decode_encode (t : Text) : decode (encode t) = t := by
  rw [decode,encode,decodeBytes_encodeBytes isUnreserved unreserved_plain,Utf8.decodeLossy_encode]

theorem slash_not_mem_encode (t : Text) : '/' ∉ encode t := by
  intro member
  obtain ⟨b,_,inside⟩ := List.mem_flatMap.mp member
  rcases mem_encodeByte isUnreserved b '/' inside with stays | percent | alphanum
  · exact absurd stays (by decide)
  · exact absurd percent (by decide)
  · exact absurd alphanum (by decide)

end CannedHttp.Percent
