import CannedHttp.Proofs.Text.Splitting
import CannedHttp.Text.Utf8

/-!
Decoding undoes encoding, character by character, over all characters. ASCII characters are one byte
and no other character has that byte in its encoding, so texts can be split before or after encoding.
-/
namespace CannedHttp.Utf8

private theorem char_bounds (c : Char) : c.toNat < 0xd800 ∨ 0xdfff < c.toNat ∧ c.toNat < 0x110000 := c.valid

theorem toNat_ofNat (n : Nat) (small : n < 256) : (UInt8.ofNat n).toNat = n := by
  simpa using small

theorem toNat_char (n : Nat) (valid : n.isValidChar) : (Char.ofNat n).toNat = n := by
  rw [Char.ofNat,dif_pos valid]
  rfl

theorem encodeChar_eq (c : Char) : String.utf8EncodeChar c =
    if c.toNat ≤ 0x7f then [.ofNat c.toNat]
    else if c.toNat ≤ 0x7ff then [.ofNat (c.toNat / 64 % 32 + 0xc0),.ofNat (c.toNat % 64 + 0x80)]
    else if c.toNat ≤ 0xffff then
      [.ofNat (c.toNat / 4096 % 16 + 0xe0),.ofNat (c.toNat / 64 % 64 + 0x80),.ofNat (c.toNat % 64 + 0x80)]
    else
      [.ofNat (c.toNat / 262144 % 8 + 0xf0),.ofNat (c.toNat / 4096 % 64 + 0x80),
       .ofNat (c.toNat / 64 % 64 + 0x80),.ofNat (c.toNat % 64 + 0x80)] := rfl

section Decoding
variable (decoded : Text)

theorem push_start (b : UInt8) : (⟨decoded, .nothing⟩ : Decoder).push b = .first decoded b := rfl

theorem push_within (need bits : Nat) (low high b : UInt8) (within : low ≤ b ∧ b ≤ high) :
    (⟨decoded, .bytes need low high bits⟩ : Decoder).push b =
      if need ≤ 1 then ⟨Char.ofNat (bits * 64 + (b.toNat - 0x80)) :: decoded, .nothing⟩
      else ⟨decoded, .bytes (need - 1) 0x80 0xbf (bits * 64 + (b.toNat - 0x80))⟩ := if_pos within

theorem push_outside (need bits : Nat) (low high b : UInt8) (outside : ¬ (low ≤ b ∧ b ≤ high)) :
    (⟨decoded, .bytes need low high bits⟩ : Decoder).push b = .first (replacement :: decoded) b := if_neg outside

private theorem push_continued (need bits n : Nat) (low high : UInt8) (small : n < 64)
    (lower : low.toNat ≤ n + 0x80) (upper : n + 0x80 ≤ high.toNat) :
    (⟨decoded, .bytes need low high bits⟩ : Decoder).push (.ofNat (n + 0x80)) =
      if need ≤ 1 then ⟨Char.ofNat (bits * 64 + n) :: decoded, .nothing⟩
      else ⟨decoded, .bytes (need - 1) 0x80 0xbf (bits * 64 + n)⟩ := by
  have number : (UInt8.ofNat (n + 0x80)).toNat = n + 0x80 := toNat_ofNat _ (by omega)
  have within : low ≤ .ofNat (n + 0x80) ∧ .ofNat (n + 0x80) ≤ high := by
    rw [UInt8.le_iff_toNat_le,UInt8.le_iff_toNat_le,number]
    exact ⟨lower,upper⟩
  rw [push_within decoded need bits low high _ within,number,Nat.add_sub_cancel]

private theorem push_inner (need bits n : Nat) (more : 1 < need) (small : n < 64) :
    (⟨decoded, .bytes need 0x80 0xbf bits⟩ : Decoder).push (.ofNat (n + 0x80)) =
      ⟨decoded, .bytes (need - 1) 0x80 0xbf (bits * 64 + n)⟩ := by
  have upper : n + 0x80 ≤ 0xbf := by omega
  rw [push_continued decoded need bits n 0x80 0xbf small (Nat.le_add_left 0x80 n) upper]
  exact if_neg (by omega)

private theorem push_last (bits n : Nat) (small : n < 64) :
    (⟨decoded, .bytes 1 0x80 0xbf bits⟩ : Decoder).push (.ofNat (n + 0x80)) =
      ⟨Char.ofNat (bits * 64 + n) :: decoded, .nothing⟩ := by
  have upper : n + 0x80 ≤ 0xbf := by omega
  rw [push_continued decoded 1 bits n 0x80 0xbf small (Nat.le_add_left 0x80 n) upper]
  rfl

private theorem push_one (n : Nat) (small : n ≤ 0x7f) :
    [UInt8.ofNat n].foldl Decoder.push ⟨decoded, .nothing⟩ = ⟨Char.ofNat n :: decoded, .nothing⟩ := by
  have number : (UInt8.ofNat n).toNat = n := toNat_ofNat n (by omega)
  simp only [List.foldl_cons,List.foldl_nil,push_start,Decoder.first,number]
  exact if_pos (by omega)

private theorem push_two (a b : Nat) (enough : 2 ≤ a) (first : a < 32) (second : b < 64) :
    [UInt8.ofNat (a + 0xc0),.ofNat (b + 0x80)].foldl Decoder.push ⟨decoded, .nothing⟩ =
      ⟨Char.ofNat (a * 64 + b) :: decoded, .nothing⟩ := by
  have number : (UInt8.ofNat (a + 0xc0)).toNat = a + 0xc0 := toNat_ofNat _ (by omega)
  simp only [List.foldl_cons,List.foldl_nil,push_start,Decoder.first,number]
  rw [if_neg (by omega),if_neg (by omega),if_pos (by omega),Nat.add_sub_cancel]
  exact push_last decoded a b second

/-- Three bytes, none of them the start of a shorter form or of a surrogate. -/
private theorem push_three (a b c : Nat) (first : a < 16) (second : b < 64) (third : c < 64)
    (enough : 32 ≤ a * 64 + b) (scalar : a = 13 → b < 32) :
    [UInt8.ofNat (a + 0xe0),.ofNat (b + 0x80),.ofNat (c + 0x80)].foldl Decoder.push ⟨decoded, .nothing⟩ =
      ⟨Char.ofNat ((a * 64 + b) * 64 + c) :: decoded, .nothing⟩ := by
  have number : (UInt8.ofNat (a + 0xe0)).toNat = a + 0xe0 := toNat_ofNat _ (by omega)
  simp only [List.foldl_cons,List.foldl_nil,push_start,Decoder.first,number]
  rw [if_neg (by omega),if_neg (by omega),if_neg (by omega),if_pos (by omega),Nat.add_sub_cancel]
  rw [push_continued decoded 2 a b _ _ second]
  · exact push_last decoded _ c third
  · split
    · show 0xa0 ≤ b + 0x80
      omega
    · exact Nat.le_add_left 0x80 b
  · split
    · show b + 0x80 ≤ 0x9f
      omega
    · show b + 0x80 ≤ 0xbf
      omega

/-- Four bytes, none of them the start of a shorter form or beyond the last character. -/
private theorem push_four (a b c d : Nat) (second : b < 64) (third : c < 64) (fourth : d < 64)
    (enough : 16 ≤ a * 64 + b) (scalar : a * 64 + b < 272) :
    [UInt8.ofNat (a + 0xf0),.ofNat (b + 0x80),.ofNat (c + 0x80),.ofNat (d + 0x80)].foldl Decoder.push
        ⟨decoded, .nothing⟩ =
      ⟨Char.ofNat (((a * 64 + b) * 64 + c) * 64 + d) :: decoded, .nothing⟩ := by
  have number : (UInt8.ofNat (a + 0xf0)).toNat = a + 0xf0 := toNat_ofNat _ (by omega)
  simp only [List.foldl_cons,List.foldl_nil,push_start,Decoder.first,number]
  rw [if_neg (by omega),if_neg (by omega),if_neg (by omega),if_neg (by omega),if_pos (by omega),
    Nat.add_sub_cancel]
  rw [push_continued decoded 3 a b _ _ second]
  · rw [if_neg (by omega),push_inner decoded 2 _ c (by omega) third]
    exact push_last decoded _ d fourth
  · split
    · show 0x90 ≤ b + 0x80
      omega
    · exact Nat.le_add_left 0x80 b
  · split
    · show b + 0x80 ≤ 0x8f
      omega
    · show b + 0x80 ≤ 0xbf
      omega

theorem push_encodeChar (c : Char) :
    (String.utf8EncodeChar c).foldl Decoder.push ⟨decoded, .nothing⟩ = ⟨c :: decoded, .nothing⟩ := by
  -- the bounds keep three bytes clear of the surrogates and four below the last character
  have bounds := char_bounds c
  have whole : Char.ofNat c.toNat = c := Char.ofNat_toNat c
  rw [encodeChar_eq]
  split
  next one => rw [push_one decoded _ one,whole]
  next not_one =>
    split
    next two =>
      rw [push_two decoded _ _ (by omega) (by omega) (by omega)]
      rw [show c.toNat / 64 % 32 * 64 + c.toNat % 64 = c.toNat by omega,whole]
    next not_two =>
      split
      next three =>
        rw [push_three decoded _ _ _ (by omega) (by omega) (by omega) (by omega) (by omega)]
        rw [show (c.toNat / 4096 % 16 * 64 + c.toNat / 64 % 64) * 64 + c.toNat % 64 = c.toNat by omega,whole]
      next four =>
        rw [push_four decoded _ _ _ _ (by omega) (by omega) (by omega) (by omega) (by omega)]
        rw [show ((c.toNat / 262144 % 8 * 64 + c.toNat / 4096 % 64) * 64 + c.toNat / 64 % 64) * 64
          + c.toNat % 64 = c.toNat by omega,whole]

theorem push_encode (t : Text) :
    (encode t).foldl Decoder.push ⟨decoded, .nothing⟩ = ⟨t.reverse ++ decoded, .nothing⟩ := by
  induction t generalizing decoded with
  | nil => rfl
  | cons c cs ih =>
    have split : encode (c :: cs) = String.utf8EncodeChar c ++ encode cs := List.flatMap_cons
    rw [split,List.foldl_append,push_encodeChar,ih (c :: decoded)]
    simp

end Decoding

/-- Nothing is lost in decoding what was encoded. -/
theorem decodeLossy_encode (t : Text) : decodeLossy (encode t) = t := by
  rw [decodeLossy,push_encode]
  simp [Decoder.finish]

theorem decode_encode (t : Text) : decode? (encode t) = some t := by
  rw [decode?,decodeLossy_encode]
  simp

theorem encode_inj (s t : Text) : encode s = encode t ↔ s = t := by
  constructor
  · intro same
    rw [← decodeLossy_encode s,same,decodeLossy_encode]
  · rintro rfl
    rfl

section Ascii

theorem encode_append (s t : Text) : encode (s ++ t) = encode s ++ encode t := List.flatMap_append

theorem encode_cons (c : Char) (t : Text) : encode (c :: t) = String.utf8EncodeChar c ++ encode t :=
  List.flatMap_cons

theorem encodeChar_ascii (c : Char) (ascii : c.toNat < 0x80) :
    String.utf8EncodeChar c = [.ofNat c.toNat] := by
  rw [encodeChar_eq,if_pos (by omega)]

theorem encodeChar_not_ascii (c : Char) (beyond : 0x80 ≤ c.toNat) :
    ∀ b ∈ String.utf8EncodeChar c, 0x80 ≤ b.toNat := by
  have high (m base : Nat) (above : 0x80 ≤ base) (within : base + m < 256) :
      0x80 ≤ (UInt8.ofNat (m + base)).toNat := by
    rw [toNat_ofNat _ (by omega)]
    omega
  rw [encodeChar_eq,if_neg (by omega)]
  split
  next =>
    simp only [List.forall_mem_cons]
    exact ⟨high _ _ (by omega) (by omega),high _ _ (by omega) (by omega),by simp⟩
  next =>
    split
    next =>
      simp only [List.forall_mem_cons]
      exact ⟨high _ _ (by omega) (by omega),high _ _ (by omega) (by omega),
        high _ _ (by omega) (by omega),by simp⟩
    next =>
      simp only [List.forall_mem_cons]
      exact ⟨high _ _ (by omega) (by omega),high _ _ (by omega) (by omega),
        high _ _ (by omega) (by omega),high _ _ (by omega) (by omega),by simp⟩

private theorem ofNat_mem_encodeChar (c : Char) (n : Nat) (ascii : n < 0x80)
    (member : UInt8.ofNat n ∈ String.utf8EncodeChar c) : c.toNat = n := by
  have number : (UInt8.ofNat n).toNat = n := toNat_ofNat n (by omega)
  rcases Nat.lt_or_ge c.toNat 0x80 with small | beyond
  · rw [encodeChar_ascii c small] at member
    have same := congrArg UInt8.toNat (List.mem_singleton.mp member)
    rw [number,toNat_ofNat _ (by omega)] at same
    exact same.symm
  · have high := encodeChar_not_ascii c beyond _ member
    omega

variable (sep : Char) (ascii : sep.toNat < 0x80)
include ascii

theorem encode_separator (t : Text) : encode (sep :: t) = .ofNat sep.toNat :: encode t := by
  rw [encode_cons,encodeChar_ascii sep ascii]
  rfl

theorem separator_mem_encode (t : Text) (member : UInt8.ofNat sep.toNat ∈ encode t) : sep ∈ t := by
  obtain ⟨c,present,inside⟩ := List.mem_flatMap.mp member
  have same : c.toNat = sep.toNat := ofNat_mem_encodeChar c sep.toNat ascii inside
  rwa [Char.toNat_inj.mp same] at present

theorem mem_encode_separator (t : Text) (member : sep ∈ t) : UInt8.ofNat sep.toNat ∈ encode t := by
  apply List.mem_flatMap.mpr
  refine ⟨sep,member,?_⟩
  simp [encodeChar_ascii sep ascii]

theorem encode_intercalate (pieces : List Text) :
    encode ([sep].intercalate pieces) = [.ofNat sep.toNat].intercalate (pieces.map encode) := by
  induction pieces with
  | nil => rfl
  | cons piece pieces ih =>
    cases pieces with
    | nil => simp
    | cons next pieces =>
      rw [List.map_cons,List.map_cons,List.intercalate_cons_cons,List.intercalate_cons_cons]
      rw [← List.map_cons,← ih,encode_append,encode_append]
      simp [encode,encodeChar_ascii sep ascii]

theorem splitOn_encode (t : Text) :
    Text.splitOn (.ofNat sep.toNat) (encode t) = (Text.splitOn sep t).map encode := by
  have joined : encode t = [.ofNat sep.toNat].intercalate ((Text.splitOn sep t).map encode) := by
    rw [← encode_intercalate sep ascii,Text.intercalate_splitOn]
  rw [joined]
  apply Text.splitOn_intercalate
  · intro none_left
    exact Text.splitOn_nonempty sep t (List.map_eq_nil_iff.mp none_left)
  · intro bytes member inside
    obtain ⟨piece,present,rfl⟩ := List.mem_map.mp member
    exact Text.not_mem_of_mem_splitOn sep t piece present (separator_mem_encode sep ascii piece inside)

theorem cut_encode (t : Text) :
    Text.cut (· == .ofNat sep.toNat) (encode t) =
      (encode (Text.cut (· == sep) t).1, encode (Text.cut (· == sep) t).2) := by
  have outside (before : Text) (clean : sep ∉ before) : UInt8.ofNat sep.toNat ∉ encode before :=
    fun member => clean (separator_mem_encode sep ascii before member)
  by_cases present : sep ∈ t
  · obtain ⟨before,after,rfl,clean⟩ := List.eq_append_cons_of_mem present
    rw [encode_append,encode_separator sep ascii,Text.cut_separator _ _ _ (outside before clean)]
    rw [Text.cut_separator sep before after clean,encode_separator sep ascii]
  · rw [Text.cut_of_not_mem _ _ (outside t present),Text.cut_of_not_mem sep t present]
    rfl

end Ascii

end CannedHttp.Utf8
