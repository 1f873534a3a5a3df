import CannedHttp.Proofs.Text.Utf8
import Mathlib.Data.List.Induction

/-!
What decoding loses. Bytes that are not well formed leave a replacement character, so bytes decoded without one
are the encoding of what was decoded. Two sequences of bytes that decode to the same text are therefore the
same, or the text has a replacement character in it and one of them is malformed.
-/
namespace CannedHttp.Utf8

private theorem ofNat_bits (b : UInt8) (base : Nat) (enough : base ≤ b.toNat) :
    UInt8.ofNat (b.toNat - base + base) = b := by
  rw [Nat.sub_add_cancel enough,UInt8.ofNat_toNat]

section Characters
variable (a b c d : Nat)

private theorem encodeChar_two (enough : 2 ≤ a) (first : a < 32) (second : b < 64) :
    String.utf8EncodeChar (Char.ofNat (a * 64 + b)) = [.ofNat (a + 0xc0),.ofNat (b + 0x80)] := by
  have number := toNat_char (a * 64 + b) (.inl (by omega))
  rw [encodeChar_eq,number,if_neg (by omega),if_pos (by omega)]
  congr <;> omega

private theorem encodeChar_three (first : a < 16) (second : b < 64) (third : c < 64)
    (enough : 32 ≤ a * 64 + b) (scalar : a = 13 → b < 32) :
    String.utf8EncodeChar (Char.ofNat ((a * 64 + b) * 64 + c)) =
      [.ofNat (a + 0xe0),.ofNat (b + 0x80),.ofNat (c + 0x80)] := by
  have valid : ((a * 64 + b) * 64 + c).isValidChar := by
    unfold Nat.isValidChar
    omega
  rw [encodeChar_eq,toNat_char _ valid,if_neg (by omega),if_neg (by omega),if_pos (by omega)]
  congr <;> omega

private theorem encodeChar_four (second : b < 64) (third : c < 64) (fourth : d < 64)
    (enough : 16 ≤ a * 64 + b) (scalar : a * 64 + b < 272) :
    String.utf8EncodeChar (Char.ofNat (((a * 64 + b) * 64 + c) * 64 + d)) =
      [.ofNat (a + 0xf0),.ofNat (b + 0x80),.ofNat (c + 0x80),.ofNat (d + 0x80)] := by
  have valid : (((a * 64 + b) * 64 + c) * 64 + d).isValidChar := by
    unfold Nat.isValidChar
    omega
  rw [encodeChar_eq,toNat_char _ valid,if_neg (by omega),if_neg (by omega),if_neg (by omega)]
  congr <;> omega

end Characters

/-- Any `need` bytes that the decoder would take after the bytes `held` make up, with these, one character. -/
def Completes : Nat → UInt8 → UInt8 → Nat → Bytes → Prop
  | need + 2, low, high, bits, held => ∀ b, low ≤ b → b ≤ high →
      Completes (need + 1) 0x80 0xbf (bits * 64 + (b.toNat - 0x80)) (held ++ [b])
  | _, low, high, bits, held => ∀ b, low ≤ b → b ≤ high →
      String.utf8EncodeChar (Char.ofNat (bits * 64 + (b.toNat - 0x80))) = held ++ [b]

def Pending.Holds : Pending → Bytes → Prop
  | .nothing, held => held = []
  | .bytes need low high bits, held => Completes need low high bits held

/-- A byte was replaced, or the bytes read are those of the characters decoded and of the sequence under way. -/
def Decoder.Faithful (d : Decoder) (bs : Bytes) : Prop :=
  replacement ∈ d.decoded ∨ ∃ held, bs = encode d.decoded.reverse ++ held ∧ d.pending.Holds held

private theorem tail_bounds (b : UInt8) (above : 0x80 ≤ b) (below : b ≤ 0xbf) : 0x80 ≤ b.toNat ∧ b.toNat ≤ 0xbf :=
  ⟨UInt8.le_iff_toNat_le.mp above,UInt8.le_iff_toNat_le.mp below⟩

section Leads
variable (b : UInt8)

private theorem holds_two (enough : 0xc2 ≤ b.toNat) (first : b.toNat < 0xe0) :
    (Pending.bytes 1 0x80 0xbf (b.toNat - 0xc0)).Holds [b] := by
  intro c above below
  have second := tail_bounds c above below
  rw [encodeChar_two _ _ (by omega) (by omega) (by omega),ofNat_bits b _ (by omega),ofNat_bits c _ second.1]
  rfl

private theorem holds_three (low high : UInt8) (enough : 0xe0 ≤ b.toNat) (first : b.toNat < 0xf0)
    (lower : 0x80 ≤ low.toNat ∧ (b.toNat = 0xe0 → 0xa0 ≤ low.toNat))
    (upper : high.toNat ≤ 0xbf ∧ (b.toNat = 0xed → high.toNat ≤ 0x9f)) :
    (Pending.bytes 2 low high (b.toNat - 0xe0)).Holds [b] := by
  intro c above below d after before
  rw [UInt8.le_iff_toNat_le] at above below
  have third := tail_bounds d after before
  rw [encodeChar_three _ _ _ (by omega) (by omega) (by omega) (by omega) (by omega)]
  rw [ofNat_bits b _ enough,ofNat_bits c _ (by omega),ofNat_bits d _ third.1]
  rfl

private theorem holds_four (low high : UInt8) (enough : 0xf0 ≤ b.toNat) (first : b.toNat < 0xf5)
    (lower : 0x80 ≤ low.toNat ∧ (b.toNat = 0xf0 → 0x90 ≤ low.toNat))
    (upper : high.toNat ≤ 0xbf ∧ (b.toNat = 0xf4 → high.toNat ≤ 0x8f)) :
    (Pending.bytes 3 low high (b.toNat - 0xf0)).Holds [b] := by
  intro c above below d after before e later sooner
  rw [UInt8.le_iff_toNat_le] at above below
  have third := tail_bounds d after before
  have fourth := tail_bounds e later sooner
  rw [encodeChar_four _ _ _ _ (by omega) (by omega) (by omega) (by omega) (by omega)]
  rw [ofNat_bits b _ enough,ofNat_bits c _ (by omega),ofNat_bits d _ third.1,ofNat_bits e _ fourth.1]
  rfl

end Leads

/-- A byte that starts a character is the whole of it, or is held; any other byte is replaced. -/
private theorem first_cases (decoded : Text) (b : UInt8) :
    (b.toNat < 0x80 ∧ Decoder.first decoded b = ⟨Char.ofNat b.toNat :: decoded, .nothing⟩) ∨
    (∃ p : Pending, p.Holds [b] ∧ Decoder.first decoded b = ⟨decoded, p⟩) ∨
    Decoder.first decoded b = ⟨replacement :: decoded, .nothing⟩ := by
  unfold Decoder.first
  simp only
  split
  next one => exact .inl ⟨one,rfl⟩
  next =>
    right
    split
    next => exact .inr rfl
    next =>
      split
      next => exact .inl ⟨_,holds_two b (by omega) (by omega),rfl⟩
      next =>
        split
        next =>
          refine .inl ⟨_,holds_three b _ _ (by omega) (by omega) ?_ ?_,rfl⟩
          · split <;> simp [*]
          · split <;> simp [*]
        next =>
          split
          next =>
            refine .inl ⟨_,holds_four b _ _ (by omega) (by omega) ?_ ?_,rfl⟩
            · split <;> simp [*]
            · split <;> simp [*]
          next => exact .inr rfl

private theorem faithful_character (decoded : Text) (c : Char) (bs : Bytes)
    (character : encode decoded.reverse ++ String.utf8EncodeChar c = bs) :
    Decoder.Faithful ⟨c :: decoded, .nothing⟩ bs := by
  right
  refine ⟨[],?_,rfl⟩
  rw [← character]
  simp [encode]

private theorem faithful_first (decoded : Text) (b : UInt8) :
    (Decoder.first decoded b).Faithful (encode decoded.reverse ++ [b]) := by
  rcases first_cases decoded b with ⟨one,first⟩ | ⟨p,holds,first⟩ | first
  · have number : (Char.ofNat b.toNat).toNat = b.toNat := toNat_char _ (.inl (by omega))
    rw [first]
    apply faithful_character
    rw [encodeChar_ascii _ (by omega),number,UInt8.ofNat_toNat]
  · rw [first]
    exact .inr ⟨[b],rfl,holds⟩
  · rw [first]
    exact .inl List.mem_cons_self

private theorem replaced_first (decoded : Text) (b : UInt8) (replaced : replacement ∈ decoded) :
    replacement ∈ (Decoder.first decoded b).decoded := by
  rcases first_cases decoded b with ⟨_,first⟩ | ⟨_,_,first⟩ | first
  all_goals simp [first,replaced]

private theorem replaced_push (d : Decoder) (b : UInt8) (replaced : replacement ∈ d.decoded) :
    replacement ∈ (d.push b).decoded := by
  obtain ⟨decoded,pending⟩ := d
  cases pending with
  | nothing => exact replaced_first decoded b replaced
  | bytes need low high bits =>
    by_cases within : low ≤ b ∧ b ≤ high
    · rw [push_within decoded need bits low high b within]
      split
      · exact List.mem_cons_of_mem _ replaced
      · exact replaced
    · rw [push_outside decoded need bits low high b within]
      exact replaced_first _ b List.mem_cons_self

private theorem faithful_push (d : Decoder) (b : UInt8) (bs : Bytes) (faithful : d.Faithful bs) :
    (d.push b).Faithful (bs ++ [b]) := by
  obtain ⟨decoded,pending⟩ := d
  rcases faithful with replaced | ⟨held,rfl,holds⟩
  · exact .inl (replaced_push _ b replaced)
  · cases pending with
    | nothing =>
      obtain rfl : held = [] := holds
      rw [List.append_nil,push_start]
      exact faithful_first decoded b
    | bytes need low high bits =>
      rw [List.append_assoc]
      by_cases within : low ≤ b ∧ b ≤ high
      · rw [push_within decoded need bits low high b within]
        match need, holds with
        | 0, completes | 1, completes =>
          apply faithful_character
          rw [completes b within.1 within.2]
        | need + 2, completes =>
          rw [if_neg (by omega)]
          exact .inr ⟨held ++ [b],rfl,completes b within.1 within.2⟩
      · rw [push_outside decoded need bits low high b within]
        exact .inl (replaced_first _ b List.mem_cons_self)

theorem faithful_read (bs : Bytes) : (bs.foldl Decoder.push ⟨[], .nothing⟩).Faithful bs := by
  induction bs using List.reverseRecOn with
  | nil => exact .inr ⟨[],rfl,rfl⟩
  | append_singleton bs b ih =>
    rw [List.foldl_append]
    exact faithful_push _ b bs ih

/-- Bytes that are decoded without a replacement are the encoding of the text. -/
theorem encode_decodeLossy (bs : Bytes) (clean : replacement ∉ decodeLossy bs) : encode (decodeLossy bs) = bs := by
  unfold decodeLossy Decoder.finish at *
  have faithful := faithful_read bs
  generalize bs.foldl Decoder.push ⟨[], .nothing⟩ = d at *
  obtain ⟨decoded,pending⟩ := d
  cases pending with
  | nothing =>
    rcases faithful with replaced | ⟨held,whole,holds⟩
    · exact absurd (List.mem_reverse.mpr replaced) clean
    · obtain rfl : held = [] := holds
      rw [whole,List.append_nil]
  | bytes need low high bits => simp at clean

def WellFormed (bs : Bytes) : Prop :=
  ∃ t, encode t = bs

theorem encode_of_wellFormed (bs : Bytes) (wellFormed : WellFormed bs) : encode (decodeLossy bs) = bs := by
  obtain ⟨t,rfl⟩ := wellFormed
  rw [decodeLossy_encode]

/-- Equal, or not both well formed and equal with the malformed bytes replaced. -/
def Alike (a b : Bytes) : Prop :=
  a = b ∨ decodeLossy a = decodeLossy b ∧ replacement ∈ decodeLossy a ∧ ¬ (WellFormed a ∧ WellFormed b)

theorem decodeLossy_eq_iff (a b : Bytes) : decodeLossy a = decodeLossy b ↔ Alike a b := by
  constructor
  · intro same
    by_cases replaced : replacement ∈ decodeLossy a
    · by_cases both : WellFormed a ∧ WellFormed b
      · left
        rw [← encode_of_wellFormed a both.1,same,encode_of_wellFormed b both.2]
      · exact .inr ⟨same,replaced,both⟩
    · left
      rw [← encode_decodeLossy a replaced,same]
      rw [same] at replaced
      exact encode_decodeLossy b replaced
  · rintro (rfl | ⟨same,_⟩)
    · rfl
    · exact same

end CannedHttp.Utf8
