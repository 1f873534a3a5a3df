import CannedHttp.Http.Token
import CannedHttp.Proofs.Text.Utf8
import Mathlib.Logic.Basic

/-!
Header values that stand for texts. A text can be sent if it has no controls but tabs. Bytes beyond ASCII may
stand in a value, but a value with one is not read back.
-/
namespace CannedHttp.Http

/-- A header value has no controls but tabs. -/
def Legal (t : Text) : Prop :=
  ∀ c ∈ t, c = '\t' ∨ 0x20 ≤ c.toNat ∧ c ≠ '\x7f'

private theorem isValueByte_iff (b : UInt8) :
    isValueByte b = true ↔ b.toNat = 9 ∨ 0x20 ≤ b.toNat ∧ b.toNat ≠ 0x7f := by
  simp [isValueByte,UInt8.le_iff_toNat_le,← UInt8.toNat_inj]

private theorem isValueByte_ascii (c : Char) (ascii : c.toNat < 0x80) :
    isValueByte (.ofNat c.toNat) = true ↔ c = '\t' ∨ 0x20 ≤ c.toNat ∧ c ≠ '\x7f' := by
  have tab : c.toNat = 9 ↔ c = '\t' := Char.toNat_inj (d := '\t')
  have delete : c.toNat ≠ 0x7f ↔ c ≠ '\x7f' := not_congr (Char.toNat_inj (d := '\x7f'))
  rw [isValueByte_iff,Utf8.toNat_ofNat _ (by omega),tab,delete]

private theorem all_valueByte_encodeChar (c : Char) : (String.utf8EncodeChar c).all isValueByte = true ↔
    c = '\t' ∨ 0x20 ≤ c.toNat ∧ c ≠ '\x7f' := by
  rcases Nat.lt_or_ge c.toNat 0x80 with ascii | beyond
  · rw [Utf8.encodeChar_ascii c ascii,List.all_cons,List.all_nil,Bool.and_true,isValueByte_ascii c ascii]
  · have high := Utf8.encodeChar_not_ascii c beyond
    refine iff_of_true (List.all_eq_true.mpr fun b member => ?_) (.inr ⟨by omega,?_⟩)
    · have above := high b member
      exact (isValueByte_iff b).mpr (.inr ⟨by omega,by omega⟩)
    · rintro rfl
      exact absurd beyond (by decide)

/-- The texts that can be sent are those without controls. -/
theorem isHeaderValue_encode (t : Text) : isHeaderValue (Utf8.encode t) = true ↔ Legal t := by
  rw [isHeaderValue,Utf8.encode,List.all_flatMap,List.all_eq_true]
  exact forall₂_congr fun c _ => all_valueByte_encodeChar c

instance : DecidablePred Legal := fun t => decidable_of_iff _ (isHeaderValue_encode t)

private theorem all_ascii_encodeChar (c : Char) :
    (∀ b ∈ String.utf8EncodeChar c, b.toNat < 0x80) ↔ c.toNat < 0x80 := by
  rcases Nat.lt_or_ge c.toNat 0x80 with ascii | beyond
  · rw [Utf8.encodeChar_ascii c ascii]
    simp [Utf8.toNat_ofNat c.toNat (by omega)]
  · have length : 0 < (String.utf8EncodeChar c).length := by
      rw [String.length_utf8EncodeChar]
      exact c.utf8Size_pos
    obtain ⟨b,member⟩ := List.exists_mem_of_length_pos length
    have high := Utf8.encodeChar_not_ascii c beyond b member
    exact iff_of_false (fun all => absurd (all b member) (by omega)) (by omega)

private theorem isReadableValue_iff (v : Bytes) :
    isReadableValue v = true ↔ isHeaderValue v = true ∧ ∀ b ∈ v, b.toNat < 0x80 := by
  simp only [isReadableValue,isHeaderValue,List.all_eq_true,Bool.and_eq_true,decide_eq_true_iff]
  exact forall₂_and

/-- Of the texts that can be sent, those in ASCII can be read back. -/
theorem isReadableValue_encode (t : Text) :
    isReadableValue (Utf8.encode t) = true ↔ Legal t ∧ ∀ c ∈ t, c.toNat < 0x80 := by
  rw [isReadableValue_iff,isHeaderValue_encode,Utf8.encode,List.forall_mem_flatMap]
  exact and_congr_right' (forall₂_congr fun c _ => all_ascii_encodeChar c)

/-- What is read back from a value is the text that it stands for. -/
theorem readableText_eq_some_iff (v : Bytes) (t : Text) :
    readableText? v = some t ↔ v = Utf8.encode t ∧ isReadableValue v = true := by
  unfold readableText?
  rw [Option.ite_none_right_eq_some,and_comm]
  refine and_congr_left fun _ => ⟨fun decoded => ?_,fun written => ?_⟩
  · rw [Utf8.decode?,Option.ite_none_right_eq_some,Option.some_inj] at decoded
    rw [← decoded.1,decoded.2]
  · rw [written,Utf8.decode_encode]

end CannedHttp.Http
