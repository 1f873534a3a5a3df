import CannedHttp.Text.Quoted
import Mathlib.Data.List.Infix

/-!
The compact form of a text quotes no other text. A character is written as itself or as a sequence after a
backslash, and no sequence begins another one.
-/
namespace CannedHttp.Text.Quoted

/-- The characters that are not written as themselves. -/
def escaped : List Char :=
  '"' :: '\\' :: (List.range 0x20).map Char.ofNat

private theorem mem_escaped_of_control (c : Char) (control : c.toNat < 0x20) : c ∈ escaped := by
  have listed : c ∈ (List.range 0x20).map Char.ofNat :=
    List.mem_map.mpr ⟨c.toNat,List.mem_range.mpr control,Char.ofNat_toNat c⟩
  exact List.mem_cons_of_mem _ (List.mem_cons_of_mem _ listed)

private theorem escape_of_plain (c : Char) (plain : c ∉ escaped) : escape c = [c] := by
  have other (d : Char) (special : d ∈ escaped) : c ≠ d := by
    rintro rfl
    exact plain special
  have no_control : ¬c.toNat < 0x20 := fun control => plain (mem_escaped_of_control c control)
  unfold escape
  rw [if_neg (other _ (by decide)),if_neg (other _ (by decide)),if_neg (other _ (by decide)),
    if_neg (other _ (by decide)),if_neg (other _ (by decide)),if_neg (other _ (by decide)),
    if_neg (other _ (by decide)),if_neg no_control]

private theorem head_of_escaped (c : Char) (special : c ∈ escaped) : (escape c).head? = some '\\' := by
  have all : (escaped.all fun c => (escape c).head? == some '\\') = true := by decide +kernel
  exact beq_iff_eq.mp (List.all_eq_true.mp all c special)

private theorem head_escape (c : Char) : (escape c).head? = some (if c ∈ escaped then '\\' else c) := by
  split
  next special => exact head_of_escaped c special
  next plain => rw [escape_of_plain c plain,List.head?_cons]

private theorem eq_of_sequences (c d : Char) (special : c ∈ escaped) (special_too : d ∈ escaped)
    (begins : escape c <+: escape d) : c = d := by
  have all : (escaped.all fun c => escaped.all fun d => !(escape c).isPrefixOf (escape d) || c == d) = true := by
    decide +kernel
  have one := List.all_eq_true.mp (List.all_eq_true.mp all c special) d special_too
  simpa [List.isPrefixOf_iff_prefix.mpr begins] using one

theorem escape_prefix_free (c d : Char) (begins : escape c <+: escape d) : c = d := by
  have sign : '\\' ∈ escaped := by decide
  have heads : (escape d).head? = (escape c).head? := by
    obtain ⟨rest,whole⟩ := begins
    rw [← whole,List.head?_append,head_escape,Option.some_or]
  rw [head_escape,head_escape,Option.some.injEq] at heads
  by_cases special : c ∈ escaped
  · by_cases special_too : d ∈ escaped
    · exact eq_of_sequences c d special special_too begins
    · rw [if_neg special_too,if_pos special] at heads
      exact absurd (heads ▸ sign) special_too
  · by_cases special_too : d ∈ escaped
    · rw [if_pos special_too,if_neg special] at heads
      exact absurd (heads ▸ sign) special
    · rw [if_neg special_too,if_neg special] at heads
      exact heads.symm

private theorem eq_of_escape_append (c d : Char) (s t : Text) (same : escape c ++ s = escape d ++ t) : c = d := by
  have first : escape c <+: escape d ++ t := ⟨s,same⟩
  rcases List.prefix_or_prefix_of_prefix first (List.prefix_append _ t) with begins | begins
  · exact escape_prefix_free c d begins
  · exact (escape_prefix_free d c begins).symm

private theorem escape_nonempty (c : Char) : escape c ≠ [] := by
  intro empty
  have head := head_escape c
  simp [empty] at head

theorem flatMap_escape_injective (s t : Text) (same : s.flatMap escape = t.flatMap escape) : s = t := by
  induction s generalizing t with
  | nil =>
    cases t with
    | nil => rfl
    | cons d t => simp [escape_nonempty] at same
  | cons c s ih =>
    cases t with
    | nil => simp [escape_nonempty] at same
    | cons d t =>
      rw [List.flatMap_cons,List.flatMap_cons] at same
      obtain rfl := eq_of_escape_append c d _ _ same
      rw [ih t (List.append_cancel_left same)]

theorem compact_injective (s t : Text) (same : compact s = compact t) : s = t := by
  apply flatMap_escape_injective
  exact List.append_cancel_right (List.cons.inj same).2

end CannedHttp.Text.Quoted
