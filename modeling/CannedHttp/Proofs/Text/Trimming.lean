import CannedHttp.Text.Blank
import CannedHttp.Text.Word
import Mathlib.Data.List.DropRight

/-!
Trimming at both ends. A trimmed text has no blank at its ends, trimming twice changes nothing more,
and word characters are never blank.
-/
namespace CannedHttp.Text

section Ends
variable {α : Type} (p : α → Bool)

theorem trimEndBy_eq_self (l : List α) (last : ∀ c, l.getLast? = some c → p c = false) :
    trimEndBy p l = l := by
  refine List.rdropWhile_eq_self_iff.mpr fun some_last => ?_
  have value := last _ (List.getLast?_eq_some_getLast some_last)
  simp [value]

theorem trimEndBy_last (l : List α) (c : α) (last : (trimEndBy p l).getLast? = some c) :
    p c = false := by
  have some_last : trimEndBy p l ≠ [] := by rintro empty; simp [empty] at last
  have value := List.rdropWhile_last_not p l some_last
  rw [List.getLast?_eq_some_getLast some_last,Option.some.injEq] at last
  rw [← last]
  exact eq_false_of_ne_true value

theorem trimEndBy_append (kept ending : List α) (trimmed : ∀ c ∈ ending, p c = true)
    (last : ∀ c, kept.getLast? = some c → p c = false) : trimEndBy p (kept ++ ending) = kept := by
  have dropped : trimEndBy p (kept ++ ending) = trimEndBy p kept := by
    unfold trimEndBy
    rw [List.reverse_append,List.dropWhile_append_of_pos fun c member => trimmed c (List.mem_reverse.mp member)]
  rw [dropped,trimEndBy_eq_self p kept last]

theorem mem_of_mem_trimEndBy (l : List α) (c : α) (member : c ∈ trimEndBy p l) : c ∈ l :=
  (List.rdropWhile_prefix p l).subset member

theorem trimEndBy_cons (c : α) (cs : List α) :
    trimEndBy p (c :: cs) = if trimEndBy p cs = [] ∧ p c then [] else c :: trimEndBy p cs := by
  unfold trimEndBy
  rw [List.reverse_cons,List.dropWhile_append]
  by_cases empty : cs.reverse.dropWhile p = []
  · cases value : p c <;> simp [empty,value]
  · simp [empty]

theorem trimEndBy_append_cons (before after : List α) (c : α) (kept : p c = false) :
    trimEndBy p (before ++ c :: after) = before ++ c :: trimEndBy p after := by
  induction before with
  | nil => simp [trimEndBy_cons,kept]
  | cons b before ih => simp [trimEndBy_cons,ih]

end Ends

theorem trimStart_of_head (c : Char) (cs : Text) (visible : isBlank c = false) :
    trimStart (c :: cs) = c :: cs := by
  simp [trimStart,visible]

theorem trimStart_of_blank (t : Text) (blank : allBlank t = true) : trimStart t = [] :=
  List.dropWhile_eq_nil_iff.mpr (List.all_eq_true.mp blank)

theorem trimStart_trimEnd (t : Text) : trimStart (trimEnd t) = trimEnd (trimStart t) := by
  induction t with
  | nil => rfl
  | cons c cs ih =>
    unfold trimStart trimEnd at *
    rw [trimEndBy_cons]
    cases value : isBlank c with
    | false => simp [value,trimEndBy_cons]
    | true =>
      by_cases empty : trimEndBy isBlank cs = []
      · simpa [empty,value] using ih
      · simpa [empty,value] using ih

theorem trimEnd_trimEnd (t : Text) : trimEnd (trimEnd t) = trimEnd t :=
  trimEndBy_eq_self isBlank _ (trimEndBy_last isBlank t)

theorem trim_trimEnd (t : Text) : trim (trimEnd t) = trim t := by
  unfold trim
  rw [trimStart_trimEnd,trimEnd_trimEnd]

theorem trim_trim (t : Text) : trim (trim t) = trim t := by
  have start_twice : trimStart (trimStart t) = trimStart t := List.dropWhile_idempotent isBlank t
  conv_lhs => rw [show trim t = trimEnd (trimStart t) from rfl,trim_trimEnd]
  unfold trim
  rw [start_twice]

theorem trim_blank_cons (c : Char) (cs : Text) (blank : isBlank c = true) :
    trim (c :: cs) = trim cs := by
  simp [trim,trimStart,blank]

/-- Trimming behind a visible first character leaves everything up to a later visible one. -/
theorem trim_append_cons (before after : Text) (c : Char)
    (first : ∀ b, before.head? = some b → isBlank b = false) (visible : isBlank c = false) :
    trim (before ++ c :: after) = before ++ c :: trimEnd after := by
  have start : trimStart (before ++ c :: after) = before ++ c :: after := by
    cases before with
    | nil => exact trimStart_of_head c after visible
    | cons b before => exact trimStart_of_head b _ (first b rfl)
  unfold trim
  rw [start]
  exact trimEndBy_append_cons isBlank before after c visible

theorem trim_eq_self (t : Text) (first : ∀ c, t.head? = some c → isBlank c = false)
    (last : ∀ c, t.getLast? = some c → isBlank c = false) : trim t = t := by
  have start : trimStart t = t := by
    cases t with
    | nil => rfl
    | cons c cs => exact trimStart_of_head c cs (first c rfl)
  unfold trim
  rw [start]
  exact trimEndBy_eq_self isBlank t last

theorem trim_of_visible (t : Text) (visible : ∀ c ∈ t, isBlank c = false) : trim t = t :=
  trim_eq_self t (fun c first => visible c (List.mem_of_mem_head? first))
    fun c last => visible c (List.mem_of_getLast? last)

theorem visible_of_all (t : Text) (visible : t.all (fun c => !isBlank c) = true) :
    ∀ c ∈ t, isBlank c = false := by
  simpa using visible

theorem mem_of_mem_trim (t : Text) (c : Char) (member : c ∈ trim t) : c ∈ t :=
  (List.dropWhile_suffix isBlank).subset (mem_of_mem_trimEndBy isBlank _ c member)

section Classes

private theorem not_inRanges_of_apart (first second : List (Nat × Nat)) (c : Char)
    (apart : (first.all fun r => second.all fun s => Nat.blt r.2 s.1 || Nat.blt s.2 r.1) = true)
    (inside : inRanges first c = true) : inRanges second c = false := by
  unfold inRanges at *
  obtain ⟨r,present,within⟩ := List.any_eq_true.mp inside
  rw [List.any_eq_false]
  intro s other both
  have separate := List.all_eq_true.mp (List.all_eq_true.mp apart r present) s other
  simp only [Nat.blt_eq,Nat.ble_eq,Bool.or_eq_true,Bool.and_eq_true] at separate within both
  omega

theorem isAlphanum_bounds (c : Char) (member : c.isAlphanum = true) :
    48 ≤ c.toNat ∧ c.toNat ≤ 57 ∨ 65 ≤ c.toNat ∧ c.toNat ≤ 90 ∨ 97 ≤ c.toNat ∧ c.toNat ≤ 122 := by
  have classes : (decide (65 ≤ c.val ∧ c.val ≤ 90) || (97 ≤ c.val && c.val ≤ 122) ||
      (48 ≤ c.val && c.val ≤ 57)) = true := member
  simp only [Bool.or_eq_true,Bool.and_eq_true,decide_eq_true_eq,UInt32.le_iff_toNat_le] at classes
  simp only [Char.toNat]
  rcases classes with (upper | lower) | digit
  · exact .inr (.inl upper)
  · exact .inr (.inr lower)
  · exact .inl digit

theorem isBlank_of_isWord (c : Char) (word : isWord c = true) : isBlank c = false := by
  unfold isWord isBlank at *
  split at word
  next ascii =>
    rw [if_pos ascii]
    have bounds : 48 ≤ c.toNat := by
      rcases Bool.or_eq_true_iff.mp word with member | underscore
      · have := isAlphanum_bounds c member
        omega
      · simp [beq_iff_eq.mp underscore]
    have not_space : c ≠ ' ' := by rintro rfl; simp at bounds
    simp only [not_space,Bool.or_eq_false_iff,beq_eq_false_iff_ne,ne_eq,not_false_eq_true,true_and,
      Bool.and_eq_false_iff]
    right
    rw [← Bool.not_eq_true,Nat.ble_eq]
    omega
  next wide =>
    rw [if_neg wide]
    exact not_inRanges_of_apart wordRanges blankRanges c (by decide +kernel) word

end Classes

end CannedHttp.Text
