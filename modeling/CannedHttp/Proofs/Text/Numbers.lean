import CannedHttp.Proofs.Text.Splitting
import CannedHttp.Proofs.Text.Trimming
import CannedHttp.Text.Number

/-!
Written numbers read back, and nothing but ASCII digits is read as a number. Such digits are word characters
and never blank.
-/
namespace CannedHttp.Text

private theorem digitValue_of_isDigit (c : Char) (digit : c.isDigit = true) :
    digitValue? 10 c = some (c.toNat - '0'.toNat) := by
  have bounds : c.toNat ≤ 57 := by
    simp only [Char.isDigit,Bool.and_eq_true,decide_eq_true_eq,UInt32.le_iff_toNat_le] at digit
    exact digit.2
  have small : c.toNat - '0'.toNat < 10 := by
    have zero : '0'.toNat = 48 := rfl
    omega
  simpa [digitValue?,digit,Option.filter] using small

private theorem foldlM_digits (l : Text) (n : Nat) (digits : ∀ c ∈ l, c.isDigit = true) :
    l.foldlM (fun n c => (digitValue? 10 c).map (n * 10 + ·)) n = some (Nat.ofDigitChars 10 l n) := by
  induction l generalizing n with
  | nil => simp
  | cons c l ih =>
    have first := digitValue_of_isDigit c (digits c List.mem_cons_self)
    rw [List.foldlM_cons,first,Nat.ofDigitChars_cons,Nat.mul_comm 10 n]
    exact ih _ fun d member => digits d (List.mem_cons_of_mem c member)

theorem isDigit_of_mem_ofNat (n : Nat) (c : Char) (member : c ∈ ofNat n) : c.isDigit = true :=
  Nat.isDigit_of_mem_toDigits (by decide) (by decide) member

theorem isWord_of_isDigit (c : Char) (digit : c.isDigit = true) : isWord c = true := by
  have letter : c.isAlphanum = true := by simp [Char.isAlphanum,digit]
  have ascii : c.toNat < 128 := by
    have := isAlphanum_bounds c letter
    omega
  simp [isWord,ascii,letter]

theorem isDecimalDigit_of_isDigit (c : Char) (digit : c.isDigit = true) : isDecimalDigit c = true := by
  have bounds := isAlphanum_bounds c (by simp [Char.isAlphanum,digit])
  have ascii : c.toNat < 128 := by omega
  simp [isDecimalDigit,ascii,digit]

private theorem isDigit_of_digitValue (c : Char) (value : Nat) (read : digitValue? 10 c = some value) :
    c.isDigit = true := by
  unfold digitValue? at read
  dsimp only at read
  obtain ⟨found,small⟩ := Option.filter_eq_some_iff.mp read
  simp only [decide_eq_true_eq] at small
  split at found
  next digit => exact digit
  next =>
    split at found
    next lower =>
      obtain rfl := Option.some.inj found
      omega
    next =>
      split at found
      next upper =>
        obtain rfl := Option.some.inj found
        omega
      next => contradiction

private theorem digits_of_foldlM (t : Text) (start n : Nat)
    (read : t.foldlM (fun n c => (digitValue? 10 c).map (n * 10 + ·)) start = some n) :
    ∀ c ∈ t, c.isDigit = true := by
  induction t generalizing start with
  | nil => simp
  | cons c t ih =>
    rw [List.foldlM_cons] at read
    obtain ⟨next,first,later⟩ := Option.bind_eq_some_iff.mp read
    obtain ⟨value,digit,_⟩ := Option.map_eq_some_iff.mp first
    exact List.forall_mem_cons.mpr ⟨isDigit_of_digitValue c value digit,ih next later⟩

/-- Exactly the runs of ASCII digits can be read, each as its value. -/
theorem readNat_eq_some_iff (t : Text) (n : Nat) : readNat? 10 t = some n ↔
    (t ≠ [] ∧ ∀ c ∈ t, c.isDigit = true) ∧ n = Nat.ofDigitChars 10 t 0 := by
  unfold readNat?
  split
  next empty => simp [List.isEmpty_iff.mp empty]
  next nonempty =>
    have some_digit : t ≠ [] := by simpa using nonempty
    constructor
    · intro read
      have digits := digits_of_foldlM t 0 n read
      rw [foldlM_digits t 0 digits] at read
      exact ⟨⟨some_digit,digits⟩,(Option.some.inj read).symm⟩
    · rintro ⟨⟨_,digits⟩,rfl⟩
      exact foldlM_digits t 0 digits

theorem readNat_ofNat (n : Nat) : readNat? 10 (ofNat n) = some n :=
  (readNat_eq_some_iff _ n).mpr
    ⟨⟨Nat.toDigits_ne_nil,isDigit_of_mem_ofNat n⟩,Nat.ofDigitChars_ten_toDigits.symm⟩

private theorem dropStart_of_readNat (t : Text) (n : Nat) (read : readNat? 10 t = some n) :
    dropStart? ['+'] t = none := by
  rw [Option.eq_none_iff_forall_ne_some]
  intro rest signed
  obtain rfl := (dropStart_eq_some_iff _ _ _).mp signed
  have digit := ((readNat_eq_some_iff _ n).mp read).1.2 '+' (by simp)
  contradiction

theorem readBounded_eq_some_iff (max n : Nat) (t : Text) : readBounded? max t = some n ↔
    ∃ digits, (t = digits ∨ t = '+' :: digits) ∧ readNat? 10 digits = some n ∧ n ≤ max := by
  unfold readBounded?
  rw [Option.filter_eq_some_iff,decide_eq_true_eq]
  constructor
  · rintro ⟨read,small⟩
    cases signed : dropStart? ['+'] t with
    | some digits =>
      rw [signed] at read
      exact ⟨digits,.inr ((dropStart_eq_some_iff _ _ _).mp signed),read,small⟩
    | none =>
      rw [signed] at read
      exact ⟨t,.inl rfl,read,small⟩
  · rintro ⟨digits,rfl | rfl,read,small⟩
    · rw [dropStart_of_readNat t n read]
      exact ⟨read,small⟩
    · rw [show dropStart? ['+'] ('+' :: digits) = some digits from dropStart_append ['+'] digits]
      exact ⟨read,small⟩

end CannedHttp.Text
