import CannedHttp.Text.Basic

/-!
Numbers as texts: decimal digits are ASCII, most significant first, and a reader takes the whole
text or nothing.
-/
namespace CannedHttp.Text

def ofNat (n : Nat) : Text :=
  Nat.toDigits 10 n

def digitValue? (base : Nat) (c : Char) : Option Nat :=
  let value? : Option Nat :=
    if c.isDigit then some (c.toNat - '0'.toNat)
    else if 'a' ≤ c ∧ c ≤ 'z' then some (c.toNat - 'a'.toNat + 10)
    else if 'A' ≤ c ∧ c ≤ 'Z' then some (c.toNat - 'A'.toNat + 10)
    else none
  value?.filter (· < base)

/-- The value of a non-empty run of digits, each of them smaller than the base. -/
def readNat? (base : Nat) (t : Text) : Option Nat :=
  if t.isEmpty then none
  else t.foldlM (fun n c => (digitValue? base c).map (n * base + ·)) 0

/-- A decimal number with an optional plus sign, at most `max`. -/
def readBounded? (max : Nat) (t : Text) : Option Nat :=
  (readNat? 10 ((dropStart? ['+'] t).getD t)).filter (· ≤ max)

/-- Hexadecimal digits in lower case, at least `width` of them. -/
def hex (width n : Nat) : Text :=
  let digits := Nat.toDigits 16 n
  List.replicate (width - digits.length) '0' ++ digits

end CannedHttp.Text
