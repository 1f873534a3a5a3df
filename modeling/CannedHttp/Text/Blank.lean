import CannedHttp.Text.Basic

/-!
Blanks are the characters with the White_Space property. Trimming removes them at both ends.
-/
namespace CannedHttp.Text

def blankRanges : List (Nat × Nat) :=
  [(0x85, 0x85), (0xa0, 0xa0), (0x1680, 0x1680), (0x2000, 0x200a), (0x2028, 0x2029),
   (0x202f, 0x202f), (0x205f, 0x205f), (0x3000, 0x3000)]

def isBlank (c : Char) : Bool :=
  if c.toNat < 0x80 then c == ' ' || (Nat.ble 9 c.toNat && Nat.ble c.toNat 13)
  else inRanges blankRanges c

def trimStart (t : Text) : Text :=
  t.dropWhile isBlank

def trimEnd (t : Text) : Text :=
  trimEndBy isBlank t

def trim (t : Text) : Text :=
  trimEnd (trimStart t)

def allBlank (t : Text) : Bool :=
  t.all isBlank

end CannedHttp.Text
