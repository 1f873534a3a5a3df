/-!
A text is a list of code points and a byte string a list of octets. Splitting at a separator keeps
empty pieces, so joining the pieces with the separator gives the text back. Character properties are
lists of inclusive code point ranges; below U+0080 a property is stated directly, so the tables begin
after it.
-/
namespace CannedHttp

abbrev Text := List Char

abbrev Bytes := List UInt8

namespace Text

def inRanges (ranges : List (Nat × Nat)) (c : Char) : Bool :=
  ranges.any fun r => Nat.ble r.1 c.toNat && Nat.ble c.toNat r.2

/-- The pieces between separators; there is always at least one. -/
def splitOn {α : Type} [DecidableEq α] (sep : α) : List α → List (List α)
  | [] => [[]]
  | c :: cs =>
    if c = sep then [] :: splitOn sep cs
    else
      match splitOn sep cs with
      | [] => [[c]]
      | piece :: pieces => (c :: piece) :: pieces

/-- The part before the first element satisfying `p`, and the rest from that element on. -/
def cut {α : Type} (p : α → Bool) (l : List α) : List α × List α :=
  (l.takeWhile fun c => !p c, l.dropWhile fun c => !p c)

/-- The longest part at the start whose elements satisfy `p`, and the rest. -/
def run {α : Type} (p : α → Bool) (l : List α) : List α × List α :=
  (l.takeWhile p, l.dropWhile p)

def dropStart? {α : Type} [BEq α] (start l : List α) : Option (List α) :=
  start.isPrefixOf? l

def dropEnd? {α : Type} [BEq α] (ending l : List α) : Option (List α) :=
  ending.isSuffixOf? l

def trimEndBy {α : Type} (p : α → Bool) (l : List α) : List α :=
  (l.reverse.dropWhile p).reverse

def join (sep : Text) (pieces : List Text) : Text :=
  sep.intercalate pieces

/-- Lines end in a line feed, with one carriage return before it dropped; a last line may lack its
end and then keeps every carriage return. -/
def lines : Text → List Text
  | [] => []
  | '\r' :: '\n' :: cs => [] :: lines cs
  | '\n' :: cs => [] :: lines cs
  | c :: cs =>
    match lines cs with
    | [] => [[c]]
    | line :: rest => (c :: line) :: rest

/-- ASCII letters in lower case, everything else unchanged. -/
def foldCase (t : Text) : Text :=
  t.map Char.toLower

def sameIgnoringCase (s t : Text) : Bool :=
  foldCase s == foldCase t

end Text
end CannedHttp
