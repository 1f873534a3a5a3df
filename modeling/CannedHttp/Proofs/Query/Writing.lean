import CannedHttp.Proofs.Query

/-!
Queries in form encoding, written in any way that the format allows. However a list of parameters is written,
reading gives the list back, so the parameters of the query are those of the list, the last of each name.
-/
namespace CannedHttp.Query

/-- The digit of a number below sixteen, in either case. -/
def HexDigit (n : Nat) (digit : Char) : Prop :=
  digit = Percent.hexDigit n ∨ digit = (Percent.hexDigit n).toLower

/-- The ways to write a byte. It stands for itself if it is not reserved, it may be escaped in any case, and a
space may be a plus sign. -/
inductive ByteWriting (reserved : List UInt8) : UInt8 → Bytes → Prop
  | itself (b : UInt8) (free : b ∉ reserved) : ByteWriting reserved b [b]
  | escaped (b : UInt8) (high low : Char) (first : HexDigit (b.toNat / 16) high)
      (second : HexDigit (b.toNat % 16) low) :
      ByteWriting reserved b [0x25, .ofNat high.toNat, .ofNat low.toNat]
  | plus : ByteWriting reserved 0x20 [0x2b]

/-- The percent sign, the plus sign and the ampersand. -/
def reservedInValue : List UInt8 := [0x25, 0x2b, 0x26]

/-- In a name, the equals sign as well. -/
def reservedInName : List UInt8 := 0x3d :: reservedInValue

/-- A text is written by writing the bytes of its UTF-8. -/
def TextWriting (reserved : List UInt8) (t written : Text) : Prop :=
  ∃ forms, List.Forall₂ (ByteWriting reserved) (Utf8.encode t) forms ∧ Utf8.encode written = forms.flatten

def ItemWriting (pair : Text × Text) (item : Text) : Prop :=
  ∃ name value, item = name ++ '=' :: value ∧ TextWriting reservedInName pair.1 name ∧
    TextWriting reservedInValue pair.2 value

/-- After a question mark the items stand between ampersands, with any number of ampersands more. -/
def Writing (pairs : List (Text × Text)) (query : Text) : Prop :=
  ∃ pieces, query = '?' :: Text.join ['&'] pieces ∧
    List.Forall₂ ItemWriting pairs (pieces.filter fun piece => !piece.isEmpty)

section Bytes
variable (reserved : List UInt8)

private theorem hexValue_of_digit (n : Nat) (digit : Char) (small : n < 16) (written : HexDigit n digit) :
    Percent.hexValue? (.ofNat digit.toNat) = some (.ofNat n) := by
  have lower : ∀ m < 16, Percent.hexValue? (.ofNat (Percent.hexDigit m).toLower.toNat) = some (.ofNat m) := by
    decide
  rcases written with rfl | rfl
  · exact Percent.hexValue_hexDigit n small
  · exact lower n small

private theorem digit_apart (n : Nat) (digit : Char) (small : n < 16) (written : HexDigit n digit) :
    UInt8.ofNat digit.toNat ∉ reservedInName := by
  have upper_apart : ∀ m < 16, UInt8.ofNat (Percent.hexDigit m).toNat ∉ reservedInName := by decide
  have lower_apart : ∀ m < 16, UInt8.ofNat (Percent.hexDigit m).toLower.toNat ∉ reservedInName := by decide
  rcases written with rfl | rfl
  · exact upper_apart n small
  · exact lower_apart n small

private theorem decodeBytes_writing (percent : 0x25 ∈ reserved) (plus : 0x2b ∈ reserved) (b : UInt8)
    (form rest : Bytes) (written : ByteWriting reserved b form) :
    Percent.decodeBytes (spaced form ++ rest) = b :: Percent.decodeBytes rest := by
  cases written with
  | itself b free =>
    have no_plus : 0x2b ∉ [b] := fun member => free (List.mem_singleton.mp member ▸ plus)
    have no_percent : b ≠ 0x25 := fun same => free (same ▸ percent)
    rw [spaced_of_not_mem [b] no_plus]
    exact Percent.decodeBytes_cons b rest no_percent
  | escaped b high low first second =>
    have bounds := Percent.halves b
    have sign : (0x2b : UInt8) ∈ reservedInName := by decide
    have no_plus : 0x2b ∉ [0x25, UInt8.ofNat high.toNat, UInt8.ofNat low.toNat] := by
      have high_apart := digit_apart _ high bounds.1 first
      have low_apart := digit_apart _ low bounds.2 second
      intro member
      rcases List.mem_cons.mp member with same | member
      · exact absurd same (by decide)
      · rcases List.mem_cons.mp member with same | member
        · exact high_apart (same ▸ sign)
        · exact low_apart (List.mem_singleton.mp member ▸ sign)
    rw [spaced_of_not_mem _ no_plus,List.cons_append,List.cons_append,List.cons_append,List.nil_append]
    rw [Percent.decodeBytes_hex _ _ _ _ rest (hexValue_of_digit _ high bounds.1 first)
      (hexValue_of_digit _ low bounds.2 second),Percent.whole_of_halves]
  | plus => exact Percent.decodeBytes_cons 0x20 rest (by decide)

/-- A separator is never written as itself. -/
private theorem separator_apart (sep : UInt8) (held : sep ∈ reserved) (separates : sep = 0x26 ∨ sep = 0x3d) (b : UInt8)
    (form : Bytes) (written : ByteWriting reserved b form) : sep ∉ form := by
  have sign : sep ∈ reservedInName := by
    rcases separates with rfl | rfl
    · decide
    · decide
  cases written with
  | itself b free => exact fun member => free (List.mem_singleton.mp member ▸ held)
  | escaped b high low first second =>
    have bounds := Percent.halves b
    intro member
    rcases List.mem_cons.mp member with rfl | member
    · exact absurd separates (by decide)
    · rcases List.mem_cons.mp member with rfl | member
      · exact digit_apart _ high bounds.1 first sign
      · obtain rfl := List.mem_singleton.mp member
        exact digit_apart _ low bounds.2 second sign
  | plus =>
    intro member
    obtain rfl := List.mem_singleton.mp member
    exact absurd separates (by decide)

variable (bs : Bytes) (forms : List Bytes) (all : List.Forall₂ (ByteWriting reserved) bs forms)
include all

private theorem decodeBytes_writings (percent : 0x25 ∈ reserved) (plus : 0x2b ∈ reserved) :
    Percent.decodeBytes (spaced forms.flatten) = bs := by
  induction all with
  | nil => rfl
  | cons first rest ih =>
    rw [List.flatten_cons,spaced_append,decodeBytes_writing reserved percent plus _ _ _ first,ih]

private theorem separator_not_mem_forms (sep : UInt8) (held : sep ∈ reserved) (separates : sep = 0x26 ∨ sep = 0x3d) :
    sep ∉ forms.flatten := by
  induction all with
  | nil => simp
  | cons first rest ih =>
    rw [List.flatten_cons,List.mem_append,not_or]
    exact ⟨separator_apart reserved sep held separates _ _ first,ih⟩

end Bytes

section Texts
variable (reserved : List UInt8) (t written : Text) (writing : TextWriting reserved t written)
include writing

private theorem readComponent_writing (percent : 0x25 ∈ reserved) (plus : 0x2b ∈ reserved) :
    readComponent written = t := by
  obtain ⟨forms,all,same⟩ := writing
  have bytes := decodeBytes_writings reserved _ forms all percent plus
  rw [← same] at bytes
  have decoded := Utf8.decodeLossy_encode t
  rw [← bytes] at decoded
  exact decoded

private theorem separator_not_mem_writing (sep : Char) (ascii : sep.toNat < 0x80)
    (held : UInt8.ofNat sep.toNat ∈ reserved)
    (separates : UInt8.ofNat sep.toNat = 0x26 ∨ UInt8.ofNat sep.toNat = 0x3d) : sep ∉ written := by
  obtain ⟨forms,all,same⟩ := writing
  intro member
  have inside := Utf8.mem_encode_separator sep ascii written member
  rw [same] at inside
  exact separator_not_mem_forms reserved _ forms all _ held separates inside

end Texts

theorem textWriting_plain (reserved : List UInt8) (t : Text) (free : ∀ b ∈ Utf8.encode t, b ∉ reserved) :
    TextWriting reserved t t := by
  refine ⟨(Utf8.encode t).map fun b => [b],?_,(List.flatMap_singleton' _).symm⟩
  rw [List.forall₂_map_right_iff,List.forall₂_same]
  intro b member
  exact .itself b (free b member)

section Items

private theorem readItem_writing (pair : Text × Text) (item : Text) (writing : ItemWriting pair item) :
    readItem item = pair ∧ '&' ∉ item := by
  obtain ⟨name,value,rfl,name_writing,value_writing⟩ := writing
  have no_sign := separator_not_mem_writing _ _ _ name_writing '=' (by decide) (by decide) (by decide)
  constructor
  · rw [readItem,Text.cut_separator '=' name value no_sign]
    have first := readComponent_writing _ _ _ name_writing (by decide) (by decide)
    have second := readComponent_writing _ _ _ value_writing (by decide) (by decide)
    simp [first,second]
  · have name_clean := separator_not_mem_writing _ _ _ name_writing '&' (by decide) (by decide) (by decide)
    have value_clean := separator_not_mem_writing _ _ _ value_writing '&' (by decide) (by decide) (by decide)
    simp [name_clean,value_clean]

private theorem readItem_writings (pairs : List (Text × Text)) (items : List Text)
    (all : List.Forall₂ ItemWriting pairs items) : items.map readItem = pairs ∧ ∀ item ∈ items, '&' ∉ item := by
  induction all with
  | nil => simp
  | cons first rest ih =>
    obtain ⟨read,clean⟩ := readItem_writing _ _ first
    exact ⟨by simp [read,ih.1],List.forall_mem_cons.mpr ⟨clean,ih.2⟩⟩

private theorem readItems_join (pieces : List Text) (clean : ∀ piece ∈ pieces, '&' ∉ piece) :
    readItems (Text.join ['&'] pieces) = (pieces.filter fun piece => !piece.isEmpty).map readItem := by
  cases pieces with
  | nil => rfl
  | cons piece pieces =>
    unfold readItems Text.join
    rw [Text.splitOn_intercalate '&' (piece :: pieces) (by simp) clean]

/-- Reading a query that was written gives the list back, and names are read in lower case. -/
theorem parse_writing (pairs : List (Text × Text)) (query : Text) (writing : Writing pairs query) :
    parse query = Dict.ofList (pairs.map fun pair => (Text.lower pair.1, pair.2)) := by
  obtain ⟨pieces,rfl,all⟩ := writing
  obtain ⟨read,clean⟩ := readItem_writings pairs _ all
  have clean_pieces : ∀ piece ∈ pieces, '&' ∉ piece := by
    intro piece member
    by_cases empty : piece = []
    · simp [empty]
    · exact clean piece (List.mem_filter.mpr ⟨member,by simpa using empty⟩)
  have body_eq : body ('?' :: Text.join ['&'] pieces) = Text.join ['&'] pieces := rfl
  rw [parse_eq,body_eq,readItems_join pieces clean_pieces,read]

end Items

end CannedHttp.Query
