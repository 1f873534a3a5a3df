import CannedHttp.Proofs.Dict
import CannedHttp.Proofs.Percent
import CannedHttp.Query

/-!
Form encoding and its inverse, and queries read as texts: splitting at ampersands and equals signs
may be done before or after encoding. A query whose placeholders are filled in has the parameters of
the original query, with the values put in their place.
-/
namespace CannedHttp.Query

def isFormSafe (c : Char) : Bool :=
  c.isAlphanum || c == '*' || c == '-' || c == '.' || c == '_'

def encodeByte (b : UInt8) : Text :=
  if b = 0x20 then ['+'] else Percent.encodeByte isFormSafe b

/-- The UTF-8 of the text, with a plus sign for a space and every other byte escaped that is not a
letter, a digit or one of four signs. -/
def encodeComponent (t : Text) : Text :=
  (Utf8.encode t).flatMap encodeByte

def readComponent (t : Text) : Text :=
  decodeComponent (Utf8.encode t)

section Components

private theorem formSafe_plain (c : Char) (member : isFormSafe c = true) :
    (c.toNat < 0x80 ∧ c ≠ '%') ∧ c ≠ '+' := by
  simp only [isFormSafe,Bool.or_eq_true,beq_iff_eq] at member
  rcases member with (((alphanum | rfl) | rfl) | rfl) | rfl
  · refine ⟨Percent.alphanum_plain c alphanum,?_⟩
    rintro rfl
    exact absurd alphanum (by decide)
  all_goals decide

private theorem plus_not_mem_encodeByte (b : UInt8) : '+' ∉ Percent.encodeByte isFormSafe b := by
  intro member
  rcases Percent.mem_encodeByte isFormSafe b '+' member with safe | percent | alphanum
  · exact (formSafe_plain '+' safe).2 rfl
  · exact absurd percent (by decide)
  · exact absurd alphanum (by decide)

def spaced (bs : Bytes) : Bytes :=
  bs.map fun b => if b = 0x2b then 0x20 else b

theorem spaced_append (bs cs : Bytes) : spaced (bs ++ cs) = spaced bs ++ spaced cs := List.map_append

theorem spaced_of_not_mem (bs : Bytes) (clean : 0x2b ∉ bs) : spaced bs = bs := by
  have same : bs.map (fun b => if b = 0x2b then 0x20 else b) = bs.map id := by
    apply List.map_congr_left
    intro b member
    have other : b ≠ 0x2b := by
      rintro rfl
      exact clean member
    exact if_neg other
  rw [spaced,same,List.map_id]

private theorem decodeBytes_encodeByte (b : UInt8) (rest : Bytes) :
    Percent.decodeBytes (spaced (Utf8.encode (encodeByte b)) ++ rest) = b :: Percent.decodeBytes rest := by
  unfold encodeByte
  split
  next space =>
    subst space
    exact Percent.decodeBytes_cons 0x20 rest (by decide)
  next =>
    have clean : 0x2b ∉ Utf8.encode (Percent.encodeByte isFormSafe b) := fun inside =>
      plus_not_mem_encodeByte b (Utf8.separator_mem_encode '+' (by decide) _ inside)
    rw [spaced_of_not_mem _ clean]
    exact Percent.decodeBytes_encodeByte isFormSafe (fun c safe => (formSafe_plain c safe).1) b rest

/-- Reading an encoded component gives the text back, whatever its characters. -/
theorem readComponent_encodeComponent (t : Text) : readComponent (encodeComponent t) = t := by
  have bytes (bs : Bytes) : Percent.decodeBytes (spaced (Utf8.encode (bs.flatMap encodeByte))) = bs := by
    induction bs with
    | nil => rfl
    | cons b bs ih =>
      rw [List.flatMap_cons,Utf8.encode_append,spaced_append,decodeBytes_encodeByte,ih]
  have whole := bytes (Utf8.encode t)
  have decoded := Utf8.decodeLossy_encode t
  rw [← whole] at decoded
  exact decoded

private theorem mem_encodeComponent (t : Text) (c : Char) (member : c ∈ encodeComponent t) :
    isFormSafe c = true ∨ c = '%' ∨ c = '+' := by
  obtain ⟨b,_,inside⟩ := List.mem_flatMap.mp member
  unfold encodeByte at inside
  split at inside
  next => exact .inr (.inr (List.mem_singleton.mp inside))
  next =>
    rcases Percent.mem_encodeByte isFormSafe b c inside with safe | percent | alphanum
    · exact .inl safe
    · exact .inr (.inl percent)
    · exact .inl (by simp [isFormSafe,alphanum])

private theorem ampersand_not_mem_encodeComponent (t : Text) : '&' ∉ encodeComponent t := by
  intro member
  rcases mem_encodeComponent t '&' member with safe | percent | plus
  · exact absurd safe (by decide)
  · exact absurd percent (by decide)
  · exact absurd plus (by decide)

end Components

section Items

def readItem (item : Text) : Text × Text :=
  (readComponent (Text.cut (· == '=') item).1, readComponent ((Text.cut (· == '=') item).2.drop 1))

def body (query : Text) : Text :=
  (Text.dropStart? ['?'] query).getD query

def readItems (t : Text) : List (Text × Text) :=
  ((Text.splitOn '&' t).filter fun item => !item.isEmpty).map readItem

private theorem decodeItem_encode (item : Text) : decodeItem (Utf8.encode item) = readItem item := by
  have cut := Utf8.cut_encode '=' (by decide) item
  have value : (Utf8.encode (Text.cut (· == '=') item).2).drop 1 =
      Utf8.encode ((Text.cut (· == '=') item).2.drop 1) := by
    cases rest : (Text.cut (· == '=') item).2 with
    | nil => rfl
    | cons c cs =>
      obtain rfl : c = '=' := by simpa using Text.cut_rest _ item cs c rest
      rw [Utf8.encode_separator '=' (by decide)]
      rfl
  have sign : UInt8.ofNat '='.toNat = 0x3d := rfl
  rw [sign] at cut
  simp only [decodeItem,cut,value]
  rfl

private theorem decodeItems_encode (t : Text) : decodeItems (Utf8.encode t) = readItems t := by
  have pieces := Utf8.splitOn_encode '&' (by decide) t
  have sign : UInt8.ofNat '&'.toNat = 0x26 := rfl
  have empty (item : Text) : (Utf8.encode item).isEmpty = item.isEmpty := by
    cases item with
    | nil => rfl
    | cons c cs => simp [Utf8.encode_cons]
  have same : decodeItem ∘ Utf8.encode = readItem := funext decodeItem_encode
  rw [sign] at pieces
  simp only [decodeItems,pieces,List.filter_map,List.map_map,Function.comp_def,empty] at *
  simp only [same,readItems]

theorem parse_eq (query : Text) :
    parse query = Dict.ofList ((readItems (body query)).map fun item => (Text.lower item.1, item.2)) := by
  rw [← decodeItems_encode]
  rfl

/-- The bytes that the value of each item stands for, before they are read as text, under its name in lower
case. -/
def valueBytes (query : Text) : List (Text × Bytes) :=
  ((Text.splitOn '&' (body query)).filter fun item => !item.isEmpty).map fun item =>
    (Text.lower (readComponent (Text.cut (· == '=') item).1),
      Percent.decodeBytes (spaced (Utf8.encode ((Text.cut (· == '=') item).2.drop 1))))

theorem get_parse (query name : Text) :
    (parse query).get? name = (Dict.last? (valueBytes query) name).map Utf8.decodeLossy := by
  rw [parse_eq,Dict.get_ofList,readItems,List.map_map,← Dict.last_map,valueBytes,List.map_map]
  rfl

end Items

section Filling
variable (σ : Text → Text)

/-- The value assigned to a placeholder; any other text stays. -/
def fillValue (value : Text) : Text :=
  match Placeholder.inUrl? value with
  | some name => σ name
  | none => value

/-- The name of an item stays as written. -/
def fillItem (item : Text) : Text :=
  match Placeholder.inUrl? (readItem item).2 with
  | some name => (Text.cut (· == '=') item).1 ++ '=' :: encodeComponent (σ name)
  | none => item

def fillItems (t : Text) : Text :=
  Text.join ['&'] ((Text.splitOn '&' t).map (fillItem σ))

/-- The query with every placeholder that is a value replaced by the encoding of what is assigned to
it. -/
def fill : Text → Text
  | '?' :: items => '?' :: fillItems σ items
  | items => fillItems σ items

private theorem equals_not_mem_name (item : Text) : '=' ∉ (Text.cut (· == '=') item).1 := by
  intro member
  have apart := Text.forall_mem_run (fun c => !(c == '=')) item '=' member
  exact absurd apart (by decide)

private theorem readItem_fillItem (item : Text) :
    readItem (fillItem σ item) = ((readItem item).1, fillValue σ (readItem item).2) := by
  unfold fillItem fillValue
  split
  next name read =>
    rw [readItem,Text.cut_separator '=' _ _ (equals_not_mem_name item)]
    simp only [List.drop_one,List.tail_cons,readComponent_encodeComponent]
    rfl
  next => rfl

private theorem isEmpty_fillItem (item : Text) : (fillItem σ item).isEmpty = item.isEmpty := by
  unfold fillItem
  split
  next name read =>
    cases item with
    | nil =>
      have unread : Placeholder.inUrl? (readItem []).2 = none := rfl
      rw [unread] at read
      contradiction
    | cons c cs => simp
  next => rfl

private theorem ampersand_not_mem_fillItem (item : Text) (clean : '&' ∉ item) : '&' ∉ fillItem σ item := by
  unfold fillItem
  split
  next name _ =>
    intro member
    rcases List.mem_append.mp member with inside | encoded
    · exact clean (List.takeWhile_subset _ inside)
    · rcases List.mem_cons.mp encoded with sign | inside
      · exact absurd sign (by decide)
      · exact ampersand_not_mem_encodeComponent (σ name) inside
  next => exact clean

theorem readItems_fillItems (t : Text) :
    readItems (fillItems σ t) = (readItems t).map fun item => (item.1, fillValue σ item.2) := by
  have pieces : Text.splitOn '&' (fillItems σ t) = (Text.splitOn '&' t).map (fillItem σ) := by
    apply Text.splitOn_intercalate
    · intro none_left
      exact Text.splitOn_nonempty '&' t (List.map_eq_nil_iff.mp none_left)
    · intro filled member
      obtain ⟨item,present,rfl⟩ := List.mem_map.mp member
      exact ampersand_not_mem_fillItem σ item (Text.not_mem_of_mem_splitOn '&' t item present)
  rw [readItems,pieces,List.filter_map,List.map_map,readItems,List.map_map]
  simp only [Function.comp_def,readItem_fillItem,isEmpty_fillItem]

/-- A query as it stands in a request or a definition: absent, or after a question mark. -/
def Marked (query : Text) : Prop :=
  query = [] ∨ ∃ items, query = '?' :: items

theorem fill_marked (query : Text) (marked : Marked query) : Marked (fill σ query) := by
  rcases marked with rfl | ⟨items,rfl⟩
  · exact .inl rfl
  · exact .inr ⟨_,rfl⟩

private theorem body_fill (query : Text) (marked : Marked query) : body (fill σ query) = fillItems σ (body query) := by
  rcases marked with rfl | ⟨items,rfl⟩
  · rfl
  · rfl

theorem parse_fill (query : Text) (marked : Marked query) :
    parse (fill σ query) = (parse query).mapValues (fillValue σ) := by
  rw [parse_eq,parse_eq,body_fill σ query marked,readItems_fillItems,Dict.mapValues_ofList]
  rw [List.map_map,List.map_map]
  rfl

end Filling

end CannedHttp.Query
