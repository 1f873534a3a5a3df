import CannedHttp.HeaderList

/-!
Header lists keep their names distinct. An insertion either replaces a value in its place or adds an
entry at the end, so inserting the entries of such a list one by one gives the list back.
-/
namespace CannedHttp.HeaderList

/-- No two names agree up to the case of ASCII letters. -/
def Distinct (es : List (Text × Text)) : Prop :=
  es.Pairwise fun a b => Text.sameIgnoringCase a.1 b.1 = false

private theorem insertEntry_of_new (name value : Text) (es : List (Text × Text))
    (new : ∀ e ∈ es, Text.sameIgnoringCase e.1 name = false) :
    insertEntry name value es = es ++ [(name, value)] := by
  induction es with
  | nil => rfl
  | cons e es ih =>
    have rest : ∀ x ∈ es, Text.sameIgnoringCase x.1 name = false :=
      fun x member => new x (List.mem_cons_of_mem e member)
    simp [insertEntry,new e List.mem_cons_self,ih rest]

theorem insertEntry_names (name value : Text) (es : List (Text × Text)) :
    (insertEntry name value es).map (·.1) =
      if es.any fun e => Text.sameIgnoringCase e.1 name then es.map (·.1)
      else es.map (·.1) ++ [name] := by
  induction es with
  | nil => rfl
  | cons e es ih =>
    unfold insertEntry
    cases same : Text.sameIgnoringCase e.1 name with
    | true => simp [same]
    | false =>
      cases later : es.any fun e => Text.sameIgnoringCase e.1 name <;> simp [same,later,ih]

theorem distinct_insertEntry (name value : Text) (es : List (Text × Text)) (distinct : Distinct es) :
    Distinct (insertEntry name value es) := by
  have by_names (l : List (Text × Text)) :
      Distinct l ↔ (l.map (·.1)).Pairwise fun a b => Text.sameIgnoringCase a b = false := by
    rw [List.pairwise_map]
    rfl
  rw [by_names,insertEntry_names]
  split
  next present => exact (by_names es).mp distinct
  next absent =>
    refine List.pairwise_append.mpr ⟨(by_names es).mp distinct,List.pairwise_singleton _ _,?_⟩
    intro a member b last
    obtain ⟨e,inside,rfl⟩ := List.mem_map.mp member
    obtain rfl := List.mem_singleton.mp last
    rw [Bool.not_eq_true,List.any_eq_false] at absent
    exact eq_false_of_ne_true (absent e inside)

private theorem distinct_foldl_insert (l : List (Text × Text)) (h : HeaderList) (distinct : Distinct h.entries) :
    Distinct (l.foldl (fun h e => h.insert e.1 e.2) h).entries := by
  induction l generalizing h with
  | nil => exact distinct
  | cons e l ih => exact ih (h.insert e.1 e.2) (distinct_insertEntry e.1 e.2 h.entries distinct)

theorem distinct_ofList (l : List (Text × Text)) : Distinct (ofList l).entries :=
  distinct_foldl_insert l empty .nil

theorem forall_insertEntry (ofName ofValue : Text → Prop) (name value : Text)
    (es : List (Text × Text)) (held : ∀ e ∈ es, ofName e.1 ∧ ofValue e.2) (n : ofName name)
    (v : ofValue value) : ∀ e ∈ insertEntry name value es, ofName e.1 ∧ ofValue e.2 := by
  induction es with
  | nil => simpa [insertEntry] using ⟨n,v⟩
  | cons e es ih =>
    have first := held e List.mem_cons_self
    have rest : ∀ x ∈ es, ofName x.1 ∧ ofValue x.2 :=
      fun x member => held x (List.mem_cons_of_mem e member)
    unfold insertEntry
    split
    · exact List.forall_mem_cons.mpr ⟨⟨first.1,v⟩,rest⟩
    · exact List.forall_mem_cons.mpr ⟨first,ih rest⟩

theorem foldl_insert_of_distinct (es before : List (Text × Text)) (distinct : Distinct (before ++ es)) :
    es.foldl (fun h e => h.insert e.1 e.2) (⟨before⟩ : HeaderList) = ⟨before ++ es⟩ := by
  induction es generalizing before with
  | nil => simp
  | cons e es ih =>
    have new : ∀ x ∈ before, Text.sameIgnoringCase x.1 e.1 = false :=
      fun x member => (List.pairwise_append.mp distinct).2.2 x member e List.mem_cons_self
    have moved : before ++ e :: es = before ++ [e] ++ es := by simp
    rw [List.foldl_cons]
    change es.foldl _ (⟨insertEntry e.1 e.2 before⟩ : HeaderList) = _
    rw [insertEntry_of_new e.1 e.2 before new,moved]
    exact ih (before ++ [e]) (moved ▸ distinct)

end CannedHttp.HeaderList
