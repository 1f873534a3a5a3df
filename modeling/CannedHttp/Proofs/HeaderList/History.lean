import CannedHttp.Proofs.HeaderList
import CannedHttp.Proofs.Text.Quoted
import Mathlib.Data.List.Induction
import Mathlib.Data.List.Pairwise

/-!
What a header list holds after any insertions. A name stays where it first came in and as it was spelled there, and
its value is the last one that came in under any of its spellings.
-/
namespace CannedHttp.HeaderList

section Judgments
variable (l : List (Text × Text))

/-- The name as it is spelled where it first comes in. -/
def FirstSpelling (name : Text) : Prop :=
  ∃ before value after, l = before ++ (name, value) :: after ∧
    ∀ e ∈ before, Text.sameIgnoringCase e.1 name = false

/-- The value that comes in last under the name, however the name is spelled there. -/
def LastValue (name value : Text) : Prop :=
  ∃ before spelling after, l = before ++ (spelling, value) :: after ∧
    Text.sameIgnoringCase spelling name = true ∧ ∀ e ∈ after, Text.sameIgnoringCase e.1 name = false

/-- At some time the first name has come in and the second has not. -/
def ComesBefore (a b : Text) : Prop :=
  ∃ before after, l = before ++ after ∧ (∃ e ∈ before, Text.sameIgnoringCase e.1 a = true) ∧
    ∀ e ∈ before, Text.sameIgnoringCase e.1 b = false

end Judgments

section Spellings

private theorem same_refl (s : Text) : Text.sameIgnoringCase s s = true :=
  beq_self_eq_true _

private theorem same_comm (s t : Text) : Text.sameIgnoringCase s t = Text.sameIgnoringCase t s :=
  Bool.beq_comm

private theorem same_congr (s t u : Text) (same : Text.sameIgnoringCase s t = true) :
    Text.sameIgnoringCase s u = Text.sameIgnoringCase t u := by
  have folded : Text.foldCase s = Text.foldCase t := beq_iff_eq.mp same
  unfold Text.sameIgnoringCase
  rw [folded]

end Spellings

section Entries
variable (h : HeaderList)

private theorem get_eq_none_iff (name : Text) :
    h.get? name = none ↔ ∀ e ∈ h.entries, Text.sameIgnoringCase e.1 name = false := by
  simp [get?]

theorem get_of_mem (distinct : Distinct h.entries) (e : Text × Text) (member : e ∈ h.entries) :
    h.get? e.1 = some e.2 := by
  obtain ⟨before,after,whole⟩ := List.append_of_mem member
  rw [whole] at distinct
  have apart := (List.pairwise_append.mp distinct).2.2
  have found : h.entries.find? (fun x => Text.sameIgnoringCase x.1 e.1) = some e := by
    apply List.find?_eq_some_iff_append.mpr
    refine ⟨same_refl e.1,before,after,whole,fun x inside => ?_⟩
    simp [apart x inside e List.mem_cons_self]
  rw [get?,found,Option.map_some]

private theorem eq_of_same (distinct : Distinct h.entries) (x y : Text × Text) (left : x ∈ h.entries)
    (right : y ∈ h.entries) (same : Text.sameIgnoringCase x.1 y.1 = true) : x = y := by
  have symmetric : Std.Symm fun a b : Text × Text => Text.sameIgnoringCase a.1 b.1 = false :=
    ⟨fun a b apart => (same_comm b.1 a.1).trans apart⟩
  apply Decidable.byContradiction
  intro different
  have apart := List.Pairwise.forall distinct left right different
  rw [same] at apart
  contradiction

/-- An entry is a name of the list with what is found under it. -/
theorem mem_entries_iff (distinct : Distinct h.entries) (x : Text × Text) :
    x ∈ h.entries ↔ x.1 ∈ h.entries.map (·.1) ∧ h.get? x.1 = some x.2 := by
  constructor
  · intro member
    exact ⟨List.mem_map_of_mem member,get_of_mem h distinct x member⟩
  · rintro ⟨name,found⟩
    obtain ⟨y,member,same⟩ := List.mem_map.mp name
    have value := get_of_mem h distinct y member
    rw [same,found] at value
    obtain rfl : y = x := Prod.ext same (Option.some.inj value).symm
    exact member

end Entries

/-- An insertion is seen under all spellings of its name and under no other name. -/
theorem get_insert (h : HeaderList) (name value other : Text) : (h.insert name value).get? other =
    if Text.sameIgnoringCase name other then some value else h.get? other := by
  obtain ⟨es⟩ := h
  unfold insert get?
  dsimp only
  induction es with
  | nil => cases same : Text.sameIgnoringCase name other <;> simp [insertEntry,same]
  | cons e es ih =>
    unfold insertEntry
    cases here : Text.sameIgnoringCase e.1 name with
    | true =>
      have alike := same_congr e.1 name other here
      cases same : Text.sameIgnoringCase name other <;> simp [alike,same]
    | false =>
      cases found : Text.sameIgnoringCase e.1 other with
      | true =>
        have apart : Text.sameIgnoringCase name other = false := by
          have alike := same_congr e.1 other name found
          rw [same_comm,← alike,here]
        simp [found,apart]
      | false => simpa [found] using ih

section History
variable (l : List (Text × Text)) (e : Text × Text)

private theorem ofList_concat : ofList (l ++ [e]) = (ofList l).insert e.1 e.2 := by
  rw [ofList,List.foldl_append]
  rfl

/-- A place in a history is its end or lies in the history before. -/
private theorem concat_split (before after : List (Text × Text)) (x : Text × Text)
    (whole : l ++ [e] = before ++ x :: after) :
    l = before ∧ e = x ∧ after = [] ∨ ∃ rest, l = before ++ x :: rest ∧ after = rest ++ [e] := by
  rcases List.eq_nil_or_concat' after with rfl | ⟨rest,last,rfl⟩
  · obtain ⟨rfl,rfl⟩ := List.append_singleton_inj.mp whole
    exact .inl ⟨rfl,rfl,rfl⟩
  · rw [← List.cons_append,← List.append_assoc] at whole
    obtain ⟨rfl,rfl⟩ := List.append_singleton_inj.mp whole
    exact .inr ⟨rest,rfl,rfl⟩

private theorem firstSpelling_concat (name : Text) : FirstSpelling (l ++ [e]) name ↔
    FirstSpelling l name ∨ e.1 = name ∧ ∀ x ∈ l, Text.sameIgnoringCase x.1 name = false := by
  constructor
  · rintro ⟨before,value,after,whole,new⟩
    rcases concat_split l e before after _ whole with ⟨rfl,rfl,_⟩ | ⟨rest,rfl,_⟩
    · exact .inr ⟨rfl,new⟩
    · exact .inl ⟨before,value,rest,rfl,new⟩
  · rintro (⟨before,value,after,rfl,new⟩ | ⟨rfl,new⟩)
    · exact ⟨before,value,after ++ [e],by simp,new⟩
    · exact ⟨l,e.2,[],rfl,new⟩

private theorem lastValue_concat (name value : Text) : LastValue (l ++ [e]) name value ↔
    if Text.sameIgnoringCase e.1 name then e.2 = value else LastValue l name value := by
  constructor
  · rintro ⟨before,spelling,after,whole,same,last⟩
    rcases concat_split l e before after _ whole with ⟨rfl,rfl,_⟩ | ⟨rest,rfl,rfl⟩
    · rw [if_pos same]
    · have other := last e (by simp)
      rw [if_neg (ne_true_of_eq_false other)]
      exact ⟨before,spelling,rest,rfl,same,fun x member => last x (List.mem_append_left _ member)⟩
  · split
    next same =>
      rintro rfl
      exact ⟨l,e.1,[],rfl,same,by simp⟩
    next other =>
      rintro ⟨before,spelling,after,rfl,same,last⟩
      refine ⟨before,spelling,after ++ [e],by simp,same,List.forall_mem_append.mpr ⟨last,?_⟩⟩
      exact List.forall_mem_singleton.mpr (eq_false_of_ne_true other)

private theorem comesBefore_concat (a b : Text) (earlier : ComesBefore l a b) : ComesBefore (l ++ [e]) a b := by
  obtain ⟨before,after,rfl,known,new⟩ := earlier
  exact ⟨before,after ++ [e],by simp,known,new⟩

theorem get_ofList (name value : Text) : (ofList l).get? name = some value ↔ LastValue l name value := by
  induction l using List.reverseRecOn with
  | nil => simp [ofList,empty,get?,LastValue]
  | append_singleton l e ih =>
    rw [ofList_concat,get_insert,lastValue_concat,← ih]
    split
    · exact Option.some_inj
    · rfl

private theorem get_ofList_eq_none_iff (name : Text) :
    (ofList l).get? name = none ↔ ∀ e ∈ l, Text.sameIgnoringCase e.1 name = false := by
  induction l using List.reverseRecOn with
  | nil => simp [ofList,empty,get?]
  | append_singleton l e ih =>
    rw [ofList_concat,get_insert,List.forall_mem_append,List.forall_mem_singleton]
    cases Text.sameIgnoringCase e.1 name with
    | true => simp
    | false => simpa using ih

/-- A name is in the list exactly if it has come in. -/
private theorem any_ofList (name : Text) : ((ofList l).entries.any fun x => Text.sameIgnoringCase x.1 name) =
    l.any fun x => Text.sameIgnoringCase x.1 name := by
  have absent := (get_eq_none_iff (ofList l) name).symm.trans (get_ofList_eq_none_iff l name)
  rw [Bool.eq_iff_iff,← not_iff_not]
  simpa using absent

private theorem names_concat : (ofList (l ++ [e])).entries.map (·.1) =
    if l.any fun x => Text.sameIgnoringCase x.1 e.1 then (ofList l).entries.map (·.1)
    else (ofList l).entries.map (·.1) ++ [e.1] := by
  rw [ofList_concat,insert,insertEntry_names,any_ofList]

private theorem mem_names_ofList (name : Text) :
    name ∈ (ofList l).entries.map (·.1) ↔ FirstSpelling l name := by
  induction l using List.reverseRecOn with
  | nil => simp [ofList,empty,FirstSpelling]
  | append_singleton l e ih =>
    rw [names_concat,firstSpelling_concat,← ih]
    split
    next known =>
      refine ⟨.inl,?_⟩
      rintro (old | ⟨rfl,new⟩)
      · exact old
      · rw [List.any_eq_true] at known
        obtain ⟨x,member,same⟩ := known
        rw [new x member] at same
        contradiction
    next new =>
      have fresh : ∀ x ∈ l, Text.sameIgnoringCase x.1 e.1 = false := by simpa using new
      rw [List.mem_append,List.mem_singleton]
      apply or_congr_right
      constructor
      · rintro rfl
        exact ⟨rfl,fresh⟩
      · rintro ⟨rfl,_⟩
        rfl

theorem names_in_order : ((ofList l).entries.map (·.1)).Pairwise (ComesBefore l) := by
  induction l using List.reverseRecOn with
  | nil => exact .nil
  | append_singleton l e ih =>
    have old : ((ofList l).entries.map (·.1)).Pairwise (ComesBefore (l ++ [e])) :=
      ih.imp fun earlier => comesBefore_concat l e _ _ earlier
    rw [names_concat]
    split
    next => exact old
    next new =>
      have fresh : ∀ x ∈ l, Text.sameIgnoringCase x.1 e.1 = false := by simpa using new
      refine List.pairwise_append.mpr ⟨old,List.pairwise_singleton _ _,?_⟩
      intro a member b last
      obtain rfl := List.mem_singleton.mp last
      obtain ⟨before,value,after,whole,_⟩ := (mem_names_ofList l a).mp member
      exact ⟨l,[e],rfl,⟨(a, value),by simp [whole],same_refl a⟩,fresh⟩

end History

section Written

private theorem memberTexts_strings (es : List (Text × Text)) :
    Json.memberTexts (es.map fun e => (e.1, .str e.2)) =
      es.map fun e => Text.Quoted.compact e.1 ++ ':' :: Text.Quoted.compact e.2 := by
  induction es with
  | nil => rfl
  | cons e es ih =>
    rw [List.map_cons,Json.memberTexts,ih]
    rfl

private theorem text_toJson (h : HeaderList) : h.toJson.text = '{' :: Text.join [',']
    (h.entries.map fun e => Text.Quoted.compact e.1 ++ ':' :: Text.Quoted.compact e.2) ++ ['}'] := by
  rw [toJson,Json.text,memberTexts_strings]

theorem nodup_keys (es : List (Text × Text)) (distinct : Distinct es) :
    (es.map fun e => Text.Quoted.compact e.1).Nodup := by
  rw [List.nodup_iff_pairwise_ne,List.pairwise_map]
  apply distinct.imp
  intro a b apart same
  rw [Text.Quoted.compact_injective _ _ same,same_refl] at apart
  contradiction

end Written

/-- What is known of a header list after a history of insertions, whatever they were. -/
structure Records (l : List (Text × Text)) (h : HeaderList) : Prop where
  distinct : Distinct h.entries
  one_each : ∀ e ∈ l, ∃! x, x ∈ h.entries ∧ Text.sameIgnoringCase x.1 e.1 = true
  held : ∀ x, x ∈ h.entries ↔ FirstSpelling l x.1 ∧ LastValue l x.1 x.2
  order : h.entries.Pairwise fun a b => ComesBefore l a.1 b.1
  found : ∀ name value, h.get? name = some value ↔ LastValue l name value
  missing : ∀ name, h.get? name = none ↔ ∀ e ∈ l, Text.sameIgnoringCase e.1 name = false
  /-- The object has the entries in their order as its members. -/
  json : h.toJson.text = '{' :: Text.join [',']
    (h.entries.map fun e => Text.Quoted.compact e.1 ++ ':' :: Text.Quoted.compact e.2) ++ ['}']
  /-- No two members are written under one key. -/
  keys : (h.entries.map fun e => Text.Quoted.compact e.1).Nodup

theorem records_ofList (l : List (Text × Text)) : Records l (ofList l) := by
  have distinct := distinct_ofList l
  constructor
  case distinct => exact distinct
  case one_each =>
    intro e member
    have known : (l.any fun x => Text.sameIgnoringCase x.1 e.1) = true :=
      List.any_eq_true.mpr ⟨e,member,same_refl e.1⟩
    rw [← any_ofList,List.any_eq_true] at known
    obtain ⟨x,present,same⟩ := known
    refine ⟨x,⟨present,same⟩,?_⟩
    rintro y ⟨other,same_too⟩
    apply eq_of_same (ofList l) distinct y x other present
    rw [same_congr y.1 e.1 x.1 same_too,same_comm]
    exact same
  case held =>
    intro x
    rw [mem_entries_iff (ofList l) distinct,mem_names_ofList,get_ofList]
  case order => exact List.pairwise_map.mp (names_in_order l)
  case found => exact get_ofList l
  case missing => exact get_ofList_eq_none_iff l
  case json => exact text_toJson (ofList l)
  case keys => exact nodup_keys _ distinct

/-- Names that differ in the case of accented letters are different names. -/
def accented : List (Text × Text) :=
  [("Content-Type".toList,"text/plain".toList),("X-Café".toList,"1".toList),("x-CAFÉ".toList,"2".toList),
    ("CONTENT-type".toList,"application/json".toList),("x-CAFé".toList,"3".toList)]

theorem records_ofList_accented :
    (ofList accented).entries = [("Content-Type".toList,"application/json".toList),("X-Café".toList,"3".toList),
      ("x-CAFÉ".toList,"2".toList)] ∧
    FirstSpelling accented "X-Café".toList ∧ LastValue accented "X-CAFé".toList "3".toList ∧
    ((ofList accented).entries.map fun e => Text.Quoted.compact e.1).Nodup := by
  have records := records_ofList accented
  have entries : (ofList accented).entries = [("Content-Type".toList,"application/json".toList),
      ("X-Café".toList,"3".toList),("x-CAFÉ".toList,"2".toList)] := by decide +kernel
  have held : ("X-Café".toList,"3".toList) ∈ (ofList accented).entries := by
    rw [entries]
    decide
  have found : (ofList accented).get? "X-CAFé".toList = some "3".toList := by decide +kernel
  exact ⟨entries,((records.held _).mp held).1,(records.found _ _).mp found,records.keys⟩

end CannedHttp.HeaderList
