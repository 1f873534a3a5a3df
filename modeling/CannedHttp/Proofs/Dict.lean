import CannedHttp.Dict
import Mathlib.Data.List.Induction
import Mathlib.Data.List.Sort

/-!
What a dictionary holds after its operations: an insertion is seen under its own key only, every entry
is found under its key, and changing the values changes no key. A dictionary made from a list has the last
value of each key, and it is nothing more than what is found in it.
-/
namespace CannedHttp.Dict
variable {α β : Type}

private theorem find_insertEntry (k l : Text) (v : α) (es : List (Text × α)) :
    (insertEntry k v es).find? (fun e => e.1 == l) =
      if k = l then some (k, v) else es.find? (fun e => e.1 == l) := by
  induction es with
  | nil => by_cases same : k = l <;> simp [insertEntry,same]
  | cons e es ih =>
    rw [insertEntry]
    by_cases here : k = e.1
    · rw [if_pos here]
      by_cases same : k = l
      · simp [same]
      · rw [if_neg same,List.find?_cons_of_neg (by simpa using same)]
        rw [List.find?_cons_of_neg (by simpa [here] using same)]
    · rw [if_neg here]
      split
      next =>
        by_cases same : k = l
        · simp [same]
        · rw [if_neg same,List.find?_cons_of_neg (by simpa using same)]
      next =>
        by_cases first : e.1 = l
        · have apart : k ≠ l := fun same => here (same.trans first.symm)
          rw [if_neg apart,List.find?_cons_of_pos (by simpa using first)]
          rw [List.find?_cons_of_pos (by simpa using first)]
        · rw [List.find?_cons_of_neg (by simpa using first),ih]
          rw [List.find?_cons_of_neg (by simpa using first)]

theorem get_insert (d : Dict α) (k l : Text) (v : α) :
    (d.insert k v).get? l = if k = l then some v else d.get? l := by
  unfold get? insert
  rw [find_insertEntry]
  split <;> rfl

theorem find_of_mem (es : List (Text × α)) (e : Text × α) (sorted : Sorted es) (member : e ∈ es) :
    es.find? (fun f => f.1 == e.1) = some e := by
  induction es with
  | nil => simp at member
  | cons first es ih =>
    obtain ⟨before,sorted⟩ := List.pairwise_cons.mp sorted
    rcases List.mem_cons.mp member with rfl | later
    · exact List.find?_cons_of_pos (beq_self_eq_true _)
    · have apart : first.1 ≠ e.1 := by
        intro same
        have less := before e later
        rw [same] at less
        exact List.lt_irrefl _ less
      rw [List.find?_cons_of_neg (by simpa using apart)]
      exact ih sorted later

theorem get_of_mem (d : Dict α) (e : Text × α) (member : e ∈ d.entries) : d.get? e.1 = some e.2 := by
  rw [get?,find_of_mem d.entries e d.sorted member]
  rfl

theorem entries_mapValues (d : Dict α) (f : α → β) :
    (d.mapValues f).entries = d.entries.map fun e => (e.1, f e.2) := rfl

theorem mapValues_id (d : Dict α) : d.mapValues id = d := by
  cases d
  simp only [mapValues,id_eq,List.map_id']

theorem mapValues_mapValues {γ : Type} (d : Dict α) (f : α → β) (g : β → γ) :
    (d.mapValues f).mapValues g = d.mapValues (g ∘ f) := by
  simp only [mapValues,List.map_map,Function.comp_def]

theorem get_mapValues (d : Dict α) (f : α → β) (k : Text) :
    (d.mapValues f).get? k = (d.get? k).map f := by
  simp [get?,mapValues,List.find?_map,Function.comp_def]

private theorem insertEntry_map (k : Text) (v : α) (f : α → β) (es : List (Text × α)) :
    insertEntry k (f v) (es.map fun e => (e.1, f e.2)) = (insertEntry k v es).map fun e => (e.1, f e.2) := by
  induction es with
  | nil => rfl
  | cons e es ih =>
    simp only [List.map_cons,insertEntry,ih]
    split
    · rfl
    · split <;> rfl

theorem mapValues_insert (d : Dict α) (f : α → β) (k : Text) (v : α) :
    (d.insert k v).mapValues f = (d.mapValues f).insert k (f v) := by
  simp only [insert,mapValues,insertEntry_map]

theorem mapValues_ofList (l : List (Text × α)) (f : α → β) :
    (ofList l).mapValues f = ofList (l.map fun e => (e.1, f e.2)) := by
  have folded (d : Dict α) : (l.foldl (fun d e => d.insert e.1 e.2) d).mapValues f =
      (l.map fun e => (e.1, f e.2)).foldl (fun d e => d.insert e.1 e.2) (d.mapValues f) := by
    induction l generalizing d with
    | nil => rfl
    | cons e l ih => rw [List.foldl_cons,ih,mapValues_insert,List.map_cons,List.foldl_cons]
  exact folded empty

section Contents

theorem get_eq_some_iff (d : Dict α) (k : Text) (v : α) : d.get? k = some v ↔ (k, v) ∈ d.entries := by
  constructor
  · intro found
    obtain ⟨e,first,rfl⟩ := Option.map_eq_some_iff.mp found
    have key := List.find?_some first
    obtain rfl : e.1 = k := by simpa using key
    exact List.mem_of_find?_eq_some first
  · intro member
    exact get_of_mem d (k, v) member

theorem mem_keys_iff (d : Dict α) (k : Text) : k ∈ d.keys ↔ ∃ v, d.get? k = some v := by
  simp [keys,get_eq_some_iff]

theorem nodup_keys (d : Dict α) : d.keys.Nodup := by
  unfold keys
  rw [List.nodup_iff_pairwise_ne,List.pairwise_map]
  apply d.sorted.imp
  intro e f before same
  rw [same] at before
  exact List.lt_irrefl _ before

theorem eq_of_members {κ : Type} [LT κ] (asymmetric : ∀ j k : κ, j < k → ¬ k < j) (l m : List (κ × α))
    (increasing : l.Pairwise fun a b => a.1 < b.1) (increasing_too : m.Pairwise fun a b => a.1 < b.1)
    (same : ∀ e, e ∈ l ↔ e ∈ m) : l = m := by
  have irreflexive : Std.Irrefl fun a b : κ × α => a.1 < b.1 := ⟨fun a before => asymmetric _ _ before before⟩
  have antisymmetric : Std.Antisymm fun a b : κ × α => a.1 < b.1 :=
    ⟨fun a b before after => absurd after (asymmetric _ _ before)⟩
  exact List.Pairwise.eq_of_mem_iff increasing increasing_too same

/-- Dictionaries in which the same is found are one. -/
theorem eq_of_get (d e : Dict α) (same : ∀ k, d.get? k = e.get? k) : d = e := by
  have entries : d.entries = e.entries := by
    apply eq_of_members (fun _ _ => List.lt_asymm) d.entries e.entries d.sorted e.sorted
    intro ⟨k,v⟩
    rw [← get_eq_some_iff,← get_eq_some_iff,same k]
  cases d
  cases e
  simpa using entries

/-- Of two dictionaries of one size, one that has all keys of the other has no more. -/
theorem keys_of_size (d : Dict α) (e : Dict β) (size : d.size = e.size) (inside : ∀ k ∈ d.keys, k ∈ e.keys)
    (k : Text) : k ∈ e.keys ↔ k ∈ d.keys := by
  have lengths : e.keys.length ≤ d.keys.length := by
    simpa [keys,Dict.size] using Nat.le_of_eq size.symm
  have same := (List.subperm_of_subset d.nodup_keys inside).perm_of_length_le lengths
  exact same.mem_iff.symm

theorem size_of_keys (d : Dict α) (e : Dict β) (same : ∀ k, k ∈ d.keys ↔ k ∈ e.keys) : d.size = e.size := by
  have permuted := (List.perm_ext_iff_of_nodup d.nodup_keys e.nodup_keys).mpr same
  simpa [keys,Dict.size] using permuted.length_eq

end Contents

section Lists

/-- The value that the list has last for the key. -/
def last? (l : List (Text × α)) (k : Text) : Option α :=
  ((l.filter fun e => e.1 == k).getLast?).map (·.2)

private theorem last_concat (l : List (Text × α)) (e : Text × α) (k : Text) :
    last? (l ++ [e]) k = if e.1 = k then some e.2 else last? l k := by
  unfold last?
  by_cases same : e.1 = k
  · simp [List.filter_append,same]
  · simp [List.filter_append,same]

theorem last_isSome_iff (l : List (Text × α)) (k : Text) : (∃ v, last? l k = some v) ↔ k ∈ l.map (·.1) := by
  induction l using List.reverseRecOn with
  | nil => simp [last?]
  | append_singleton l e ih =>
    rw [List.map_append,List.mem_append,← ih,last_concat]
    split
    next same => simp [same]
    next other => simp [Ne.symm other]

theorem get_ofList (l : List (Text × α)) (k : Text) : (ofList l).get? k = last? l k := by
  induction l using List.reverseRecOn with
  | nil => rfl
  | append_singleton l e ih =>
    have inserted : ofList (l ++ [e]) = (ofList l).insert e.1 e.2 := by
      simp [ofList,List.foldl_append]
    rw [inserted,get_insert,last_concat,ih]

theorem get_ofList_assigned (names : List Text) (σ : Text → α) (k : Text) :
    (ofList (names.map fun x => (x, σ x))).get? k = if k ∈ names then some (σ k) else none := by
  rw [get_ofList]
  induction names using List.reverseRecOn with
  | nil => rfl
  | append_singleton names x ih =>
    rw [List.map_append,List.map_singleton,last_concat,ih]
    by_cases same : x = k
    · simp [same]
    · simp [same,Ne.symm same]

theorem last_map (f : α → β) (l : List (Text × α)) (k : Text) :
    last? (l.map fun e => (e.1, f e.2)) k = (last? l k).map f := by
  simp [last?,List.filter_map,List.getLast?_map,Function.comp_def]

private theorem last_eq_some_iff_of_distinct (l : List (Text × α)) (distinct : (l.map (·.1)).Nodup) (k : Text)
    (v : α) : last? l k = some v ↔ (k, v) ∈ l := by
  induction l using List.reverseRecOn with
  | nil => simp [last?]
  | append_singleton l e ih =>
    rw [List.map_append,List.nodup_append] at distinct
    obtain ⟨earlier,_,apart⟩ := distinct
    rw [last_concat]
    split
    next same =>
      subst same
      have fresh : (e.1, v) ∉ l := fun member =>
        apart e.1 (List.mem_map.mpr ⟨_,member,rfl⟩) e.1 (by simp) rfl
      simp [fresh,Prod.ext_iff,eq_comm]
    next other =>
      have old : (k, v) ≠ e := fun same => other (by rw [← same])
      simp [ih earlier,old]

theorem ofList_perm (l m : List (Text × α)) (distinct : (l.map (·.1)).Nodup) (permuted : l.Perm m) :
    ofList l = ofList m := by
  apply eq_of_get
  intro k
  have distinct_too : (m.map (·.1)).Nodup := (permuted.map _).nodup_iff.mp distinct
  apply Option.ext
  intro v
  rw [get_ofList,get_ofList,last_eq_some_iff_of_distinct l distinct,last_eq_some_iff_of_distinct m distinct_too]
  exact permuted.mem_iff

end Lists

end CannedHttp.Dict
