import CannedHttp.Text.Basic

/-!
A dictionary keeps one value for each key, in the order of the keys by code point. Inserting a key
that is present replaces its value.
-/
namespace CannedHttp

private theorem lt_of_not_lt_of_ne {k l : Text} (h : ¬ l < k) (hne : k ≠ l) : k < l := by
  rcases Std.lt_trichotomy k l with h' | h' | h'
  · exact h'
  · exact absurd h' hne
  · exact absurd h' h

namespace Dict

def insertEntry {α : Type} (k : Text) (v : α) : List (Text × α) → List (Text × α)
  | [] => [(k, v)]
  | e :: es =>
    if k = e.1 then (k, v) :: es
    else if k < e.1 then (k, v) :: e :: es
    else e :: insertEntry k v es

def Sorted {α : Type} (entries : List (Text × α)) : Prop :=
  entries.Pairwise fun a b => a.1 < b.1

theorem mem_insertEntry {α : Type} {k : Text} {v : α} {es : List (Text × α)} {e : Text × α}
    (h : e ∈ insertEntry k v es) : e = (k, v) ∨ e ∈ es := by
  induction es with
  | nil => simpa [insertEntry] using h
  | cons e' es ih =>
    unfold insertEntry at h
    split at h
    · rcases List.mem_cons.1 h with h | h
      · exact .inl h
      · exact .inr (List.mem_cons_of_mem _ h)
    · split at h
      · exact (List.mem_cons.1 h).imp id id
      · rcases List.mem_cons.1 h with h | h
        · exact .inr (h ▸ List.mem_cons_self)
        · exact (ih h).imp id (List.mem_cons_of_mem _)

theorem Sorted.insertEntry {α : Type} {es : List (Text × α)} (h : Sorted es) (k : Text) (v : α) :
    Sorted (insertEntry k v es) := by
  induction es with
  | nil => simp [Dict.insertEntry, Sorted]
  | cons e es ih =>
    obtain ⟨he, hes⟩ := List.pairwise_cons.1 h
    unfold Dict.insertEntry
    split
    · rename_i hk
      exact List.pairwise_cons.2 ⟨fun x hx => hk ▸ he x hx, hes⟩
    · rename_i hne
      split
      · rename_i hlt
        refine List.pairwise_cons.2 ⟨fun x hx => ?_, h⟩
        rcases List.mem_cons.1 hx with rfl | hx
        · exact hlt
        · exact List.lt_trans hlt (he x hx)
      · rename_i hlt
        refine List.pairwise_cons.2 ⟨fun x hx => ?_, ih hes⟩
        rcases mem_insertEntry hx with rfl | hx
        · exact lt_of_not_lt_of_ne hlt fun h => hne h.symm
        · exact he x hx

end Dict

structure Dict (α : Type) where
  entries : List (Text × α)
  sorted : Dict.Sorted entries
  deriving DecidableEq

namespace Dict
variable {α β : Type}

def empty : Dict α := ⟨[], List.Pairwise.nil⟩

instance : Inhabited (Dict α) := ⟨empty⟩

def insert (d : Dict α) (k : Text) (v : α) : Dict α :=
  ⟨insertEntry k v d.entries, d.sorted.insertEntry k v⟩

def get? (d : Dict α) (k : Text) : Option α :=
  (d.entries.find? fun e => e.1 == k).map (·.2)

def size (d : Dict α) : Nat := d.entries.length

def isEmpty (d : Dict α) : Bool := d.entries.isEmpty

def keys (d : Dict α) : List Text := d.entries.map (·.1)

def values (d : Dict α) : List α := d.entries.map (·.2)

/-- Later entries replace earlier ones of the same key. -/
def ofList (l : List (Text × α)) : Dict α :=
  l.foldl (fun d e => d.insert e.1 e.2) empty

def mapValues (f : α → β) (d : Dict α) : Dict β :=
  ⟨d.entries.map fun e => (e.1, f e.2), by simpa [Sorted, List.pairwise_map] using d.sorted⟩

end Dict
end CannedHttp
