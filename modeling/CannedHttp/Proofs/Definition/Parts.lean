import CannedHttp.Definition
import CannedHttp.Proofs.Text.Splitting

/-!
The parts of a definition file. Separators cut its lines into them, so every line of a part is a line of the
file, and none is a separator.
-/
namespace CannedHttp.Definition

theorem text_numberedFrom (n : Nat) (ts : List Text) : (Line.numberedFrom n ts).map Line.text = ts := by
  induction ts generalizing n with
  | nil => rfl
  | cons t ts ih => rw [Line.numberedFrom,List.map_cons,ih]

theorem text_mem_of_mem_numberedFrom (n : Nat) (ts : List Text) (l : Line)
    (member : l ∈ Line.numberedFrom n ts) : l.text ∈ ts := by
  have image := List.mem_map_of_mem (f := Line.text) member
  rwa [text_numberedFrom] at image

theorem numberedFrom_append (n : Nat) (before after : List Text) :
    Line.numberedFrom n (before ++ after) =
      Line.numberedFrom n before ++ Line.numberedFrom (n + before.length) after := by
  induction before generalizing n with
  | nil => rfl
  | cons t before ih =>
    simp only [List.cons_append,Line.numberedFrom,ih,List.length_cons]
    rw [Nat.add_right_comm,Nat.add_assoc]

theorem parts_eq_library (ls : List Line) :
    parts ls = ls.splitOnP fun l => Line.isSeparator l.text := by
  induction ls with
  | nil => rfl
  | cons l ls ih =>
    rw [parts,List.splitOnP_cons_eq_if_modifyHead,ih]
    obtain ⟨part,rest,cut⟩ := List.exists_cons_of_ne_nil
      (List.splitOnP_ne_nil (fun l => Line.isSeparator l.text) ls)
    rw [cut]
    rfl

theorem parts_append_separator (part rest : List Line) (separator : Line)
    (inner : ∀ l ∈ part, Line.isSeparator l.text = false)
    (ends : Line.isSeparator separator.text = true) :
    parts (part ++ separator :: rest) = part :: parts rest := by
  rw [parts_eq_library,parts_eq_library]
  exact List.splitOnP_append_cons_of_forall_mem inner separator ends rest

theorem parts_of_no_separator (ls : List Line) (inner : ∀ l ∈ ls, Line.isSeparator l.text = false) :
    parts ls = [ls] := by
  rw [parts_eq_library]
  exact List.splitOnP_eq_singleton inner

theorem parts_append_inner (part ls : List Line) (inner : ∀ l ∈ part, Line.isSeparator l.text = false) :
    ∃ first rest, parts ls = first :: rest ∧ parts (part ++ ls) = (part ++ first) :: rest := by
  obtain ⟨first,rest,cut⟩ : ∃ first rest, parts ls = first :: rest :=
    List.exists_cons_of_ne_nil (parts_eq_library ls ▸ List.splitOnP_ne_nil _ ls)
  refine ⟨first,rest,cut,?_⟩
  induction part with
  | nil => exact cut
  | cons l part ih =>
    have later := ih fun m member => inner m (List.mem_cons_of_mem l member)
    simp [parts,inner l List.mem_cons_self,later]

theorem mem_of_mem_parts (ls part : List Line) (member : part ∈ parts ls) :
    ∀ l ∈ part, l ∈ ls ∧ Line.isSeparator l.text = false := by
  rw [parts_eq_library] at member
  exact Text.forall_mem_splitOnP _ ls part member

end CannedHttp.Definition
