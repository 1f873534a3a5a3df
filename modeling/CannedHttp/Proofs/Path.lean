import CannedHttp.Path
import CannedHttp.Proofs.Text.Splitting
import Mathlib.Data.List.Lex

/-!
Paths by their components. Joining a name to a directory adds one component, and the paths that lie in
a directory are the ones with one component more; among these the order is that of the names.
-/
namespace CannedHttp.Path

/-- A name that a path component can have: it is no dots and holds no slash. -/
structure Name (n : Bytes) : Prop where
  nonempty : n ≠ []
  not_current : n ≠ [dot]
  not_parent : n ≠ [dot, dot]
  no_slash : slash ∉ n

instance (n : Bytes) : Decidable (Name n) :=
  decidable_of_iff (n ≠ [] ∧ n ≠ [dot] ∧ n ≠ [dot, dot] ∧ slash ∉ n)
    ⟨fun ⟨nonempty,not_current,not_parent,no_slash⟩ => ⟨nonempty,not_current,not_parent,no_slash⟩,
      fun fine => ⟨fine.nonempty,fine.not_current,fine.not_parent,fine.no_slash⟩⟩

section Pieces

private theorem splitOn_name (n : Bytes) (no_slash : slash ∉ n) : Text.splitOn slash n = [n] := by
  simpa using Text.splitOn_intercalate slash [n] (by simp) (by simpa using no_slash)

private theorem splitOn_slash (before after : Bytes) :
    Text.splitOn slash (before ++ slash :: after) =
      Text.splitOn slash before ++ Text.splitOn slash after := by
  simp only [Text.splitOn_eq_library,List.splitOn_eq_splitOnP]
  exact List.splitOnP_append_cons before after (by simp)

/-- The pieces of a joined path are those of the directory, without the empty one after a last slash,
and the name. -/
theorem splitOn_join (directory : Path) (n : Bytes) (no_slash : slash ∉ n) :
    ∃ pieces, Text.splitOn slash (directory.join n) = pieces ++ [n] ∧
      (Text.splitOn slash directory = pieces ∨ Text.splitOn slash directory = pieces ++ [[]]) := by
  have alone : Text.splitOn slash n = [n] := splitOn_name n no_slash
  unfold join
  split
  next closed =>
    rw [Bool.or_eq_true,decide_eq_true_eq,decide_eq_true_eq] at closed
    rcases closed with rfl | last
    · exact ⟨[],alone,.inr rfl⟩
    · obtain ⟨front,rfl⟩ := List.getLast?_eq_some_iff.mp last
      refine ⟨Text.splitOn slash front,?_,.inr (splitOn_slash front [])⟩
      rw [List.append_assoc,List.singleton_append,splitOn_slash,alone]
  next => exact ⟨Text.splitOn slash directory,by rw [splitOn_slash,alone],.inl rfl⟩

private theorem component_name (n : Bytes) (fine : Name n) : component? n = some (.normal n) := by
  simp [component?,fine.nonempty,fine.not_current,fine.not_parent]

end Pieces

section Joining
variable (directory : Path) (n : Bytes)

theorem head_join (nonempty : directory ≠ []) : (directory.join n).head? = directory.head? := by
  obtain ⟨b,bs,rfl⟩ := List.exists_cons_of_ne_nil nonempty
  unfold join
  split <;> rfl

theorem getLast_join (nonempty : n ≠ []) : (directory.join n).getLast? = n.getLast? := by
  have last (front : Bytes) : (front ++ n).getLast? = n.getLast? := List.getLast?_append_of_ne_nil front nonempty
  unfold join
  split
  · exact last directory
  · simpa using last (directory ++ [slash])

theorem components_join (fine : Name n) :
    components (directory.join n) = components directory ++ [.normal n] := by
  obtain ⟨pieces,joined,cut⟩ := splitOn_join directory n fine.no_slash
  have rest : (Text.splitOn slash (directory.join n)).filterMap component? =
      (Text.splitOn slash directory).filterMap component? ++ [.normal n] := by
    have empty : component? [] = none := rfl
    rw [joined,List.filterMap_append]
    rcases cut with same | same <;> simp [same,component_name n fine,empty]
  have rooted : (directory.join n).head? = some slash ↔ directory.head? = some slash := by
    by_cases empty : directory = []
    · subst empty
      constructor
      · intro head
        exact absurd (List.mem_of_head? head) fine.no_slash
      · simp
    · rw [head_join directory n empty]
  have dotted : (Text.splitOn slash (directory.join n)).head? = some [dot] ↔
      (Text.splitOn slash directory).head? = some [dot] := by
    rw [joined]
    cases pieces with
    | nil => rcases cut with same | same <;> simp [same,fine.not_current]
    | cons piece pieces => rcases cut with same | same <;> simp [same]
  unfold components
  simp only [rest,rooted,dotted]
  split
  · rfl
  · split <;> rfl

theorem fileName_eq_some_iff (p : Path) : p.fileName? = some n ↔ ∃ front, components p = front ++ [.normal n] := by
  rw [← List.getLast?_eq_some_iff]
  unfold fileName?
  split
  next name last => simp [last]
  next last =>
    constructor
    · intro absent
      contradiction
    · intro present
      exact absurd present (last n)

private theorem parent_of_concat (p : Path) (front : List Component) (whole : components p = front ++ [.normal n]) :
    parent? p = some front := by
  unfold parent?
  rw [whole]
  split
  next none_left => simp at none_left
  next root => simp [List.append_eq_singleton_iff] at root
  next => rw [List.dropLast_concat]

/-- The paths with a name directly in a directory. -/
theorem isIn_and_fileName_iff (p : Path) :
    directory.isIn p = true ∧ p.fileName? = some n ↔ components p = components directory ++ [.normal n] := by
  rw [fileName_eq_some_iff,isIn,beq_iff_eq]
  constructor
  · intro ⟨inside,front,whole⟩
    rw [parent_of_concat n p front whole] at inside
    rw [whole,Option.some.inj inside]
  · intro whole
    exact ⟨parent_of_concat n p _ whole,_,whole⟩

theorem fileName_join (fine : Name n) : (directory.join n).fileName? = some n :=
  ((isIn_and_fileName_iff directory n _).mpr (components_join directory n fine)).2

end Joining

section Order

theorem Component.before_iff (a b : Component) :
    a.before b = true ↔ a.rank < b.rank ∨ a.rank = b.rank ∧ a.name < b.name := by
  simp [Component.before]

private theorem Component.before_trans (a b c : Component) (first : a.before b = true) (second : b.before c = true) :
    a.before c = true := by
  rw [before_iff] at first second ⊢
  rcases first with lower | ⟨level,smaller⟩
  · rcases second with lower' | ⟨level',_⟩
    · exact .inl (lower.trans lower')
    · exact .inl (level' ▸ lower)
  · rcases second with lower' | ⟨level',smaller'⟩
    · exact .inl (level ▸ lower')
    · exact .inr ⟨level.trans level',List.lt_trans smaller smaller'⟩

private theorem Component.before_self (a : Component) : a.before a = false := by
  simp [before,List.lt_irrefl]

instance : Std.Trichotomous fun a b : Component => a.before b = true := by
  constructor
  intro a b first second
  rw [Component.before_iff] at first second
  have level : a.rank = b.rank := by omega
  have name : a.name = b.name := by
    rcases Std.lt_trichotomy a.name b.name with smaller | same | larger
    · exact absurd (.inr ⟨level,smaller⟩) first
    · exact same
    · exact absurd (.inr ⟨level.symm,larger⟩) second
  cases a <;> cases b <;> simp_all [Component.rank,Component.name]

private theorem componentsBefore_iff (cs ds : List Component) :
    componentsBefore cs ds = true ↔ List.Lex (fun a b => a.before b = true) cs ds := by
  fun_induction componentsBefore cs ds with
  | case1 => simp
  | case2 => simp
  | case3 => simp
  | case4 a as b bs ih => simp [List.cons_lex_cons_iff,ih]

theorem before_trans (p q r : Path) (first : p.before q = true) (second : q.before r = true) :
    p.before r = true := by
  unfold before at first second ⊢
  rw [componentsBefore_iff] at first second ⊢
  exact List.lex_trans (Component.before_trans _ _ _) first second

theorem before_of_not (p q : Path) (apart : p.same q = false) (later : p.before q = false) :
    q.before p = true := by
  unfold same at apart
  unfold before at later ⊢
  rw [Bool.eq_false_iff,Ne,componentsBefore_iff] at later
  rw [beq_eq_false_iff_ne] at apart
  rw [componentsBefore_iff]
  apply Decidable.byContradiction
  intro earlier
  exact apart (Std.Trichotomous.trichotomous _ _ later earlier)

private theorem componentsBefore_append (front cs ds : List Component) :
    componentsBefore (front ++ cs) (front ++ ds) = componentsBefore cs ds := by
  induction front with
  | nil => rfl
  | cons a front ih => simp [componentsBefore,Component.before_self,ih]

theorem before_same (p q : Path) (same : components p = components q) : p.before q = false := by
  unfold before
  rw [same]
  simpa [componentsBefore] using componentsBefore_append (components q) [] []

/-- Among the paths in one directory the order is that of the names. -/
theorem before_siblings (directory p q : Path) (m n : Bytes)
    (first : components p = components directory ++ [.normal m])
    (second : components q = components directory ++ [.normal n]) : p.before q = true ↔ m < n := by
  unfold before
  rw [first,second,componentsBefore_append]
  simp [componentsBefore,Component.before_iff,Component.rank,Component.name]

end Order

end CannedHttp.Path
