import CannedHttp.Files.Memory
import CannedHttp.Proofs.Path

/-!
Files in memory that were only written. They stay sorted by path with one file a path, so a directory is
listed by name, and every file reads as it was written last.
-/
namespace CannedHttp.MemoryFiles

/-- Some file of this name lies directly in the directory and has this content. -/
def Holds (m : MemoryFiles) (directory : Path) (n : Bytes) (content : Text) : Prop :=
  ∃ f ∈ m.files, f.1.components = directory.components ++ [.normal n] ∧ f.2 = content

def Sorted (files : List (Path × Text)) : Prop :=
  files.Pairwise fun f g => f.1.before g.1 = true

/-- Files of which none is marked to fail. -/
structure Plain (m : MemoryFiles) : Prop where
  sorted : Sorted m.files
  allowed : m.denied = []
  lasting : m.vanishing = []
  listed : m.listingDenied = false

section Writing
variable (path : Path) (content : Text)

private theorem path_of_mem_insertFile (files : List (Path × Text)) (f : Path × Text)
    (member : f ∈ insertFile path content files) : f.1 = path ∨ ∃ g ∈ files, g.1 = f.1 := by
  fun_induction insertFile path content files with
  | case1 => simp_all
  | case2 g gs same =>
    rcases List.mem_cons.mp member with rfl | later
    · exact .inr ⟨g,List.mem_cons_self,rfl⟩
    · exact .inr ⟨f,List.mem_cons_of_mem g later,rfl⟩
  | case3 g gs apart earlier =>
    rcases List.mem_cons.mp member with rfl | later
    · exact .inl rfl
    · exact .inr ⟨f,later,rfl⟩
  | case4 g gs apart later ih =>
    rcases List.mem_cons.mp member with rfl | inside
    · exact .inr ⟨f,List.mem_cons_self,rfl⟩
    · apply (ih inside).imp_right
      intro ⟨h,present,same⟩
      exact ⟨h,List.mem_cons_of_mem g present,same⟩

private theorem sorted_cons (f : Path × Text) (fs : List (Path × Text)) (earlier : path.before f.1 = true)
    (sorted : Sorted (f :: fs)) : Sorted ((path,content) :: f :: fs) := by
  refine List.pairwise_cons.mpr ⟨?_,sorted⟩
  intro g member
  rcases List.mem_cons.mp member with rfl | inside
  · exact earlier
  · exact Path.before_trans _ _ _ earlier ((List.pairwise_cons.mp sorted).1 g inside)

theorem sorted_insertFile (files : List (Path × Text)) (sorted : Sorted files) :
    Sorted (insertFile path content files) := by
  fun_induction insertFile path content files with
  | case1 => simp [Sorted]
  | case2 f fs same =>
    obtain ⟨first,rest⟩ := List.pairwise_cons.mp sorted
    exact List.pairwise_cons.mpr ⟨first,rest⟩
  | case3 f fs apart earlier => exact sorted_cons path content f fs earlier sorted
  | case4 f fs apart later ih =>
    obtain ⟨first,rest⟩ := List.pairwise_cons.mp sorted
    refine List.pairwise_cons.mpr ⟨?_,ih rest⟩
    intro g member
    rcases path_of_mem_insertFile path content fs g member with same | ⟨h,present,same⟩
    · rw [same]
      exact Path.before_of_not path f.1 (eq_false_of_ne_true apart) (eq_false_of_ne_true later)
    · rw [← same]
      exact first h present

/-- Writing a file is seen under its own components only. -/
theorem mem_insertFile (files : List (Path × Text)) (sorted : Sorted files) (cs : List Path.Component)
    (t : Text) :
    (∃ f ∈ insertFile path content files, f.1.components = cs ∧ f.2 = t) ↔
      if path.components = cs then content = t else ∃ f ∈ files, f.1.components = cs ∧ f.2 = t := by
  have after (f : Path × Text) (fs : List (Path × Text)) (here : f.1.components = cs)
      (later : ∀ g ∈ fs, f.1.before g.1 = true) : ¬ ∃ g ∈ fs, g.1.components = cs ∧ g.2 = t := by
    intro ⟨g,member,there,_⟩
    have apart := Path.before_same f.1 g.1 (here.trans there.symm)
    rw [later g member] at apart
    contradiction
  fun_induction insertFile path content files with
  | case1 => simp
  | case2 f fs same =>
    have equal : path.components = f.1.components := by simpa [Path.same] using same
    have later := (List.pairwise_cons.mp sorted).1
    by_cases here : path.components = cs
    · simp [here,equal ▸ here,after f fs (equal ▸ here) later]
    · simp [here,equal ▸ here]
  | case3 f fs apart earlier =>
    by_cases here : path.components = cs
    · have later := after (path,content) (f :: fs) here
        (List.pairwise_cons.mp (sorted_cons path content f fs earlier sorted)).1
      rw [List.exists_mem_cons_iff,if_pos here,or_iff_left later]
      simp [here]
    · simp [here]
  | case4 f fs apart later ih =>
    have rest := ih (List.pairwise_cons.mp sorted).2
    have other : path.components ≠ f.1.components := by simpa [Path.same] using apart
    by_cases here : path.components = cs
    · have elsewhere : f.1.components ≠ cs := here ▸ other.symm
      simp only [List.exists_mem_cons_iff,rest,here,if_pos,elsewhere,false_and,false_or]
    · simp only [List.exists_mem_cons_iff,rest,here,if_false]

private theorem plain_write (m : MemoryFiles) (plain : m.Plain) : (m.write path content).Plain :=
  ⟨sorted_insertFile path content m.files plain.sorted,plain.allowed,plain.lasting,plain.listed⟩

theorem holds_write (m : MemoryFiles) (plain : m.Plain) (directory : Path) (n : Bytes) (t : Text) :
    (m.write path content).Holds directory n t ↔
      if path.components = directory.components ++ [.normal n] then content = t else m.Holds directory n t :=
  mem_insertFile path content m.files plain.sorted _ t

end Writing

private theorem plain_empty : empty.Plain :=
  ⟨List.Pairwise.nil,rfl,rfl,rfl⟩

theorem plain_ofList (writes : List (Path × Text)) : (ofList writes).Plain := by
  have folded (m : MemoryFiles) (plain : m.Plain) : (writes.foldl (fun m f => m.write f.1 f.2) m).Plain := by
    induction writes generalizing m with
    | nil => exact plain
    | cons f writes ih => exact ih _ (plain_write f.1 f.2 m plain)
  exact folded empty plain_empty

section Listing
variable (m : MemoryFiles) (plain : m.Plain) (directory : Path) (g : Glob)

/-- The files of a directory whose names match the pattern. -/
def accepted : List (Path × Text) :=
  m.files.filter fun f => directory.isIn f.1 && f.1.fileName?.any (FileReader.accepts g)

include plain

theorem listFiles_accepted : m.listFiles directory g = .ok ((m.accepted directory g).map (·.1)) := by
  unfold listFiles accepted
  rw [plain.listed,List.filter_map]
  rfl

omit plain in
theorem components_of_accepted (f : Path × Text) (member : f ∈ m.accepted directory g) :
    ∃ n, f.1.fileName? = some n ∧ FileReader.accepts g n = true ∧
      f.1.components = directory.components ++ [.normal n] := by
  have taken := (List.mem_filter.mp member).2
  rw [Bool.and_eq_true,Option.any_eq_true] at taken
  obtain ⟨inside,n,named,matching⟩ := taken
  exact ⟨n,named,matching,(Path.isIn_and_fileName_iff directory n f.1).mp ⟨inside,named⟩⟩

theorem names_accepted :
    ((m.accepted directory g).map fun f => (f.1.fileName?.getD [],f.2)).Pairwise (·.1 < ·.1) := by
  rw [List.pairwise_map]
  apply (plain.sorted.filter _).imp_of_mem
  intro f h first second earlier
  obtain ⟨n,named,_,whole⟩ := components_of_accepted m directory g f first
  obtain ⟨k,named',_,whole'⟩ := components_of_accepted m directory g h second
  rw [named,named']
  exact (Path.before_siblings directory f.1 h.1 n k whole whole').mp earlier

omit plain in
theorem mem_names_accepted (n : Bytes) (content : Text) :
    (n,content) ∈ (m.accepted directory g).map (fun f => (f.1.fileName?.getD [],f.2)) ↔
      m.Holds directory n content ∧ FileReader.accepts g n = true := by
  rw [List.mem_map]
  constructor
  · intro ⟨f,member,same⟩
    obtain ⟨k,named,matching,whole⟩ := components_of_accepted m directory g f member
    obtain ⟨rfl,rfl⟩ := Prod.mk.inj same
    rw [named]
    exact ⟨⟨f,(List.mem_filter.mp member).1,whole,rfl⟩,matching⟩
  · intro ⟨⟨f,member,whole,text⟩,matching⟩
    obtain ⟨inside,named⟩ := (Path.isIn_and_fileName_iff directory n f.1).mpr whole
    refine ⟨f,List.mem_filter.mpr ⟨member,?_⟩,?_⟩
    · simp [inside,named,matching]
    · simp [named,text]

theorem readText_file (f : Path × Text) (member : f ∈ m.files) :
    m.readText f.1 = (.ok f.2,{ m with reads := m.reads + 1 }) := by
  have found : m.files.find? (fun h => f.1.same h.1) = some f := by
    have sorted := plain.sorted
    generalize m.files = files at member sorted
    induction files with
    | nil => simp at member
    | cons h files ih =>
      obtain ⟨first,rest⟩ := List.pairwise_cons.mp sorted
      rcases List.mem_cons.mp member with rfl | later
      · simp [Path.same]
      · have apart : f.1.same h.1 = false := by
          rw [Path.same,beq_eq_false_iff_ne]
          intro same
          simpa [first f later] using Path.before_same h.1 f.1 same.symm
        rw [List.find?_cons_of_neg (by simp [apart]),ih later rest]
  simp [readText,plain.allowed,plain.lasting,isMarked,found]

end Listing

end CannedHttp.MemoryFiles
