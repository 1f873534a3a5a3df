import CannedHttp.Files.Disk
import CannedHttp.Proofs.Path
import CannedHttp.Proofs.Text.Trimming
import CannedHttp.Proofs.Text.Utf8
import Mathlib.Data.List.Nodup

/-!
The empty disk has one entry a place, and operations on a disk keep it so. The files of a directory are then
listed once each and in the order of their names, and a listed file is found again through the spelling that
the directory was given in.
-/
namespace CannedHttp.Disk

/-- One operation on a disk that succeeds. -/
inductive Change (d : Disk) : Disk → Prop where
  | directory (p : Path) (after : Disk) (made : d.makeDirectory p = .ok after) : Change d after
  | file (p : Path) (content : Bytes) (after : Disk) (written : d.write p content = .ok after) : Change d after
  | link (p target : Path) (after : Disk) (made : d.makeLink p target = .ok after) : Change d after
  | removal (p : Path) (after : Disk) (removed : d.remove p = .ok after) : Change d after

def Short (place : Place) : Prop :=
  ∀ n ∈ place, n.length ≤ nameLimit

/-- Every place has one entry, and no name is longer than a disk allows. -/
structure Sound (d : Disk) : Prop where
  distinct : (d.entries.map (·.1)).Nodup
  short : ∀ e ∈ d.entries, Short e.1
  near : Short d.current

section Entries
variable (d : Disk) (place : Place) (e : Entry)

theorem entry_set (nonempty : place ≠ []) (q : Place) :
    entry? (d.set place e) q = if q = place then some e else d.entry? q := by
  unfold entry? set
  by_cases same : q = place
  · subst same
    rw [if_neg nonempty,if_pos rfl,List.find?_cons_of_pos (by simp)]
    rfl
  · have apart : (place == q) = false := beq_eq_false_iff_ne.mpr (Ne.symm same)
    rw [if_neg same,List.find?_cons_of_neg (by simp [apart]),List.find?_filter]
    have kept (f : Place × Entry) : decide ((f.1 != place) = true ∧ (f.1 == q) = true) = (f.1 == q) := by
      by_cases here : f.1 = q
      · simp [here,same]
      · simp [here]
    simp only [kept]

theorem mem_entries_iff (sound : d.Sound) (nonempty : place ≠ []) :
    (place,e) ∈ d.entries ↔ d.entry? place = some e := by
  have distinct := sound.distinct
  unfold entry?
  rw [if_neg nonempty,Option.map_eq_some_iff]
  constructor
  · intro member
    refine ⟨(place,e),?_,rfl⟩
    generalize d.entries = entries at member distinct
    induction entries with
    | nil => simp at member
    | cons f entries ih =>
      rw [List.map_cons,List.nodup_cons] at distinct
      rcases List.mem_cons.mp member with rfl | later
      · simp
      · have apart : f.1 ≠ place := by
          intro same
          exact distinct.1 (same ▸ List.mem_map_of_mem later)
        rw [List.find?_cons_of_neg (by simpa using apart)]
        exact ih later distinct.2
  · intro ⟨f,found,same⟩
    have here : f.1 = place := by simpa using List.find?_some found
    obtain rfl : f = (place,e) := Prod.ext here same
    exact List.mem_of_find?_eq_some found

private theorem sound_set (sound : d.Sound) (short : Short place) : (d.set place e).Sound := by
  constructor
  · unfold set
    rw [List.map_cons,List.nodup_cons]
    constructor
    · simp
    · exact sound.distinct.sublist (List.filter_sublist.map _)
  · intro f member
    rcases List.mem_cons.mp member with rfl | later
    · exact short
    · exact sound.short f (List.mem_filter.mp later).1
  · exact sound.near

private theorem sound_clear (sound : d.Sound) : (d.clear place).Sound := by
  constructor
  · exact sound.distinct.sublist (List.filter_sublist.map _)
  · intro f member
    exact sound.short f (List.mem_filter.mp member).1
  · exact sound.near

end Entries

section Following

/-- A name that is looked up in a directory. -/
structure Proper (n : Bytes) : Prop where
  not_current : n ≠ [Path.dot]
  not_parent : n ≠ [Path.dot, Path.dot]
  fits : n.length ≤ nameLimit

/-- Following succeeds, one name at a time. -/
inductive Leads (d : Disk) (last : Bool) : Nat → Place → List Bytes → Place → Option Entry → Prop where
  | here (links : Nat) (start : Place) : Leads d last links start [] start (d.entry? start)
  | current (links : Nat) (start place : Place) (rest : List Bytes) (e : Option Entry)
      (inside : d.entry? start = some .directory) (later : Leads d last links start rest place e) :
      Leads d last links start ([Path.dot] :: rest) place e
  | parent (links : Nat) (start place : Place) (rest : List Bytes) (e : Option Entry)
      (inside : d.entry? start = some .directory) (later : Leads d last links start.dropLast rest place e) :
      Leads d last links start ([Path.dot,Path.dot] :: rest) place e
  | missing (links : Nat) (start : Place) (n : Bytes) (inside : d.entry? start = some .directory)
      (proper : Proper n) (absent : d.entry? (start ++ [n]) = none) :
      Leads d last links start [n] (start ++ [n]) none
  | link (links : Nat) (start : Place) (n : Bytes) (target : Path) (inside : d.entry? start = some .directory)
      (proper : Proper n) (linked : d.entry? (start ++ [n]) = some (.link target)) (kept : last = false) :
      Leads d last links start [n] (start ++ [n]) (some (.link target))
  | through (links : Nat) (start place : Place) (n : Bytes) (rest : List Bytes) (target : Path)
      (e : Option Entry) (inside : d.entry? start = some .directory) (proper : Proper n)
      (linked : d.entry? (start ++ [n]) = some (.link target)) (followed : (rest = [] && !last) = false)
      (later : Leads d last links (if target.head? = some Path.slash then [] else start)
        (names target ++ rest) place e) :
      Leads d last (links + 1) start (n :: rest) place e
  | next (links : Nat) (start place : Place) (n : Bytes) (rest : List Bytes) (found : Entry)
      (e : Option Entry) (inside : d.entry? start = some .directory) (proper : Proper n)
      (present : d.entry? (start ++ [n]) = some found) (no_link : ∀ target, found ≠ .link target)
      (later : Leads d last links (start ++ [n]) rest place e) :
      Leads d last links start (n :: rest) place e

variable (d : Disk) (last : Bool) (links : Nat) (start place : Place) (ns : List Bytes) (e : Option Entry)

theorem follow_eq_ok_iff :
    d.follow last links start ns = .ok (place,e) ↔ Leads d last links start ns place e := by
  constructor
  · intro followed
    fun_induction follow d last links start ns with
    | case1 links start =>
      obtain ⟨rfl,rfl⟩ := Prod.mk.inj (Except.ok.inj followed)
      exact .here links start
    | case2 links start rest inside ih => exact .current links start place rest e inside (ih followed)
    | case3 links start rest inside _ ih => exact .parent links start place rest e inside (ih followed)
    | case4 => contradiction
    | case5 links start n inside not_current not_parent fits absent =>
      obtain ⟨rfl,rfl⟩ := Prod.mk.inj (Except.ok.inj followed)
      exact .missing links start n inside ⟨not_current,not_parent,Nat.not_lt.mp fits⟩ absent
    | case6 => contradiction
    | case7 links start n rest inside not_current not_parent fits target linked stops =>
      obtain ⟨rfl,rfl⟩ := Prod.mk.inj (Except.ok.inj followed)
      rw [Bool.and_eq_true,decide_eq_true_eq,Bool.not_eq_true'] at stops
      obtain ⟨rfl,kept⟩ := stops
      exact .link links start n target inside ⟨not_current,not_parent,Nat.not_lt.mp fits⟩ linked kept
    | case8 => contradiction
    | case9 start n rest inside not_current not_parent fits target linked goes_on links ih =>
      exact .through links start place n rest target e inside ⟨not_current,not_parent,Nat.not_lt.mp fits⟩
        linked (eq_false_of_ne_true goes_on) (ih followed)
    | case10 links start n rest inside not_current not_parent fits found no_link present ih =>
      exact .next links start place n rest found e inside ⟨not_current,not_parent,Nat.not_lt.mp fits⟩
        present no_link (ih followed)
    | case11 => contradiction
  · intro leads
    induction leads with
    | here links start => rw [follow]
    | current links start place rest e inside later ih => simp [follow,inside,ih]
    | parent links start place rest e inside later ih => simp [follow,inside,ih,Path.dot]
    | missing links start n inside proper absent =>
      simp [follow,inside,proper.not_current,proper.not_parent,Nat.not_lt.mpr proper.fits,absent]
    | link links start n target inside proper linked kept =>
      simp [follow,inside,proper.not_current,proper.not_parent,Nat.not_lt.mpr proper.fits,linked,kept]
    | through links start place n rest target e inside proper linked followed later ih =>
      rw [follow,inside]
      simp [proper.not_current,proper.not_parent,Nat.not_lt.mpr proper.fits,linked,followed,ih]
    | next links start place n rest found e inside proper present no_link later ih =>
      rw [follow,inside]
      simp [proper.not_current,proper.not_parent,Nat.not_lt.mpr proper.fits,present,ih]

end Following

section Places
variable (d : Disk) (last : Bool) (links : Nat) (start place : Place) (ns : List Bytes) (e : Option Entry)

private theorem short_snoc (n : Bytes) (short : Short start) (proper : Proper n) : Short (start ++ [n]) := by
  intro m member
  rcases List.mem_append.mp member with inside | last
  · exact short m inside
  · obtain rfl := List.mem_singleton.mp last
    exact proper.fits

private theorem Leads.short (leads : Leads d last links start ns place e) (short : Short start) : Short place := by
  induction leads with
  | here => exact short
  | current links start place rest e inside later ih => exact ih short
  | parent links start place rest e inside later ih =>
    exact ih fun n member => short n (List.dropLast_subset start member)
  | missing links start n inside proper absent => exact short_snoc start n short proper
  | link links start n target inside proper linked kept => exact short_snoc start n short proper
  | through links start place n rest target e inside proper linked followed later ih =>
    apply ih
    split
    · simp [Short]
    · exact short
  | next links start place n rest found e inside proper present no_link later ih =>
    exact ih (short_snoc start n short proper)

/-- A single dot at the end does not matter after a directory. -/
private theorem Leads.without_dot (leads : Leads d true links start (ns ++ [[Path.dot]]) place (some .directory)) :
    Leads d true links start ns place (some .directory) := by
  generalize whole : ns ++ [[Path.dot]] = ms at leads
  generalize found : some Entry.directory = e at leads ⊢
  induction leads generalizing ns with
  | here => simp at whole
  | current links start place rest e inside later ih =>
    cases ns with
    | nil =>
      obtain rfl : rest = [] := by simpa using whole.symm
      exact later
    | cons m ns =>
      obtain ⟨rfl,rfl⟩ := List.cons.inj whole
      exact .current links start place ns e inside (ih ns rfl found)
  | parent links start place rest e inside later ih =>
    cases ns with
    | nil => simp [Path.dot] at whole
    | cons m ns =>
      obtain ⟨rfl,rfl⟩ := List.cons.inj whole
      exact .parent links start place ns e inside (ih ns rfl found)
  | missing => contradiction
  | link => simp at found
  | through links start place n rest target e inside proper linked followed later ih =>
    cases ns with
    | nil => exact absurd (List.cons.inj whole).1.symm proper.not_current
    | cons m ns =>
      obtain ⟨rfl,rfl⟩ := List.cons.inj whole
      exact .through links start place m ns target e inside proper linked (by simp)
        (ih (names target ++ ns) (by simp) found)
  | next links start place n rest other e inside proper present no_link later ih =>
    cases ns with
    | nil => exact absurd (List.cons.inj whole).1.symm proper.not_current
    | cons m ns =>
      obtain ⟨rfl,rfl⟩ := List.cons.inj whole
      exact .next links start place m ns other e inside proper present no_link (ih ns rfl found)

/-- A name after the way to a directory is looked up there. -/
private theorem Leads.snoc (leads : Leads d true links start ns place (some .directory)) (n : Bytes)
    (proper : Proper n) (no_link : ∀ target, d.entry? (place ++ [n]) ≠ some (.link target)) :
    Leads d last links start (ns ++ [n]) (place ++ [n]) (d.entry? (place ++ [n])) := by
  generalize found : some Entry.directory = e at leads
  induction leads with
  | here links start =>
    cases there : d.entry? (start ++ [n]) with
    | none => exact .missing links start n found.symm proper there
    | some other =>
      have ends : Leads d last links (start ++ [n]) [] (start ++ [n]) (d.entry? (start ++ [n])) := .here links _
      rw [there] at ends
      exact .next links start (start ++ [n]) n [] other _ found.symm proper there
        (fun target same => no_link target (same ▸ there)) ends
  | current links start place rest e inside later ih =>
    exact .current links start _ (rest ++ [n]) _ inside (ih no_link found)
  | parent links start place rest e inside later ih =>
    exact .parent links start _ (rest ++ [n]) _ inside (ih no_link found)
  | missing => contradiction
  | link => simp at found
  | through links start place m rest target e inside proper' linked followed later ih =>
    have onward := ih no_link found
    rw [List.append_assoc] at onward
    exact .through links start _ m _ target _ inside proper' linked (by simp) onward
  | next links start place m rest other e inside proper' present other_no_link later ih =>
    exact .next links start _ m (rest ++ [n]) other _ inside proper' present other_no_link (ih no_link found)

/-- What is at the place, if anything, is a file. -/
def Free (d : Disk) (place : Place) : Prop :=
  ∀ e, d.entry? place = some e → ∃ old, e = .file old

theorem free_of_absent (absent : d.entry? place = none) : d.Free place := by
  intro e found
  rw [absent] at found
  contradiction

/-- The directories and links of one disk are there on the other. -/
structure Keeps (d after : Disk) : Prop where
  current : after.current = d.current
  entries : ∀ q e, (∀ content, e ≠ .file content) → d.entry? q = some e → after.entry? q = some e

theorem keeps_set (entry : Entry) (nonempty : place ≠ []) (free : d.Free place) :
    d.Keeps (d.set place entry) := by
  constructor
  · rfl
  · intro q e no_file found
    have apart : q ≠ place := by
      rintro rfl
      obtain ⟨old,rfl⟩ := free e found
      exact no_file old rfl
    rw [entry_set d place _ nonempty,if_neg apart,found]

private theorem Leads.kept (after : Disk) (keeps : d.Keeps after)
    (leads : Leads d true links start ns place (some .directory)) :
    Leads after true links start ns place (some .directory) := by
  generalize found : some Entry.directory = e at leads ⊢
  have stays (q : Place) (inside : d.entry? q = some .directory) : after.entry? q = some .directory :=
    keeps.entries q .directory (by simp) inside
  induction leads with
  | here links start =>
    have same := stays start found.symm
    rw [← found,← same]
    exact .here links start
  | current links start place rest e inside later ih =>
    exact .current links start place rest e (stays start inside) (ih found)
  | parent links start place rest e inside later ih =>
    exact .parent links start place rest e (stays start inside) (ih found)
  | missing => contradiction
  | link => simp at found
  | through links start place n rest target e inside proper linked followed later ih =>
    exact .through links start place n rest target e (stays start inside) proper
      (keeps.entries _ _ (by simp) linked) followed (ih found)
  | next links start place n rest other e inside proper present no_link later ih =>
    cases other with
    | file content =>
      -- nothing is found behind a file, and the way does not end at one
      cases later <;> simp_all
    | directory =>
      exact .next links start place n rest .directory e (stays start inside) proper (stays _ present)
        (by simp) (ih found)
    | link target => exact absurd rfl (no_link target)

end Places

section Paths
variable (d : Disk) (p : Path) (place : Place)

theorem resolve_eq_ok_iff (last : Bool) (e : Option Entry) :
    d.resolve last p = .ok (place,e) ↔
      p ≠ [] ∧ Leads d last linkLimit (if p.head? = some Path.slash then [] else d.current) (names p) place e := by
  unfold resolve
  by_cases empty : p = []
  · simp [empty]
  · rw [if_neg empty,follow_eq_ok_iff]
    simp [empty]

private theorem short_of_resolve (sound : d.Sound) (last : Bool) (e : Option Entry)
    (resolved : d.resolve last p = .ok (place,e)) : Short place := by
  apply Leads.short _ _ _ _ _ _ _ ((d.resolve_eq_ok_iff p place last e).mp resolved).2
  split
  · simp [Short]
  · exact sound.near

private theorem sound_set_resolved (sound : d.Sound) (last : Bool) (found : Option Entry) (e : Entry)
    (resolved : d.resolve last p = .ok (place,found)) : (d.set place e).Sound :=
  sound_set d place e sound (short_of_resolve d p place sound last found resolved)

theorem lookup_eq_ok_iff (e : Entry) : d.lookup p = .ok (place,e) ↔ d.resolve true p = .ok (place,some e) := by
  unfold lookup
  split
  next other found resolved => simp [resolved]
  next resolved => simp [resolved]
  next resolved => simp [resolved]

theorem lookup_dot (working : d.entry? d.current = some .directory) :
    d.lookup [Path.dot] = .ok (d.current,.directory) := by
  rw [lookup_eq_ok_iff,resolve_eq_ok_iff,← working]
  constructor
  · simp
  · exact .current _ _ _ _ _ working (.here _ _)

theorem lookup_kept (after : Disk) (keeps : d.Keeps after) (there : d.lookup p = .ok (place,.directory)) :
    after.lookup p = .ok (place,.directory) := by
  rw [lookup_eq_ok_iff,resolve_eq_ok_iff] at there ⊢
  rw [keeps.current]
  exact ⟨there.1,there.2.kept d _ _ _ _ after keeps⟩

end Paths

section Making
variable (d after : Disk)

theorem sound_change (sound : d.Sound) (change : Change d after) : after.Sound := by
  cases change with
  | directory p _ made =>
    unfold makeDirectory at made
    split at made
    next =>
      obtain rfl := Except.ok.inj made
      exact sound
    next =>
      split at made
      next place resolved =>
        obtain rfl := Except.ok.inj made
        exact sound_set_resolved d _ place sound false none .directory resolved
      next => contradiction
      next => contradiction
  | file p content _ written =>
    unfold write at written
    split at written
    next => contradiction
    next place e _ resolved =>
      obtain rfl := Except.ok.inj written
      exact sound_set_resolved d p place sound true e (.file content) resolved
    next => contradiction
  | link p target _ made =>
    unfold makeLink at made
    split at made
    next => contradiction
    next =>
      split at made
      next place resolved =>
        obtain rfl := Except.ok.inj made
        exact sound_set_resolved d p place sound false none (.link target) resolved
      next => contradiction
      next => contradiction
  | removal p _ removed =>
    unfold remove at removed
    split at removed
    next => contradiction
    next place _ _ =>
      obtain rfl := Except.ok.inj removed
      exact sound_clear d place sound
    next => contradiction

theorem sound_empty : empty.Sound := by
  have near : Short empty.current := by
    unfold Short
    decide +kernel
  constructor
  · decide +kernel
  · intro e member
    rcases List.mem_pair.mp member with rfl | rfl
    · exact near
    · intro n inside
      exact near n (List.dropLast_subset _ inside)
  · exact near

end Making

section Sorting

private theorem mem_insertSorted (n m : Bytes) (ms : List Bytes) : m ∈ insertSorted n ms ↔ m = n ∨ m ∈ ms := by
  induction ms with
  | nil => simp [insertSorted]
  | cons k ms ih =>
    unfold insertSorted
    split
    · simp
    · simp [ih,or_left_comm]

private theorem mem_sorted (m : Bytes) (ns : List Bytes) : m ∈ sorted ns ↔ m ∈ ns := by
  induction ns with
  | nil => simp [sorted]
  | cons n ns ih =>
    change m ∈ insertSorted n (sorted ns) ↔ m ∈ n :: ns
    rw [mem_insertSorted,ih,List.mem_cons]

private theorem pairwise_insertSorted (n : Bytes) (ms : List Bytes) (fresh : n ∉ ms)
    (increasing : ms.Pairwise (· < ·)) : (insertSorted n ms).Pairwise (· < ·) := by
  induction ms with
  | nil => simp [insertSorted]
  | cons m ms ih =>
    obtain ⟨first,rest⟩ := List.pairwise_cons.mp increasing
    have apart : n ≠ m := List.ne_of_not_mem_cons fresh
    have absent : n ∉ ms := List.not_mem_of_not_mem_cons fresh
    unfold insertSorted
    split
    next smaller =>
      refine List.pairwise_cons.mpr ⟨?_,increasing⟩
      intro k member
      rcases List.mem_cons.mp member with rfl | later
      · exact smaller
      · exact List.lt_trans smaller (first k later)
    next not_smaller =>
      refine List.pairwise_cons.mpr ⟨?_,ih absent rest⟩
      intro k member
      rcases (mem_insertSorted n k ms).mp member with rfl | later
      · exact ((Std.lt_trichotomy k m).resolve_left not_smaller).resolve_left apart
      · exact first k later

private theorem pairwise_sorted (ns : List Bytes) (distinct : ns.Nodup) : (sorted ns).Pairwise (· < ·) := by
  induction ns with
  | nil => exact List.Pairwise.nil
  | cons n ns ih =>
    obtain ⟨fresh,rest⟩ := List.nodup_cons.mp distinct
    exact pairwise_insertSorted n (sorted ns) (mt (mem_sorted n ns).mp fresh) (ih rest)

end Sorting

section Listing
variable (d : Disk) (sound : d.Sound) (place : Place)

private theorem fileName_iff (f : Place × Entry) (n : Bytes) :
    (match f with
      | (p,.file _) => if p.dropLast = place then p.getLast? else none
      | _ => none) = some n ↔ ∃ content, f = (place ++ [n],.file content) := by
  obtain ⟨p,e⟩ := f
  cases e with
  | file content =>
    dsimp only
    rw [Option.ite_none_right_eq_some,List.getLast?_eq_some_iff]
    constructor
    · intro ⟨above,front,whole⟩
      subst whole
      rw [List.dropLast_concat] at above
      exact ⟨content,by rw [above]⟩
    · intro ⟨_,same⟩
      obtain ⟨rfl,_⟩ := Prod.mk.inj same
      exact ⟨List.dropLast_concat,place,rfl⟩
  | directory => simp
  | link target => simp

include sound

theorem mem_fileNames (n : Bytes) :
    n ∈ d.fileNames place ↔ ∃ content, d.entry? (place ++ [n]) = some (.file content) := by
  unfold fileNames
  rw [List.mem_filterMap]
  constructor
  · intro ⟨f,member,named⟩
    obtain ⟨content,rfl⟩ := (fileName_iff place f n).mp named
    exact ⟨content,(mem_entries_iff d _ _ sound (by simp)).mp member⟩
  · intro ⟨content,found⟩
    exact ⟨_,(mem_entries_iff d _ _ sound (by simp)).mpr found,(fileName_iff place _ n).mpr ⟨content,rfl⟩⟩

theorem nodup_fileNames : (d.fileNames place).Nodup := by
  have distinct := sound.distinct
  unfold fileNames
  unfold List.Nodup at distinct ⊢
  rw [List.pairwise_map] at distinct
  rw [List.pairwise_filterMap]
  apply distinct.imp
  intro f g apart n first k second same
  obtain ⟨_,rfl⟩ := (fileName_iff place f n).mp first
  obtain ⟨_,rfl⟩ := (fileName_iff place g k).mp second
  exact apart (by rw [same])

variable (g : Glob)

/-- The listed names are those of the files in the place that the pattern accepts, in order. -/
theorem names_listed :
    (sorted ((d.fileNames place).filter (FileReader.accepts g))).Pairwise (· < ·) ∧
      ∀ n, n ∈ sorted ((d.fileNames place).filter (FileReader.accepts g)) ↔
        (∃ content, d.entry? (place ++ [n]) = some (.file content)) ∧ FileReader.accepts g n = true := by
  constructor
  · exact pairwise_sorted _ ((nodup_fileNames d sound place).filter _)
  · intro n
    rw [mem_sorted,List.mem_filter,mem_fileNames d sound]

omit sound in
theorem listFiles_eq (directory : Path) (there : d.lookup directory = .ok (place,.directory)) :
    d.listFiles directory g =
      .ok ((sorted ((d.fileNames place).filter (FileReader.accepts g))).map directory.join) := by
  rw [listFiles,there]

end Listing

section Joining
variable (d : Disk) (directory : Path) (place : Place) (n : Bytes)

/-- The way to a name in a directory starts as the way to the directory, less a dot at the end. -/
private theorem names_join (fine : Path.Name n) :
    ∃ ns, names (directory.join n) = ns ++ [n] ∧ (names directory = ns ∨ names directory = ns ++ [[Path.dot]]) := by
  obtain ⟨pieces,joined,cut⟩ := Path.splitOn_join directory n fine.no_slash
  refine ⟨pieces.filter (!·.isEmpty),?_,?_⟩
  · unfold names
    simp [joined,fine.nonempty]
  · have filtered : (Text.splitOn Path.slash directory).filter (!·.isEmpty) = pieces.filter (!·.isEmpty) := by
      rcases cut with same | same <;> simp [same]
    unfold names
    dsimp only
    rw [filtered]
    split
    · exact .inr rfl
    · exact .inl (List.append_nil _)

theorem resolve_join (last : Bool) (there : d.lookup directory = .ok (place,.directory)) (fine : Path.Name n)
    (fits : n.length ≤ nameLimit) (no_link : ∀ target, d.entry? (place ++ [n]) ≠ some (.link target)) :
    d.resolve last (directory.join n) = .ok (place ++ [n],d.entry? (place ++ [n])) := by
  rw [lookup_eq_ok_iff,resolve_eq_ok_iff] at there
  obtain ⟨nonempty,leads⟩ := there
  obtain ⟨ns,joined,way⟩ := names_join directory n fine
  rw [resolve_eq_ok_iff,joined,Path.head_join directory n nonempty]
  have arrives : Leads d true linkLimit (if directory.head? = some Path.slash then [] else d.current) ns place
      (some .directory) := by
    rcases way with same | same
    · exact same ▸ leads
    · exact Leads.without_dot d _ _ _ ns (same ▸ leads)
  constructor
  · unfold Path.join
    split <;> simp [nonempty]
  · exact arrives.snoc d last _ _ _ ns n ⟨fine.not_current,fine.not_parent,fits⟩ no_link

theorem readText_join (sound : d.Sound) (there : d.lookup directory = .ok (place,.directory)) (fine : Path.Name n)
    (t : Text) (stored : d.entry? (place ++ [n]) = some (.file (Utf8.encode t))) :
    d.readText (directory.join n) = .ok t := by
  have fits : n.length ≤ nameLimit :=
    sound.short _ ((mem_entries_iff d _ _ sound (by simp)).mpr stored) n (by simp)
  have found : d.lookup (directory.join n) = .ok (place ++ [n],.file (Utf8.encode t)) := by
    rw [lookup_eq_ok_iff,resolve_join d directory place n true there fine fits (by simp [stored]),stored]
  have read : d.readBytes (directory.join n) = .ok (Utf8.encode t) := by rw [readBytes,found]
  unfold readText
  rw [read]
  simp only [bind,Except.bind,Utf8.decode_encode]

theorem write_join (there : d.lookup directory = .ok (place,.directory)) (fine : Path.Name n)
    (fits : n.length ≤ nameLimit) (free : d.Free (place ++ [n])) (content : Bytes) :
    d.write (directory.join n) content = .ok (d.set (place ++ [n]) (.file content)) := by
  have no_link (target : Path) : d.entry? (place ++ [n]) ≠ some (.link target) := by
    intro linked
    obtain ⟨old,same⟩ := free (.link target) linked
    contradiction
  rw [write,resolve_join d directory place n true there fine fits no_link]
  cases found : d.entry? (place ++ [n]) with
  | none => rfl
  | some e =>
    obtain ⟨old,rfl⟩ := free e found
    rfl

theorem makeDirectory_join (there : d.lookup directory = .ok (place,.directory)) (fine : Path.Name n)
    (fits : n.length ≤ nameLimit) (free : d.entry? (place ++ [n]) = none) :
    d.makeDirectory (directory.join n) = .ok (d.set (place ++ [n]) .directory) := by
  have resolved (last : Bool) : d.resolve last (directory.join n) = .ok (place ++ [n],none) := by
    rw [resolve_join d directory place n last there fine fits (by simp [free]),free]
  have absent : d.isDirectory (directory.join n) = false := by
    rw [isDirectory,lookup,resolved]
  have whole : Text.trimEndBy (· == Path.slash) (directory.join n) = directory.join n := by
    apply Text.trimEndBy_eq_self
    intro c last
    rw [Path.getLast_join directory n fine.nonempty] at last
    rw [beq_eq_false_iff_ne]
    rintro rfl
    exact fine.no_slash (List.mem_of_getLast? last)
  rw [makeDirectory,absent,whole,resolved]
  rfl

end Joining

end CannedHttp.Disk
