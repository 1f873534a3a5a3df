import CannedHttp.Proofs.Dict
import CannedHttp.Proofs.Files.Disk
import CannedHttp.Proofs.Files.Memory
import CannedHttp.Proofs.Store.Population
import Mathlib.Data.List.Sort

/-!
Disks and files in memory hold the same folder if the files that lie directly in it are the same, whatever
there is elsewhere. Both then list the same names in the same order, and populating has the same outcome.
-/
namespace CannedHttp

private theorem FileReader.accepts_encode (g : Glob) (name : Text) :
    accepts g (Utf8.encode name) = g.accepts name := by
  rw [accepts,Utf8.decode_encode]
  rfl

/-- The files that lie directly in a directory, by name. -/
structure Folder where
  files : Dict Text
  named : ∀ name text, files.get? name = some text → Path.Name (Utf8.encode name)

namespace Folder

def empty : Folder :=
  ⟨.empty,by simp [Dict.empty,Dict.get?]⟩

def put (folder : Folder) (name text : Text) (fine : Path.Name (Utf8.encode name)) : Folder where
  files := folder.files.insert name text
  named := by
    intro other content found
    rw [Dict.get_insert] at found
    split at found
    next same => exact same ▸ fine
    next => exact folder.named other content found

def Has (folder : Folder) (n : Bytes) (text : Text) : Prop :=
  ∃ name, folder.files.get? name = some text ∧ n = Utf8.encode name

/-- The files of a folder whose names the pattern accepts, in the order of the names. -/
structure Accepted (folder : Folder) (g : Glob) (entries : List (Bytes × Text)) : Prop where
  increasing : entries.Pairwise fun e f => e.1 < f.1
  exactly : ∀ n text, (n,text) ∈ entries ↔ folder.Has n text ∧ FileReader.accepts g n = true

private theorem Accepted.unique (folder : Folder) (g : Glob) (entries others : List (Bytes × Text))
    (first : folder.Accepted g entries) (second : folder.Accepted g others) : entries = others := by
  apply Dict.eq_of_members (fun _ _ => List.lt_asymm) entries others first.increasing second.increasing
  intro e
  exact (first.exactly e.1 e.2).trans (second.exactly e.1 e.2).symm

private theorem Accepted.mem_names (folder : Folder) (g : Glob) (entries : List (Bytes × Text))
    (accepted : folder.Accepted g entries) (n : Bytes) :
    n ∈ entries.map (·.1) ↔
      ∃ name text, folder.files.get? name = some text ∧ g.accepts name = true ∧ n = Utf8.encode name := by
  rw [List.mem_map]
  constructor
  · intro ⟨e,member,same⟩
    obtain ⟨⟨name,found,named⟩,matching⟩ := (accepted.exactly e.1 e.2).mp member
    rw [named,FileReader.accepts_encode] at matching
    exact ⟨name,e.2,found,matching,same ▸ named⟩
  · intro ⟨name,text,found,matching,named⟩
    refine ⟨(n,text),(accepted.exactly n text).mpr ⟨⟨name,found,named⟩,?_⟩,rfl⟩
    rwa [named,FileReader.accepts_encode]

private theorem has_put (folder : Folder) (name text : Text) (fine : Path.Name (Utf8.encode name)) (n : Bytes)
    (t : Text) :
    (folder.put name text fine).Has n t ↔ if n = Utf8.encode name then t = text else folder.Has n t := by
  unfold Has put
  dsimp only
  by_cases same : n = Utf8.encode name
  · subst same
    simp only [Dict.get_insert,Utf8.encode_inj]
    simp [eq_comm]
  · rw [if_neg same]
    apply exists_congr
    intro other
    rw [Dict.get_insert]
    apply and_congr_left
    rintro rfl
    rw [if_neg (by rintro rfl; exact same rfl)]

end Folder

/-- The path leads to a place on the disk where the files of the folder are, and no others. -/
structure Disk.Stocked (d : Disk) (directory : Path) (place : Place) (folder : Folder) : Prop where
  sound : d.Sound
  there : d.lookup directory = .ok (place,.directory)
  holds : ∀ n content, d.entry? (place ++ [n]) = some (.file content) ↔
    ∃ text, folder.Has n text ∧ content = Utf8.encode text

theorem Disk.Stocked.present (d : Disk) (directory : Path) (place : Place) (folder : Folder)
    (stocked : d.Stocked directory place folder) : FileReader.directoryExists d directory = true := by
  change d.isDirectory directory = true
  rw [Disk.isDirectory,stocked.there]

/-- Of the files written to memory those of the folder are in the directory, and no others. -/
structure MemoryFiles.Stocked (m : MemoryFiles) (directory : Path) (folder : Folder) : Prop where
  written : ∃ writes, m = .ofList writes
  holds : ∀ n text, m.Holds directory n text ↔ folder.Has n text

section Placing
variable (directory : Path) (folder : Folder) (name text : Text) (fine : Path.Name (Utf8.encode name))

/-- A directory that was just made has the empty folder. -/
theorem Disk.Stocked.fresh (d : Disk) (above : Path) (place : Place) (n : Bytes) (sound : d.Sound)
    (there : d.lookup above = .ok (place,.directory)) (named : Path.Name n) (fits : n.length ≤ nameLimit)
    (free : d.entry? (place ++ [n]) = none)
    (bare : ∀ m content, d.entry? (place ++ [n,m]) ≠ some (.file content)) :
    d.makeDirectory (above.join n) = .ok (d.set (place ++ [n]) .directory) ∧
      (d.set (place ++ [n]) .directory).Stocked (above.join n) (place ++ [n]) .empty := by
  have done := makeDirectory_join d above place n there named fits free
  have apart : place ++ [n] ≠ [] := by simp
  have keeps := keeps_set d (place ++ [n]) .directory apart (free_of_absent d _ free)
  have here : entry? (d.set (place ++ [n]) .directory) (place ++ [n]) = some .directory := by
    rw [entry_set d _ _ apart,if_pos rfl]
  refine ⟨done,sound_change d _ sound (.directory _ _ done),?_,?_⟩
  · rw [lookup_eq_ok_iff]
    have resolved := resolve_join _ above place n true (lookup_kept d above place _ keeps there) named fits
      (by simp [here])
    rwa [here] at resolved
  · intro m content
    rw [entry_set d _ _ apart,if_neg (by simp)]
    simp [bare,Folder.Has,Folder.empty,Dict.empty,Dict.get?]

/-- Putting a file into the directory succeeds, and the folder has it from then on. -/
theorem Disk.Stocked.placed (d : Disk) (place : Place) (stocked : d.Stocked directory place folder)
    (fits : (Utf8.encode name).length ≤ nameLimit) (free : d.Free (place ++ [Utf8.encode name])) :
    d.write (directory.join (Utf8.encode name)) (Utf8.encode text) =
        .ok (d.set (place ++ [Utf8.encode name]) (.file (Utf8.encode text))) ∧
      (d.set (place ++ [Utf8.encode name]) (.file (Utf8.encode text))).Stocked directory place
        (folder.put name text fine) := by
  have written := write_join d directory place _ stocked.there fine fits free (Utf8.encode text)
  have apart : place ++ [Utf8.encode name] ≠ [] := by simp
  have keeps := keeps_set d _ (.file (Utf8.encode text)) apart free
  refine ⟨written,sound_change d _ stocked.sound (.file _ _ _ written),?_,?_⟩
  · exact lookup_kept d directory place _ keeps stocked.there
  · intro n content
    rw [entry_set d _ _ apart]
    by_cases same : n = Utf8.encode name
    · simp [same,Folder.has_put,eq_comm]
    · simp [same,Folder.has_put,stocked.holds]

/-- What else happens to the disk does not matter if it leaves directories, links and these files alone. -/
theorem Disk.Stocked.elsewhere (d after : Disk) (place : Place) (stocked : d.Stocked directory place folder)
    (change : Change d after) (keeps : d.Keeps after)
    (alone : ∀ n content, after.entry? (place ++ [n]) = some (.file content) ↔
      d.entry? (place ++ [n]) = some (.file content)) : after.Stocked directory place folder := by
  refine ⟨sound_change d after stocked.sound change,lookup_kept d directory place after keeps stocked.there,?_⟩
  intro n content
  rw [alone,stocked.holds]

theorem MemoryFiles.Stocked.fresh : MemoryFiles.empty.Stocked directory .empty :=
  ⟨⟨[],rfl⟩,by simp [Holds,empty,Folder.Has,Folder.empty,Dict.empty,Dict.get?]⟩

private theorem MemoryFiles.Stocked.wrote (m : MemoryFiles) (path : Path) (stocked : m.Stocked directory folder) :
    ∃ writes, m.write path text = .ofList writes := by
  obtain ⟨writes,rfl⟩ := stocked.written
  refine ⟨writes ++ [(path,text)],?_⟩
  unfold ofList
  rw [List.foldl_append]
  rfl

private theorem MemoryFiles.Stocked.plain (m : MemoryFiles) (stocked : m.Stocked directory folder) : m.Plain := by
  obtain ⟨writes,rfl⟩ := stocked.written
  exact plain_ofList writes

theorem MemoryFiles.Stocked.placed (m : MemoryFiles) (stocked : m.Stocked directory folder) :
    (m.write (directory.join (Utf8.encode name)) text).Stocked directory (folder.put name text fine) := by
  refine ⟨stocked.wrote directory folder text m _,?_⟩
  intro n t
  rw [holds_write _ _ m (stocked.plain directory folder m),Path.components_join directory _ fine,stocked.holds,
    Folder.has_put]
  simp [eq_comm]

theorem MemoryFiles.Stocked.elsewhere (m : MemoryFiles) (path : Path) (stocked : m.Stocked directory folder)
    (outside : directory.isIn path = false) : (m.write path text).Stocked directory folder := by
  refine ⟨stocked.wrote directory folder text m path,?_⟩
  intro n t
  have apart : path.components ≠ directory.components ++ [.normal n] := by
    intro same
    have inside := ((Path.isIn_and_fileName_iff directory n path).mpr same).1
    rw [outside] at inside
    contradiction
  rw [holds_write _ _ m (stocked.plain directory folder m),if_neg apart,stocked.holds]

end Placing

namespace Store

section Giving
variable {σ : Type} [FileReader σ] (read : List ReadFile) (entries : List (Bytes × Text))

/-- The files have these names and were read as the texts beside the names. -/
def ReadsAs : Prop :=
  read.map (fun f => (f.1.fileName?,f.2)) = entries.map fun e => (some e.1,.ok e.2)

/-- What the directory has for the pattern, as it is listed and read. -/
def Gives (files : σ) (directory : Path) (g : Glob) : Prop :=
  ∃ paths, FileReader.listFiles files directory g = .ok paths ∧ ReadsAs (readAll files paths) entries

private theorem paths_readAll (files : σ) (paths : List Path) : (readAll files paths).map (·.1) = paths := by
  induction paths generalizing files with
  | nil => rfl
  | cons path paths ih => rw [readAll,List.map_cons,ih]

private theorem names_of_gives (files : σ) (directory : Path) (g : Glob) (gives : Gives entries files directory g) :
    (FileReader.listFiles files directory g).map (List.map Path.fileName?) =
      .ok ((entries.map (·.1)).map some) := by
  obtain ⟨paths,listed,reads⟩ := gives
  have names : (readAll files paths).map (·.1.fileName?) = (entries.map (·.1)).map some := by
    simpa [ReadsAs,Function.comp_def] using congrArg (List.map Prod.fst) reads
  have same : (readAll files paths).map (·.1.fileName?) = paths.map Path.fileName? := by
    simpa [Function.comp_def] using congrArg (List.map Path.fileName?) (paths_readAll files paths)
  rw [listed,← names,same]
  rfl

private theorem parsed_of_reads (f : ReadFile) (e : Bytes × Text) (same : (f.1.fileName?,f.2) = (some e.1,.ok e.2)) :
    f.parsed = (Definition.routes (Utf8.decodeLossy e.1) e.2).mapError .format := by
  obtain ⟨name,text⟩ := Prod.mk.inj same
  rw [ReadFile.parsed,text]
  simp only [Path.label,name,Option.getD_some]

private theorem map_parsed_of_reads (reads : ReadsAs read entries) :
    read.map (·.parsed) = entries.map fun e => (Definition.routes (Utf8.decodeLossy e.1) e.2).mapError .format := by
  induction read generalizing entries with
  | nil =>
    obtain rfl : entries = [] := by simpa [ReadsAs] using reads.symm
    rfl
  | cons f read ih =>
    cases entries with
    | nil => simp [ReadsAs] at reads
    | cons e entries =>
      obtain ⟨first,rest⟩ := List.cons.inj reads
      rw [List.map_cons,List.map_cons,parsed_of_reads f e first,ih entries rest]

/-- What files do to the outcome is told by what they parse to. -/
private theorem collected_congr (skip : Bool) (others : List ReadFile)
    (same : read.map (·.parsed) = others.map (·.parsed)) : collected skip read = collected skip others := by
  have alike : read.findSome? (·.failure? skip) = others.findSome? (·.failure? skip) ∧
      read.flatMap (·.routes) = others.flatMap (·.routes) := by
    induction read generalizing others with
    | nil =>
      obtain rfl : others = [] := by simpa using same.symm
      simp
    | cons f read ih =>
      cases others with
      | nil => simp at same
      | cons g others =>
        obtain ⟨first,rest⟩ : f.parsed = g.parsed ∧ read.map (·.parsed) = others.map (·.parsed) :=
          List.cons.inj same
        obtain ⟨failures,routes⟩ := ih others rest
        have failure : f.failure? skip = g.failure? skip := by rw [ReadFile.failure?,ReadFile.failure?,first]
        have given : f.routes = g.routes := by rw [ReadFile.routes,ReadFile.routes,first]
        rw [List.findSome?_cons,List.findSome?_cons,List.flatMap_cons,List.flatMap_cons]
        rw [failure,failures,given,routes]
        exact ⟨rfl,rfl⟩
  unfold collected
  rw [alike.1,alike.2]

private theorem readable_of_reads (reads : ReadsAs read entries) (f : ReadFile) (member : f ∈ read) :
    f.readable = true := by
  have present : (f.1.fileName?,f.2) ∈ entries.map fun e => (some e.1,.ok e.2) := by
    rw [← reads]
    exact List.mem_map_of_mem member
  obtain ⟨e,_,same⟩ := List.mem_map.mp present
  rw [ReadFile.readable,← (Prod.mk.inj same).2]
  rfl

private theorem format_of_collected (skip : Bool) (readable : ∀ f ∈ read, f.readable = true) :
    (∃ routes, collected skip read = .ok routes) ∨ ∃ e, collected skip read = .error (.format e) := by
  unfold collected
  cases failed : read.findSome? (·.failure? skip) with
  | none => exact .inl ⟨_,rfl⟩
  | some e =>
    obtain ⟨f,member,failure⟩ := List.exists_of_findSome?_eq_some failed
    obtain ⟨malformed,rfl⟩ := format_of_readable f e (readable f member) (parsed_of_failure skip f e failure)
    exact .inr ⟨malformed,rfl⟩

/-- Populating is decided by the names and texts of the listed files. -/
private theorem populated_of_gives (c : Config.Routes) (g : Glob) (compiled : Glob.compile c.filePattern = .ok g)
    (files : σ) (gives : Gives entries files c.directory g)
    (there : entries ≠ [] → FileReader.directoryExists files c.directory = true) :
    ∃ read : List ReadFile, populated c files = collected c.skipInvalidFiles read ∧ ReadsAs read entries := by
  obtain ⟨paths,listed,reads⟩ := gives
  unfold populated reading
  cases present : FileReader.directoryExists files c.directory with
  | true => exact ⟨readAll files paths,by simp [compiled,listed],reads⟩
  | false =>
    have none_there : entries = [] := by
      apply Decidable.byContradiction
      intro some_there
      rw [there some_there] at present
      contradiction
    exact ⟨[],rfl,by simp [ReadsAs,none_there]⟩

end Giving

section Readers
variable (directory : Path) (folder : Folder) (g : Glob)

private theorem readAll_memory (m : MemoryFiles) (plain : m.Plain) (fs : List (Path × Text))
    (held : ∀ f ∈ fs, f ∈ m.files) :
    readAll m (fs.map (·.1)) = fs.map fun f => (f.1,.ok f.2) := by
  induction fs generalizing m with
  | nil => rfl
  | cons f fs ih =>
    have read : FileReader.readText m f.1 = (.ok f.2,{ m with reads := m.reads + 1 }) :=
      MemoryFiles.readText_file m plain f (held f List.mem_cons_self)
    have counted : MemoryFiles.Plain { m with reads := m.reads + 1 } :=
      ⟨plain.sorted,plain.allowed,plain.lasting,plain.listed⟩
    rw [List.map_cons,readAll,read,ih _ counted fun h member => held h (List.mem_cons_of_mem f member)]
    rfl

private theorem memory_gives (m : MemoryFiles) (stocked : m.Stocked directory folder) :
    ∃ entries, folder.Accepted g entries ∧ Gives entries m directory g ∧
      (entries ≠ [] → FileReader.directoryExists m directory = true) := by
  have plain := stocked.plain
  refine ⟨(m.accepted directory g).map fun f => (f.1.fileName?.getD [],f.2),⟨?_,?_⟩,?_,?_⟩
  · exact m.names_accepted plain directory g
  · intro n text
    rw [m.mem_names_accepted,stocked.holds]
  · refine ⟨_,m.listFiles_accepted plain directory g,?_⟩
    have held (f : Path × Text) (member : f ∈ m.accepted directory g) : f ∈ m.files :=
      (List.mem_filter.mp member).1
    rw [ReadsAs,readAll_memory m plain _ held,List.map_map,List.map_map]
    apply List.map_congr_left
    intro f member
    obtain ⟨n,named,_⟩ := m.components_of_accepted directory g f member
    simp [named]
  · intro some_there
    obtain ⟨f,member⟩ := List.exists_mem_of_ne_nil _ (mt List.map_eq_nil_iff.mpr some_there)
    obtain ⟨held,taken⟩ := List.mem_filter.mp member
    exact List.any_eq_true.mpr ⟨f,held,(Bool.and_eq_true_iff.mp taken).1⟩

private theorem readAll_disk (d : Disk) (place : Place) (stocked : d.Stocked directory place folder)
    (text : Bytes → Text) (names : List Bytes) (held : ∀ n ∈ names, folder.Has n (text n)) :
    readAll d (names.map directory.join) = names.map fun n => (directory.join n,.ok (text n)) := by
  induction names with
  | nil => rfl
  | cons n names ih =>
    have has := held n List.mem_cons_self
    obtain ⟨name,found,rfl⟩ := held n List.mem_cons_self
    have read : d.readText (directory.join (Utf8.encode name)) = .ok (text (Utf8.encode name)) :=
      Disk.readText_join d directory place _ stocked.sound stocked.there
        (folder.named name _ found) _ ((stocked.holds _ _).mpr ⟨_,has,rfl⟩)
    have answer : FileReader.readText d (directory.join (Utf8.encode name)) = (.ok (text (Utf8.encode name)),d) := by
      rw [← read]
      rfl
    rw [List.map_cons,readAll,answer,ih fun m member => held m (List.mem_cons_of_mem _ member)]
    rfl

private theorem disk_gives (d : Disk) (place : Place) (stocked : d.Stocked directory place folder) :
    ∃ entries, folder.Accepted g entries ∧ Gives entries d directory g := by
  let text (n : Bytes) : Text := (folder.files.get? (Utf8.decodeLossy n)).getD []
  have text_of_has (n : Bytes) (t : Text) (has : folder.Has n t) : text n = t := by
    obtain ⟨name,found,rfl⟩ := has
    simp [text,Utf8.decodeLossy_encode,found]
  obtain ⟨increasing,listed⟩ := d.names_listed stocked.sound place g
  have names := d.listFiles_eq place g directory stocked.there
  generalize Disk.sorted ((d.fileNames place).filter (FileReader.accepts g)) = ns at increasing listed names
  have held (n : Bytes) (member : n ∈ ns) : folder.Has n (text n) := by
    obtain ⟨content,stored⟩ := ((listed n).mp member).1
    obtain ⟨t,has,_⟩ := (stocked.holds n content).mp stored
    rwa [text_of_has n t has]
  refine ⟨ns.map fun n => (n,text n),⟨?_,?_⟩,ns.map directory.join,names,?_⟩
  · rw [List.pairwise_map]
    exact increasing
  · intro n t
    rw [List.mem_map]
    constructor
    · intro ⟨k,member,same⟩
      obtain ⟨rfl,rfl⟩ := Prod.mk.inj same
      exact ⟨held k member,((listed k).mp member).2⟩
    · intro ⟨has,matching⟩
      have stored := (stocked.holds n _).mpr ⟨t,has,rfl⟩
      exact ⟨n,(listed n).mpr ⟨⟨_,stored⟩,matching⟩,by rw [text_of_has n t has]⟩
  · rw [ReadsAs,readAll_disk directory folder d place stocked text ns held,List.map_map,List.map_map]
    apply List.map_congr_left
    intro n member
    obtain ⟨name,found,rfl⟩ := held n member
    simp [Path.fileName_join directory _ (folder.named name _ found)]

private theorem populated_of_stocked (d : Disk) (place : Place) (m : MemoryFiles)
    (on_disk : d.Stocked directory place folder) (in_memory : m.Stocked directory folder) (c : Config.Routes)
    (same_directory : c.directory = directory) (compiled : Glob.compile c.filePattern = .ok g) :
    populated c d = populated c m ∧
      ((∃ routes, populated c d = .ok routes) ∨ ∃ e, populated c d = .error (.format e)) := by
  obtain ⟨entries,accepted,from_disk⟩ := disk_gives directory folder g d place on_disk
  obtain ⟨others,accepted',from_memory,there⟩ := memory_gives directory folder g m in_memory
  obtain rfl := accepted.unique folder g entries others accepted'
  subst same_directory
  obtain ⟨read,outcome,reads⟩ := populated_of_gives entries c g compiled d from_disk fun _ => on_disk.present
  obtain ⟨read',outcome',reads'⟩ := populated_of_gives entries c g compiled m from_memory there
  have parsed : read.map (·.parsed) = read'.map (·.parsed) := by
    rw [map_parsed_of_reads read entries reads,map_parsed_of_reads read' entries reads']
  rw [outcome,outcome']
  exact ⟨collected_congr read c.skipInvalidFiles read' parsed,
    format_of_collected read c.skipInvalidFiles (readable_of_reads read entries reads)⟩

/-- A disk and files in memory that hold the same folder list the same names: those of its files that the
pattern accepts, each once and in the order of their bytes. Populating from either gives the same routes or
the same format error. -/
theorem readers_interchangeable (d : Disk) (place : Place) (m : MemoryFiles)
    (on_disk : d.Stocked directory place folder) (in_memory : m.Stocked directory folder) :
    (∃ names : List Bytes, names.Pairwise (· < ·) ∧
      (∀ n, n ∈ names ↔
        ∃ name text, folder.files.get? name = some text ∧ g.accepts name = true ∧ n = Utf8.encode name) ∧
      (FileReader.listFiles d directory g).map (List.map Path.fileName?) = .ok (names.map some) ∧
      (FileReader.listFiles m directory g).map (List.map Path.fileName?) = .ok (names.map some)) ∧
    ∀ c : Config.Routes, c.directory = directory → Glob.compile c.filePattern = .ok g →
      ∀ (w : World Disk) (v : World MemoryFiles), w.files = d → v.files = m →
        ((populate c).run w).1 = ((populate c).run v).1 ∧
        ((∃ routes, ((populate c).run w).1 = .ok routes) ∨ ∃ e, ((populate c).run w).1 = .error (.format e)) := by
  obtain ⟨entries,accepted,from_disk⟩ := disk_gives directory folder g d place on_disk
  obtain ⟨others,accepted',from_memory,_⟩ := memory_gives directory folder g m in_memory
  obtain rfl := accepted.unique folder g entries others accepted'
  constructor
  · refine ⟨entries.map (·.1),?_,accepted.mem_names folder g entries,?_,?_⟩
    · rw [List.pairwise_map]
      exact accepted.increasing
    · exact names_of_gives entries d directory g from_disk
    · exact names_of_gives entries m directory g from_memory
  · intro c same_directory compiled w v on_w on_v
    rw [run_populate,run_populate,on_w,on_v]
    exact populated_of_stocked directory folder g d place m on_disk in_memory c same_directory compiled

end Readers

section Pets

def petsName : Text :=
  "pets.http".toList

def ownersName : Text :=
  "Owners.http".toList

/-- A name that the pattern does not accept. -/
def memoName : Text :=
  "memo.txt".toList

def notesName : Bytes :=
  Utf8.encode "notes.http".toList

def shelfName : Bytes :=
  Utf8.encode "HttpFiles".toList

private theorem named_pets : Path.Name (Utf8.encode petsName) := by decide

private theorem named_owners : Path.Name (Utf8.encode ownersName) := by decide

private theorem named_memo : Path.Name (Utf8.encode memoName) := by decide

def onePetFolder : Folder :=
  Folder.empty.put petsName "GET /pets".toList named_pets

def petFolder : Folder :=
  (onePetFolder.put ownersName "GET /owners".toList named_owners).put memoName "feed them".toList named_memo

def shelf : Place :=
  Disk.empty.current ++ [shelfName]

/-- The directory with a file beside it. -/
def bareDisk : Disk :=
  (Disk.empty.set shelf .directory).set (Disk.empty.current ++ [notesName])
    (.file (Utf8.encode "GET /notes".toList))

def onePetDisk : Disk :=
  bareDisk.set (shelf ++ [Utf8.encode petsName]) (.file (Utf8.encode "GET /pets".toList))

def petDisk : Disk :=
  (onePetDisk.set (shelf ++ [Utf8.encode ownersName]) (.file (Utf8.encode "GET /owners".toList))).set
    (shelf ++ [Utf8.encode memoName]) (.file (Utf8.encode "feed them".toList))

def bareMemory : MemoryFiles :=
  MemoryFiles.empty.write notesName "GET /notes".toList

def onePetMemory : MemoryFiles :=
  bareMemory.write (Path.join Config.Routes.default.directory (Utf8.encode petsName)) "GET /pets".toList

def petMemory : MemoryFiles :=
  (onePetMemory.write (Path.join Config.Routes.default.directory (Utf8.encode ownersName))
    "GET /owners".toList).write
    (Path.join Config.Routes.default.directory (Utf8.encode memoName)) "feed them".toList

theorem bareDisk_stocked : bareDisk.Stocked Config.Routes.default.directory shelf .empty := by
  have here : Disk.empty.lookup [Path.dot] = .ok (Disk.empty.current,.directory) :=
    Disk.lookup_dot _ (by decide)
  have bare (m content : Bytes) :
      Disk.empty.entry? (Disk.empty.current ++ [shelfName,m]) ≠ some (.file content) := by
    have directories : ∀ e ∈ Disk.empty.entries, e.2 = .directory := by decide
    intro stored
    have member := (Disk.mem_entries_iff _ _ _ Disk.sound_empty (by simp)).mpr stored
    exact absurd (directories _ member) (by simp)
  have spelled : Path.join [Path.dot] shelfName = Config.Routes.default.directory := by decide
  have fresh : Disk.Stocked (Disk.empty.set shelf .directory) Config.Routes.default.directory shelf .empty := by
    rw [← spelled]
    exact (Disk.Stocked.fresh Disk.empty [Path.dot] Disk.empty.current shelfName Disk.sound_empty here
      (by decide) (by decide) (by decide) bare).2
  have free : Disk.Free (Disk.empty.set shelf .directory) (Disk.empty.current ++ [notesName]) :=
    Disk.free_of_absent _ _ (by decide)
  have written := Disk.write_join (Disk.empty.set shelf .directory) [Path.dot] Disk.empty.current notesName
    (Disk.lookup_dot _ (by decide)) (by decide) (by decide) free
  apply fresh.elsewhere _ _ _ _ _ (.file _ _ _ (written _)) (Disk.keeps_set _ _ _ (by simp) free)
  intro n content
  rw [Disk.entry_set _ _ _ (by simp),if_neg (by simp [shelf])]

theorem onePetDisk_stocked : onePetDisk.Stocked Config.Routes.default.directory shelf onePetFolder :=
  (bareDisk_stocked.placed _ _ petsName "GET /pets".toList named_pets _ _ (by decide)
    (Disk.free_of_absent _ _ (by decide))).2

theorem petDisk_stocked : petDisk.Stocked Config.Routes.default.directory shelf petFolder := by
  have owners := (onePetDisk_stocked.placed _ _ ownersName "GET /owners".toList named_owners _ _ (by decide)
    (Disk.free_of_absent _ _ (by decide))).2
  exact (owners.placed _ _ memoName "feed them".toList named_memo _ _ (by decide)
    (Disk.free_of_absent _ _ (by decide))).2

theorem onePetMemory_stocked : onePetMemory.Stocked Config.Routes.default.directory onePetFolder := by
  have bare := (MemoryFiles.Stocked.fresh Config.Routes.default.directory).elsewhere _ _ "GET /notes".toList _
    notesName (by decide)
  exact bare.placed _ _ petsName "GET /pets".toList named_pets

theorem petMemory_stocked : petMemory.Stocked Config.Routes.default.directory petFolder := by
  have owners := onePetMemory_stocked.placed _ _ ownersName "GET /owners".toList named_owners
  exact owners.placed _ _ memoName "feed them".toList named_memo

/-- Of the three files in the directory the pattern accepts two, and both are loaded from either. -/
theorem readers_interchangeable_pets :
    petDisk.Stocked Config.Routes.default.directory shelf petFolder ∧
    petMemory.Stocked Config.Routes.default.directory petFolder ∧
    petFolder.files.get? memoName = some "feed them".toList ∧
    ∃ g, Glob.compile Config.Routes.default.filePattern = .ok g ∧ g.accepts memoName = false ∧
      (FileReader.listFiles petDisk Config.Routes.default.directory g).map (List.map Path.fileName?) =
        .ok [some (Utf8.encode ownersName),some (Utf8.encode petsName)] ∧
      ((populate .default).run (.start petDisk)).1 = ((populate .default).run (.start petMemory)).1 := by
  have listed : ((Glob.compile Config.Routes.default.filePattern).toOption.any fun g =>
      !g.accepts memoName &&
        (FileReader.listFiles petMemory Config.Routes.default.directory g).map (List.map Path.fileName?) =
          .ok [some (Utf8.encode ownersName),some (Utf8.encode petsName)]) = true := by
    decide
  cases compiled : Glob.compile Config.Routes.default.filePattern with
  | error e =>
    rw [compiled] at listed
    contradiction
  | ok g =>
    rw [compiled] at listed
    obtain ⟨refused,in_memory⟩ := Bool.and_eq_true_iff.mp listed
    obtain ⟨⟨names,_,_,disk,memory⟩,populating⟩ :=
      readers_interchangeable _ _ g petDisk shelf petMemory petDisk_stocked petMemory_stocked
    refine ⟨petDisk_stocked,petMemory_stocked,by decide,g,rfl,(Bool.not_eq_true' _).mp refused,?_,?_⟩
    · rw [disk,← memory]
      exact of_decide_eq_true in_memory
    · exact (populating .default rfl compiled (.start petDisk) (.start petMemory) rfl rfl).1

private theorem populated_pets {folder : Folder} {d : Disk} {m : MemoryFiles} {count : Nat}
    (on_disk : d.Stocked Config.Routes.default.directory shelf folder)
    (in_memory : m.Stocked Config.Routes.default.directory folder)
    (loaded : (populated .default m).toOption.map List.length = some count) :
    ∃ routes, populated .default d = .ok routes ∧ routes.length = count := by
  obtain ⟨g,compiled⟩ : ∃ g, Glob.compile Config.Routes.default.filePattern = .ok g := ⟨_,rfl⟩
  rw [← (populated_of_stocked _ folder g d shelf m on_disk in_memory .default rfl compiled).1] at loaded
  cases outcome : populated .default d with
  | error e =>
    rw [outcome] at loaded
    contradiction
  | ok routes =>
    rw [outcome] at loaded
    exact ⟨routes,rfl,Option.some.inj loaded⟩

theorem populated_onePetDisk : ∃ routes, populated .default onePetDisk = .ok routes ∧ routes.length = 1 :=
  populated_pets onePetDisk_stocked onePetMemory_stocked (by decide)

theorem populated_petDisk : ∃ routes, populated .default petDisk = .ok routes ∧ routes.length = 2 :=
  populated_pets petDisk_stocked petMemory_stocked (by decide)

end Pets

end Store
end CannedHttp
