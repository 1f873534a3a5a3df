import CannedHttp.World

/-!
Definition files held in memory, sorted by path. A directory exists when some file lies in it. Files
and the listing can be made to fail, and every read is counted.
-/
namespace CannedHttp

structure MemoryFiles where
  files : List (Path × Text)
  denied : List Path
  vanishing : List Path
  listingDenied : Bool
  reads : Nat

namespace MemoryFiles

def empty : MemoryFiles := ⟨[], [], [], false, 0⟩

/-- Put a file in its place by path; of equal paths the first spelling stays. -/
def insertFile (path : Path) (content : Text) : List (Path × Text) → List (Path × Text)
  | [] => [(path, content)]
  | f :: fs =>
    if path.same f.1 then (f.1, content) :: fs
    else if path.before f.1 then (path, content) :: f :: fs
    else f :: insertFile path content fs

def write (m : MemoryFiles) (path : Path) (content : Text) : MemoryFiles :=
  { m with files := insertFile path content m.files }

def contains (m : MemoryFiles) (path : Path) : Bool :=
  m.files.any fun f => path.same f.1

def removeFile (m : MemoryFiles) (path : Path) : MemoryFiles :=
  { m with files := m.files.filter fun f => !path.same f.1 }

def ofList (files : List (Path × Text)) : MemoryFiles :=
  files.foldl (fun m f => m.write f.1 f.2) empty

def isMarked (marks : List Path) (path : Path) : Bool :=
  marks.any path.same

def unmark (marks : List Path) (path : Path) : List Path :=
  marks.filter fun p => !path.same p

def deny (m : MemoryFiles) (path : Path) : MemoryFiles :=
  if isMarked m.denied path then m else { m with denied := path :: m.denied }

def allow (m : MemoryFiles) (path : Path) : MemoryFiles :=
  { m with denied := unmark m.denied path }

def vanish (m : MemoryFiles) (path : Path) : MemoryFiles :=
  if isMarked m.vanishing path then m else { m with vanishing := path :: m.vanishing }

def directoryExists (m : MemoryFiles) (path : Path) : Bool :=
  m.files.any fun f => path.isIn f.1

def listFiles (m : MemoryFiles) (directory : Path) (g : Glob) : Except IoError (List Path) :=
  if m.listingDenied then .error .denied
  else
    .ok ((m.files.map (·.1)).filter fun p =>
      directory.isIn p && p.fileName?.any (FileReader.accepts g))

/-- Read a file. A file marked to vanish is gone when it is read. -/
def readText (m : MemoryFiles) (path : Path) : Except IoError Text × MemoryFiles :=
  let m := { m with reads := m.reads + 1 }
  if isMarked m.denied path then (.error .denied, m)
  else if isMarked m.vanishing path then
    (.error (.vanished path), { m.removeFile path with vanishing := unmark m.vanishing path })
  else
    match m.files.find? fun f => path.same f.1 with
    | some f => (.ok f.2, m)
    | none => (.error (.vanished path), m)

instance : FileReader MemoryFiles where
  directoryExists := directoryExists
  fileExists := contains
  listFiles := listFiles
  readText := readText

end MemoryFiles
end CannedHttp
