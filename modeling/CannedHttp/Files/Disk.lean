import CannedHttp.World

/-!
Files on a disk: directories, files and symbolic links, named by the path from the root. Paths are
followed as a file system does, through links and double dots.
-/
namespace CannedHttp

/-- A place on the disk: the names that lead to it from the root. -/
abbrev Place := List Bytes

namespace Disk

inductive Entry where
  | file (content : Bytes)
  | directory
  | link (target : Path)
  deriving DecidableEq

end Disk

structure Disk where
  entries : List (Place × Disk.Entry)
  current : Place

namespace Disk

def empty : Disk :=
  let current : Place := [Utf8.encode "tmp".toList, Utf8.encode "work".toList]
  ⟨[(current, .directory), (current.dropLast, .directory)], current⟩

def entry? (d : Disk) (place : Place) : Option Entry :=
  if place = [] then some .directory
  else (d.entries.find? (·.1 == place)).map (·.2)

def set (d : Disk) (place : Place) (e : Entry) : Disk :=
  { d with entries := (place, e) :: d.entries.filter (·.1 != place) }

def clear (d : Disk) (place : Place) : Disk :=
  { d with entries := d.entries.filter fun e => !place.isPrefixOf e.1 }

/-- How many links may be followed on one path. -/
def linkLimit : Nat := 40

def nameLimit : Nat := 255

/-- The names on a path. A slash at the end asks for a directory, as a single dot does. -/
def names (p : Path) : List Bytes :=
  let pieces := Text.splitOn Path.slash p
  pieces.filter (!·.isEmpty) ++ if pieces.getLast? = some [] then [[Path.dot]] else []

/-- Follow names from a place, and tell what is at the end. Only the last name may be missing. A
link in the last place is followed only on demand. -/
def follow (d : Disk) (last : Bool) (links : Nat) (at' : Place) (ns : List Bytes) :
    Except SystemError (Place × Option Entry) :=
  match ns with
  | [] => .ok (at', d.entry? at')
  | n :: rest =>
    match d.entry? at' with
    | some .directory =>
      if n = [Path.dot] then follow d last links at' rest
      else if n = [Path.dot, Path.dot] then follow d last links at'.dropLast rest
      else if nameLimit < n.length then .error .nameTooLong
      else
        match d.entry? (at' ++ [n]) with
        | none => if rest = [] then .ok (at' ++ [n], none) else .error .notFound
        | some (.link target) =>
          if rest = [] && !last then .ok (at' ++ [n], some (.link target))
          else
            match links with
            | 0 => .error .tooManyLinks
            | links + 1 =>
              follow d last links (if target.head? = some Path.slash then [] else at')
                (names target ++ rest)
        | some _ => follow d last links (at' ++ [n]) rest
    | _ => .error .notADirectory
termination_by (links, ns.length)

/-- Where a path leads. The empty path leads nowhere. -/
def resolve (d : Disk) (last : Bool) (p : Path) : Except SystemError (Place × Option Entry) :=
  if p = [] then .error .notFound
  else follow d last linkLimit (if p.head? = some Path.slash then [] else d.current) (names p)

def lookup (d : Disk) (p : Path) : Except SystemError (Place × Entry) :=
  match d.resolve true p with
  | .ok (place, some e) => .ok (place, e)
  | .ok (_, none) => .error .notFound
  | .error e => .error e

def isDirectory (d : Disk) (p : Path) : Bool :=
  match d.lookup p with
  | .ok (_, .directory) => true
  | _ => false

def isFile (d : Disk) (p : Path) : Bool :=
  match d.lookup p with
  | .ok (_, .file _) => true
  | _ => false

def fileNames (d : Disk) (place : Place) : List Bytes :=
  d.entries.filterMap fun
    | (p, .file _) => if p.dropLast = place then p.getLast? else none
    | _ => none

def insertSorted (n : Bytes) : List Bytes → List Bytes
  | [] => [n]
  | m :: ms => if n < m then n :: m :: ms else m :: insertSorted n ms

def sorted (ns : List Bytes) : List Bytes :=
  ns.foldr insertSorted []

def listFiles (d : Disk) (directory : Path) (g : Glob) : Except IoError (List Path) :=
  match d.lookup directory with
  | .ok (place, .directory) =>
    .ok ((sorted ((d.fileNames place).filter (FileReader.accepts g))).map directory.join)
  | .ok _ => .error (.system .notADirectory)
  | .error e => .error (.system e)

def readBytes (d : Disk) (p : Path) : Except IoError Bytes :=
  match d.lookup p with
  | .ok (_, .file content) => .ok content
  | .ok (_, .directory) => .error (.system .isADirectory)
  | .ok (_, .link _) => .error (.system .tooManyLinks)
  | .error e => .error (.system e)

def readText (d : Disk) (p : Path) : Except IoError Text := do
  match Utf8.decode? (← d.readBytes p) with
  | some t => .ok t
  | none => .error .notText

instance : FileReader Disk where
  directoryExists := isDirectory
  fileExists := isFile
  listFiles := listFiles
  readText d p := (d.readText p, d)

/-- Make a directory in an existing one, unless it is there. -/
def makeDirectory (d : Disk) (p : Path) : Except SystemError Disk :=
  if d.isDirectory p then .ok d
  else
    match d.resolve false (Text.trimEndBy (· == Path.slash) p) with
    | .ok (place, none) => .ok (d.set place .directory)
    | .ok (_, some _) => .error .exists
    | .error e => .error e

/-- Make a directory and, if something above it is missing, first the directory that it lies in.
What was made stays if the rest fails. -/
def makeDirectories : Nat → Disk → Path → Disk
  | 0, d, _ => d
  | fuel + 1, d, p =>
    if p = [] then d
    else
      match d.makeDirectory p with
      | .ok made => made
      | .error .notFound =>
        let above := makeDirectories fuel d (p.parent?.elim [] Path.ofComponents)
        (above.makeDirectory p).toOption.getD above
      | .error _ => d

def makeAll (d : Disk) (p : Path) : Disk :=
  makeDirectories (p.length + 1) d p

def write (d : Disk) (p : Path) (content : Bytes) : Except SystemError Disk :=
  match d.resolve true p with
  | .ok (_, some .directory) => .error .isADirectory
  | .ok (place, _) => .ok (d.set place (.file content))
  | .error e => .error e

/-- Make the directories above a file and write it; tell whether it was written. -/
def place (d : Disk) (p : Path) (content : Bytes) : Disk × Bool :=
  let d := d.makeAll (p.parent?.elim [] Path.ofComponents)
  match d.write p content with
  | .ok written => (written, true)
  | .error _ => (d, false)

def remove (d : Disk) (p : Path) : Except SystemError Disk :=
  match d.resolve false p with
  | .ok (_, none) => .error .notFound
  | .ok (place, some _) => .ok (d.clear place)
  | .error e => .error e

def makeLink (d : Disk) (p target : Path) : Except SystemError Disk :=
  if target = [] then .error .notFound
  else
    match d.resolve false p with
    | .ok (place, none) => .ok (d.set place (.link target))
    | .ok (_, some _) => .error .exists
    | .error e => .error e

end Disk
end CannedHttp
