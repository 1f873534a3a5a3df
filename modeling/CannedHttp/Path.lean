import CannedHttp.Text.Quoted
import CannedHttp.Text.Utf8

/-!
Paths are byte strings, compared by their components: repeated slashes, a slash at the end and inner
single dots do not count, but double dots and a leading single dot do.
-/
namespace CannedHttp

abbrev Path := Bytes

namespace Path

inductive Component where
  | root
  | current
  | parent
  | normal (name : Bytes)
  deriving DecidableEq

namespace Component

def rank : Component → Nat
  | .root => 0
  | .current => 1
  | .parent => 2
  | .normal _ => 3

def name : Component → Bytes
  | .normal name => name
  | _ => []

/-- Special components come before names, and names are in the order of their bytes. -/
def before (a b : Component) : Bool :=
  a.rank < b.rank || (a.rank == b.rank && decide (a.name < b.name))

end Component

def slash : UInt8 := 0x2f

def dot : UInt8 := 0x2e

/-- The component that a piece between slashes stands for, unless it stands for none. -/
def component? (piece : Bytes) : Option Component :=
  if piece = [] || piece = [dot] then none
  else if piece = [dot, dot] then some .parent
  else some (.normal piece)

def components (p : Path) : List Component :=
  let pieces := Text.splitOn slash p
  let rest := pieces.filterMap component?
  if p.head? = some slash then .root :: rest
  else if pieces.head? = some [dot] then .current :: rest
  else rest

/-- Do two paths name the same place without looking at any disk? -/
def same (p q : Path) : Bool :=
  components p == components q

def componentsBefore : List Component → List Component → Bool
  | [], [] => false
  | [], _ :: _ => true
  | _ :: _, [] => false
  | a :: as, b :: bs => a.before b || (a == b && componentsBefore as bs)

def before (p q : Path) : Bool :=
  componentsBefore (components p) (components q)

def parent? (p : Path) : Option (List Component) :=
  match components p with
  | [] | [.root] => none
  | cs => some cs.dropLast

def Component.text : Component → Bytes
  | .root => []
  | .current => [dot]
  | .parent => [dot, dot]
  | .normal name => name

def ofComponents (cs : List Component) : Path :=
  if cs = [.root] then [slash] else [slash].intercalate (cs.map Component.text)

/-- Does a path lie directly in a directory? -/
def isIn (directory p : Path) : Bool :=
  parent? p == some (components directory)

def fileName? (p : Path) : Option Bytes :=
  match (components p).getLast? with
  | some (.normal name) => some name
  | _ => none

def join (directory : Path) (name : Bytes) : Path :=
  if directory = [] || directory.getLast? = some slash then directory ++ name
  else directory ++ slash :: name

/-- A path as text, malformed parts replaced. -/
def display (p : Path) : Text :=
  Utf8.decodeLossy p

def diagnostic (p : Path) : Text :=
  '"' :: p.display.flatMap (fun c =>
    if c = '\'' then ['\\', '\''] else Text.Quoted.escapeDiagnostic c) ++ ['"']

def label (p : Path) : Text :=
  Utf8.decodeLossy ((fileName? p).getD p)

end Path
end CannedHttp
