import CannedHttp.Http.Token

/-!
The headers of a message, names in lower case, values in bytes. Values of one name stay together at
the place where the name first came in.
-/
namespace CannedHttp.Http

structure Headers where
  entries : List (Text × Bytes)
  deriving DecidableEq

namespace Headers

def empty : Headers := ⟨[]⟩

def appendEntry (name : Text) (value : Bytes) : List (Text × Bytes) → List (Text × Bytes)
  | [] => [(name, value)]
  | e :: es =>
    if e.1 = name && !es.any (·.1 == name) then e :: (name, value) :: es
    else e :: appendEntry name value es

/-- Add a value after those that the name has already. -/
def append (h : Headers) (name : Text) (value : Bytes) : Headers :=
  ⟨appendEntry name value h.entries⟩

def setEntry (name : Text) (value : Bytes) : List (Text × Bytes) → List (Text × Bytes)
  | [] => [(name, value)]
  | e :: es =>
    if e.1 = name then (name, value) :: es.filter (·.1 != name) else e :: setEntry name value es

/-- Give a name one value, in the place of those that it has. -/
def set (h : Headers) (name : Text) (value : Bytes) : Headers :=
  ⟨setEntry name value h.entries⟩

def get? (h : Headers) (name : Text) : Option Bytes :=
  (h.entries.find? (·.1 == name)).map (·.2)

def contains (h : Headers) (name : Text) : Bool :=
  h.entries.any (·.1 == name)

def ofList (l : List (Text × Bytes)) : Headers :=
  l.foldl (fun h e => h.append e.1 e.2) empty

end Headers
end CannedHttp.Http
