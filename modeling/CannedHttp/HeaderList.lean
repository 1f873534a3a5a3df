import CannedHttp.Json

/-!
A header list keeps headers in the order in which their names first came in. Names are the same
when they agree up to the case of ASCII letters; the first spelling and the last value stay.
-/
namespace CannedHttp

structure HeaderList where
  entries : List (Text × Text)
  deriving DecidableEq

namespace HeaderList

def empty : HeaderList := ⟨[]⟩

instance : Inhabited HeaderList := ⟨empty⟩

def insertEntry (name value : Text) : List (Text × Text) → List (Text × Text)
  | [] => [(name, value)]
  | e :: es =>
    if Text.sameIgnoringCase e.1 name then (e.1, value) :: es
    else e :: insertEntry name value es

def insert (h : HeaderList) (name value : Text) : HeaderList :=
  ⟨insertEntry name value h.entries⟩

def get? (h : HeaderList) (name : Text) : Option Text :=
  (h.entries.find? fun e => Text.sameIgnoringCase e.1 name).map (·.2)

def size (h : HeaderList) : Nat := h.entries.length

def isEmpty (h : HeaderList) : Bool := h.entries.isEmpty

def ofList (l : List (Text × Text)) : HeaderList :=
  l.foldl (fun h e => h.insert e.1 e.2) empty

def toJson (h : HeaderList) : Json :=
  .obj (h.entries.map fun e => (e.1, .str e.2))

end HeaderList
end CannedHttp
