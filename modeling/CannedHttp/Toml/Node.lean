import CannedHttp.Config.Setting

/-!
The tables of a TOML document as they grow. A table knows how it came to be, since that decides
whether a later line may add to it.
-/
namespace CannedHttp.Toml

/-- A table is made by its own header, on the way to another table, or by a dotted key. -/
inductive Origin where
  | header
  | path
  | dotted
  deriving DecidableEq

inductive Node where
  | value (s : Setting)
  | table (origin : Origin) (members : List (Text × Node))
  | tables (rows : List Node)

namespace Node

def root : Node := .table .header []

/-- Replace the member of a name, or add one. The function is given the present member. -/
def updateMember (f : Option Node → Option Node) (name : Text) :
    List (Text × Node) → Option (List (Text × Node))
  | [] => (f none).map fun n => [(name, n)]
  | m :: ms =>
    if m.1 = name then (f (some m.2)).map fun n => (name, n) :: ms
    else (updateMember f name ms).map (m :: ·)

def updateLast (f : Node → Option Node) : List Node → Option (List Node)
  | [] => none
  | [n] => (f n).map ([·])
  | n :: ns => (updateLast f ns).map (n :: ·)

/-- Change the table at the end of a path, making tables on the way. Of a list of tables the last
one is meant. A dotted key enters only tables that no header has opened. -/
def modify (dotted : Bool) (f : Node → Option Node) : List Text → Node → Option Node
  | [], n => f n
  | name :: path, .table origin members =>
    (updateMember (fun member =>
      match member with
      | none => modify dotted f path (.table (if dotted then .dotted else .path) [])
      | some (.value _) => none
      | some (.tables rows) => (updateLast (modify dotted f path) rows).map .tables
      | some (.table o ms) =>
        if dotted && o = .header then none else modify dotted f path (.table o ms))
      name members).map (.table origin)
  | _ :: _, _ => none

/-- Add a value under a new name. Behind a dotted key stands a table made by dotted keys. -/
def put (path : List Text) (name : Text) (s : Setting) : Node → Option Node :=
  modify true (fun
    | .table origin members =>
      if (origin = .dotted) = path.isEmpty then none
      else (updateMember (fun
        | none => some (.value s)
        | some _ => none) name members).map (.table origin)
    | _ => none) path

/-- Open a table by its header; it may exist only on the way to others. -/
def openTable (path : List Text) (name : Text) : Node → Option Node :=
  modify false (fun
    | .table origin members =>
      (updateMember (fun
        | none => some (.table .header [])
        | some (.table .path ms) => some (.table .header ms)
        | some _ => none) name members).map (.table origin)
    | _ => none) path

/-- Open one more table of a list. -/
def openRow (path : List Text) (name : Text) : Node → Option Node :=
  modify false (fun
    | .table origin members =>
      (updateMember (fun
        | none => some (.tables [.table .header []])
        | some (.tables rows) => some (.tables (rows ++ [.table .header []]))
        | some _ => none) name members).map (.table origin)
    | _ => none) path

mutual

def setting : Node → Setting
  | .value s => s
  | .table _ members => .table (memberSettings members)
  | .tables rows => .list (rowSettings rows)

def memberSettings : List (Text × Node) → List (Text × Setting)
  | [] => []
  | (name, n) :: rest => (name, n.setting) :: memberSettings rest

def rowSettings : List Node → List Setting
  | [] => []
  | n :: rest => n.setting :: rowSettings rest

end

end Node
end CannedHttp.Toml
