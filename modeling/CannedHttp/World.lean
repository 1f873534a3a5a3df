import CannedHttp.Script

/-!
The shared state that scripts act on, and the run of one script alone. The definition files are of
any kind that can be read; reading may change them, since a reader can count reads or lose files.
-/
namespace CannedHttp

/-- What the route store asks of the place where definition files are. -/
class FileReader (σ : Type) where
  directoryExists : σ → Path → Bool
  fileExists : σ → Path → Bool
  /-- The files directly in a directory whose names match a pattern, sorted by name. -/
  listFiles : σ → Path → Glob → Except IoError (List Path)
  readText : σ → Path → Except IoError Text × σ

/-- Does the pattern accept a name? Names that are not UTF-8 are never accepted. -/
def FileReader.accepts (g : Glob) (name : Bytes) : Bool :=
  (Utf8.decode? name).any g.accepts

structure World (σ : Type) where
  files : σ
  snapshot? : Option Snapshot
  /-- How many snapshots have been published. -/
  publications : Nat
  /-- Reported events, the latest first. -/
  reported : List Event
  metrics : Metrics
  /-- The directory whose changes are looked out for. -/
  watched? : Option Path
  /-- The addresses of listeners. -/
  taken : List SocketAddress
  /-- How many identifiers have been given out. -/
  identifiers : Nat

namespace World
variable {σ : Type}

def start (files : σ) : World σ :=
  ⟨files, none, 0, [], .empty, none, [], 0⟩

def events (w : World σ) : List Event :=
  w.reported.reverse

/-- An identifier in the form of a version 4 UUID. -/
def identifier (n : Nat) : Text :=
  "00000000-0000-4000-8000-".toList ++ Text.hex 12 n

/-- What an action answers in a world, and the world after it. Taking and giving up the lock matters
only among other scripts. -/
def perform [FileReader σ] (w : World σ) : (action : Action) → action.Reply × World σ
  | .snapshot => (w.snapshot?, w)
  | .acquire => ((), w)
  | .release => ((), w)
  | .publish routes =>
    let s : Snapshot := ⟨w.publications, routes⟩
    (s, { w with snapshot? := some s, publications := w.publications + 1 })
  | .directoryExists path => (FileReader.directoryExists w.files path, w)
  | .fileExists path => (FileReader.fileExists w.files path, w)
  | .listFiles directory pattern => (FileReader.listFiles w.files directory pattern, w)
  | .readText path =>
    let (content, files) := FileReader.readText w.files path
    (content, { w with files })
  | .report e => ((), { w with reported := e :: w.reported })
  | .measure m => ((), { w with metrics := w.metrics.record m })
  | .watch directory => ((), { w with watched? := some directory })
  | .bind address =>
    match Network.bind w.taken address with
    | .ok a => (.ok a, { w with taken := a :: w.taken })
    | .error e => (.error e, w)
  | .freshId => (identifier w.identifiers, { w with identifiers := w.identifiers + 1 })

end World

/-- Run a script alone to its end. -/
def Script.run {α σ : Type} [FileReader σ] : Script α → World σ → α × World σ
  | .done a, w => (a, w)
  | .step action next, w =>
    let (reply, w) := w.perform action
    (next reply).run w

end CannedHttp
