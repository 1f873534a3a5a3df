import CannedHttp.Glob
import CannedHttp.IoError
import CannedHttp.Network
import CannedHttp.Route
import CannedHttp.Telemetry.Event
import CannedHttp.Telemetry.Metrics

/-!
A script is a finite tree of atomic actions on the shared state of the server. It can be run alone
from beginning to end, or taken apart action by action among other scripts.
-/
namespace CannedHttp

/-- A published list of routes. Each publication has a version of its own. -/
structure Snapshot where
  version : Nat
  routes : List Route
  deriving DecidableEq

inductive Action where
  | snapshot
  | acquire
  | release
  | publish (routes : List Route)
  | directoryExists (path : Path)
  | fileExists (path : Path)
  | listFiles (directory : Path) (pattern : Glob)
  | readText (path : Path)
  | report (e : Event)
  | measure (m : Measurement)
  | watch (directory : Path)
  | bind (address : Text)
  | freshId

def Action.Reply : Action → Type
  | .snapshot => Option Snapshot
  | .publish _ => Snapshot
  | .directoryExists _ | .fileExists _ => Bool
  | .listFiles .. => Except IoError (List Path)
  | .readText _ => Except IoError Text
  | .bind _ => Except IoError SocketAddress
  | .freshId => Text
  | .acquire | .release | .report _ | .measure _ | .watch _ => Unit

inductive Script (α : Type) where
  | done (a : α)
  | step (action : Action) (next : action.Reply → Script α)

namespace Script
variable {α β : Type}

def andThen : Script α → (α → Script β) → Script β
  | .done a, f => f a
  | .step action next, f => .step action fun r => (next r).andThen f

instance : Monad Script where
  pure := .done
  bind := andThen

def act (action : Action) : Script action.Reply :=
  .step action .done

def snapshot : Script (Option Snapshot) := act .snapshot

def acquire : Script Unit := act .acquire

def release : Script Unit := act .release

def publish (routes : List Route) : Script Snapshot := act (.publish routes)

def directoryExists (path : Path) : Script Bool := act (.directoryExists path)

def fileExists (path : Path) : Script Bool := act (.fileExists path)

def listFiles (directory : Path) (pattern : Glob) : Script (Except IoError (List Path)) :=
  act (.listFiles directory pattern)

def readText (path : Path) : Script (Except IoError Text) := act (.readText path)

def report (e : Event) : Script Unit := act (.report e)

def measure (m : Measurement) : Script Unit := act (.measure m)

def watch (directory : Path) : Script Unit := act (.watch directory)

def bindListener (address : Text) : Script (Except IoError SocketAddress) := act (.bind address)

def freshId : Script Text := act .freshId

def reportAll : List Event → Script Unit
  | [] => pure ()
  | e :: es => do
    report e
    reportAll es

end Script
end CannedHttp
