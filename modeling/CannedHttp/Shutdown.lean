/-!
Coordinated shutdown. A coordinator hands out signals to the tasks of a server; all of them fire
when it is triggered, and also when it is gone, so that no task waits for ever.
-/
namespace CannedHttp

inductive Shutdown.Phase where
  | running
  | triggered
  | dropped
  deriving DecidableEq

/-- A coordinator and the number of signals that it has handed out. -/
structure Shutdown where
  phase : Shutdown.Phase
  signals : Nat
  deriving DecidableEq

namespace Shutdown

def start : Shutdown := ⟨.running, 0⟩

def isDropped (s : Shutdown) : Bool :=
  s.phase = .dropped

def addSignal (s : Shutdown) : Nat × Shutdown :=
  (s.signals, { s with signals := s.signals + 1 })

def subscribe? (s : Shutdown) : Option (Nat × Shutdown) :=
  if s.isDropped then none else some s.addSignal

/-- A second signal that fires with the given one, also when the coordinator is gone. -/
def clone? (s : Shutdown) (signal : Nat) : Option (Nat × Shutdown) :=
  if signal < s.signals then some s.addSignal else none

def trigger? (s : Shutdown) : Option Shutdown :=
  if s.isDropped then none else some { s with phase := .triggered }

def isTriggered? (s : Shutdown) : Option Bool :=
  if s.isDropped then none else some (s.phase = .triggered)

def drop? (s : Shutdown) : Option Shutdown :=
  if s.isDropped then none else some { s with phase := .dropped }

def fired? (s : Shutdown) (signal : Nat) : Option Bool :=
  if signal < s.signals then some (s.phase ≠ .running) else none

end Shutdown
end CannedHttp
