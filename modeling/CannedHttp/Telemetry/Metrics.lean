import CannedHttp.Dict
import CannedHttp.Text.Number

/-!
Counters of requests and reloads, a gauge of loaded routes, and the number of timed look-ups. A
reading is absent until something was recorded under its name.
-/
namespace CannedHttp

inductive Measurement where
  | routesLoaded (count : Nat)
  | reload (success : Bool)
  | request (method : Text) (matched : Bool)
  deriving DecidableEq

structure Metrics where
  routesLoaded? : Option Nat
  reloadsSucceeded : Nat
  reloadsFailed : Nat
  matched : Dict Nat
  unmatched : Dict Nat
  lookups : Nat

namespace Metrics

def empty : Metrics := ⟨none, 0, 0, .empty, .empty, 0⟩

def increment (d : Dict Nat) (method : Text) : Dict Nat :=
  d.insert method ((d.get? method).getD 0 + 1)

def record (m : Metrics) : Measurement → Metrics
  | .routesLoaded count => { m with routesLoaded? := some count }
  | .reload true => { m with reloadsSucceeded := m.reloadsSucceeded + 1 }
  | .reload false => { m with reloadsFailed := m.reloadsFailed + 1 }
  | .request method true =>
    { m with matched := increment m.matched method, lookups := m.lookups + 1 }
  | .request method false =>
    { m with unmatched := increment m.unmatched method, lookups := m.lookups + 1 }

def reloadsName (result : String) : Text :=
  "mock_route_reloads_total\x7bresult=".toList ++ result.toList ++ ['}']

def requestsName (outcome : String) (method : Text) : Text :=
  "mock_requests_total\x7bmethod=".toList ++ method ++ ",outcome=".toList ++ outcome.toList ++ ['}']

/-- Readings by full name, labels included. -/
def readings (m : Metrics) : List (Text × Nat) :=
  (m.routesLoaded?.map fun n => ("mock_routes_loaded\x7b\x7d".toList, n)).toList
    ++ ([(reloadsName "success", m.reloadsSucceeded), (reloadsName "failure", m.reloadsFailed),
        ("mock_match_duration_seconds\x7b\x7d".toList, m.lookups)].filter fun r => r.2 != 0)
    ++ m.matched.entries.map (fun e => (requestsName "matched" e.1, e.2))
    ++ m.unmatched.entries.map (fun e => (requestsName "fallthrough" e.1, e.2))

end Metrics
end CannedHttp
