import CannedHttp.Route
import CannedHttp.Telemetry.Event

/-!
A request is answered by the first valid route with its method that some strategy accepts. There are
two strategies: the exact one compares texts; the structural one compares path segments by position
and query parameters by name, and captures what stands in the place of each variable. The search
takes any.
-/
namespace CannedHttp.Matching

/-- What a route is matched against. The query is empty or begins with a question mark. -/
structure Request where
  method : Text
  path : Text
  query : Text
  deriving DecidableEq

def Request.make (method path query : Text) : Request :=
  ⟨method, path, if query.isEmpty || query.head? = some '?' then query else '?' :: query⟩

abbrev Captures := Dict Text

/-- One thing that a route asks of a request. -/
inductive Demand where
  | capture (name value : Text)
  | equal (expected actual : Text)
  | refuse
  deriving DecidableEq

def Demand.ofSegment (s : Segment) (literal value : Text) : Demand :=
  match s.capture? with
  | some name => .capture name value
  | none => .equal literal value

/-- Segments are decoded after splitting, so an encoded slash stays inside its segment. -/
def pathDemands (r : Route) (path : Text) : List Demand :=
  let incoming := Text.splitOn '/' path
  if incoming.length = r.segments.length then
    r.segments.zipWith (fun s v => .ofSegment s (Percent.decode s.text) (Percent.decode v)) incoming
  else [.refuse]

def queryDemands (r : Route) (query : Text) : List Demand :=
  let incoming := Query.parse query
  if incoming.size = r.parameters.size then
    r.parameters.entries.map fun e =>
      match incoming.get? e.1 with
      | some value => .ofSegment e.2 e.2.text value
      | none => .refuse
  else [.refuse]

/-- What is captured up to the first demand that is not met, and whether all are met. -/
structure Attempt where
  bindings : List (Text × Text)
  accepted : Bool
  deriving DecidableEq

def settle : List Demand → Attempt
  | [] => ⟨[], true⟩
  | .capture name value :: rest =>
    let a := settle rest
    ⟨(name, value) :: a.bindings, a.accepted⟩
  | .equal expected actual :: rest => if expected = actual then settle rest else ⟨[], false⟩
  | .refuse :: _ => ⟨[], false⟩

/-- A way of deciding whether the URL of a route accepts a request, and its name in the log. -/
structure Strategy where
  name : Text
  attempt : Route → Request → Attempt

namespace Strategy

/-- The exact strategy takes the URL as a whole, or its path and query. -/
def acceptsExactly (r : Route) (q : Request) : Bool :=
  r.url == q.path ++ q.query || (r.path == q.path && r.query == q.query)

def exact : Strategy :=
  { name := "exact".toList
    attempt := fun r q => ⟨[], acceptsExactly r q⟩ }

def structural : Strategy :=
  { name := "structural".toList
    attempt := fun r q => settle (pathDemands r q.path ++ queryDemands r q.query) }

def captures? (s : Strategy) (r : Route) (q : Request) : Option Captures :=
  let a := s.attempt r q
  if a.accepted then some (Dict.ofList a.bindings) else none

end Strategy

structure Match where
  index : Nat
  route : Route
  strategy : Strategy
  captures : Captures

/-- A route takes part in matching if its URL is valid and its method is that of the request. -/
def eligible (r : Route) (q : Request) : Bool :=
  r.valid && r.method == q.method

def firstAccepting (r : Route) (q : Request) : List Strategy → Option (Strategy × Captures)
  | [] => none
  | s :: ss =>
    match s.captures? r q with
    | some vs => some (s, vs)
    | none => firstAccepting r q ss

def findFrom (ss : List Strategy) (q : Request) : Nat → List Route → Option Match
  | _, [] => none
  | i, r :: rs =>
    match if eligible r q then firstAccepting r q ss else none with
    | some (s, vs) => some ⟨i, r, s, vs⟩
    | none => findFrom ss q (i + 1) rs

def find? (ss : List Strategy) (routes : List Route) (q : Request) : Option Match :=
  findFrom ss q 0 routes

def defaultStrategies : List Strategy := [.exact, .structural]

def overwrites (seen : Captures) : List (Text × Text) → List Event
  | [] => []
  | (name, value) :: rest =>
    let later := overwrites (seen.insert name value) rest
    match seen.get? name with
    | some previous => .capturedTwice name previous value :: later
    | none => later

def routeNotices (r : Route) (q : Request) : List Strategy → List Event
  | [] => []
  | s :: ss =>
    let a := s.attempt r q
    overwrites .empty a.bindings
      ++ if a.accepted then [.routeMatched r.file r.url s.name] else routeNotices r q ss

def notices (ss : List Strategy) (q : Request) : List Route → List Event
  | [] => []
  | r :: rs =>
    if eligible r q then
      routeNotices r q ss
        ++ if (firstAccepting r q ss).isSome then [] else notices ss q rs
    else notices ss q rs

end CannedHttp.Matching
