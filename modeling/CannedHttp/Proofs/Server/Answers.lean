import CannedHttp.Proofs.Dict
import CannedHttp.Proofs.Reports
import CannedHttp.Proofs.Store.Serving
import CannedHttp.Server

/-!
The answer that routes give to a request, and how it is counted. Apart from reports, answering is to be
served with routes, to count, and to give that answer, whether requests are logged or not.
-/
namespace CannedHttp.Server
open Http (Request Response)
open Script

def unservedAnswer (e : Store.Error) : Response :=
  .text 500 ("Failed to load route definitions: ".toList ++ e.message)

section Routes
variable (routes : List Route) (r : Request)

def isMatched : Bool :=
  (Matching.find? Matching.defaultStrategies routes r.descriptor).isSome

/-- The answer of the first route that accepts the request, or the fallback answer. -/
def routesAnswer (c : Config) : Response :=
  match Matching.find? Matching.defaultStrategies routes r.descriptor with
  | some m => .ofRoute m.route m.captures
  | none => .fallback c.fallback

end Routes

section Scripts
variable (c : Config) (r : Request)

def settle : Except Store.Error Snapshot → Script Response
  | .error e => .done (unservedAnswer e)
  | .ok s => .step (.measure (.request r.method (isMatched s.routes r))) fun _ =>
    .done (routesAnswer s.routes r c)

private theorem unreported_log : ∃ body, r.log.unreported = .done { r with body } := by
  unfold Request.log
  by_cases tooLong : Request.loggedBodyLimit < r.body.length
  · simp only [tooLong,if_true]
    exact ⟨_,rfl⟩
  · simp only [tooLong,if_false]
    exact ⟨_,rfl⟩

private theorem unreported_lookUp (s : Snapshot) : (lookUp c s.routes r).unreported = settle c r (.ok s) := by
  unfold lookUp settle isMatched routesAnswer
  rw [unreported_bind,unreported_reportAll]
  change Script.unreported _ = _
  dsimp only
  cases Matching.find? Matching.defaultStrategies s.routes r.descriptor with
  | none => rfl
  | some m =>
    have noted := unreported_reportAll (Response.notices m.route)
    refine congrArg (Script.step _) (funext fun _ => ?_)
    change ((reportAll (Response.notices m.route)) >>= fun _ =>
      (pure (Response.ofRoute m.route m.captures) : Script Response)).unreported = _
    rw [unreported_bind,noted]
    rfl

private theorem unreported_loaded (loaded : Except Store.Error Snapshot) :
    (match loaded with
      | .error e => do
        report (.loadFailed r.id e.message)
        pure (.text 500 ("Failed to load route definitions: ".toList ++ e.message))
      | .ok s => lookUp c s.routes r : Script Response).unreported = settle c r loaded := by
  cases loaded with
  | error e => rfl
  | ok s => exact unreported_lookUp c r s

/-- Reports apart, a request is served with routes and then answered and counted. -/
theorem unreported_mock :
    (mock c r).unreported = (Store.getRoutes c.routes).unreported >>= settle c r := by
  have served (r : Request) : (Store.getRoutes c.routes >>= fun loaded => match loaded with
      | .error e => do
        report (.loadFailed r.id e.message)
        pure (.text 500 ("Failed to load route definitions: ".toList ++ e.message))
      | .ok s => lookUp c s.routes r : Script Response).unreported =
        (Store.getRoutes c.routes).unreported >>= settle c r := by
    rw [unreported_bind]
    exact congrArg (_ >>= ·) (funext (unreported_loaded c r))
  unfold mock
  cases c.observability.logRequests with
  | false => exact served r
  | true =>
    obtain ⟨body,logged⟩ := unreported_log r
    rw [if_pos rfl,unreported_bind,logged]
    -- neither the descriptor nor the method of a request depends on its body
    exact served { r with body }

end Scripts

section Counting
variable (m : Metrics) (method other : Text) (matched also : Bool)

private theorem get_increment (d : Dict Nat) : ((Metrics.increment d method).get? other).getD 0 =
    (d.get? other).getD 0 + if other = method then 1 else 0 := by
  unfold Metrics.increment
  rw [Dict.get_insert]
  by_cases same : method = other
  · simp [same]
  · simp [same,Ne.symm same]

/-- Recording a request adds one to the count of its method and outcome and to no other. -/
private theorem count_request : (m.record (.request method matched)).count other also =
    m.count other also + if other = method ∧ also = matched then 1 else 0 := by
  cases matched with
  | true =>
    cases also with
    | true => simpa [Metrics.count,Metrics.record] using get_increment method other m.matched
    | false => simp [Metrics.count,Metrics.record]
  | false =>
    cases also with
    | true => simp [Metrics.count,Metrics.record]
    | false => simpa [Metrics.count,Metrics.record] using get_increment method other m.unmatched

end Counting

section Runs
variable {σ : Type} [FileReader σ] (c : Config) (r : Request) (w : World σ)

/-- What a request gets from the world and does to it. -/
structure Answered : Prop where
  unserved : ∀ e, Store.served c.routes w = .error e →
    ((mock c r).run w).1 = unservedAnswer e ∧ ((mock c r).run w).2.snapshot? = none ∧
      ((mock c r).run w).2.metrics.count = w.metrics.count
  served : ∀ routes, Store.served c.routes w = .ok routes →
    ((mock c r).run w).1 = routesAnswer routes r c ∧
      ((mock c r).run w).2.snapshot?.map (·.routes) = some routes ∧
      ∀ method matched, ((mock c r).run w).2.metrics.count method matched =
        w.metrics.count method matched +
          if method = r.method ∧ matched = isMatched routes r then 1 else 0

theorem run_mock : (((mock c r).run w).1,((mock c r).run w).2.unreported) =
    (settle c r ((Store.getRoutes c.routes).run w).1).run ((Store.getRoutes c.routes).run w).2.unreported := by
  have same := run_unreported (mock c r) w
  rw [unreported_mock,run_bind,run_unreported] at same
  exact same.symm

theorem run_mock_ok (s : Snapshot) (loaded : ((Store.getRoutes c.routes).run w).1 = .ok s) :
    ((mock c r).run w).1 = routesAnswer s.routes r c ∧
      ((mock c r).run w).2.snapshot? = ((Store.getRoutes c.routes).run w).2.snapshot? ∧
      ((mock c r).run w).2.metrics = ((Store.getRoutes c.routes).run w).2.metrics.record
        (.request r.method (isMatched s.routes r)) := by
  have run := run_mock c r w
  rw [loaded] at run
  have snapshot := congrArg (·.2.snapshot?) run
  have metrics := congrArg (·.2.metrics) run
  exact ⟨congrArg Prod.fst run,snapshot,metrics⟩

theorem run_mock_error (e : Store.Error) (failed : ((Store.getRoutes c.routes).run w).1 = .error e) :
    ((mock c r).run w).1 = unservedAnswer e ∧
      ((mock c r).run w).2.snapshot? = ((Store.getRoutes c.routes).run w).2.snapshot? ∧
      ((mock c r).run w).2.metrics = ((Store.getRoutes c.routes).run w).2.metrics := by
  have run := run_mock c r w
  rw [failed] at run
  have snapshot := congrArg (·.2.snapshot?) run
  have metrics := congrArg (·.2.metrics) run
  exact ⟨congrArg Prod.fst run,snapshot,metrics⟩

theorem answered : Answered c r w := by
  constructor
  · intro e failed
    obtain ⟨result,absent,metrics⟩ := Store.getRoutes_unserved c.routes w e failed
    obtain ⟨answer,snapshot,measured⟩ := run_mock_error c r w e result
    refine ⟨answer,snapshot.trans absent,?_⟩
    rw [measured,metrics]
  · intro routes found
    obtain ⟨s,rfl,result,published,counted⟩ := Store.getRoutes_served c.routes w routes found
    obtain ⟨answer,snapshot,measured⟩ := run_mock_ok c r w s result
    refine ⟨answer,?_,fun method matched => ?_⟩
    · rw [snapshot,published,Option.map_some]
    · rw [measured,count_request,counted.requests]

end Runs
end CannedHttp.Server
