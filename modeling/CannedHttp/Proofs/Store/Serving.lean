import CannedHttp.Proofs.Store.History

/-!
The routes that a call of the store is served with: those of the snapshot, and without one those that
populating gives. Being served counts no request and no reload.
-/
namespace CannedHttp

/-- How many requests with the method were matched, or not matched. -/
def Metrics.count (m : Metrics) (method : Text) (matched : Bool) : Nat :=
  ((if matched then m.matched else m.unmatched).get? method).getD 0

namespace Store
open Script
variable {σ : Type} [FileReader σ] (c : Config.Routes) (w : World σ)

def served : Except Error (List Route) :=
  match w.snapshot? with
  | some s => .ok s.routes
  | none => populated c w.files

private theorem absent_of_unserved (e : Error) (failed : served c w = .error e) :
    w.snapshot? = none ∧ populated c w.files = .error e := by
  unfold served at failed
  cases snapshot : w.snapshot? with
  | some s =>
    rw [snapshot] at failed
    contradiction
  | none =>
    rw [snapshot] at failed
    exact ⟨rfl,failed⟩

/-- The gauge apart, a call that finds or populates routes leaves the measurements as they are. -/
structure Counted (m n : Metrics) : Prop where
  requests : n.count = m.count
  succeeded : n.reloadsSucceeded = m.reloadsSucceeded
  failed : n.reloadsFailed = m.reloadsFailed

theorem getRoutes_served (routes : List Route) (found : served c w = .ok routes) :
    ∃ s, s.routes = routes ∧ ((getRoutes c).run w).1 = .ok s ∧
      ((getRoutes c).run w).2.snapshot? = some s ∧ Counted w.metrics ((getRoutes c).run w).2.metrics := by
  unfold served at found
  cases snapshot : w.snapshot? with
  | some s =>
    rw [snapshot] at found
    have run := (getRoutes_found c w s snapshot).1
    rw [run]
    exact ⟨s,Except.ok.inj found,rfl,snapshot,rfl,rfl,rfl⟩
  | none =>
    rw [snapshot] at found
    have loaded : ((populate c).run w).1 = .ok routes := (run_populate c w).trans found
    obtain ⟨s,same,result,published,metrics⟩ := run_succeeded c w .get (fun _ => snapshot) routes loaded
    rw [Call.script_get] at result published metrics
    refine ⟨s,same,result,published,?_⟩
    rw [metrics]
    exact ⟨rfl,rfl,rfl⟩

theorem getRoutes_unserved (e : Error) (failed : served c w = .error e) :
    ((getRoutes c).run w).1 = .error e ∧ ((getRoutes c).run w).2.snapshot? = none ∧
      ((getRoutes c).run w).2.metrics = w.metrics := by
  obtain ⟨absent,unpopulated⟩ := absent_of_unserved c w e failed
  have outcome : ((populate c).run w).1 = .error e := (run_populate c w).trans unpopulated
  obtain ⟨result,snapshot,metrics⟩ := run_failed c w .get (fun _ => absent) e outcome
  exact ⟨result,snapshot.trans absent,metrics⟩

end Store
end CannedHttp
