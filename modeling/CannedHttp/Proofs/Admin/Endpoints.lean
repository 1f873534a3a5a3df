import CannedHttp.Admin
import CannedHttp.Proofs.Reports
import CannedHttp.Proofs.Store.Serving

/-!
What the endpoints answer and change. The status counts the routes of the snapshot and changes nothing,
the listing shows the routes that are served, and a reload does what the store does. Without the key or with
another method no endpoint is reached.
-/
namespace CannedHttp.Admin
open Http (Request Response)
open Script

section Endpoints
variable {σ : Type} [FileReader σ] (c : Config.Routes) (w : World σ)

theorem run_status :
    (status c).run w = (.json (statusJson c.directory (w.snapshot?.map (·.routes.length))),w) := by
  have asked : Store.isPopulated.run w = (w.snapshot?.isSome,w) := rfl
  unfold status
  rw [run_bind,asked]
  cases snapshot : w.snapshot? with
  | none => rfl
  | some s =>
    have found := (Store.getRoutes_found c w s snapshot).1
    rw [Option.isSome_some,if_pos rfl,run_bind,found]
    rfl

theorem run_routes_served (rs : List Route) (served : Store.served c w = .ok rs) :
    ((routes c).run w).1 = .json (.arr (rs.map Route.toJson)) ∧
      ((routes c).run w).2.snapshot?.map (·.routes) = some rs := by
  obtain ⟨s,rfl,result,published,_⟩ := Store.getRoutes_served c w rs served
  unfold routes
  rw [run_bind,result]
  exact ⟨rfl,congrArg (Option.map (·.routes)) published⟩

theorem run_routes_unserved (e : Store.Error) (failed : Store.served c w = .error e) :
    ((routes c).run w).1 = .text 500 e.message ∧ ((routes c).run w).2.snapshot? = none := by
  obtain ⟨result,absent,_⟩ := Store.getRoutes_unserved c w e failed
  unfold routes
  rw [run_bind,result]
  exact ⟨rfl,absent⟩

theorem run_routes_found (s : Snapshot) (published : w.snapshot? = some s) : ((routes c).run w).2 = w := by
  have found := (Store.getRoutes_found c w s published).1
  unfold routes
  rw [run_bind,found]
  rfl

theorem run_reload : ((reload c).run w).2.unreported = ((Store.reload c).run w).2.unreported := by
  unfold reload
  rw [run_bind]
  cases ((Store.reload c).run w).1 with
  | error e => rfl
  | ok s => rfl

end Endpoints

section Access
variable {σ : Type} [FileReader σ] (c : Config) (e : Endpoint) (r : Request) (w : World σ)

theorem run_unauthorized (refused : isAuthorized c.admin r = false) :
    (handle c e r).run w = (⟨401,.empty,[]⟩,(w.perform (.report (.adminRejected r.target.path))).2) := by
  unfold handle
  rw [refused]
  rfl

theorem handle_answer (authorized : isAuthorized c.admin r = true) (allowed : e.allows r.method = true) :
    handle c e r = e.answer c.routes := by
  unfold handle
  rw [authorized,allowed,if_pos rfl,if_pos rfl]

theorem run_disallowed (authorized : isAuthorized c.admin r = true) (other : e.allows r.method = false) :
    (handle c e r).run w = (⟨405,.empty,[]⟩,w) := by
  unfold handle
  rw [authorized,other]
  rfl

end Access
end CannedHttp.Admin
