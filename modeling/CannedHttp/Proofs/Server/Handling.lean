import CannedHttp.Proofs.Admin.Endpoints
import CannedHttp.Proofs.Server.Answers

/-!
What a request does on its way through the server. It is given an identifier if it has none, an endpoint
or the routes answer it, and a published snapshot is there afterwards as it was unless the request is an
authorized reload.
-/
namespace CannedHttp

namespace Http.Headers

private theorem find_appendEntry (name other : Text) (value : Bytes) (entries : List (Text × Bytes))
    (apart : other ≠ name) : (appendEntry name value entries).find? (·.1 == other) = entries.find? (·.1 == other) := by
  have skipped : (name == other) = false := beq_eq_false_iff_ne.mpr (Ne.symm apart)
  induction entries with
  | nil => rw [appendEntry,List.find?_cons,skipped]
  | cons e es ih =>
    unfold appendEntry
    split
    · rw [List.find?_cons,List.find?_cons,List.find?_cons,skipped]
    · rw [List.find?_cons,List.find?_cons,ih]

theorem get_append (h : Headers) (name other : Text) (value : Bytes) (apart : other ≠ name) :
    (h.append name value).get? other = h.get? other :=
  congrArg (Option.map _) (find_appendEntry name other value h.entries apart)

end Http.Headers

/-- The world apart from reports and from the identifiers given out. -/
def World.lasting {σ : Type} (w : World σ) : World σ :=
  { w with reported := [], identifiers := 0 }

namespace Server
open Http (Request Response)
open Script

section Identifying
variable {σ : Type} (w : World σ) (r : Request)

def identified : Request :=
  if r.headers.contains Request.idName then r
  else { r with headers := r.headers.append Request.idName (Utf8.encode (World.identifier w.identifiers)) }

def issued : World σ :=
  if r.headers.contains Request.idName then w else { w with identifiers := w.identifiers + 1 }

private theorem run_identify [FileReader σ] : (identify r).run w = (identified w r,issued w r) := by
  unfold identify identified issued
  cases r.headers.contains Request.idName with
  | true => rfl
  | false => rfl

theorem lasting_issued : (issued w r).lasting = w.lasting := by
  unfold issued
  split <;> rfl

theorem identified_request : (identified w r).method = r.method ∧ (identified w r).target = r.target ∧
    (identified w r).headers.get? Admin.authorizationName = r.headers.get? Admin.authorizationName := by
  unfold identified
  split
  next => exact ⟨rfl,rfl,rfl⟩
  next => exact ⟨rfl,rfl,r.headers.get_append _ _ _ (by decide)⟩

theorem snapshot_issued : (issued w r).snapshot? = w.snapshot? := by
  unfold issued
  split <;> rfl

private theorem metrics_issued : (issued w r).metrics = w.metrics := by
  unfold issued
  split <;> rfl

theorem isAuthorized_identified (c : Config) :
    Admin.isAuthorized c.admin (identified w r) = Admin.isAuthorized c.admin r := by
  unfold Admin.isAuthorized Admin.token?
  rw [(identified_request w r).2.2]

theorem run_handle [FileReader σ] (c : Config) : (handle c r).run w =
    (announce c (identified w r)
        (propagate (identified w r) ((dispatch c (identified w r)).run (issued w r)).1),
      ((dispatch c (identified w r)).run (issued w r)).2) := by
  unfold handle
  rw [run_bind,run_identify,run_bind]
  rfl

end Identifying

section Keeping
variable {σ : Type} [FileReader σ] (c : Config) (r : Request) (w : World σ)

structure Reloads : Prop where
  endpoint : endpoint? c r.target.path = some .reload
  authorized : Admin.isAuthorized c.admin r = true
  method : r.method = "POST".toList

/-- The snapshot is there as it was, and no reload has succeeded. -/
def Keeps (s : Snapshot) (v : World σ) : Prop :=
  v.snapshot? = some s ∧ v.metrics.reloadsSucceeded = w.metrics.reloadsSucceeded

/-- There is a snapshot, and one more reload has succeeded. -/
def Replaces (v : World σ) : Prop :=
  (∃ s, v.snapshot? = some s) ∧ v.metrics.reloadsSucceeded = w.metrics.reloadsSucceeded + 1

omit [FileReader σ] in
private theorem keeps_of_unreported (s : Snapshot) (v u : World σ) (same : v.unreported = u.unreported)
    (keeps : Keeps w s u) : Keeps w s v := by
  obtain ⟨snapshot,metrics⟩ := v.same_of_unreported u same
  exact ⟨snapshot.trans keeps.1,metrics ▸ keeps.2⟩

variable (s : Snapshot) (published : w.snapshot? = some s)
include published

private theorem keeps_mock : Keeps w s ((mock c r).run w).2 := by
  have found := (Store.getRoutes_found c.routes w s published).1
  obtain ⟨_,snapshot,metrics⟩ := run_mock_ok c r w s (congrArg Prod.fst found)
  rw [found] at snapshot metrics
  refine ⟨snapshot.trans published,?_⟩
  rw [metrics]
  cases isMatched s.routes r <;> rfl

private theorem keeps_reload (rc : Config.Routes) : Keeps w s ((Admin.reload rc).run w).2 ∨
    Replaces w ((Admin.reload rc).run w).2 := by
  have same := Admin.run_reload rc w
  cases outcome : ((Store.populate rc).run w).1 with
  | error e =>
    obtain ⟨_,snapshot,metrics⟩ := Store.run_failed rc w .reload nofun e outcome
    rw [Store.Call.script_reload] at snapshot metrics
    refine .inl (keeps_of_unreported w s _ _ same ⟨snapshot.trans published,?_⟩)
    rw [metrics]
    rfl
  | ok routes =>
    obtain ⟨t,_,_,snapshot,metrics⟩ := Store.run_succeeded rc w .reload nofun routes outcome
    rw [Store.Call.script_reload] at snapshot metrics
    obtain ⟨snapshot',metrics'⟩ := World.same_of_unreported _ _ same
    refine .inr ⟨⟨t,snapshot'.trans snapshot⟩,?_⟩
    rw [metrics',metrics]
    rfl

private theorem keeps_or_reloads : Keeps w s ((dispatch c r).run w).2 ∨
    Reloads c r ∧ Replaces w ((dispatch c r).run w).2 := by
  have still : Keeps w s w := ⟨published,rfl⟩
  unfold dispatch
  cases endpoint : endpoint? c r.target.path with
  | none =>
    dsimp only
    split
    next => exact .inl (keeps_mock c r w s published)
    next => exact .inl still
  | some e =>
    dsimp only
    cases authorized : Admin.isAuthorized c.admin r with
    | false =>
      rw [Admin.run_unauthorized c e r w authorized]
      exact .inl still
    | true =>
      cases allowed : e.allows r.method with
      | false =>
        rw [Admin.run_disallowed c e r w authorized allowed]
        exact .inl still
      | true =>
        rw [Admin.handle_answer c e r authorized allowed]
        cases e with
        | status =>
          rw [Admin.Endpoint.answer,Admin.run_status]
          exact .inl still
        | routes =>
          rw [Admin.Endpoint.answer,Admin.run_routes_found c.routes w s published]
          exact .inl still
        | reload =>
          have posted : r.method = "POST".toList := beq_iff_eq.mp allowed
          exact (keeps_reload w s published c.routes).imp_right fun more => ⟨⟨endpoint,authorized,posted⟩,more⟩

theorem keeps_or_reloads_handle : Keeps w s ((handle c r).run w).2 ∨
    Reloads c r ∧ Replaces w ((handle c r).run w).2 := by
  obtain ⟨method,target,_⟩ := identified_request w r
  have dispatched := keeps_or_reloads c (identified w r) (issued w r) s ((snapshot_issued w r).trans published)
  rw [run_handle]
  unfold Keeps Replaces at dispatched ⊢
  rw [metrics_issued] at dispatched
  refine dispatched.imp_right fun ⟨reloads,more⟩ => ⟨⟨?_,?_,?_⟩,more⟩
  · rw [← target]
    exact reloads.endpoint
  · rw [← isAuthorized_identified w r c]
    exact reloads.authorized
  · rw [← method]
    exact reloads.method

end Keeping

end Server
end CannedHttp
