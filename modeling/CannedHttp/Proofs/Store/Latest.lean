import CannedHttp.Proofs.Store.Publishing

/-!
The last publication. Publications are numbered in their order, so when no caller is about to publish, the
snapshot is that of the last populating run that succeeded, and there is none only if none has succeeded.
-/
namespace CannedHttp.Store.Callers
open Script
variable {σ ι : Type} [DecidableEq ι] (c : Config.Routes) (calls : ι → Call) (m : Callers σ ι)

/-- Publications are numbered in their order, and the snapshot is the last of them. -/
structure Numbered : Prop where
  before : ∀ i routes s, ⟨.publish routes,s⟩ ∈ (m.caller i).past → s.version < m.world.publications
  current : ∀ s, m.world.snapshot? = some s → s.version + 1 = m.world.publications
  absent : m.world.snapshot? = none → m.world.publications = 0

/-- The snapshot is that of the last populating run that succeeded. -/
structure Latest : Prop where
  published : ∀ i routes, (calls i).Populated c (m.caller i).past routes →
    ∃ s, s.routes = routes ∧ (calls i).Published c (m.caller i).past s
  last : ∀ s, m.world.snapshot? = some s → Source c calls m s ∧
    ∀ i t, (calls i).Published c (m.caller i).past t → t.version ≤ s.version
  absent : m.world.snapshot? = none → ∀ i routes, ¬(calls i).Populated c (m.caller i).past routes

variable [FileReader σ] (n : Callers σ ι)

theorem numbered_step (numbered : Numbered m) (step : Step m n) : Numbered n := by
  cases step with
  | outside world snapshot publications =>
    refine ⟨fun i routes s member => ?_,fun s current => ?_,fun absent => ?_⟩
    · exact publications ▸ numbered.before i routes s member
    · exact publications ▸ numbered.current s (snapshot.symm.trans current)
    · exact publications ▸ numbered.absent (snapshot.symm.trans absent)
  | drop i =>
    refine ⟨fun j routes s member => ?_,numbered.current,numbered.absent⟩
    rw [past_drop] at member
    exact numbered.before j routes s member
  | act i action next =>
    rcases action.publishes_or_not with ⟨routes,rfl⟩ | other
    · refine ⟨fun j r s member => ?_,fun s current => ?_,nofun⟩
      · change s.version < m.world.publications + 1
        rcases mem_past_act m i j _ next _ member with old | ⟨_,new⟩
        · have earlier := numbered.before j r s old
          omega
        · cases new
          exact Nat.lt_succ_self _
      · obtain rfl := Option.some.inj current
        rfl
    · have publications : (m.act i action next).world.publications = m.world.publications :=
        m.world.publications_perform action other
      have snapshot := snapshot_act m i action next other
      refine ⟨fun j r s member => ?_,fun s current => ?_,fun absent => ?_⟩
      · rw [publications]
        rcases mem_past_act m i j action next _ member with old | ⟨_,new⟩
        · exact numbered.before j r s old
        · exact absurd (Sigma.mk.inj new).1.symm (other r)
      · rw [publications]
        exact numbered.current s (snapshot.symm.trans current)
      · rw [publications]
        exact numbered.absent (snapshot.symm.trans absent)

omit [DecidableEq ι] [FileReader σ] in
theorem numbered_start (files : σ) : Numbered (start c calls files) :=
  ⟨nofun,nofun,fun _ => rfl⟩

omit [FileReader σ] in
theorem latest_of_idle (locked : Locked c calls m) (sourced : Sourced c calls m) (numbered : Numbered m)
    (idle : ∀ i routes next, (m.caller i).rest ≠ .step (.publish routes) next) : Latest c calls m := by
  have published (i : ι) (routes : List Route) (populated : (calls i).Populated c (m.caller i).past routes) :
      ∃ s, s.routes = routes ∧ (calls i).Published c (m.caller i).past s := by
    rcases Call.published_or_next c (calls i) _ _ (locked.follows i) routes populated with ⟨s,wrote⟩ | ⟨_,rest⟩
    · exact ⟨s,sourced.published i routes s wrote⟩
    · obtain ⟨next,finish⟩ := Call.finish_ok (calls i) routes
      exact absurd (rest.trans finish) (idle i routes next)
  have earlier (i : ι) (t : Snapshot) (wrote : (calls i).Published c (m.caller i).past t) :
      t.version < m.world.publications := by
    obtain ⟨u,v,past,_⟩ := wrote
    exact numbered.before i t.routes t (by simp [past])
  refine ⟨published,fun s current => ⟨sourced.current s current,fun i t wrote => ?_⟩,
    fun absent i routes populated => ?_⟩
  · have version := numbered.current s current
    have before := earlier i t wrote
    omega
  · obtain ⟨s,_,wrote⟩ := published i routes populated
    have before := earlier i s wrote
    rw [numbered.absent absent] at before
    exact Nat.not_lt_zero _ before

end CannedHttp.Store.Callers
