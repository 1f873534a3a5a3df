import CannedHttp.Proofs.Store.Population
import CannedHttp.Proofs.Store.Progress
import Mathlib.Data.List.Induction

/-!
A store over time. Its calls come in any order, and between them its files change in any way, as they may
while they are read. The snapshot is what the last successful populating run gave, the gauge counts its
routes, and the counters count the reloads by what they returned.
-/
namespace CannedHttp.Store
open Script

/-- What can happen to a store. -/
inductive Deed (σ : Type) where
  | call (call : Call)
  | ask
  | change (files : σ)

section Deeds
variable {σ : Type} [FileReader σ] (c : Config.Routes)

def Deed.after (w : World σ) : Deed σ → World σ
  | .call k => ((k.script c).run w).2
  | .ask => (isPopulated.run w).2
  | .change files => { w with files }

/-- The outcome of populating, if it comes to that. -/
def Deed.population? (w : World σ) : Deed σ → Option (Except Error (List Route))
  | .call .reload => some ((populate c).run w).1
  | .call .get => if w.snapshot?.isSome then none else some ((populate c).run w).1
  | .ask | .change _ => none

def Deed.reload? (w : World σ) : Deed σ → Option (Except Error Snapshot)
  | .call .reload => some ((reload c).run w).1
  | .call .get | .ask | .change _ => none

def afterAll (w : World σ) (deeds : List (Deed σ)) : World σ :=
  deeds.foldl (Deed.after c) w

/-- The deeds, each with the world that it found. -/
def past (w : World σ) : List (Deed σ) → List (World σ × Deed σ)
  | [] => []
  | d :: deeds => (w,d) :: past (d.after c w) deeds

def populations (before : List (World σ × Deed σ)) : List (Except Error (List Route)) :=
  before.filterMap fun p => p.2.population? c p.1

def reloads (before : List (World σ × Deed σ)) : List (Except Error Snapshot) :=
  before.filterMap fun p => p.2.reload? c p.1

/-- What the world shows of what has happened to the store. -/
structure Account (before : List (World σ × Deed σ)) (w : World σ) : Prop where
  snapshot : w.snapshot?.map (·.routes) = ((populations c before).filterMap Except.toOption).getLast?
  gauge : w.metrics.routesLoaded? = w.snapshot?.map (·.routes.length)
  succeeded : w.metrics.reloadsSucceeded = (reloads c before).countP (·.isOk)
  failed : w.metrics.reloadsFailed = (reloads c before).countP (!·.isOk)

/-- What the store does when it is called, and which run the population of a call is. -/
structure Conduct (w : World σ) : Prop where
  found : ∀ s, w.snapshot? = some s → (getRoutes c).run w = (.ok s,w)
  first : w.snapshot? = none → ∀ routes, ((populate c).run w).1 = .ok routes →
    ∃ s, s.routes = routes ∧ ((getRoutes c).run w).1 = .ok s ∧ ((getRoutes c).run w).2.snapshot? = some s
  first_failed : w.snapshot? = none → ∀ e, ((populate c).run w).1 = .error e →
    ((getRoutes c).run w).1 = .error e ∧ ((getRoutes c).run w).2.snapshot? = none
  reloaded : ∀ routes, ((populate c).run w).1 = .ok routes →
    ∃ s, s.routes = routes ∧ ((reload c).run w).1 = .ok s ∧ ((reload c).run w).2.snapshot? = some s
  reload_failed : ∀ e, ((populate c).run w).1 = .error e →
    ((reload c).run w).1 = .error e ∧ ((reload c).run w).2.snapshot? = w.snapshot?
  asked : isPopulated.run w = (w.snapshot?.isSome,w)
  populates : ∀ call outcome, (Deed.call call).population? c w = some outcome ↔
    ∃ u v, (call.script c).exchanges w = u ++ v ∧ call.Begun c u (.done outcome)

end Deeds

section Calls
variable {σ : Type} [FileReader σ] (c : Config.Routes) (w : World σ)

theorem snapshot_populate : ((populate c).run w).2.snapshot? = w.snapshot? := by
  apply run_keeps (·.populates = true) World.snapshot?
  · intro w action populating
    apply w.snapshot_perform
    rintro routes rfl
    contradiction
  · exact populate_populates c

theorem metrics_populate : ((populate c).run w).2.metrics =
    match ((populate c).run w).1 with
    | .ok routes => w.metrics.record (.routesLoaded routes.length)
    | .error _ => w.metrics := by
  rw [run_populate]
  exact (outcome_populate c w).2

theorem run_script (call : Call) (begins : call = .get → w.snapshot? = none) :
    (call.script c).run w = (call.finish ((populate c).run w).1).run ((populate c).run w).2 := by
  cases call with
  | reload =>
    rw [Call.script_reload,Call.reload_eq]
    exact run_bind (populate c) (Call.finish .reload) w
  | get =>
    rw [Call.script_get,Call.getRoutes_eq]
    simp only [Script.run,World.perform,begins rfl]
    exact run_bind (populate c) (Call.finish .get) w

theorem exchanges_script (call : Call) (begins : call = .get → w.snapshot? = none) :
    (call.script c).exchanges w = call.entry ++ ((populate c).exchanges w ++
      (call.finish ((populate c).run w).1).exchanges ((populate c).run w).2) := by
  rw [← exchanges_bind]
  cases call with
  | reload =>
    rw [Call.script_reload,Call.reload_eq]
    rfl
  | get =>
    rw [Call.script_get,Call.getRoutes_eq]
    simp only [exchanges,World.perform,begins rfl]
    rfl

omit [FileReader σ] in
private theorem begins_or_found (call : Call) :
    (call = .get → w.snapshot? = none) ∨ ∃ s, call = .get ∧ w.snapshot? = some s := by
  cases found : w.snapshot? with
  | none => exact .inl fun _ => rfl
  | some s =>
    cases call with
    | get => exact .inr ⟨s,rfl,rfl⟩
    | reload => exact .inl nofun

theorem getRoutes_found (s : Snapshot) (found : w.snapshot? = some s) :
    (getRoutes c).run w = (.ok s,w) ∧ (getRoutes c).exchanges w = [⟨.snapshot,some s⟩] := by
  rw [Call.getRoutes_eq]
  simp only [Script.run,exchanges,World.perform,found]
  exact ⟨trivial,trivial⟩

def Call.counted (success : Bool) (m : Metrics) : Call → Metrics
  | .get => m
  | .reload => m.record (.reload success)

section Begins
variable (call : Call) (begins : call = .get → w.snapshot? = none)
include begins

theorem run_failed (e : Error) (failed : ((populate c).run w).1 = .error e) :
    ((call.script c).run w).1 = .error e ∧ ((call.script c).run w).2.snapshot? = w.snapshot? ∧
      ((call.script c).run w).2.metrics = call.counted false w.metrics := by
  have snapshot := snapshot_populate c w
  have metrics := metrics_populate c w
  rw [run_script c w call begins,failed]
  rw [failed] at metrics
  cases call with
  | get => exact ⟨rfl,snapshot,metrics⟩
  | reload => exact ⟨rfl,snapshot,congrArg (Metrics.record · (.reload false)) metrics⟩

theorem run_succeeded (routes : List Route) (loaded : ((populate c).run w).1 = .ok routes) :
    ∃ s, s.routes = routes ∧ ((call.script c).run w).1 = .ok s ∧ ((call.script c).run w).2.snapshot? = some s ∧
      ((call.script c).run w).2.metrics = call.counted true (w.metrics.record (.routesLoaded routes.length)) := by
  have metrics := metrics_populate c w
  rw [run_script c w call begins,loaded]
  rw [loaded] at metrics
  refine ⟨⟨((populate c).run w).2.publications,routes⟩,rfl,?_⟩
  cases call with
  | get => exact ⟨rfl,rfl,metrics⟩
  | reload => exact ⟨rfl,rfl,congrArg (Metrics.record · (.reload true)) metrics⟩

private theorem population_begins : (Deed.call call).population? c w = some ((populate c).run w).1 := by
  cases call with
  | reload => rfl
  | get => simp [Deed.population?,begins rfl]

end Begins

theorem population_iff_begun (call : Call) (outcome : Except Error (List Route)) :
    (Deed.call call).population? c w = some outcome ↔
      ∃ u v, (call.script c).exchanges w = u ++ v ∧ call.Begun c u (.done outcome) := by
  rcases begins_or_found w call with begins | ⟨s,rfl,found⟩
  · rw [population_begins c w call begins,exchanges_script c w call begins]
    have ended := follows_exchanges (populate c) w
    constructor
    · intro same
      obtain rfl := Option.some.inj same
      exact ⟨_,_,(List.append_assoc _ _ _).symm,_,rfl,ended⟩
    · rintro ⟨_,v,whole,u,rfl,ended_too⟩
      rw [List.append_assoc] at whole
      have equal := ended.unique_done _ _ _ _ _ _ _ ended_too (List.append_cancel_left whole)
      exact congrArg some equal.2
  · have whole := (getRoutes_found c w s found).2
    rw [← Call.script_get] at whole
    rw [whole]
    constructor
    · intro same
      simp [Deed.population?,found] at same
    · rintro ⟨_,v,first,u,rfl,_⟩
      -- entering begins with no snapshot found, and here one was found
      cases (List.cons.inj first).1

theorem conduct : Conduct c w where
  found s found := (getRoutes_found c w s found).1
  first absent routes loaded := by
    obtain ⟨s,same,result,snapshot,_⟩ := run_succeeded c w .get (fun _ => absent) routes loaded
    exact ⟨s,same,result,snapshot⟩
  first_failed absent e failed := by
    obtain ⟨result,snapshot,_⟩ := run_failed c w .get (fun _ => absent) e failed
    exact ⟨result,snapshot.trans absent⟩
  reloaded routes loaded := by
    obtain ⟨s,same,result,snapshot,_⟩ := run_succeeded c w .reload nofun routes loaded
    exact ⟨s,same,result,snapshot⟩
  reload_failed e failed := by
    obtain ⟨result,snapshot,_⟩ := run_failed c w .reload nofun e failed
    exact ⟨result,snapshot⟩
  asked := rfl
  populates := population_iff_begun c w

end Calls

section Accounts
variable {σ : Type} [FileReader σ] (c : Config.Routes) (before : List (World σ × Deed σ)) (w : World σ)

private theorem counted_call (call : Call) (success : Bool) (m : Metrics)
    (succeeded : m.reloadsSucceeded = (reloads c before).countP (·.isOk))
    (failed : m.reloadsFailed = (reloads c before).countP (!·.isOk))
    (returned : ((call.script c).run w).1.isOk = success) :
    (call.counted success m).reloadsSucceeded = (reloads c (before ++ [(w,.call call)])).countP (·.isOk) ∧
      (call.counted success m).reloadsFailed = (reloads c (before ++ [(w,.call call)])).countP (!·.isOk) := by
  cases call with
  | get => simp [reloads,Deed.reload?,Call.counted,succeeded,failed]
  | reload =>
    have new : reloads c (before ++ [(w,.call .reload)]) = reloads c before ++ [((Store.reload c).run w).1] := by
      simp [reloads,Deed.reload?]
    rw [Call.script_reload] at returned
    cases success with
    | true => simp [new,returned,Call.counted,Metrics.record,succeeded,failed]
    | false => simp [new,returned,Call.counted,Metrics.record,succeeded,failed]

variable (account : Account c before w)
include account

private theorem account_idle (v : World σ) (d : Deed σ) (unpopulated : d.population? c w = none)
    (unloaded : d.reload? c w = none) (snapshot : v.snapshot? = w.snapshot?) (metrics : v.metrics = w.metrics) :
    Account c (before ++ [(w,d)]) v := by
  have same_populations : populations c (before ++ [(w,d)]) = populations c before := by
    simp [populations,unpopulated]
  have same_reloads : reloads c (before ++ [(w,d)]) = reloads c before := by
    simp [reloads,unloaded]
  constructor
  · rw [snapshot,same_populations,account.snapshot]
  · rw [snapshot,metrics,account.gauge]
  · rw [metrics,same_reloads,account.succeeded]
  · rw [metrics,same_reloads,account.failed]

private theorem account_populating (call : Call) (begins : call = .get → w.snapshot? = none) :
    Account c (before ++ [(w,.call call)]) ((Deed.call call).after c w) := by
  have new : populations c (before ++ [(w,.call call)]) = populations c before ++ [((populate c).run w).1] := by
    simp [populations,population_begins c w call begins]
  unfold Deed.after
  cases outcome : ((populate c).run w).1 with
  | error e =>
    obtain ⟨result,snapshot,metrics⟩ := run_failed c w call begins e outcome
    have gauge : (call.counted false w.metrics).routesLoaded? = w.metrics.routesLoaded? := by cases call <;> rfl
    have counts := counted_call c before w call false w.metrics account.succeeded account.failed (by rw [result]; rfl)
    constructor
    · rw [snapshot,account.snapshot,new,outcome,List.filterMap_append]
      simp [Except.toOption]
    · rw [metrics,snapshot,gauge,account.gauge]
    · rw [metrics,counts.1]
    · rw [metrics,counts.2]
  | ok routes =>
    -- populating has set the gauge before the same routes are published
    obtain ⟨s,same,result,snapshot,metrics⟩ := run_succeeded c w call begins routes outcome
    have gauge (m : Metrics) : (call.counted true m).routesLoaded? = m.routesLoaded? := by cases call <;> rfl
    have counts := counted_call c before w call true (w.metrics.record (.routesLoaded routes.length))
      account.succeeded account.failed (by rw [result]; rfl)
    constructor
    · rw [snapshot,new,outcome,List.filterMap_append]
      simp [Except.toOption,same]
    · rw [metrics,snapshot,gauge,Option.map_some,same]
      rfl
    · rw [metrics,counts.1]
    · rw [metrics,counts.2]

/-- Whatever happens to the store next is accounted for. -/
theorem account_deed (d : Deed σ) : Account c (before ++ [(w,d)]) (d.after c w) := by
  cases d with
  | ask => exact account_idle c before w account _ _ rfl rfl rfl rfl
  | change files => exact account_idle c before w account _ _ rfl rfl rfl rfl
  | call k =>
    rcases begins_or_found w k with begins | ⟨s,rfl,found⟩
    · exact account_populating c before w account k begins
    · have still := congrArg Prod.snd (getRoutes_found c w s found).1
      have unpopulated : (Deed.call Call.get).population? c w = none := by simp [Deed.population?,found]
      exact account_idle c before w account _ _ unpopulated rfl (congrArg World.snapshot? still)
        (congrArg World.metrics still)

end Accounts

section Histories
variable {σ : Type} [FileReader σ] (c : Config.Routes)

theorem past_concat (w : World σ) (deeds : List (Deed σ)) (d : Deed σ) :
    past c w (deeds ++ [d]) = past c w deeds ++ [(afterAll c w deeds,d)] := by
  induction deeds generalizing w with
  | nil => rfl
  | cons e deeds ih => exact congrArg ((w,e) :: ·) (ih (e.after c w))

theorem afterAll_concat (w : World σ) (deeds : List (Deed σ)) (d : Deed σ) :
    afterAll c w (deeds ++ [d]) = d.after c (afterAll c w deeds) :=
  List.foldl_concat _ _ _ _

theorem account_all (files : σ) (deeds : List (Deed σ)) :
    Account c (past c (.start files) deeds) (afterAll c (.start files) deeds) := by
  induction deeds using List.reverseRecOn with
  | nil => exact ⟨rfl,rfl,rfl,rfl⟩
  | append_singleton deeds d account =>
    rw [past_concat,afterAll_concat]
    exact account_deed c _ _ account d

/-- After any calls and changes of files the snapshot, the gauge and the counters tell what has happened,
and what is done next is done as the world then is. -/
theorem history_account (files : σ) (deeds : List (Deed σ)) :
    Account c (past c (.start files) deeds) (afterAll c (.start files) deeds) ∧
      Conduct c (afterAll c (.start files) deeds) :=
  ⟨account_all c files deeds,conduct c _⟩

/-- The malformed file is there, then gone, and then there again. -/
def mixedDeeds : List (Deed MemoryFiles) :=
  [.call .get,.change (mixedFiles.removeFile malformedPath),.call .get,.change mixedFiles,.call .reload,.ask]

theorem history_account_mixed :
    ∃ before w, before = past .default (.start mixedFiles) mixedDeeds ∧
      w = afterAll .default (.start mixedFiles) mixedDeeds ∧
      (populations .default before).map (·.isOk) = [false,true,false] ∧
      w.snapshot?.map (·.routes.length) = some 2 ∧ w.metrics.routesLoaded? = some 2 ∧
      w.metrics.reloadsSucceeded = 0 ∧ w.metrics.reloadsFailed = 1 := by
  have account := (history_account .default mixedFiles mixedDeeds).1
  have loaded : (afterAll .default (.start mixedFiles) mixedDeeds).snapshot?.map (·.routes.length) = some 2 := by
    decide +kernel
  have succeeded : (reloads .default (past .default (.start mixedFiles) mixedDeeds)).countP (·.isOk) = 0 := by
    decide +kernel
  have failed : (reloads .default (past .default (.start mixedFiles) mixedDeeds)).countP (!·.isOk) = 1 := by
    decide +kernel
  refine ⟨_,_,rfl,rfl,by decide +kernel,loaded,account.gauge.trans loaded,?_,?_⟩
  · exact account.succeeded.trans succeeded
  · exact account.failed.trans failed

end Histories
end CannedHttp.Store
