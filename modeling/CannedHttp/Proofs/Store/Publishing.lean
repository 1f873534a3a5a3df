import CannedHttp.Files.Memory
import CannedHttp.Proofs.Store.Locking

/-!
What the callers of the store publish and return. Every snapshot has a finished populating run behind
it, and without reloads the first publication is the only one, since a caller that populates has seen
under the lock that there is none.
-/
namespace CannedHttp.Store.Callers
open Script
variable {σ ι : Type} [DecidableEq ι] (c : Config.Routes) (calls : ι → Call) (m : Callers σ ι)

/-- Some caller has populated and published the routes as this snapshot. -/
def Source (s : Snapshot) : Prop :=
  ∃ i, (calls i).Published c (m.caller i).past s

structure Sourced : Prop where
  published : ∀ i routes s, ⟨.publish routes,s⟩ ∈ (m.caller i).past →
    s.routes = routes ∧ (calls i).Published c (m.caller i).past s
  found : ∀ i s, ⟨.snapshot,some s⟩ ∈ (m.caller i).past → Source c calls m s
  current : ∀ s, m.world.snapshot? = some s → Source c calls m s

/-- There is no snapshot while a caller populates, and otherwise one publication that all have seen. -/
structure Once : Prop where
  sole : ∀ i j r s r' s', ⟨.publish r,s⟩ ∈ (m.caller i).past → ⟨.publish r',s'⟩ ∈ (m.caller j).past → i = j
  kept : ∀ i r s, ⟨.publish r,s⟩ ∈ (m.caller i).past → m.world.snapshot? = some s
  seen : ∀ i s, ⟨.snapshot,some s⟩ ∈ (m.caller i).past → m.world.snapshot? = some s
  absent : ∀ i p, (m.caller i).dropped = false → (calls i).Begun c (m.caller i).past p →
    m.world.snapshot? = none

private theorem source_of_return (locked : Locked c calls m) (sourced : Sourced c calls m) (i : ι) (s : Snapshot)
    (returned : (m.caller i).rest = .done (.ok s)) : Source c calls m s := by
  have follows := locked.follows i
  rw [returned] at follows
  rcases Call.return_origin c (calls i) _ s follows with found | ⟨routes,published⟩
  · exact sourced.found i s found
  · exact ⟨i,(sourced.published i routes s published).2⟩

/-- A dropped caller was waiting, and publishing does not wait. -/
theorem present_of_publishing (locked : Locked c calls m) (i : ι) (routes : List Route)
    (next : Snapshot → Script (Except Error Snapshot))
    (rest : (m.caller i).rest = .step (.publish routes) next) : (m.caller i).dropped = false := by
  rw [← Bool.not_eq_true]
  intro gone
  obtain ⟨action,later,stuck,waiting⟩ := locked.waiting i gone
  rw [rest] at stuck
  cases stuck
  contradiction

/-- Routes that were populated are the snapshot, or their caller still holds the lock to publish them. -/
private theorem populated_cases (locked : Locked c calls m) (once : Once c calls m) (i : ι) (routes : List Route)
    (populated : (calls i).Populated c (m.caller i).past routes) :
    (∃ s, ⟨.publish routes,s⟩ ∈ (m.caller i).past ∧ m.world.snapshot? = some s) ∨
      m.world.snapshot? = none ∧ m.holder? = some i := by
  rcases Call.published_or_next c (calls i) _ _ (locked.follows i) routes populated with ⟨s,wrote⟩ | ⟨begun,rest⟩
  · exact .inl ⟨s,wrote,once.kept i routes s wrote⟩
  · obtain ⟨next,finish⟩ := Call.finish_ok (calls i) routes
    have present := present_of_publishing c calls m locked i routes next (rest.trans finish)
    exact .inr ⟨once.absent i _ present begun,holder_of_begun c calls m locked i present _ begun⟩

private theorem populated_sole (locked : Locked c calls m) (once : Once c calls m) (i j : ι)
    (first second : List Route) (left : (calls i).Populated c (m.caller i).past first)
    (right : (calls j).Populated c (m.caller j).past second) : i = j := by
  rcases populated_cases c calls m locked once i first left with ⟨s,wrote,kept⟩ | ⟨absent,holder⟩
  · rcases populated_cases c calls m locked once j second right with ⟨s',wrote',_⟩ | ⟨absent,_⟩
    · exact once.sole i j first s second s' wrote wrote'
    · rw [kept] at absent
      contradiction
  · rcases populated_cases c calls m locked once j second right with ⟨s',_,kept⟩ | ⟨_,holder'⟩
    · rw [absent] at kept
      contradiction
    · exact Option.some.inj (holder.symm.trans holder')

private theorem return_current (locked : Locked c calls m) (once : Once c calls m) (i : ι) (s : Snapshot)
    (returned : (m.caller i).rest = .done (.ok s)) : m.world.snapshot? = some s := by
  have follows := locked.follows i
  rw [returned] at follows
  rcases Call.return_origin c (calls i) _ s follows with found | ⟨routes,published⟩
  · exact once.seen i s found
  · exact once.kept i routes s published

section Sources
variable [FileReader σ] (n : Callers σ ι)

theorem published_step (step : Step m n) (i : ι) (s : Snapshot)
    (published : (calls i).Published c (m.caller i).past s) :
    (calls i).Published c (n.caller i).past s := by
  obtain ⟨u,longer⟩ := past_step m n step i
  rw [longer]
  exact (calls i).published_append c _ u s published

theorem source_step (step : Step m n) (s : Snapshot) (source : Source c calls m s) :
    Source c calls n s := by
  obtain ⟨i,published⟩ := source
  exact ⟨i,published_step c calls m n step i s published⟩

private theorem published_act (i : ι) (routes : List Route)
    (next : (Action.publish routes).Reply → Script (Except Error Snapshot))
    (follows : Follows ((calls i).script c) (m.caller i).past (.step (.publish routes) next)) :
    (calls i).Published c ((m.act i (.publish routes) next).caller i).past ⟨m.world.publications, routes⟩ := by
  obtain ⟨u,past,ended⟩ := Call.publish_origin c (calls i) _ routes next follows
  rw [caller_act]
  exact ⟨_,[],rfl,u,past,ended⟩

theorem sourced_step (locked : Locked c calls m) (sourced : Sourced c calls m) (step : Step m n) :
    Sourced c calls n := by
  have kept := source_step c calls m n step
  cases step with
  | outside world snapshot =>
    refine ⟨sourced.published,sourced.found,fun s current => ?_⟩
    exact sourced.current s (snapshot.symm.trans current)
  | drop i =>
    refine ⟨fun j routes s member => ?_,fun j s member => ?_,fun s current => kept s (sourced.current s current)⟩
    · rw [past_drop] at member ⊢
      exact sourced.published j routes s member
    · rw [past_drop] at member
      exact kept s (sourced.found j s member)
  | act i action next present rest free =>
    have follows := locked.follows i
    rw [rest] at follows
    refine ⟨fun j routes s member => ?_,fun j s member => ?_,fun s current => ?_⟩
    · rcases mem_past_act m i j action next _ member with old | ⟨rfl,new⟩
      · obtain ⟨same,published⟩ := sourced.published j routes s old
        exact ⟨same,published_step c calls m _ (.act m i action next present rest free) j s published⟩
      · cases new
        exact ⟨rfl,published_act c calls m j routes next follows⟩
    · rcases mem_past_act m i j action next _ member with old | ⟨rfl,new⟩
      · exact kept s (sourced.found j s old)
      · obtain ⟨rfl,reply⟩ := Sigma.mk.inj new
        have current : m.world.snapshot? = some s := (eq_of_heq reply).symm
        exact kept s (sourced.current s current)
    · rcases action.publishes_or_not with ⟨routes,rfl⟩ | other
      · rw [snapshot_publish] at current
        obtain rfl := Option.some.inj current
        exact ⟨i,published_act c calls m i routes next follows⟩
      · rw [snapshot_act m i action next other] at current
        exact kept s (sourced.current s current)

theorem sourced_run (files : σ) (run : Run (start c calls files) m) : Sourced c calls m := by
  induction run with
  | refl => exact ⟨nofun,nofun,nofun⟩
  | tail before step sourced =>
    exact sourced_step c calls _ _ (locked_run c calls _ files before) sourced step

theorem isSome_step (step : Step m n) (some_snapshot : m.world.snapshot?.isSome = true) :
    n.world.snapshot?.isSome = true := by
  cases step with
  | outside world snapshot =>
    rw [snapshot]
    exact some_snapshot
  | drop => exact some_snapshot
  | act i action next =>
    rcases action.publishes_or_not with ⟨routes,rfl⟩ | other
    · rw [snapshot_publish]
      rfl
    · rw [snapshot_act m i action next other]
      exact some_snapshot

theorem isSome_run (run : Run m n) (some_snapshot : m.world.snapshot?.isSome = true) :
    n.world.snapshot?.isSome = true := by
  induction run with
  | refl => exact some_snapshot
  | tail _ step ih => exact isSome_step _ _ step ih

end Sources

section Once
variable [FileReader σ] (n : Callers σ ι) (gets : ∀ i, calls i = .get)
include gets

private theorem absent_act (i : ι) (action : Action) (next : action.Reply → Script (Except Error Snapshot))
    (once : Once c calls m) (present : (m.caller i).dropped = false)
    (p : Script (Except Error (List Route)))
    (begun : (calls i).Begun c ((m.act i action next).caller i).past p) :
    (∀ routes, action ≠ .publish routes) ∧ m.world.snapshot? = none := by
  rw [caller_act] at begun
  rcases Call.begun_last c (calls i) _ _ _ begun with entered | ⟨populating,q,before,_⟩
  · rw [gets i] at entered
    obtain ⟨rfl,reply⟩ := Sigma.mk.inj (Call.last_of_entry _ _ entered)
    exact ⟨nofun,eq_of_heq reply⟩
  · refine ⟨?_,once.absent i q present before⟩
    rintro routes rfl
    contradiction

private theorem once_publish (i : ι) (routes : List Route)
    (next : (Action.publish routes).Reply → Script (Except Error Snapshot)) (locked : Locked c calls m)
    (once : Once c calls m) (present : (m.caller i).dropped = false)
    (rest : (m.caller i).rest = .step (.publish routes) next) :
    Once c calls (m.act i (.publish routes) next) := by
  have follows := locked.follows i
  rw [rest] at follows
  have begun : (calls i).Begun c (m.caller i).past (.done (.ok routes)) :=
    Call.publish_origin c (calls i) _ routes next follows
  -- the publisher has populated under the lock, so nothing was published or seen before
  have absent : m.world.snapshot? = none := once.absent i _ present begun
  have unpublished (j : ι) (r : List Route) (s : Snapshot) : ⟨.publish r,s⟩ ∉ (m.caller j).past := by
    intro member
    have kept := once.kept j r s member
    rw [absent] at kept
    contradiction
  have unseen (j : ι) (s : Snapshot) : ⟨.snapshot,some s⟩ ∉ (m.caller j).past := by
    intro member
    have seen := once.seen j s member
    rw [absent] at seen
    contradiction
  refine ⟨fun j k r s r' s' left right => ?_,fun j r s member => ?_,fun j s member => ?_,fun j p here begun' => ?_⟩
  · rcases mem_past_act m i j _ next _ left with old | ⟨rfl,_⟩
    · exact absurd old (unpublished j r s)
    · rcases mem_past_act m j k _ next _ right with old | ⟨rfl,_⟩
      · exact absurd old (unpublished k r' s')
      · rfl
  · rcases mem_past_act m i j _ next _ member with old | ⟨rfl,new⟩
    · exact absurd old (unpublished j r s)
    · cases new
      rfl
  · rcases mem_past_act m i j _ next _ member with old | ⟨rfl,new⟩
    · exact absurd old (unseen j s)
    · cases new
  · by_cases same : j = i
    · subst same
      exact absurd rfl ((absent_act c calls m gets j _ next once present p begun').1 routes)
    · rw [caller_act_other m i j _ next same] at here begun'
      have first := holder_of_begun c calls m locked i present _ begun
      have second := holder_of_begun c calls m locked j here p begun'
      exact absurd (Option.some.inj (second.symm.trans first)) same

private theorem once_act (i : ι) (action : Action) (next : action.Reply → Script (Except Error Snapshot))
    (once : Once c calls m) (present : (m.caller i).dropped = false)
    (other : ∀ routes, action ≠ .publish routes) : Once c calls (m.act i action next) := by
  have old_publication (j : ι) (r : List Route) (s : Snapshot)
      (member : ⟨.publish r,s⟩ ∈ ((m.act i action next).caller j).past) :
      ⟨.publish r,s⟩ ∈ (m.caller j).past := by
    rcases mem_past_act m i j action next _ member with old | ⟨_,new⟩
    · exact old
    · obtain ⟨same,_⟩ := Sigma.mk.inj new
      exact absurd same.symm (other r)
  have snapshot := snapshot_act m i action next other
  refine ⟨fun j k r s r' s' left right => ?_,fun j r s member => ?_,fun j s member => ?_,fun j p here begun => ?_⟩
  · exact once.sole j k r s r' s' (old_publication j r s left) (old_publication k r' s' right)
  · rw [snapshot]
    exact once.kept j r s (old_publication j r s member)
  · rw [snapshot]
    rcases mem_past_act m i j action next _ member with old | ⟨_,new⟩
    · exact once.seen j s old
    · obtain ⟨rfl,reply⟩ := Sigma.mk.inj new
      exact (eq_of_heq reply).symm
  · rw [snapshot]
    by_cases same : j = i
    · subst same
      exact (absent_act c calls m gets j action next once present p begun).2
    · rw [caller_act_other m i j action next same] at here begun
      exact once.absent j p here begun

theorem once_step (locked : Locked c calls m) (once : Once c calls m) (step : Step m n) : Once c calls n := by
  cases step with
  | outside world snapshot =>
    refine ⟨once.sole,fun i r s member => ?_,fun i s member => ?_,fun i p here begun => ?_⟩
    · exact snapshot.trans (once.kept i r s member)
    · exact snapshot.trans (once.seen i s member)
    · exact snapshot.trans (once.absent i p here begun)
  | drop i =>
    refine ⟨fun j k r s r' s' left right => ?_,fun j r s member => ?_,fun j s member => ?_,fun j p here begun => ?_⟩
    · rw [past_drop] at left right
      exact once.sole j k r s r' s' left right
    · rw [past_drop] at member
      exact once.kept j r s member
    · rw [past_drop] at member
      exact once.seen j s member
    · by_cases same : j = i
      · subst same
        rw [caller_drop] at here
        contradiction
      · rw [caller_drop_other m i j same] at here begun
        exact once.absent j p here begun
  | act i action next present rest free =>
    rcases action.publishes_or_not with ⟨routes,rfl⟩ | other
    · exact once_publish c calls m gets i routes next locked once present rest
    · exact once_act c calls m gets i action next once present other

theorem once_run (files : σ) (run : Run (start c calls files) m) : Once c calls m := by
  induction run with
  | refl => exact ⟨nofun,nofun,nofun,fun _ _ _ _ => rfl⟩
  | tail before step once => exact once_step c calls _ _ gets (locked_run c calls _ files before) once step

end Once

/-- In any order of steps: at most one caller is inside populating, the snapshot comes from a finished
populating run and is never withdrawn, so does every snapshot that is returned, and without reloads one
run alone succeeds and all callers return its snapshot. -/
theorem publishes_atomically [FileReader σ] (files : σ) (run : Run (start c calls files) m) :
    (∀ i j, Inside c calls m i → Inside c calls m j → i = j) ∧
    (∀ s, m.world.snapshot? = some s → Source c calls m s) ∧
    (∀ n, Run m n → m.world.snapshot?.isSome = true → n.world.snapshot?.isSome = true) ∧
    (∀ i s, (m.caller i).rest = .done (.ok s) → Source c calls m s) ∧
    ((∀ i, calls i = .get) →
      (∀ i j first second, (calls i).Populated c (m.caller i).past first →
        (calls j).Populated c (m.caller j).past second → i = j ∧ first = second) ∧
      ∀ i s, (m.caller i).rest = .done (.ok s) → m.world.snapshot? = some s) := by
  have locked := locked_run c calls m files run
  have sourced := sourced_run c calls m files run
  refine ⟨inside_unique c calls m locked,sourced.current,isSome_run m,source_of_return c calls m locked sourced,
    fun gets => ?_⟩
  have once := once_run c calls m gets files run
  refine ⟨fun i j first second left right => ?_,return_current c calls m locked once⟩
  obtain rfl : i = j := populated_sole c calls m locked once i j first second left right
  exact ⟨rfl,Call.populated_unique c (calls i) _ first second left right⟩

def petFiles : MemoryFiles :=
  .ofList [(Utf8.encode "routes/pets.http".toList, "GET /pets\n\nnone".toList)]

def petConfig : Config.Routes :=
  ⟨Utf8.encode "routes".toList, "*.http".toList, false, false, false⟩

/-- One of two callers has the lock, and the other has found no snapshot and waits for it. -/
private theorem exists_waiting : ∃ m : Callers MemoryFiles Bool, Run (start petConfig (fun _ => .get) petFiles) m ∧
    m.holder? = some true ∧ (m.caller true).dropped = false ∧ (m.caller false).dropped = false ∧
    (m.caller true).rest.run m.world = (getRoutes petConfig).run (.start petFiles) ∧
    (m.caller false).past = [⟨.snapshot,(none : Option Snapshot)⟩] ∧
    ∀ (w : World MemoryFiles) s, w.snapshot? = some s → (m.caller false).rest.run w = (.ok s,w) := by
  refine ⟨_,((Relation.ReflTransGen.refl.tail (.act _ true _ _ rfl rfl nofun)).tail
    (.act _ true _ _ rfl rfl fun _ => rfl)).tail (.act _ false _ _ rfl rfl nofun),rfl,rfl,rfl,rfl,rfl,?_⟩
  rintro ⟨⟩ s ⟨⟩
  rfl

/-- The first caller to get the lock populates; the other one, which saw that there was no snapshot before, finds
it when it gets the lock. -/
theorem publishes_atomically_pets : ∃ m : Callers MemoryFiles Bool,
    Run (start petConfig (fun _ => .get) petFiles) m ∧
      ⟨.snapshot,(none : Option Snapshot)⟩ ∈ (m.caller false).past ∧
      ∃ s, (m.caller true).rest = .done (.ok s) ∧ (m.caller false).rest = .done (.ok s) ∧ s.routes.length = 1 ∧
        m.world.snapshot? = some s ∧ Source petConfig (fun _ => .get) m s := by
  have loaded : ((getRoutes petConfig).run (.start petFiles)).1.toOption.map (·.routes.length) = some 1 := by
    decide +kernel
  obtain ⟨m,run,holder,first,second,running,past,waiting⟩ := exists_waiting
  have locked := locked_run petConfig _ m petFiles run
  obtain ⟨n,solo,returned,_,free,_⟩ := solo_alone m true _ first rfl (locked.guarded true first)
    fun j other held => other (Option.some.inj (held.symm.trans holder))
  have before := run.trans (run_of_solo true m n solo)
  rw [running] at returned
  cases result : ((getRoutes petConfig).run (.start petFiles)).1 with
  | error e =>
    rw [result] at loaded
    contradiction
  | ok s =>
    rw [result] at returned loaded
    have snapshot := ((publishes_atomically petConfig _ n petFiles before).2.2.2.2 fun _ => rfl).2 true s returned
    have still : n.caller false = m.caller false := caller_solo m n true false solo (by decide)
    have present : (n.caller false).dropped = false := still ▸ second
    have guarded := (locked_run petConfig _ n petFiles before).guarded false present
    obtain ⟨l,solo',returned',_,_,past'⟩ := solo_alone n false _ present rfl guarded fun _ _ => free ▸ nofun
    have after := before.trans (run_of_solo false n l solo')
    have atomically := publishes_atomically petConfig _ l petFiles after
    rw [still,waiting n.world s snapshot] at returned'
    rw [still,past] at past'
    have kept : l.caller true = n.caller true := caller_solo n l false true solo' (by decide)
    refine ⟨l,after,?_,s,kept ▸ returned,returned',Option.some.inj loaded,?_,?_⟩
    · rw [past']
      exact List.mem_append_left _ List.mem_cons_self
    · exact (atomically.2.2.2.2 fun _ => rfl).2 false s returned'
    · exact atomically.2.2.2.1 false s returned'

end CannedHttp.Store.Callers
