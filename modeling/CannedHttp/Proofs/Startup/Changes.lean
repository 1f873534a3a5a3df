import CannedHttp.Proofs.Startup.Launch
import CannedHttp.Proofs.Store.History

/-!
Changes while a server is brought up. The routes are loaded before the directory is watched, so a change in
between is announced to nobody. Every other change is loaded by the pre-warm or by the loop.
-/
namespace CannedHttp.Startup
open Script
open Store (Call Caller Callers Tracked)
open Watch (Loop)

section Present
variable {σ : Type} [FileReader σ] (c : Config)

/-- Where the directory of the routes is there, it is each time that a script asks for it. -/
theorem there_exchanges {α : Type} (steady : FileReader.Steady σ) (s : Script α) (uses : s.Uses (Asks c))
    (w : World σ) (present : FileReader.directoryExists w.files c.routes.directory = true) :
    ∀ e ∈ s.exchanges w, there e = true := by
  induction s generalizing w with
  | done a => exact nofun
  | step action next ih =>
    have first : there ⟨action,(w.perform action).1⟩ = true := by
      cases action with
      | directoryExists directory =>
        obtain rfl := uses.1 directory rfl
        exact present
      | _ => rfl
    have later := ih (w.perform action).1 (uses.2 _) (w.perform action).2 (w.files_perform steady action ▸ present)
    exact List.forall_mem_cons.mpr ⟨first,later⟩

/-- Loading the routes asks for their directory only, and binds no address. -/
theorem getRoutes_uses :
    (Store.getRoutes c.routes).Uses fun action => Asks c action ∧ ∀ address, action ≠ .bind address := by
  have populating : (Store.populate c.routes).Uses fun action =>
      Asks c action ∧ ∀ address, action ≠ .bind address := by
    refine uses_mono _ _ (fun action both => ⟨both.2,?_⟩) _ (Store.populate_uses c.routes)
    rintro address rfl
    exact nomatch both.1
  rw [Call.getRoutes_eq]
  refine ⟨⟨nofun,nofun⟩,fun found => ?_⟩
  cases found with
  | some s => trivial
  | none =>
    refine ⟨⟨nofun,nofun⟩,fun _ => ⟨⟨nofun,nofun⟩,fun found => ?_⟩⟩
    cases found with
    | some s => exact ⟨⟨nofun,nofun⟩,fun _ => trivial⟩
    | none =>
      exact uses_bind _ _ _ populating fun outcome =>
        Call.finish_uses _ .get outcome (fun _ => ⟨nofun,nofun⟩) ⟨nofun,nofun⟩ fun _ _ => ⟨nofun,nofun⟩

private theorem taken_getRoutes (w : World σ) : ((Store.getRoutes c.routes).run w).2.taken = w.taken := by
  refine run_keeps _ World.taken (fun w action both => ?_) _ (getRoutes_uses c) w
  cases action with
  | bind address => exact absurd rfl (both.2 address)
  | _ => rfl

private theorem asked_getRoutes (w : World σ) (absent : w.snapshot? = none) :
    Store.Asked ((Store.getRoutes c.routes).exchanges w) := by
  rw [← Call.script_get,Store.exchanges_script c.routes w .get fun _ => absent]
  exact ⟨c.routes.directory,_,List.mem_append_right _ (List.mem_append_left _ List.mem_cons_self)⟩

/-- With the routes loaded and the directory there only the address can be missing. -/
theorem ready_succeeds (watch : c.routes.watch = true) (s : Snapshot) (w : World σ)
    (present : FileReader.directoryExists w.files c.routes.directory = true) (address : SocketAddress)
    (bound : Network.bind w.taken c.listener.address = .ok address) :
    ((ready c (.ok s)).run w).1 = .ok ⟨address,true⟩ := by
  have sought (v : World σ) (files : v.files = w.files) : (Store.pathExists c.routes.directory).run v = (true,v) := by
    rw [Store.pathExists,run_bind]
    change Script.run (if FileReader.directoryExists v.files c.routes.directory = true then _ else _) v = _
    rw [if_pos (files ▸ present)]
    rfl
  have watching (v : World σ) (files : v.files = w.files) :
      (startWatching c.routes).run v = (true,((Watch.start c.routes).run v).2) := by
    rw [startWatching,if_pos watch,run_bind,sought v files]
    rfl
  have listening (v : World σ) (taken : v.taken = w.taken) :
      ((bindListener c.listener.address).run v).1 = .ok address := by
    change (v.perform (.bind c.listener.address)).1 = _
    simp only [World.perform,taken,bound]
    rfl
  rw [ready,run_bind,run_bind,watching,run_bind,listening]
  all_goals rfl

end Present

namespace Launch

section Solo
variable {σ : Type} [FileReader σ] (c : Config) (m : Launch σ)

private theorem registered (started : Started) (returned : m.stage = .readying (.done (.ok started)))
    (kept : Kept c m) (found : ∀ e ∈ m.past, there e = true) : m.loop.watchedAt?.isSome = true := by
  have staged := kept.staged
  unfold Staged at staged
  rw [returned] at staged
  exact staged.2.1 found

private theorem run_warm (stage : m.stage = .warming) (store : Callers σ (Unit ⊕ Nat))
    (solo : Callers.Solo (.inl ()) m.loop.callers.store store) :
    ∃ callers : Tracked σ (Unit ⊕ Nat), ∃ u, callers.store = store ∧
      callers.changes = m.loop.callers.changes ∧
      (callers.readAt? (.inl ()) = m.loop.callers.readAt? (.inl ()) ∨
        callers.readAt? (.inl ()) = some m.loop.callers.changes) ∧
      (store.caller (.inl ())).past = m.prewarm.past ++ u ∧
      Run c m ⟨{ m.loop with callers },.warming,m.past ++ u⟩ := by
  induction solo with
  | refl =>
    refine ⟨m.loop.callers,[],rfl,rfl,.inl rfl,(List.append_nil _).symm,?_⟩
    rw [List.append_nil,← stage]
  | tail _ acts ih =>
    obtain ⟨callers,u,rfl,changes,readAt,past,run⟩ := ih
    cases acts with
    | act action next present rest free =>
      refine ⟨callers.act (.inl ()) action next,u ++ [⟨action,(callers.store.world.perform action).1⟩],rfl,
        changes,?_,?_,?_⟩
      · change callers.stamped _ action _ = _ ∨ callers.stamped _ action _ = _
        rcases Tracked.stamped_self callers (.inl ()) action with same | ⟨_,new⟩
        · rw [same]
          exact readAt
        · exact .inr (new.trans (congrArg some changes))
      · rw [Callers.caller_act,past,List.append_assoc]
      · rw [← List.append_assoc]
        exact run.tail (.warm ⟨{ m.loop with callers },.warming,m.past ++ u⟩ action next rfl rest free)

/-- The loop after a script of the start that nothing comes between. -/
def conductAll : Script (Except Error Started) → Loop σ Unit → Loop σ Unit
  | .done _, m => m
  | .step action next, m => conductAll (next (m.callers.store.world.perform action).1) (conduct m action)

theorem conductAll_eq (s : Script (Except Error Started)) (m : Loop σ Unit) : conductAll s m =
    { m with
      callers := m.callers.outside (s.run m.callers.store.world).2
      watchedAt? := (conductAll s m).watchedAt? } := by
  induction s generalizing m with
  | done result => rfl
  | step action next ih =>
    have first : conduct m action = { m.perform action with watchedAt? := (conduct m action).watchedAt? } := by
      cases action <;> rfl
    have later := ih (m.callers.store.world.perform action).1 (conduct m action)
    rw [first] at later
    unfold conductAll
    rw [first]
    exact later

theorem run_ready (s : Script (Except Error Started)) (stage : m.stage = .readying s) :
    Run c m ⟨conductAll s m.loop,.readying (.done (s.run m.loop.callers.store.world).1),
      m.past ++ s.exchanges m.loop.callers.store.world⟩ := by
  induction s generalizing m with
  | done result =>
    change Run c m ⟨m.loop,.readying (.done result),m.past ++ []⟩
    rw [List.append_nil,← stage]
  | step action next ih =>
    have later := ih (m.reply action) ⟨conduct m.loop action,.readying (next (m.reply action)),
      m.past ++ [⟨action,m.reply action⟩]⟩ rfl
    have world : (conduct m.loop action).callers.store.world = (m.loop.callers.store.world.perform action).2 := by
      cases action <;> rfl
    rw [world,List.append_assoc] at later
    exact .head (.prepare m action next stage) later

theorem run_prewarm (stage : m.stage = .measuring (.done (.ok ())))
    (fresh : m.prewarm = ⟨[],Store.getRoutes c.routes,false⟩) (holder : m.loop.callers.store.holder? = none) :
    ∃ callers : Tracked σ (Unit ⊕ Nat), callers.changes = m.loop.callers.changes ∧
      (callers.readAt? (.inl ()) = m.loop.callers.readAt? (.inl ()) ∨
        callers.readAt? (.inl ()) = some m.loop.callers.changes) ∧
      callers.store.world = ((Store.getRoutes c.routes).run m.loop.callers.store.world).2 ∧
      (callers.store.caller (.inl ())).past = (Store.getRoutes c.routes).exchanges m.loop.callers.store.world ∧
      Run c m ⟨{ m.loop with callers },
        .readying (ready c ((Store.getRoutes c.routes).run m.loop.callers.store.world).1),
        m.past ++ (Store.getRoutes c.routes).exchanges m.loop.callers.store.world⟩ := by
  obtain ⟨store,solo,ended,world,_,past⟩ := Callers.solo_alone m.loop.callers.store (.inl ())
    (Store.getRoutes c.routes) (congrArg Caller.dropped fresh) (congrArg Caller.rest fresh)
    (holder ▸ Call.script_guarded c.routes .get) (fun _ _ => holder ▸ nofun)
  have unbegun : (m.loop.callers.store.caller (.inl ())).past = [] := congrArg Caller.past fresh
  obtain ⟨callers,u,rfl,changes,readAt,past',run⟩ := run_warm c { m with stage := .warming } rfl store solo
  rw [unbegun,List.nil_append] at past
  have same : u = (Store.getRoutes c.routes).exchanges m.loop.callers.store.world := by
    rw [← past,past']
    change u = (m.loop.callers.store.caller (.inl ())).past ++ u
    rw [unbegun,List.nil_append]
  subst same
  refine ⟨callers,changes,readAt,world,past,.head (.enter m stage) (run.tail ?_)⟩
  exact .leave ⟨{ m.loop with callers },.warming,_⟩ _ rfl ended

/-- A pre-warm that is alone loads the files that are there. -/
theorem run_loaded (steady : FileReader.Steady σ) (stage : m.stage = .measuring (.done (.ok ())))
    (fresh : m.prewarm = ⟨[],Store.getRoutes c.routes,false⟩) (holder : m.loop.callers.store.holder? = none)
    (absent : m.loop.callers.store.world.snapshot? = none)
    (present : FileReader.directoryExists m.loop.callers.files c.routes.directory = true) (routes : List Route)
    (populated : Store.populated c.routes m.loop.callers.files = .ok routes) :
    ∃ (callers : Tracked σ (Unit ⊕ Nat)) (s : Snapshot) (u : List Exchange), s.routes = routes ∧
      callers.store.world.snapshot? = some s ∧ callers.files = m.loop.callers.files ∧
      callers.store.world.taken = m.loop.callers.store.world.taken ∧ callers.changes = m.loop.callers.changes ∧
      (callers.readAt? (.inl ()) = m.loop.callers.readAt? (.inl ()) ∨
        callers.readAt? (.inl ()) = some m.loop.callers.changes) ∧
      Store.Asked (callers.store.caller (.inl ())).past ∧ (∀ e ∈ u, there e = true) ∧
      Run c m ⟨{ m.loop with callers },.readying (ready c (.ok s)),m.past ++ u⟩ := by
  obtain ⟨callers,changes,readAt,world,past,run⟩ := run_prewarm c m stage fresh holder
  have outcome := (Store.run_populate c.routes m.loop.callers.store.world).trans populated
  obtain ⟨s,same,result,snapshot⟩ := (Store.conduct c.routes _).first absent routes outcome
  rw [result] at run
  refine ⟨callers,s,_,same,?_,?_,?_,changes,readAt,?_,?_,run⟩
  · rw [world,snapshot]
  · exact (congrArg World.files world).trans (Script.files_run steady _ _)
  · rw [world,taken_getRoutes]
  · rw [past]
    exact asked_getRoutes c _ absent
  · exact there_exchanges c steady _ (uses_mono _ _ (fun _ both => both.1) _ (getRoutes_uses c)) _ present

/-- A start that has loaded the routes finds the directory, and the loop waits for announcements after it. -/
theorem run_finish (steady : FileReader.Steady σ) (prewarmed : c.routes.prewarm = true)
    (watch : c.routes.watch = true) (files : σ) (run : Run c (start c files) m) (s : Snapshot)
    (stage : m.stage = .readying (ready c (.ok s))) (absent : m.loop.phase = .absent) (quiet : m.loop.Quiet)
    (found : ∀ e ∈ m.past, there e = true)
    (present : FileReader.directoryExists m.loop.callers.files c.routes.directory = true) (address : SocketAddress)
    (bound : Network.bind m.loop.callers.store.world.taken c.listener.address = .ok address) :
    ∃ n, Run c (start c files) n ∧ n.stage = .readying (.done (.ok ⟨address,true⟩)) ∧
      (∀ e ∈ n.past, there e = true) ∧ n.loop.phase = .receiving ∧ n.loop.Quiet ∧
      n.loop.callers.files = m.loop.callers.files ∧ n.loop.callers.changes = m.loop.callers.changes ∧
      n.loop.callers.readAt? = m.loop.callers.readAt? ∧
      n.loop.callers.store.world.snapshot? = m.loop.callers.store.world.snapshot? := by
  have readied := run.trans (run_ready c m _ stage)
  have loop := conductAll_eq (ready c (.ok s)) m.loop
  have plain := plain_ready c (.ok s)
  rw [ready_succeeds c watch s _ present address bound] at readied
  have all : ∀ e ∈ m.past ++ (ready c (.ok s)).exchanges m.loop.callers.store.world, there e = true := by
    have asks := uses_mono _ _ (fun _ plain => plain.1) _ plain
    exact List.forall_mem_append.mpr ⟨found,there_exchanges c steady _ asks _ present⟩
  have kept := kept_run c _ steady prewarmed watch files readied
  have watched := registered c _ _ rfl kept all
  have phase : (conductAll (ready c (.ok s)) m.loop).phase = .absent := (congrArg Loop.phase loop).trans absent
  have callers : (conductAll (ready c (.ok s)) m.loop).callers =
      m.loop.callers.outside ((ready c (.ok s)).run m.loop.callers.store.world).2 := congrArg Loop.callers loop
  have changes := congrArg Tracked.changes callers
  have readAt := congrArg Tracked.readAt? callers
  have world := congrArg (·.store.world) callers
  refine ⟨_,readied.tail (.other _ _ (.spawn _ phase watched) rfl rfl),rfl,all,rfl,⟨?_,?_⟩,?_,?_,?_,?_⟩
  · exact (congrArg Loop.unsent loop).trans quiet.1
  · exact (congrArg Loop.channel loop).trans quiet.2
  · exact (congrArg World.files world).trans (Script.files_run steady _ _)
  · exact changes
  · exact readAt
  · have unpublished (w : World σ) (action : Action) (plain : Plain c action) := w.snapshot_perform action plain.2.1
    exact (congrArg World.snapshot? world).trans (run_keeps _ World.snapshot? unpublished _ plain _)

end Solo

section Changes
variable {σ : Type} [FileReader σ] (c : Config) (m : Launch σ)

/-- The last change was made after the pre-warm had begun to read and before the directory was watched. -/
def Missed : Prop :=
  m.loop.watchedAt? = some m.loop.callers.changes ∧ m.loop.callers.readAt? (.inl ()) ≠ some m.loop.callers.changes

/-- After a start in which the directory was there, with no announcement left and none worked on, the snapshot
is what populating gives, unless the last change fell between the pre-warm and the watching. -/
theorem up_to_date_unless_missed (started : Started)
    (returned : m.stage = .readying (.done (.ok started))) (steady : FileReader.Steady σ)
    (prewarmed : c.routes.prewarm = true) (watch : c.routes.watch = true) (files : σ) (run : Run c (start c files) m)
    (found : ∀ e ∈ m.past, there e = true) (idle : m.loop.phase = .absent ∨ m.loop.phase = .receiving)
    (quiet : m.loop.Quiet) (noticed : ¬m.Missed) :
    Follows (Startup.start c) m.past (.done (.ok started)) ∧
      ∀ routes, Store.populated c.routes m.loop.callers.files = .ok routes →
        m.loop.callers.store.world.snapshot?.map (·.routes) = some routes := by
  have kept := kept_run c m steady prewarmed watch files run
  have follows := kept.follows
  have staged := kept.staged
  unfold left at follows
  unfold Staged at staged
  rw [returned] at follows staged
  refine ⟨follows,?_⟩
  -- either the pre-warm has seen the last change, or a round of the loop has
  by_cases read : m.loop.callers.readAt? (.inl ()) = some m.loop.callers.changes
  · obtain ⟨result,ended⟩ := staged.2.2.resolve_right fun ⟨_,failed⟩ => nomatch failed
    exact (Tracked.settled c.routes _ m.loop.callers kept.loop.traced (.inl ()) kept.present result ended read).1
  · have heard : m.loop.rounds ≠ 0 := by
      intro none_over
      obtain ⟨k,watched⟩ := Option.isSome_iff_exists.mp (registered c m started returned kept found)
      obtain rfl := kept.loop.abreast.unheard idle none_over quiet k watched
      exact noticed ⟨watched,read⟩
    have receiving := idle.resolve_left fun absent => heard (kept.loop.abreast.absent absent)
    exact (Loop.settled_waiting c.routes _ m.loop kept.loop receiving heard quiet).1

end Changes

section Pets
open Store (onePetDisk petDisk onePetDisk_stocked petDisk_stocked)

def petStart : Config :=
  { Config.default with routes := { Config.Routes.default with watch := true } }

private theorem bound_pets : Network.bind [] petStart.listener.address = .ok (.v4 [127,0,0,1] 5080) := by
  decide +kernel

/-- The files come before the routes are loaded. -/
theorem up_to_date_unless_missed_pets : ∃ (m : Launch Disk) (started : Started) (routes : List Route),
    Run petStart (start petStart onePetDisk) m ∧ m.stage = .readying (.done (.ok started)) ∧
      (∀ e ∈ m.past, there e = true) ∧ m.loop.phase = .receiving ∧ m.loop.Quiet ∧ ¬m.Missed ∧
      Store.populated petStart.routes m.loop.callers.files = .ok routes ∧ routes.length = 2 ∧
      m.loop.callers.store.world.snapshot?.map (·.routes) = some routes := by
  obtain ⟨routes,populated,two⟩ := Store.populated_petDisk
  let before := start petStart onePetDisk
  let changed : Launch Disk := { before with loop := before.loop.change petDisk }
  have change : Run petStart before changed := .single (.other _ _ (.change _ petDisk) rfl rfl)
  obtain ⟨callers,s,u,_,_,files,taken,changes,readAt,asked,found,run⟩ := run_loaded petStart changed Disk.steady rfl
    rfl rfl rfl petDisk_stocked.present routes populated
  have warmed := change.trans run
  obtain ⟨m,run,returned,found,receiving,quiet,files',changes',readAt',_⟩ := run_finish petStart _ Disk.steady rfl
    rfl onePetDisk warmed s rfl rfl ⟨rfl,rfl⟩ found (files ▸ petDisk_stocked.present) _
    ((congrArg (Network.bind · _) taken).trans bound_pets)
  have here : m.loop.callers.files = petDisk := files'.trans files
  have noticed : ¬m.Missed := by
    rintro ⟨_,unread⟩
    have kept := kept_run petStart _ Disk.steady rfl rfl onePetDisk warmed
    have begun := (kept.loop.traced.dated.asked (.inl ())).mpr asked
    rw [readAt',changes'] at unread
    rcases readAt with never | current
    · exact nomatch (congrArg Option.isSome never).symm.trans begun
    · exact unread (current.trans (congrArg some changes.symm))
  have current := (up_to_date_unless_missed petStart m _ returned Disk.steady rfl rfl onePetDisk run found
    (.inr receiving) quiet noticed).2 routes (here ▸ populated)
  exact ⟨m,_,routes,run,returned,found,receiving,quiet,noticed,here ▸ populated,two,current⟩

/-- The files come after the routes were loaded and before the directory is watched. -/
theorem up_to_date_fails_if_missed : ∃ (m : Launch Disk) (started : Started) (routes : List Route),
    Run petStart (start petStart onePetDisk) m ∧ m.stage = .readying (.done (.ok started)) ∧
      (∀ e ∈ m.past, there e = true) ∧ m.loop.phase = .receiving ∧ m.loop.Quiet ∧
      Store.populated petStart.routes m.loop.callers.files = .ok routes ∧
      m.loop.callers.store.world.snapshot?.map (·.routes) ≠ some routes := by
  obtain ⟨old,before,one⟩ := Store.populated_onePetDisk
  obtain ⟨routes,populated,two⟩ := Store.populated_petDisk
  obtain ⟨callers,s,u,same,snapshot,files,taken,_,_,_,found,run⟩ := run_loaded petStart (start petStart onePetDisk)
    Disk.steady rfl rfl rfl rfl onePetDisk_stocked.present old before
  have changed := run.tail (.other _ _ (.change _ petDisk) rfl rfl)
  obtain ⟨m,run,returned,found,receiving,quiet,files',_,_,snapshot'⟩ := run_finish petStart _ Disk.steady rfl rfl
    onePetDisk changed s rfl rfl ⟨rfl,rfl⟩ found petDisk_stocked.present _
    ((congrArg (Network.bind · _) taken).trans bound_pets)
  refine ⟨m,_,routes,run,returned,found,receiving,quiet,files' ▸ populated,?_⟩
  have stale : m.loop.callers.store.world.snapshot? = some s := snapshot'.trans snapshot
  rw [stale]
  intro current
  have lengths := congrArg List.length (same.symm.trans (Option.some.inj current))
  exact absurd (one.symm.trans (lengths.trans two)) (by decide)

end Pets
end Launch
end CannedHttp.Startup
