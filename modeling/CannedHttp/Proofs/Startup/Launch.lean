import CannedHttp.Proofs.Startup.Scripts
import CannedHttp.Proofs.Watch.Loop

/-!
Bringing a server up while the files change and the reload loop runs. The pre-warm is a caller of the store,
the loop is spawned once the directory is watched, and the start goes through its script one action at a time.
-/
namespace CannedHttp.Startup
open Script
open Store (Call Caller Callers Tracked)
open Watch (Loop)

/-- How far the start is: before the pre-warm, in it, or after it. -/
inductive Stage where
  | measuring (rest : Script (Except Error Unit))
  | warming
  | readying (rest : Script (Except Error Started))

/-- A start with the exchanges that it has gone through. Its pre-warm is a caller of the store. -/
structure Launch (σ : Type) where
  loop : Loop σ Unit
  stage : Stage
  past : List Exchange

namespace Launch
variable {σ : Type}

def start (c : Config) (files : σ) : Launch σ :=
  ⟨.start c.routes (fun _ => .get) files,.measuring (startMetrics c.observability),[]⟩

def prewarm (m : Launch σ) : Caller :=
  m.loop.callers.store.caller (.inl ())

def left (c : Config) (m : Launch σ) : Script (Except Error Started) :=
  match m.stage with
  | .measuring rest => rest >>= measured c
  | .warming => m.prewarm.rest >>= ready c
  | .readying rest => rest

variable [FileReader σ]

def reply (m : Launch σ) (action : Action) : action.Reply :=
  (m.loop.callers.store.world.perform action).1

/-- The loop after an action of the start outside the pre-warm. -/
def conduct (m : Loop σ Unit) (action : Action) : Loop σ Unit :=
  match action with
  | .watch directory => { m.perform (.watch directory) with watchedAt? := some m.callers.changes }
  | action => m.perform action

inductive Step (c : Config) : Launch σ → Launch σ → Prop where
  /-- The loop or the files go on without the start. -/
  | other (m : Launch σ) (loop : Loop σ Unit) (step : m.loop.Step c.routes loop)
      (own : loop.callers.store.caller (.inl ()) = m.prewarm) (watchedAt : loop.watchedAt? = m.loop.watchedAt?) :
      Step c m { m with loop }
  | measure (m : Launch σ) (action : Action) (next : action.Reply → Script (Except Error Unit))
      (stage : m.stage = .measuring (.step action next)) :
      Step c m ⟨conduct m.loop action,.measuring (next (m.reply action)),m.past ++ [⟨action,m.reply action⟩]⟩
  | refuse (m : Launch σ) (e : Error) (stage : m.stage = .measuring (.done (.error e))) :
      Step c m { m with stage := .readying (.done (.error e)) }
  | enter (m : Launch σ) (stage : m.stage = .measuring (.done (.ok ()))) : Step c m { m with stage := .warming }
  | warm (m : Launch σ) (action : Action) (next : action.Reply → Script (Except Store.Error Snapshot))
      (stage : m.stage = .warming) (rest : m.prewarm.rest = .step action next)
      (free : action = .acquire → m.loop.callers.store.holder? = none) :
      Step c m ⟨{ m.loop with callers := m.loop.callers.act (.inl ()) action next },.warming,
        m.past ++ [⟨action,m.reply action⟩]⟩
  | leave (m : Launch σ) (result : Except Store.Error Snapshot) (stage : m.stage = .warming)
      (ended : m.prewarm.rest = .done result) : Step c m { m with stage := .readying (ready c result) }
  | prepare (m : Launch σ) (action : Action) (next : action.Reply → Script (Except Error Started))
      (stage : m.stage = .readying (.step action next)) :
      Step c m ⟨conduct m.loop action,.readying (next (m.reply action)),m.past ++ [⟨action,m.reply action⟩]⟩

abbrev Run (c : Config) : Launch σ → Launch σ → Prop :=
  Relation.ReflTransGen (Step c)

section Invariants
variable (c : Config) (m n : Launch σ)

/-- What is left at a stage does what is expected there, and the pre-warm is over unless the start has failed. -/
def Staged (m : Launch σ) : Prop :=
  match m.stage with
  | .measuring rest => rest.Uses (Plain c) ∧ m.prewarm.rest = Store.getRoutes c.routes
  | .warming => True
  | .readying rest => rest.Uses (Plain c) ∧
    ((∀ e ∈ m.past, there e = true) → Watches rest m.loop.watchedAt?.isSome) ∧
    ((∃ result, m.prewarm.rest = .done result) ∨ ∃ e, rest = .done (.error e))

structure Kept : Prop where
  loop : Loop.Kept c.routes (fun _ => .get) m.loop
  present : m.prewarm.dropped = false
  follows : Follows (Startup.start c) m.past (m.left c)
  staged : Staged c m

private theorem conduct_step (steady : FileReader.Steady σ) (m : Loop σ Unit) (action : Action)
    (plain : Plain c action) : m.Step c.routes (conduct m action) := by
  have files := m.callers.store.world.files_perform steady action
  have snapshot := m.callers.store.world.snapshot_perform action plain.2.1
  have publications := m.callers.store.world.publications_perform action plain.2.1
  cases action with
  | watch directory =>
    obtain rfl := plain.2.2 directory rfl
    exact .register m
  | _ => exact .other m _ (.outside m.callers _ files snapshot publications) rfl fun _ => rfl

private theorem caller_conduct (m : Loop σ Unit) (action : Action) :
    (conduct m action).callers.store.caller = m.callers.store.caller := by
  cases action <;> rfl

private theorem watchedAt_conduct (m : Loop σ Unit) (action : Action) :
    (conduct m action).watchedAt?.isSome = (m.watchedAt?.isSome || watches action) := by
  cases action with
  | watch directory => exact (Bool.or_true _).symm
  | _ => exact (Bool.or_false _).symm

theorem loop_step (steady : FileReader.Steady σ) (kept : Kept c m) (step : Step c m n) :
    Loop.Run c.routes m.loop n.loop := by
  have staged := kept.staged
  unfold Staged at staged
  cases step with
  | other loop step => exact .single step
  | measure action next stage =>
    rw [stage] at staged
    exact .single (conduct_step c steady m.loop action staged.1.1)
  | refuse => exact .refl
  | enter => exact .refl
  | warm action next stage rest free =>
    refine .single (.other m.loop _ (.act m.loop.callers (.inl ()) action next kept.present rest free) rfl fun k => ?_)
    exact Callers.caller_act_other m.loop.callers.store _ _ action next nofun
  | leave => exact .refl
  | prepare action next stage =>
    rw [stage] at staged
    exact .single (conduct_step c steady m.loop action staged.1.1)

private theorem present_step (present : m.prewarm.dropped = false) (step : Step c m n) :
    n.prewarm.dropped = false := by
  cases step with
  | other loop _ own =>
    change (loop.callers.store.caller (.inl ())).dropped = false
    rw [own]
    exact present
  | measure action =>
    change ((conduct m.loop action).callers.store.caller _).dropped = false
    rw [caller_conduct]
    exact present
  | prepare action =>
    change ((conduct m.loop action).callers.store.caller _).dropped = false
    rw [caller_conduct]
    exact present
  | warm action next =>
    change ((m.loop.callers.store.act _ action next).caller (.inl ())).dropped = false
    rw [Callers.caller_act]
  | _ => exact present

theorem follows_step (kept : Kept c m) (step : Step c m n) : Follows (Startup.start c) n.past (n.left c) := by
  have follows := kept.follows
  have staged := kept.staged
  unfold left at follows
  unfold Staged at staged
  cases step with
  | other loop _ own =>
    unfold left prewarm
    rw [own]
    exact follows
  | measure action next stage =>
    rw [stage] at follows
    exact follows.last _ _ action (m.reply action) _
  | refuse e stage =>
    rw [stage] at follows
    exact follows
  | enter stage =>
    rw [stage] at follows staged
    change Follows _ _ (m.prewarm.rest >>= ready c)
    rw [staged.2]
    exact follows
  | warm action next stage rest =>
    rw [stage,rest] at follows
    have here := Callers.caller_act m.loop.callers.store (.inl ()) action next
    change Follows _ _ (((m.loop.callers.store.act (.inl ()) action next).caller (.inl ())).rest >>= ready c)
    rw [here]
    exact follows.last _ _ action (m.reply action) _
  | leave result stage ended =>
    rw [stage,ended] at follows
    exact follows
  | prepare action next stage =>
    rw [stage] at follows
    exact follows.last _ _ action (m.reply action) _

theorem staged_step (watch : c.routes.watch = true) (kept : Kept c m) (step : Step c m n) : Staged c n := by
  have staged := kept.staged
  unfold Staged at staged ⊢
  cases step with
  | other loop _ own watchedAt =>
    have rest : (Launch.mk loop m.stage m.past).prewarm = m.prewarm := own
    rw [rest,watchedAt]
    exact staged
  | measure action next stage =>
    rw [stage] at staged
    refine ⟨staged.1.2 (m.reply action),?_⟩
    unfold prewarm
    rw [caller_conduct]
    exact staged.2
  | refuse e stage => exact ⟨trivial,fun _ => trivial,.inr ⟨e,rfl⟩⟩
  | enter => trivial
  | warm => trivial
  | leave result stage ended =>
    exact ⟨plain_ready c result,fun _ => watches_ready c watch result _,.inl ⟨result,ended⟩⟩
  | prepare action next stage =>
    rw [stage] at staged
    obtain ⟨uses,watching,ended⟩ := staged
    refine ⟨uses.2 (m.reply action),fun all => ?_,.inl ?_⟩
    · have before := watching fun e member => all e (List.mem_append_left _ member)
      rw [watchedAt_conduct]
      exact before (m.reply action) (all _ (by simp))
    · unfold prewarm
      rw [caller_conduct]
      exact ended.resolve_right fun ⟨_,failed⟩ => nomatch failed

theorem kept_step (steady : FileReader.Steady σ) (watch : c.routes.watch = true) (kept : Kept c m)
    (step : Step c m n) : Kept c n where
  loop := Loop.kept_run c.routes (fun _ => .get) m.loop n.loop steady kept.loop (loop_step c m n steady kept step)
  present := present_step c m n kept.present step
  follows := follows_step c m n kept step
  staged := staged_step c m n watch kept step

theorem kept_start (prewarmed : c.routes.prewarm = true) (files : σ) : Kept c (start c files) where
  loop := Loop.kept_start c.routes (fun _ => .get) files
  present := rfl
  follows := by
    rw [start_eq c prewarmed]
    exact .here _
  staged := ⟨plain_startMetrics c c.observability,rfl⟩

theorem kept_run (steady : FileReader.Steady σ) (prewarmed : c.routes.prewarm = true)
    (watch : c.routes.watch = true) (files : σ) (run : Run c (start c files) m) : Kept c m := by
  induction run with
  | refl => exact kept_start c prewarmed files
  | tail _ step kept => exact kept_step c _ _ steady watch kept step

end Invariants
end Launch
end CannedHttp.Startup
