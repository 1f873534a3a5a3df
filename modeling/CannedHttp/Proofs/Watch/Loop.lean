import CannedHttp.Proofs.Store.Readers
import CannedHttp.Proofs.Store.Tracking
import CannedHttp.Startup

/-!
The reload loop among other callers of the store, while the files change. A change is announced some time
after it is made, once the directory is watched. The loop waits for an announcement, lets the changes settle,
takes what has come in, and reloads. Each of its reloads is a caller of its own.
-/
namespace CannedHttp.Watch
open Script
open Store (Call Caller Callers Tracked)

def outcome : Except Store.Error Snapshot → Event
  | .ok s => .changeLoaded s.routes.length
  | .error e => .changeNotLoaded e.message

private theorem reloadOnce_eq (c : Config.Routes) : reloadOnce c =
    .step (.report .changeDetected) fun _ => Store.reload c >>= fun result => report (outcome result) := by
  unfold reloadOnce
  refine congrArg (Script.step _) (funext fun _ => congrArg (Store.reload c >>= ·) (funext fun result => ?_))
  cases result with
  | ok s => rfl
  | error e => rfl

/-- Where the loop stands. It is absent until it is spawned. -/
inductive Phase where
  | absent
  | receiving
  | settling
  | draining
  | reloading
  deriving DecidableEq

/-- Other callers and the rounds of the loop, of which some are over, with the announcements that have come in,
those that have not, and how often the files had changed when the directory began to be watched. -/
structure Loop (σ ι : Type) where
  callers : Tracked σ (ι ⊕ Nat)
  phase : Phase
  rounds : Nat
  channel : Nat
  unsent : Nat
  watchedAt? : Option Nat

namespace Loop
variable {σ ι : Type}

def allCalls (calls : ι → Call) : ι ⊕ Nat → Call :=
  Sum.elim calls fun _ => .reload

def start (c : Config.Routes) (calls : ι → Call) (files : σ) : Loop σ ι :=
  ⟨.start c (allCalls calls) files,.absent,0,0,0,none⟩

def round (m : Loop σ ι) (n : Nat) : Caller :=
  m.callers.store.caller (.inr n)

/-- No announcement is on its way or waits to be received. -/
def Quiet (m : Loop σ ι) : Prop :=
  m.unsent = 0 ∧ m.channel = 0

def change (m : Loop σ ι) (files : σ) : Loop σ ι :=
  { m with
    callers := m.callers.change files
    unsent := if m.watchedAt?.isSome then m.unsent + 1 else m.unsent }

variable [FileReader σ]

/-- An action of no caller. -/
def perform (m : Loop σ ι) (action : Action) : Loop σ ι :=
  { m with callers := m.callers.outside (m.callers.store.world.perform action).2 }

variable [DecidableEq ι]

def work (m : Loop σ ι) (action : Action) (next : action.Reply → Script (Except Store.Error Snapshot)) :
    Loop σ ι :=
  { m with callers := m.callers.act (.inr m.rounds) action next }

inductive Step (c : Config.Routes) : Loop σ ι → Loop σ ι → Prop where
  /-- Another caller acts or is dropped, or the world changes otherwise. -/
  | other (m : Loop σ ι) (callers : Tracked σ (ι ⊕ Nat)) (step : m.callers.Step callers)
      (changes : callers.changes = m.callers.changes)
      (rounds : ∀ n, callers.store.caller (.inr n) = m.round n) : Step c m { m with callers }
  | change (m : Loop σ ι) (files : σ) : Step c m (m.change files)
  | send (m : Loop σ ι) (unsent : Nat) (made : m.unsent = unsent + 1) :
      Step c m { m with unsent, channel := m.channel + 1 }
  | register (m : Loop σ ι) :
      Step c m { m.perform (.watch c.directory) with watchedAt? := some m.callers.changes }
  | spawn (m : Loop σ ι) (absent : m.phase = .absent) (registered : m.watchedAt?.isSome = true) :
      Step c m { m with phase := .receiving }
  | receive (m : Loop σ ι) (channel : Nat) (receiving : m.phase = .receiving)
      (announced : m.channel = channel + 1) : Step c m { m with phase := .settling, channel }
  | settle (m : Loop σ ι) (settling : m.phase = .settling) : Step c m { m with phase := .draining }
  | take (m : Loop σ ι) (channel : Nat) (draining : m.phase = .draining)
      (announced : m.channel = channel + 1) : Step c m { m with channel }
  | begin (m : Loop σ ι) (draining : m.phase = .draining) (drained : m.channel = 0) :
      Step c m { m.perform (.report .changeDetected) with phase := .reloading }
  | work (m : Loop σ ι) (action : Action) (next : action.Reply → Script (Except Store.Error Snapshot))
      (reloading : m.phase = .reloading) (rest : (m.round m.rounds).rest = .step action next)
      (free : action = .acquire → m.callers.store.holder? = none) : Step c m (m.work action next)
  | finish (m : Loop σ ι) (result : Except Store.Error Snapshot) (reloading : m.phase = .reloading)
      (ended : (m.round m.rounds).rest = .done result) :
      Step c m { m.perform (.report (outcome result)) with phase := .receiving, rounds := m.rounds + 1 }

abbrev Run (c : Config.Routes) : Loop σ ι → Loop σ ι → Prop :=
  Relation.ReflTransGen (Step c)

section Invariants
variable (m : Loop σ ι)

/-- Rounds that are over have ended their reload, and those to come have not begun theirs. -/
structure Rounds : Prop where
  present : ∀ n, (m.round n).dropped = false
  ended : ∀ n < m.rounds, ∃ result, (m.round n).rest = .done result
  ahead : ∀ n, m.rounds ≤ n → (n = m.rounds → m.phase ≠ .reloading) → (m.round n).past = []

/-- With no announcement left, no change was made since the last round began to read, or if there has been
none, since the directory began to be watched. -/
structure Abreast : Prop where
  receiving : m.phase = .receiving → m.rounds ≠ 0 → m.Quiet →
    m.callers.readAt? (.inr (m.rounds - 1)) = some m.callers.changes
  reloading : m.phase = .reloading → m.Quiet → m.callers.readAt? (.inr m.rounds) = none ∨
    m.callers.readAt? (.inr m.rounds) = some m.callers.changes
  absent : m.phase = .absent → m.rounds = 0
  watched : m.phase ≠ .absent → m.watchedAt?.isSome = true
  unheard : m.phase = .absent ∨ m.phase = .receiving → m.rounds = 0 → m.Quiet →
    ∀ k, m.watchedAt? = some k → k = m.callers.changes

end Invariants
section Steps
variable (c : Config.Routes) (calls : ι → Call) (m n : Loop σ ι)

private theorem round_work (action : Action) (next : action.Reply → Script (Except Store.Error Snapshot)) (k : Nat)
    (other : k ≠ m.rounds) : (m.work action next).round k = m.round k :=
  Callers.caller_act_other m.callers.store _ _ action next fun same => other (Sum.inr.inj same)

private theorem rounds_step (rounds : Rounds m) (step : Step c m n) : Rounds n := by
  have idle (phase : Phase) (stands : m.phase = phase) (other : phase ≠ .reloading) (k : Nat)
      (later : m.rounds ≤ k) : (m.round k).past = [] :=
    rounds.ahead k later fun _ => stands ▸ other
  cases step with
  | other callers _ _ same =>
    have round (k : Nat) : Loop.round { m with callers } k = m.round k := same k
    refine ⟨fun k => ?_,fun k earlier => ?_,fun k later first => ?_⟩
    · rw [round]
      exact rounds.present k
    · rw [round]
      exact rounds.ended k earlier
    · rw [round]
      exact rounds.ahead k later first
  | change files => exact ⟨rounds.present,rounds.ended,rounds.ahead⟩
  | send => exact ⟨rounds.present,rounds.ended,rounds.ahead⟩
  | register => exact ⟨rounds.present,rounds.ended,rounds.ahead⟩
  | spawn absent =>
    exact ⟨rounds.present,rounds.ended,fun k later _ => idle _ absent nofun k later⟩
  | receive channel receiving =>
    exact ⟨rounds.present,rounds.ended,fun k later _ => idle _ receiving nofun k later⟩
  | settle settling =>
    exact ⟨rounds.present,rounds.ended,fun k later _ => idle _ settling nofun k later⟩
  | take => exact ⟨rounds.present,rounds.ended,rounds.ahead⟩
  | begin draining =>
    exact ⟨rounds.present,rounds.ended,fun k later _ => idle _ draining nofun k later⟩
  | work action next reloading =>
    refine ⟨fun k => ?_,fun k earlier => ?_,fun k later first => ?_⟩
    · by_cases own : k = m.rounds
      · subst own
        change ((m.callers.store.act _ action next).caller (.inr m.rounds)).dropped = false
        rw [Callers.caller_act]
      · rw [round_work m action next k own]
        exact rounds.present k
    · rw [round_work m action next k (Nat.ne_of_lt earlier)]
      exact rounds.ended k earlier
    · have own : k ≠ m.rounds := fun same => first same reloading
      rw [round_work m action next k own]
      exact rounds.ahead k later fun same => absurd same own
  | finish result reloading ended =>
    refine ⟨rounds.present,fun k earlier => ?_,fun k later _ => ?_⟩
    · rcases Nat.lt_succ_iff_lt_or_eq.mp earlier with before | rfl
      · exact rounds.ended k before
      · exact ⟨result,ended⟩
    · change m.rounds + 1 ≤ k at later
      exact rounds.ahead k (by omega) (by omega)

private theorem traced_step (steady : FileReader.Steady σ) (rounds : Rounds m)
    (traced : m.callers.Traced c (allCalls calls)) (step : Step c m n) :
    n.callers.Traced c (allCalls calls) := by
  have stepped (callers : Tracked σ (ι ⊕ Nat)) (step : m.callers.Step callers) :
      callers.Traced c (allCalls calls) :=
    Tracked.traced_step c (allCalls calls) m.callers callers steady traced step
  cases step with
  | other callers step => exact stepped callers step
  | change files => exact stepped _ (.change m.callers files)
  | register => exact stepped _ (.outside m.callers _ rfl rfl rfl)
  | begin => exact stepped _ (.outside m.callers _ rfl rfl rfl)
  | finish => exact stepped _ (.outside m.callers _ rfl rfl rfl)
  | work action next _ rest free =>
    exact stepped _ (.act m.callers (.inr m.rounds) action next (rounds.present m.rounds) rest free)
  | _ => exact traced

omit [FileReader σ] [DecidableEq ι] in
private theorem abreast_of_busy (busy : n.phase = .settling ∨ n.phase = .draining)
    (watched : n.watchedAt?.isSome = true) : Abreast n := by
  have apart (phase : Phase) (stands : n.phase = phase) : phase = .settling ∨ phase = .draining :=
    stands ▸ busy
  refine ⟨fun stands => ?_,fun stands => ?_,fun stands => ?_,fun _ => watched,fun stands => ?_⟩
  · exact absurd (apart _ stands) (by decide)
  · exact absurd (apart _ stands) (by decide)
  · exact absurd (apart _ stands) (by decide)
  · rcases stands with stands | stands
    · exact absurd (apart _ stands) (by decide)
    · exact absurd (apart _ stands) (by decide)

private theorem abreast_other (callers : Tracked σ (ι ⊕ Nat)) (step : m.callers.Step callers)
    (changes : callers.changes = m.callers.changes) (same : ∀ n, callers.store.caller (.inr n) = m.round n)
    (abreast : Abreast m) : Abreast { m with callers } := by
  have readAt (k : Nat) : callers.readAt? (.inr k) = m.callers.readAt? (.inr k) :=
    Tracked.readAt_of_same m.callers callers step (.inr k) (same k)
  refine ⟨?_,?_,abreast.absent,abreast.watched,?_⟩
  · rw [readAt,changes]
    exact abreast.receiving
  · rw [readAt,changes]
    exact abreast.reloading
  · rw [changes]
    exact abreast.unheard

omit [FileReader σ] [DecidableEq ι] in
/-- The announcement of a change is on its way. -/
private theorem abreast_change (files : σ) (abreast : Abreast m) : Abreast (m.change files) := by
  have announced (watched : m.watchedAt?.isSome = true) : ¬(m.change files).Quiet := by
    rintro ⟨unsent,_⟩
    unfold change at unsent
    rw [if_pos watched] at unsent
    exact nomatch unsent
  refine ⟨fun receiving _ quiet => ?_,fun reloading quiet => ?_,abreast.absent,abreast.watched,
    fun _ _ quiet k at_k => ?_⟩
  · exact absurd quiet (announced (abreast.watched fun absent => nomatch receiving.symm.trans absent))
  · exact absurd quiet (announced (abreast.watched fun absent => nomatch reloading.symm.trans absent))
  · exact absurd quiet (announced (Option.isSome_of_mem at_k))

omit [FileReader σ] [DecidableEq ι] in
private theorem abreast_send (unsent : Nat) (abreast : Abreast m) :
    Abreast { m with unsent, channel := m.channel + 1 } := by
  have announced : ¬Quiet { m with unsent, channel := m.channel + 1 } := fun quiet => nomatch quiet.2
  exact ⟨fun _ _ quiet => absurd quiet announced,fun _ quiet => absurd quiet announced,abreast.absent,
    abreast.watched,fun _ _ quiet => absurd quiet announced⟩

omit [FileReader σ] [DecidableEq ι] in
/-- A round that has done nothing has read nothing. -/
private theorem unread_of_unbegun (dated : Tracked.Dated c (allCalls calls) m.callers) (k : Nat)
    (unbegun : (m.round k).past = []) : m.callers.readAt? (.inr k) = none := by
  rw [← Option.not_isSome_iff_eq_none,dated.asked (.inr k)]
  rintro ⟨path,reply,member⟩
  change _ ∈ (m.round k).past at member
  rw [unbegun] at member
  contradiction

omit [DecidableEq ι] in
/-- The round that begins has not read anything. -/
private theorem abreast_begin (rounds : Rounds m) (dated : Tracked.Dated c (allCalls calls) m.callers)
    (abreast : Abreast m) (draining : m.phase = .draining) :
    Abreast { m.perform (.report .changeDetected) with phase := .reloading } := by
  have unbegun := rounds.ahead m.rounds (Nat.le_refl _) fun _ same => nomatch draining.symm.trans same
  have watched := abreast.watched fun absent => nomatch draining.symm.trans absent
  exact ⟨nofun,fun _ _ => .inl (unread_of_unbegun c calls m dated m.rounds unbegun),nofun,fun _ => watched,nofun⟩

/-- Either the round goes on reading, or it begins to read and is dated by the last change. -/
private theorem abreast_work (action : Action) (next : action.Reply → Script (Except Store.Error Snapshot))
    (abreast : Abreast m) (reloading : m.phase = .reloading) : Abreast (m.work action next) := by
  have apart (phase : Phase) (stands : m.phase = phase) : phase = .reloading := stands.symm.trans reloading
  refine ⟨fun stands => absurd (apart _ stands) (by decide),fun _ quiet => ?_,abreast.absent,abreast.watched,
    fun stands => absurd (stands.imp (apart _) (apart _)) (by decide)⟩
  change m.callers.stamped _ action (.inr m.rounds) = none ∨
    m.callers.stamped _ action (.inr m.rounds) = some m.callers.changes
  rcases Tracked.stamped_self m.callers (.inr m.rounds) action with same | ⟨_,new⟩
  · rw [same]
    exact abreast.reloading reloading quiet
  · exact .inr new

/-- A reload that has ended has begun to read, so its date is that of the last change. -/
private theorem abreast_finish (result : Except Store.Error Snapshot) (traced : m.callers.Traced c (allCalls calls))
    (abreast : Abreast m) (reloading : m.phase = .reloading) (ended : (m.round m.rounds).rest = .done result) :
    Abreast { m.perform (.report (outcome result)) with phase := .receiving, rounds := m.rounds + 1 } := by
  have asked : Store.Asked (m.round m.rounds).past := by
    have follows := traced.locked.follows (.inr m.rounds)
    change Follows _ _ (m.round m.rounds).rest at follows
    rw [ended] at follows
    exact Call.asked_of_reload c _ result follows
  have read : m.callers.readAt? (.inr m.rounds) ≠ none :=
    Option.isSome_iff_ne_none.mp ((traced.dated.asked (.inr m.rounds)).mpr asked)
  have watched := abreast.watched fun absent => nomatch reloading.symm.trans absent
  exact ⟨fun _ _ quiet => (abreast.reloading reloading quiet).resolve_left read,nofun,nofun,fun _ => watched,
    fun _ none_over => nomatch none_over⟩

private theorem abreast_step (rounds : Rounds m) (traced : m.callers.Traced c (allCalls calls)) (abreast : Abreast m)
    (step : Step c m n) : Abreast n := by
  have watched (phase : Phase) (stands : m.phase = phase) (spawned : phase ≠ .absent) :
      m.watchedAt?.isSome = true :=
    abreast.watched (stands ▸ spawned)
  cases step with
  | other callers step changes same => exact abreast_other m callers step changes same abreast
  | change files => exact abreast_change m files abreast
  | send unsent made => exact abreast_send m unsent abreast
  | register =>
    exact ⟨abreast.receiving,abreast.reloading,abreast.absent,fun _ => rfl,
      fun _ _ _ k at_k => (Option.some.inj at_k).symm⟩
  | spawn absent registered =>
    exact ⟨fun _ some_rounds => absurd (abreast.absent absent) some_rounds,nofun,nofun,fun _ => registered,
      fun _ => abreast.unheard (.inl absent)⟩
  | receive channel receiving => exact abreast_of_busy _ (.inl rfl) (watched _ receiving nofun)
  | settle settling => exact abreast_of_busy _ (.inr rfl) (watched _ settling nofun)
  | take channel draining => exact abreast_of_busy _ (.inr draining) (watched _ draining nofun)
  | begin draining => exact abreast_begin c calls m rounds traced.dated abreast draining
  | work action next reloading => exact abreast_work m action next abreast reloading
  | finish result reloading ended => exact abreast_finish c calls m result traced abreast reloading ended

structure Kept : Prop where
  rounds : Rounds m
  traced : m.callers.Traced c (allCalls calls)
  abreast : Abreast m

theorem kept_step (steady : FileReader.Steady σ) (kept : Kept c calls m) (step : Step c m n) : Kept c calls n :=
  ⟨rounds_step c m n kept.rounds step,traced_step c calls m n steady kept.rounds kept.traced step,
    abreast_step c calls m n kept.rounds kept.traced kept.abreast step⟩

theorem kept_start (files : σ) : Kept c calls (start c calls files) where
  rounds := ⟨fun _ => rfl,fun _ earlier => absurd earlier (Nat.not_lt_zero _),fun _ _ _ => rfl⟩
  traced := Tracked.traced_start c (allCalls calls) files
  abreast := ⟨nofun,nofun,fun _ => rfl,fun spawned => absurd rfl spawned,nofun⟩

theorem kept_run (steady : FileReader.Steady σ) (kept : Kept c calls m) (run : Run c m n) : Kept c calls n := by
  induction run with
  | refl => exact kept
  | tail _ step kept => exact kept_step c calls _ _ steady kept step

omit [FileReader σ] in
/-- A round that is over has gone through the script for it. -/
private theorem round_follows (locked : Callers.Locked c (allCalls calls) m.callers.store) (k : Nat)
    (result : Except Store.Error Snapshot) (ended : (m.round k).rest = .done result) :
    Follows (reloadOnce c) (⟨.report .changeDetected,()⟩ ::
      ((m.round k).past ++ [⟨.report (outcome result),()⟩])) (.done ()) := by
  have reloaded : Follows (Store.reload c) (m.round k).past (.done result) := by
    rw [← ended]
    exact locked.follows (.inr k)
  rw [reloadOnce_eq]
  refine .step _ _ _ _ _ ((reloaded.bind _ _ _ _).append _ _ _ _ _ ?_)
  exact .step (.report (outcome result)) () .done [] _ (.here _)

theorem settled_waiting (kept : Kept c calls m) (receiving : m.phase = .receiving) (heard : m.rounds ≠ 0)
    (quiet : m.Quiet) :
    (∀ routes, Store.populated c m.callers.files = .ok routes →
      m.callers.store.world.snapshot?.map (·.routes) = some routes) ∧
    ∀ e, Store.populated c m.callers.files = .error e → Callers.Latest c (allCalls calls) m.callers.store := by
  obtain ⟨result,ended⟩ := kept.rounds.ended (m.rounds - 1) (by omega)
  have read := kept.abreast.receiving receiving heard quiet
  have present := kept.rounds.present (m.rounds - 1)
  exact Tracked.settled c (allCalls calls) m.callers kept.traced _ present result ended read

/-- When the loop waits again with no announcement left, its last round began to read after the last change.
The snapshot is then what populating gives, or if that fails, what it gave when it last succeeded. -/
theorem loses_no_change (steady : FileReader.Steady σ) (files : σ) (run : Run c (start c calls files) m)
    (receiving : m.phase = .receiving) (heard : m.rounds ≠ 0) (quiet : m.Quiet) :
    m.callers.readAt? (.inr (m.rounds - 1)) = some m.callers.changes ∧
    (∃ result, Follows (reloadOnce c) (⟨.report .changeDetected,()⟩ ::
      ((m.round (m.rounds - 1)).past ++ [⟨.report (outcome result),()⟩])) (.done ())) ∧
    (∀ routes, Store.populated c m.callers.files = .ok routes →
      m.callers.store.world.snapshot?.map (·.routes) = some routes) ∧
    ∀ e, Store.populated c m.callers.files = .error e → Callers.Latest c (allCalls calls) m.callers.store := by
  have kept := kept_run c calls _ m steady (kept_start c calls files) run
  obtain ⟨result,ended⟩ := kept.rounds.ended (m.rounds - 1) (by omega)
  exact ⟨kept.abreast.receiving receiving heard quiet,
    ⟨result,round_follows c calls m kept.traced.locked _ result ended⟩,
    settled_waiting c calls m kept receiving heard quiet⟩

end Steps

section Ends
variable (c : Config.Routes) (calls : ι → Call) (m : Loop σ ι)

/-- What a caller does alone is done in the loop if each of its actions is a step there. -/
theorem run_solo (p : ι ⊕ Nat) (store : Callers σ (ι ⊕ Nat)) (solo : Callers.Solo p m.callers.store store)
    (steps : ∀ (callers : Tracked σ (ι ⊕ Nat)) action next, (callers.store.caller p).dropped = false →
      (callers.store.caller p).rest = .step action next → (action = .acquire → callers.store.holder? = none) →
      Step c { m with callers } { m with callers := callers.act p action next }) :
    ∃ callers : Tracked σ (ι ⊕ Nat), callers.store = store ∧ callers.changes = m.callers.changes ∧
      Run c m { m with callers } := by
  induction solo with
  | refl => exact ⟨m.callers,rfl,rfl,.refl⟩
  | tail _ acts ih =>
    obtain ⟨callers,rfl,changes,run⟩ := ih
    cases acts with
    | act action next present rest free =>
      exact ⟨callers.act p action next,rfl,changes,run.tail (steps callers action next present rest free)⟩

variable (steady : FileReader.Steady σ) (kept : Kept c calls m)
include steady kept

/-- A round that is under way comes to its end if no other caller has the lock. -/
theorem run_round (reloading : m.phase = .reloading)
    (free : ∀ p, p ≠ .inr m.rounds → m.callers.store.holder? ≠ some p) :
    ∃ callers : Tracked σ (ι ⊕ Nat), Run c m { m with callers, phase := .receiving, rounds := m.rounds + 1 } ∧
      callers.files = m.callers.files ∧ callers.store.holder? = none ∧
      ∀ p, p ≠ .inr m.rounds → callers.store.caller p = m.callers.store.caller p := by
  have present := kept.rounds.present m.rounds
  obtain ⟨store,solo,ended,world,holder,_⟩ := Callers.solo_alone m.callers.store (.inr m.rounds) _ present rfl
    (kept.traced.locked.guarded _ present) free
  obtain ⟨callers,rfl,_,run⟩ := run_solo c m _ store solo fun callers action next _ rest free =>
    .work { m with callers } action next reloading rest free
  refine ⟨_,run.tail (.finish { m with callers } _ reloading ended),?_,holder,fun p other => ?_⟩
  · change callers.store.world.files = m.callers.files
    rw [world,Script.files_run steady]
    rfl
  · exact Callers.caller_solo m.callers.store callers.store _ p solo other

/-- Another caller comes to its end if none has the lock but it. -/
theorem run_caller (i : ι) (present : (m.callers.store.caller (.inl i)).dropped = false)
    (free : ∀ p, p ≠ .inl i → m.callers.store.holder? ≠ some p) :
    ∃ callers : Tracked σ (ι ⊕ Nat), Run c m { m with callers } ∧
      (∃ result, (callers.store.caller (.inl i)).rest = .done result) ∧
      callers.files = m.callers.files ∧ callers.store.holder? = none := by
  obtain ⟨store,solo,ended,world,holder,_⟩ := Callers.solo_alone m.callers.store (.inl i) _ present rfl
    (kept.traced.locked.guarded _ present) free
  obtain ⟨callers,rfl,_,run⟩ := run_solo c m _ store solo fun callers action next present rest free =>
    .other { m with callers } _ (.act callers (.inl i) action next present rest free) rfl fun _ =>
      Callers.caller_act_other callers.store _ _ action next nofun
  refine ⟨callers,run,⟨_,ended⟩,?_,holder⟩
  unfold Tracked.files
  rw [world,Script.files_run steady]

end Ends

open Store (bareDisk onePetDisk petDisk)

/-- A file comes before a reload and two more during it, while another caller waits for the lock. -/
private theorem exists_reloading : ∃ m : Loop Disk Unit, Run .default (start .default (fun _ => .get) bareDisk) m ∧
    m.phase = .reloading ∧ m.rounds = 0 ∧ m.unsent = 0 ∧ m.channel = 1 ∧ m.callers.files = petDisk ∧
    m.callers.store.holder? = some (.inr 0) ∧ m.callers.readAt? (.inr 0) = some 1 ∧ m.callers.changes = 2 ∧
    (m.callers.store.caller (.inl ())).past = [⟨.snapshot,(none : Option Snapshot)⟩] ∧
    (m.callers.store.caller (.inl ())).dropped = false := by
  have told : Relation.ReflTransGen (Step .default) (start .default (fun _ : Unit => .get) bareDisk) _ :=
    ((((((Relation.ReflTransGen.refl.tail (.register _)).tail (.spawn _ rfl rfl)).tail
      (.change _ onePetDisk)).tail (.send _ 0 rfl)).tail (.receive _ 0 rfl rfl)).tail (.settle _ rfl)).tail
      (.begin _ rfl rfl)
  have reading := ((told.tail (.work _ _ _ rfl rfl fun _ => rfl)).tail
    (.other _ _ (.act _ (.inl ()) _ _ rfl rfl nofun) rfl fun _ => rfl)).tail (.work _ _ _ rfl rfl nofun)
  exact ⟨_,(reading.tail (.change _ petDisk)).tail (.send _ 0 rfl),rfl,rfl,rfl,rfl,rfl,rfl,rfl,rfl,rfl,rfl⟩

/-- The announcement that comes during the first reload brings about a second one, which reads what is there by
then. In between the other caller gets the lock and returns. -/
theorem loses_no_change_pets : ∃ m : Loop Disk Unit, Run .default (start .default (fun _ => .get) bareDisk) m ∧
    m.phase = .receiving ∧ m.rounds = 2 ∧ m.Quiet ∧ m.callers.files = petDisk ∧
    m.callers.readAt? (.inr 1) = some m.callers.changes ∧
    (∃ result, (m.callers.store.caller (.inl ())).rest = .done result) ∧
    m.callers.store.world.snapshot?.map (·.routes.length) = some 2 := by
  obtain ⟨m,run,reloading,rounds,unsent,channel,files,holder,_,_,_,present⟩ := exists_reloading
  have kept (n : Loop Disk Unit) (run : Run .default (start .default (fun _ => .get) bareDisk) n) :
      Kept .default (fun _ => .get) n :=
    kept_run _ _ _ n Disk.steady (kept_start _ _ bareDisk) run
  obtain ⟨first,ended,files₁,free,same⟩ := run_round _ _ m Disk.steady (kept m run) reloading fun p other held =>
    other (rounds ▸ (Option.some.inj (held.symm.trans holder)))
  have reloaded := run.trans ended
  have still := same (.inl ()) nofun
  obtain ⟨second,returned,result,files₂,free'⟩ := run_caller _ _ _ Disk.steady (kept _ reloaded) ()
    (still ▸ present) fun _ _ => free ▸ nofun
  have told := (((reloaded.trans returned).tail (.receive _ 0 rfl channel)).tail (.settle _ rfl)).tail
    (.begin _ rfl rfl)
  obtain ⟨third,ended',files₃,_,same'⟩ := run_round _ _ _ Disk.steady (kept _ told) rfl fun _ _ => free' ▸ nofun
  have whole := told.trans ended'
  obtain ⟨read,_,loaded,_⟩ := loses_no_change .default (fun _ => .get) _ Disk.steady bareDisk whole rfl
    (Nat.succ_ne_zero _) ⟨unsent,rfl⟩
  have here : third.files = petDisk := files₃.trans (files₂.trans (files₁.trans files))
  obtain ⟨routes,populated,two⟩ := Store.populated_petDisk
  have snapshot := congrArg (Option.map List.length) (loaded routes (here ▸ populated))
  rw [Option.map_map] at snapshot
  have rounds₃ : m.rounds + 1 + 1 = 2 := congrArg (· + 2) rounds
  have last : m.rounds + 1 + 1 - 1 = 1 := congrArg (· - 1) rounds₃
  have rested := congrArg Caller.rest (same' (.inl ()) nofun)
  obtain ⟨outcome,rest⟩ := result
  exact ⟨_,whole,rfl,rounds₃,⟨unsent,rfl⟩,here,last ▸ read,⟨outcome,rested.trans rest⟩,
    snapshot.trans (congrArg some two)⟩

end Loop
end CannedHttp.Watch
