import CannedHttp.Proofs.Store.Latest
import CannedHttp.Proofs.Store.Reading

/-!
Callers of a store whose files change. It is counted how often the files have changed, and noted of every
caller how often they had when it began to read. Since populating goes on under the lock, callers publish in
the order in which they began to read, so once a caller that began after the last change has ended, the
snapshot is what populating the files as they are gives.
-/
namespace CannedHttp.Store
open Script

/-- Callers, how often the files have changed, and how often they had when a caller began to read. -/
structure Tracked (σ κ : Type) where
  store : Callers σ κ
  changes : Nat
  readAt? : κ → Option Nat

namespace Tracked
variable {σ κ : Type}

def files (m : Tracked σ κ) : σ :=
  m.store.world.files

def start (c : Config.Routes) (calls : κ → Call) (files : σ) : Tracked σ κ :=
  ⟨.start c calls files,0,fun _ => none⟩

def change (m : Tracked σ κ) (files : σ) : Tracked σ κ :=
  { m with store.world.files := files, changes := m.changes + 1 }

def outside (m : Tracked σ κ) (world : World σ) : Tracked σ κ :=
  { m with store.world := world }

variable [DecidableEq κ]

/-- A caller begins to read when it first asks for the directory. -/
def stamped (m : Tracked σ κ) (p : κ) : Action → κ → Option Nat
  | .directoryExists _ => Function.update m.readAt? p (some ((m.readAt? p).getD m.changes))
  | _ => m.readAt?

def drop (m : Tracked σ κ) (p : κ) : Tracked σ κ :=
  { m with store := m.store.drop p }

variable [FileReader σ]

def act (m : Tracked σ κ) (p : κ) (action : Action)
    (next : action.Reply → Script (Except Error Snapshot)) : Tracked σ κ :=
  { m with store := m.store.act p action next, readAt? := m.stamped p action }

inductive Step : Tracked σ κ → Tracked σ κ → Prop where
  | act (m : Tracked σ κ) (p : κ) (action : Action)
      (next : action.Reply → Script (Except Error Snapshot))
      (present : (m.store.caller p).dropped = false) (rest : (m.store.caller p).rest = .step action next)
      (free : action = .acquire → m.store.holder? = none) : Step m (m.act p action next)
  | drop (m : Tracked σ κ) (p : κ) (action : Action)
      (next : action.Reply → Script (Except Error Snapshot))
      (present : (m.store.caller p).dropped = false) (rest : (m.store.caller p).rest = .step action next)
      (waiting : action.awaits = true) : Step m (m.drop p)
  | change (m : Tracked σ κ) (files : σ) : Step m (m.change files)
  | outside (m : Tracked σ κ) (world : World σ) (files : world.files = m.files)
      (snapshot : world.snapshot? = m.store.world.snapshot?)
      (publications : world.publications = m.store.world.publications) : Step m (m.outside world)

private theorem store_step (m n : Tracked σ κ) (step : Step m n) : Callers.Step m.store n.store := by
  cases step with
  | act p action next present rest free => exact .act m.store p action next present rest free
  | drop p action next present rest waiting => exact .drop m.store p action next present rest waiting
  | change files => exact .outside m.store _ rfl rfl
  | outside world _ snapshot publications => exact .outside m.store world snapshot publications

section Stamps
omit [FileReader σ]
variable (m : Tracked σ κ) (p q : κ) (action : Action)

private theorem stamped_other (other : q ≠ p) : m.stamped p action q = m.readAt? q := by
  cases action with
  | directoryExists path => exact Function.update_of_ne other _ _
  | _ => rfl

private theorem stamped_eq (other : ∀ path, action ≠ .directoryExists path) : m.stamped p action = m.readAt? := by
  cases action with
  | directoryExists path => exact absurd rfl (other path)
  | _ => rfl

private theorem stamped_cases (k : Nat) (stamp : m.stamped p action p = some k) :
    m.readAt? p = some k ∨ m.readAt? p = none ∧ k = m.changes ∧ ∃ path, action = .directoryExists path := by
  cases action with
  | directoryExists path =>
    have set : some ((m.readAt? p).getD m.changes) = some k :=
      (Function.update_self p _ m.readAt?).symm.trans stamp
    cases read : m.readAt? p with
    | none =>
      rw [read] at set
      exact .inr ⟨rfl,(Option.some.inj set).symm,path,rfl⟩
    | some j =>
      rw [read] at set
      exact .inl set
  | _ => exact .inl stamp

theorem stamped_self : m.stamped p action p = m.readAt? p ∨
    m.readAt? p = none ∧ m.stamped p action p = some m.changes := by
  cases stamp : m.stamped p action p with
  | none =>
    cases action with
    | directoryExists path => exact nomatch (Function.update_self p _ m.readAt?).symm.trans stamp
    | _ => exact .inl stamp.symm
  | some k =>
    rcases stamped_cases m p action k stamp with old | ⟨unread,rfl,_⟩
    · exact .inl old.symm
    · exact .inr ⟨unread,rfl⟩

private theorem stamped_isSome : (m.stamped p action p).isSome = true ↔
    (m.readAt? p).isSome = true ∨ ∃ path, action = .directoryExists path := by
  cases action with
  | directoryExists path =>
    have set : m.stamped p (.directoryExists path) p = some ((m.readAt? p).getD m.changes) :=
      Function.update_self p _ m.readAt?
    rw [set]
    exact iff_of_true rfl (.inr ⟨path,rfl⟩)
  | _ => simp [stamped]

end Stamps

theorem readAt_of_same (m n : Tracked σ κ) (step : Step m n) (q : κ)
    (same : n.store.caller q = m.store.caller q) : n.readAt? q = m.readAt? q := by
  cases step with
  | act p action next =>
    by_cases own : q = p
    · subst own
      have longer := congrArg Caller.past same
      unfold act at longer
      rw [Callers.caller_act] at longer
      simp at longer
    · exact stamped_other m p q action own
  | _ => rfl

section Traces
variable (c : Config.Routes) (calls : κ → Call) (m n : Tracked σ κ)

/-- The caller is in the middle of populating, or about to end its call after it. -/
def Begun (p : κ) (r : Script (Except Error (List Route))) : Prop :=
  (m.store.caller p).dropped = false ∧ (calls p).Begun c (m.store.caller p).past r

/-- Who has asked for the directory is dated, and who populates has the latest date. -/
structure Dated : Prop where
  asked : ∀ p, (m.readAt? p).isSome = true ↔ Asked (m.store.caller p).past
  bounded : ∀ p k, m.readAt? p = some k → k ≤ m.changes
  newest : ∀ p r, Begun c calls m p r → ∀ q j k, m.readAt? p = some j → m.readAt? q = some k → k ≤ j

/-- A caller that began to read after the last change finds out what the files have, and publishes it. -/
structure Current : Prop where
  told : ∀ p r, Begun c calls m p r → m.readAt? p = some m.changes → Tells c m.files r
  shown : ∀ p, (m.store.caller p).dropped = false → m.readAt? p = some m.changes →
    ∀ routes, populated c m.files = .ok routes →
      m.store.world.snapshot?.map (·.routes) = some routes ∨ ∃ r, Begun c calls m p r

structure Traced : Prop where
  locked : Callers.Locked c calls m.store
  sourced : Callers.Sourced c calls m.store
  numbered : Callers.Numbered m.store
  dated : Dated c calls m
  current : Current c calls m

/-- If some caller began to read after the last change, what a caller is about to publish is up to date. -/
private theorem publishing_current (locked : Callers.Locked c calls m.store) (dated : Dated c calls m)
    (current : Current c calls m) (p q : κ) (present : (m.store.caller p).dropped = false) (routes : List Route)
    (next : Snapshot → Script (Except Error Snapshot))
    (rest : (m.store.caller p).rest = .step (.publish routes) next) (read : m.readAt? q = some m.changes) :
    populated c m.files = .ok routes := by
  have follows := locked.follows p
  rw [rest] at follows
  have begun := Call.publish_origin c (calls p) _ routes next follows
  have asked := (dated.asked p).mpr (Call.asked_of_populated c (calls p) _ _ begun)
  obtain ⟨k,stamp⟩ := Option.isSome_iff_exists.mp asked
  have least := dated.newest p _ ⟨present,begun⟩ q k m.changes stamp read
  have most := dated.bounded p k stamp
  obtain rfl : k = m.changes := Nat.le_antisymm most least
  exact (outcome_of_tells c m.files _ (current.told p _ ⟨present,begun⟩ stamp)).symm

/-- A caller that has populated after the last change is about to publish what it has found. -/
private theorem publishing_of_done (locked : Callers.Locked c calls m.store) (current : Current c calls m) (p : κ)
    (outcome : Except Error (List Route)) (begun : Begun c calls m p (.done outcome))
    (read : m.readAt? p = some m.changes) (routes : List Route) (loaded : populated c m.files = .ok routes) :
    ∃ next, (m.store.caller p).rest = .step (.publish routes) next := by
  have result := outcome_of_tells c m.files outcome (current.told p _ begun read)
  have finishing := Call.rest_of_begun c (calls p) _ _ (locked.follows p) _ begun.2
  obtain ⟨next,finish⟩ := Call.finish_ok (calls p) routes
  rw [result,loaded] at finishing
  exact ⟨next,finishing.trans finish⟩

end Traces

section Acts
variable (c : Config.Routes) (calls : κ → Call) (m : Tracked σ κ) (p q : κ) (action : Action)
  (next : action.Reply → Script (Except Error Snapshot)) (r : Script (Except Error (List Route)))

private theorem begun_act_other (other : q ≠ p) : Begun c calls (m.act p action next) q r ↔ Begun c calls m q r := by
  unfold Begun act
  rw [Callers.caller_act_other m.store p q action next other]

private theorem asked_act : Asked ((m.act p action next).store.caller p).past ↔
    Asked (m.store.caller p).past ∨ ∃ path, action = .directoryExists path := by
  unfold act
  rw [Callers.caller_act]
  exact asked_last _ _

variable (present : (m.store.caller p).dropped = false)
include present

/-- Who populates after an action did so before, or has only come to it. -/
private theorem begun_act (begun : Begun c calls (m.act p action next) p r) :
    ¬Asked ((m.act p action next).store.caller p).past ∨ action.populates = true ∧
      ∃ s, Begun c calls m p s ∧ Follows s [⟨action,(m.store.world.perform action).1⟩] r := by
  have here := Callers.caller_act m.store p action next
  obtain ⟨_,populating⟩ := begun
  unfold act at populating ⊢
  rw [here] at populating ⊢
  rcases Call.begun_last c (calls p) _ _ _ populating with entered | ⟨populates,s,before,after⟩
  · rw [entered]
    exact .inl (Call.unasked_entry (calls p))
  · exact .inr ⟨populates,s,⟨present,before⟩,after⟩

variable (locked : Callers.Locked c calls m.store) (rest : (m.store.caller p).rest = .step action next)
include locked rest

omit [FileReader σ] in
/-- Only who holds the lock asks for the directory. -/
private theorem holder_of_asking (path : Path) (asks : action = .directoryExists path) : m.store.holder? = some p := by
  have guarded := locked.guarded p present
  rw [rest] at guarded
  subst asks
  exact of_decide_eq_true guarded.1

omit present in
private theorem begun_next (s : Action) (later : s.Reply → Script (Except Error (List Route)))
    (begun : Begun c calls m p (.step s later)) : ∃ r, Begun c calls (m.act p action next) p r := by
  have here := Callers.caller_act m.store p action next
  obtain ⟨_,u,past,inside⟩ := begun
  have same := Call.rest_of_begun c (calls p) _ _ (locked.follows p) _ ⟨u,past,inside⟩
  rw [rest] at same
  obtain rfl : action = s := (Script.step.inj same).1
  refine ⟨later (m.store.world.perform action).1,?_,u ++ [⟨action,(m.store.world.perform action).1⟩],?_,?_⟩
  · unfold act
    rw [here]
  · unfold act
    rw [here,past,List.append_assoc]
  · exact inside.last _ _ _ _ _

variable (dated : Dated c calls m)
include dated

private theorem dated_act : Dated c calls (m.act p action next) := by
  have asked (q : κ) : (m.stamped p action q).isSome = true ↔
      Asked ((m.act p action next).store.caller q).past := by
    by_cases same : q = p
    · subst same
      rw [asked_act,← dated.asked q]
      exact stamped_isSome m q action
    · unfold act
      rw [stamped_other m p q action same,Callers.caller_act_other m.store p q action next same]
      exact dated.asked q
  have bounded (q : κ) (k : Nat) (stamp : m.stamped p action q = some k) : k ≤ m.changes := by
    by_cases same : q = p
    · subst same
      rcases stamped_cases m q action k stamp with old | ⟨_,rfl,_⟩
      · exact dated.bounded q k old
      · exact Nat.le_refl _
    · rw [stamped_other m p q action same] at stamp
      exact dated.bounded q k stamp
  refine ⟨asked,bounded,fun q r begun q' j k stamp stamp' => ?_⟩
  change m.stamped p action q = some j at stamp
  change m.stamped p action q' = some k at stamp'
  by_cases same : q = p
  · subst same
    rcases begun_act c calls m q action next r present begun with unasked | ⟨_,s,before,_⟩
    · refine absurd ((asked q).mp ?_) unasked
      rw [stamp]
      rfl
    · by_cases own : q' = q
      · subst own
        exact Nat.le_of_eq (Option.some.inj (stamp'.symm.trans stamp))
      · rcases stamped_cases m q action j stamp with old | ⟨_,rfl,_⟩
        · rw [stamped_other m q q' action own] at stamp'
          exact dated.newest q s before q' j k old stamp'
        · exact bounded q' k stamp'
  · rw [begun_act_other c calls m p q action next r same] at begun
    rcases action.asks_or_not with ⟨path,rfl⟩ | other
    · -- asking goes on under the lock, which who populates has
      have holder := Callers.holder_of_begun c calls m.store locked q begun.1 r begun.2
      have asking := holder_of_asking c calls m p _ next present locked rest path rfl
      exact absurd (Option.some.inj (holder.symm.trans asking)) same
    · rw [stamped_eq m p action other] at stamp stamp'
      exact dated.newest q r begun q' j k stamp stamp'

variable (current : Current c calls m) (steady : FileReader.Steady σ)
include current steady

private theorem told_act (q : κ) (r : Script (Except Error (List Route)))
    (begun : Begun c calls (m.act p action next) q r) (read : m.stamped p action q = some m.changes) :
    Tells c m.files r := by
  by_cases same : q = p
  · subst same
    rcases begun_act c calls m q action next r present begun with unasked | ⟨_,s,before,after⟩
    · have asked := ((dated_act c calls m q action next present locked rest dated).asked q).mp
      refine absurd (asked ?_) unasked
      change (m.stamped q action q).isSome = true
      rw [read]
      rfl
    · have telling : Tells c m.files s := by
        rcases stamped_cases m q action m.changes read with old | ⟨unread,_⟩
        · exact current.told q s before old
        · -- who has not asked yet is at the beginning of populating
          rcases Call.begun_asked c (calls q) _ s before.2 with rfl | asked
          · exact tells_populate c m.files
          · have stamp := (dated.asked q).mpr asked
            rw [unread] at stamp
            contradiction
      obtain ⟨u,_,inside⟩ := before.2
      have uses := (inside.uses _ _ _ _ (populate_populates c)).2
      cases after with
      | step _ _ later _ _ ended =>
        obtain rfl := ended.unique _ _ _ _ (.here _)
        exact tells_next c m.files steady action later uses m.store.world rfl telling
  · rw [begun_act_other c calls m p q action next r same] at begun
    rw [stamped_other m p q action same] at read
    exact current.told q r begun read

omit dated steady in
private theorem shown_act_self (other : ∀ routes, action ≠ .publish routes)
    (read : m.stamped p action p = some m.changes)
    (routes : List Route) (loaded : populated c m.files = .ok routes) :
    m.store.world.snapshot?.map (·.routes) = some routes ∨ ∃ r, Begun c calls (m.act p action next) p r := by
  rcases stamped_cases m p action m.changes read with old | ⟨_,_,path,rfl⟩
  · rcases current.shown p present old routes loaded with snapshot | ⟨s,begun⟩
    · exact .inl snapshot
    · cases s with
      | step s later => exact .inr (begun_next c calls m p action next locked rest s later begun)
      | done outcome =>
        obtain ⟨_,publishing⟩ := publishing_of_done c calls m locked current p outcome begun old routes loaded
        exact absurd (Script.step.inj (rest.symm.trans publishing)).1 (other routes)
  · have follows := locked.follows p
    rw [rest] at follows
    obtain ⟨later,begun⟩ := Call.asking_origin c (calls p) _ path next follows
    exact .inr (begun_next c calls m p _ next locked rest _ later ⟨present,begun⟩)

private theorem current_act : Current c calls (m.act p action next) := by
  have files : (m.act p action next).files = m.files := m.store.world.files_perform steady action
  refine ⟨fun q r begun read => ?_,fun q here read routes loaded => ?_⟩
  · rw [files]
    exact told_act c calls m p action next present locked rest dated current steady q r begun read
  · rw [files] at loaded
    rcases action.publishes_or_not with ⟨rs,rfl⟩ | other
    · have upToDate := publishing_current c calls m locked dated current p q present rs next rest read
      rw [loaded] at upToDate
      obtain rfl := Except.ok.inj upToDate
      exact .inl rfl
    · change (m.store.act p action next).world.snapshot?.map (·.routes) = some routes ∨ _
      rw [Callers.snapshot_act m.store p action next other]
      change m.stamped p action q = some m.changes at read
      by_cases same : q = p
      · subst same
        exact shown_act_self c calls m q action next present locked rest current other read routes loaded
      · rw [stamped_other m p q action same] at read
        have still : (m.store.caller q).dropped = false := by
          unfold act at here
          rw [Callers.caller_act_other m.store p q action next same] at here
          exact here
        refine (current.shown q still read routes loaded).imp_right fun ⟨s,begun⟩ => ⟨s,?_⟩
        exact (begun_act_other c calls m p q action next s same).mpr begun

end Acts
section Runs
variable (c : Config.Routes) (calls : κ → Call) (m n : Tracked σ κ)

omit [FileReader σ] in
private theorem begun_drop (p q : κ) (r : Script (Except Error (List Route))) :
    Begun c calls (m.drop p) q r ↔ q ≠ p ∧ Begun c calls m q r := by
  unfold Begun drop
  by_cases same : q = p
  · subst same
    rw [Callers.caller_drop]
    exact iff_of_false (fun begun => nomatch begun.1) (fun both => both.1 rfl)
  · rw [Callers.caller_drop_other m.store p q same]
    exact (and_iff_right same).symm

theorem dated_step (locked : Callers.Locked c calls m.store) (dated : Dated c calls m) (step : Step m n) :
    Dated c calls n := by
  cases step with
  | act p action next present rest free => exact dated_act c calls m p action next present locked rest dated
  | drop p =>
    refine ⟨fun q => ?_,dated.bounded,fun q r begun => ?_⟩
    · unfold drop
      rw [Callers.past_drop]
      exact dated.asked q
    · exact dated.newest q r ((begun_drop c calls m p q r).mp begun).2
  | change files =>
    exact ⟨dated.asked,fun p k stamp => Nat.le_succ_of_le (dated.bounded p k stamp),dated.newest⟩
  | outside world => exact ⟨dated.asked,dated.bounded,dated.newest⟩

variable (steady : FileReader.Steady σ)
include steady

theorem current_step (locked : Callers.Locked c calls m.store) (dated : Dated c calls m)
    (current : Current c calls m) (step : Step m n) : Current c calls n := by
  cases step with
  | act p action next present rest free =>
    exact current_act c calls m p action next present locked rest dated current steady
  | drop p =>
    refine ⟨fun q r begun => current.told q r ((begun_drop c calls m p q r).mp begun).2,
      fun q here read routes loaded => ?_⟩
    by_cases same : q = p
    · subst same
      unfold drop at here
      rw [Callers.caller_drop] at here
      contradiction
    · unfold drop at here
      rw [Callers.caller_drop_other m.store p q same] at here
      refine (current.shown q here read routes loaded).imp_right fun ⟨r,begun⟩ => ⟨r,?_⟩
      exact (begun_drop c calls m p q r).mpr ⟨same,begun⟩
  | change files =>
    have undated (p : κ) (read : m.readAt? p = some (m.changes + 1)) : False :=
      Nat.not_succ_le_self _ (dated.bounded p _ read)
    exact ⟨fun p _ _ read => (undated p read).elim,fun p _ read => (undated p read).elim⟩
  | outside world files snapshot =>
    refine ⟨fun p r begun read => ?_,fun p here read routes loaded => ?_⟩
    · change Tells c world.files r
      rw [files]
      exact current.told p r begun read
    · change populated c world.files = .ok routes at loaded
      change world.snapshot?.map (·.routes) = some routes ∨ _
      rw [files] at loaded
      rw [snapshot]
      exact current.shown p here read routes loaded

theorem traced_step (traced : Traced c calls m) (step : Step m n) : Traced c calls n := by
  have inside := store_step m n step
  exact ⟨Callers.locked_step c calls _ _ traced.locked inside,
    Callers.sourced_step c calls _ _ traced.locked traced.sourced inside,
    Callers.numbered_step _ _ traced.numbered inside,
    dated_step c calls m n traced.locked traced.dated step,
    current_step c calls m n steady traced.locked traced.dated traced.current step⟩

omit steady in
theorem traced_start (files : σ) : Traced c calls (start c calls files) where
  locked := Callers.locked_start c calls files
  sourced := ⟨nofun,nofun,nofun⟩
  numbered := Callers.numbered_start c calls files
  dated := ⟨fun _ => iff_of_false nofun (fun ⟨_,_,member⟩ => nomatch member),nofun,nofun⟩
  current := ⟨nofun,nofun⟩

omit steady in
/-- Once a caller that began to read after the last change has ended, the snapshot is what populating gives,
or if that fails, what it gave when it last succeeded. -/
theorem settled (traced : Traced c calls m) (p : κ) (present : (m.store.caller p).dropped = false)
    (result : Except Error Snapshot) (ended : (m.store.caller p).rest = .done result)
    (read : m.readAt? p = some m.changes) :
    (∀ routes, populated c m.files = .ok routes → m.store.world.snapshot?.map (·.routes) = some routes) ∧
      ∀ e, populated c m.files = .error e → Callers.Latest c calls m.store := by
  refine ⟨fun routes loaded => ?_,fun e failed => ?_⟩
  · rcases traced.current.shown p present read routes loaded with snapshot | ⟨r,begun⟩
    · exact snapshot
    · cases r with
      | step action next =>
        have unfinished := Call.rest_of_begun c (calls p) _ _ (traced.locked.follows p) _ begun.2
        exact nomatch ended.symm.trans unfinished
      | done outcome =>
        obtain ⟨_,publishing⟩ :=
          publishing_of_done c calls m traced.locked traced.current p outcome begun read routes loaded
        exact nomatch ended.symm.trans publishing
  · apply Callers.latest_of_idle c calls m.store traced.locked traced.sourced traced.numbered
    intro q routes next publishing
    have here := Callers.present_of_publishing c calls m.store traced.locked q routes next publishing
    have loaded := publishing_current c calls m traced.locked traced.dated traced.current q p here routes next
      publishing read
    rw [failed] at loaded
    contradiction

end Runs
end Tracked
end CannedHttp.Store
