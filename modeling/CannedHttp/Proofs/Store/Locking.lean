import CannedHttp.Proofs.Store.Callers

/-!
The lock of the store. At any point of a call it is known whether the lock is held there, and a caller
holds it exactly at those points, so no two callers are inside populating at once.
-/
namespace CannedHttp.Store.Callers
open Script
variable {σ ι : Type} [DecidableEq ι] (c : Config.Routes) (calls : ι → Call)

/-- Every caller is somewhere in its call, and holds the lock exactly where the call does. -/
structure Locked (m : Callers σ ι) : Prop where
  follows : ∀ i, Follows ((calls i).script c) (m.caller i).past (m.caller i).rest
  guarded : ∀ i, (m.caller i).dropped = false → (m.caller i).rest.Guarded (m.holder? = some i)
  released : ∀ i, (m.caller i).dropped = true → m.holder? ≠ some i
  waiting : ∀ i, (m.caller i).dropped = true →
    ∃ action next, (m.caller i).rest = .step action next ∧ action.awaits = true

theorem locked_start (files : σ) : Locked c calls (start c calls files) where
  follows _ := .here _
  guarded i _ := Call.script_guarded c (calls i)
  released _ dropped := nomatch dropped
  waiting _ dropped := nomatch dropped

variable (m : Callers σ ι)

/-- The caller is there and has begun to populate but not ended it. -/
def Inside (i : ι) : Prop :=
  (m.caller i).dropped = false ∧ (calls i).Populating c (m.caller i).past

theorem holder_of_begun (locked : Locked c calls m) (i : ι) (present : (m.caller i).dropped = false)
    (p : Script (Except Error (List Route))) (begun : (calls i).Begun c (m.caller i).past p) :
    m.holder? = some i := by
  have held := Call.held_of_begun c (calls i) _ _ (locked.follows i) _ (locked.guarded i present) p begun
  exact of_decide_eq_true held

theorem inside_unique (locked : Locked c calls m) (i j : ι) (left : Inside c calls m i)
    (right : Inside c calls m j) : i = j := by
  obtain ⟨present,_,_,begun⟩ := left
  obtain ⟨present',_,_,begun'⟩ := right
  have first := holder_of_begun c calls m locked i present _ begun
  have second := holder_of_begun c calls m locked j present' _ begun'
  exact Option.some.inj (first.symm.trans second)

private theorem locked_drop (i : ι) (action : Action) (next : action.Reply → Script (Except Error Snapshot))
    (locked : Locked c calls m) (rest : (m.caller i).rest = .step action next)
    (waiting : action.awaits = true) : Locked c calls (m.drop i) := by
  refine ⟨fun j => ?_,fun j here => ?_,fun j gone => ?_,fun j gone => ?_⟩
  · rw [past_drop,rest_drop]
    exact locked.follows j
  all_goals by_cases same : j = i
  · subst same
    rw [caller_drop] at here
    contradiction
  · rw [caller_drop_other m i j same] at here ⊢
    rw [decide_eq_decide.mpr (holder_drop m i j same)]
    exact locked.guarded j here
  · subst same
    unfold drop
    by_cases held : m.holder? = some j
    · simp [held]
    · simp [held]
  · rw [caller_drop_other m i j same] at gone
    rw [ne_eq,holder_drop m i j same]
    exact locked.released j gone
  · subst same
    rw [rest_drop]
    exact ⟨action,next,rest,waiting⟩
  · rw [caller_drop_other m i j same] at gone ⊢
    exact locked.waiting j gone

variable [FileReader σ] (n : Callers σ ι)

private theorem locked_act (i : ι) (action : Action) (next : action.Reply → Script (Except Error Snapshot))
    (locked : Locked c calls m) (present : (m.caller i).dropped = false)
    (rest : (m.caller i).rest = .step action next) (free : action = .acquire → m.holder? = none) :
    Locked c calls (m.act i action next) := by
  have follows := locked.follows i
  have guarded := locked.guarded i present
  rw [rest] at follows guarded
  -- an action is permitted only to the holder or when the lock is free, so no other caller loses it
  have holder (j : ι) (other : j ≠ i) : (m.act i action next).holder? = some j ↔ m.holder? = some j :=
    holderAfter_other m i j action other free guarded.1
  refine ⟨fun j => ?_,fun j here => ?_,fun j gone => ?_,fun j gone => ?_⟩
  all_goals by_cases same : j = i
  · subst same
    rw [caller_act]
    exact follows.last _ _ _ _ _
  · rw [caller_act_other m i j action next same]
    exact locked.follows j
  · subst same
    have held : decide ((m.act j action next).holder? = some j) = action.holds (m.holder? = some j) :=
      holderAfter_self m j action
    rw [caller_act,held]
    exact guarded.2 _
  · rw [caller_act_other m i j action next same] at here ⊢
    rw [decide_eq_decide.mpr (holder j same)]
    exact locked.guarded j here
  · subst same
    rw [caller_act] at gone
    contradiction
  · rw [caller_act_other m i j action next same] at gone
    rw [ne_eq,holder j same]
    exact locked.released j gone
  · subst same
    rw [caller_act] at gone
    contradiction
  · rw [caller_act_other m i j action next same] at gone ⊢
    exact locked.waiting j gone

theorem locked_step (locked : Locked c calls m) (step : Step m n) : Locked c calls n := by
  cases step with
  | act i action next present rest free => exact locked_act c calls m i action next locked present rest free
  | drop i action next present rest waiting => exact locked_drop c calls m i action next locked rest waiting
  | outside world => exact ⟨locked.follows,locked.guarded,locked.released,locked.waiting⟩

theorem locked_run (files : σ) (run : Run (start c calls files) m) : Locked c calls m := by
  induction run with
  | refl => exact locked_start c calls files
  | tail _ step locked => exact locked_step c calls _ _ locked step

theorem caller_solo (i j : ι) (solo : Solo i m n) (other : j ≠ i) : n.caller j = m.caller j := by
  induction solo with
  | refl => rfl
  | tail _ acts ih =>
    cases acts with
    | act action next =>
      rw [caller_act_other _ i j action next other]
      exact ih

/-- A caller that goes on alone ends as its script does when it is run alone, and leaves the lock free. -/
theorem solo_alone (i : ι) (s : Script (Except Error Snapshot)) (present : (m.caller i).dropped = false)
    (rest : (m.caller i).rest = s) (guarded : s.Guarded (m.holder? = some i))
    (free : ∀ j, j ≠ i → m.holder? ≠ some j) :
    ∃ n, Solo i m n ∧ (n.caller i).rest = .done (s.run m.world).1 ∧ n.world = (s.run m.world).2 ∧
      n.holder? = none ∧ (n.caller i).past = (m.caller i).past ++ s.exchanges m.world := by
  induction s generalizing m with
  | done result =>
    have not_held : m.holder? ≠ some i := of_decide_eq_false guarded
    have holder : m.holder? = none := Option.eq_none_iff_forall_ne_some.mpr fun j => by
      by_cases same : j = i
      · exact same ▸ not_held
      · exact free j same
    exact ⟨m,.refl,rest,rfl,holder,(List.append_nil _).symm⟩
  | step action next ih =>
    have unlocked : action = .acquire → m.holder? = none := by
      rintro rfl
      have not_held : m.holder? ≠ some i := of_decide_eq_false guarded.1
      cases holder : m.holder? with
      | none => rfl
      | some j =>
        by_cases same : j = i
        · rw [holder,same] at not_held
          contradiction
        · exact absurd holder (free j same)
    have held : decide ((m.act i action next).holder? = some i) = action.holds (m.holder? = some i) :=
      holderAfter_self m i action
    have here := caller_act m i action next
    have later := ih (m.world.perform action).1 (m.act i action next)
    rw [here,held] at later
    obtain ⟨n,solo,returned,world,holder,past⟩ := later rfl rfl (guarded.2 _) fun j other => by
      change m.holderAfter i action ≠ some j
      rw [ne_eq,holderAfter_other m i j action other unlocked guarded.1]
      exact free j other
    rw [List.append_assoc] at past
    exact ⟨n,.head (.act m action next present rest unlocked) solo,returned,world,holder,past⟩

end CannedHttp.Store.Callers
