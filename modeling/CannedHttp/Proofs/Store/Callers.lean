import CannedHttp.Proofs.Store.Progress
import CannedHttp.Proofs.World
import Mathlib.Logic.Function.Basic
import Mathlib.Logic.Relation

/-!
Any number of callers of one store, one action at a time in any order. The lock is given to a caller
that waits for it when it is free, a caller may be dropped while it waits and then gives the lock up,
and whatever the store does not publish may change at any time.
-/
namespace CannedHttp.Store
open Script

structure Caller where
  past : List Exchange
  rest : Script (Except Error Snapshot)
  dropped : Bool

structure Callers (σ ι : Type) where
  world : World σ
  holder? : Option ι
  caller : ι → Caller

namespace Callers
variable {σ ι : Type} [FileReader σ] [DecidableEq ι]

def start (c : Config.Routes) (calls : ι → Call) (files : σ) : Callers σ ι :=
  ⟨.start files, none, fun i => ⟨[], (calls i).script c, false⟩⟩

/-- Who holds the lock after an action of a caller. -/
def holderAfter (m : Callers σ ι) (i : ι) : Action → Option ι
  | .acquire => some i
  | .release => none
  | _ => m.holder?

/-- A caller performs its next action. -/
def act (m : Callers σ ι) (i : ι) (action : Action)
    (next : action.Reply → Script (Except Error Snapshot)) : Callers σ ι :=
  let (reply, world) := m.world.perform action
  { world, holder? := m.holderAfter i action
    caller := Function.update m.caller i ⟨(m.caller i).past ++ [⟨action,reply⟩], next reply, false⟩ }

def drop (m : Callers σ ι) (i : ι) : Callers σ ι :=
  { m with
    holder? := if m.holder? = some i then none else m.holder?
    caller := Function.update m.caller i { m.caller i with dropped := true } }

inductive Step : Callers σ ι → Callers σ ι → Prop where
  | act (m : Callers σ ι) (i : ι) (action : Action)
      (next : action.Reply → Script (Except Error Snapshot))
      (present : (m.caller i).dropped = false) (rest : (m.caller i).rest = .step action next)
      (free : action = .acquire → m.holder? = none) : Step m (m.act i action next)
  | drop (m : Callers σ ι) (i : ι) (action : Action)
      (next : action.Reply → Script (Except Error Snapshot))
      (present : (m.caller i).dropped = false) (rest : (m.caller i).rest = .step action next)
      (waiting : action.awaits = true) : Step m (m.drop i)
  | outside (m : Callers σ ι) (world : World σ) (snapshot : world.snapshot? = m.world.snapshot?)
      (publications : world.publications = m.world.publications) : Step m { m with world }

/-- Steps of callers, drops and changes from outside, in any order. -/
abbrev Run : Callers σ ι → Callers σ ι → Prop :=
  Relation.ReflTransGen Step

/-- One caller acts. -/
inductive Acts (i : ι) : Callers σ ι → Callers σ ι → Prop where
  | act (m : Callers σ ι) (action : Action) (next : action.Reply → Script (Except Error Snapshot))
      (present : (m.caller i).dropped = false) (rest : (m.caller i).rest = .step action next)
      (free : action = .acquire → m.holder? = none) : Acts i m (m.act i action next)

/-- Actions of one caller and of no other. -/
abbrev Solo (i : ι) : Callers σ ι → Callers σ ι → Prop :=
  Relation.ReflTransGen (Acts i)

theorem run_of_solo (i : ι) (m n : Callers σ ι) (solo : Solo i m n) : Run m n := by
  refine solo.lift id fun m n acts => ?_
  cases acts with
  | act action next present rest free => exact .act m i action next present rest free

section Act
variable (m : Callers σ ι) (i j : ι) (action : Action)
  (next : action.Reply → Script (Except Error Snapshot))

theorem caller_act : (m.act i action next).caller i =
    ⟨(m.caller i).past ++ [⟨action,(m.world.perform action).1⟩], next (m.world.perform action).1, false⟩ :=
  Function.update_self _ _ _

theorem caller_act_other (other : j ≠ i) : (m.act i action next).caller j = m.caller j :=
  Function.update_of_ne other _ _

theorem mem_past_act (e : Exchange) (member : e ∈ ((m.act i action next).caller j).past) :
    e ∈ (m.caller j).past ∨ j = i ∧ e = ⟨action,(m.world.perform action).1⟩ := by
  by_cases same : j = i
  · subst same
    rw [caller_act] at member
    rcases List.mem_append.mp member with old | new
    · exact .inl old
    · exact .inr ⟨rfl,List.mem_singleton.mp new⟩
  · rw [caller_act_other m i j action next same] at member
    exact .inl member

theorem past_act : ∃ u, ((m.act i action next).caller j).past = (m.caller j).past ++ u := by
  by_cases same : j = i
  · subst same
    rw [caller_act]
    exact ⟨_,rfl⟩
  · rw [caller_act_other m i j action next same]
    exact ⟨[],(List.append_nil _).symm⟩

theorem snapshot_act (other : ∀ routes, action ≠ .publish routes) :
    (m.act i action next).world.snapshot? = m.world.snapshot? :=
  m.world.snapshot_perform action other

theorem snapshot_publish (routes : List Route)
    (next : (Action.publish routes).Reply → Script (Except Error Snapshot)) :
    (m.act i (.publish routes) next).world.snapshot? = some ⟨m.world.publications, routes⟩ := rfl

end Act

section Drop
omit [FileReader σ]
variable (m : Callers σ ι) (i j : ι)

theorem caller_drop : (m.drop i).caller i = { m.caller i with dropped := true } :=
  Function.update_self _ _ _

theorem caller_drop_other (other : j ≠ i) : (m.drop i).caller j = m.caller j :=
  Function.update_of_ne other _ _

theorem past_drop : ((m.drop i).caller j).past = (m.caller j).past := by
  by_cases same : j = i
  · subst same
    rw [caller_drop]
  · rw [caller_drop_other m i j same]

theorem rest_drop : ((m.drop i).caller j).rest = (m.caller j).rest := by
  by_cases same : j = i
  · subst same
    rw [caller_drop]
  · rw [caller_drop_other m i j same]

theorem holder_drop (other : j ≠ i) : (m.drop i).holder? = some j ↔ m.holder? = some j := by
  unfold drop
  by_cases held : m.holder? = some i
  · simp [held,other.symm]
  · simp [held]

theorem holderAfter_self (action : Action) :
    decide (m.holderAfter i action = some i) = action.holds (m.holder? = some i) := by
  cases action with
  | acquire => exact decide_eq_true rfl
  | release => exact decide_eq_false nofun
  | _ => rfl

theorem holderAfter_other (action : Action) (other : j ≠ i)
    (free : action = .acquire → m.holder? = none) (permitted : action.permitted (m.holder? = some i)) :
    m.holderAfter i action = some j ↔ m.holder? = some j := by
  have apart : i ≠ j := other.symm
  cases action with
  | acquire => simp [holderAfter,free rfl,apart]
  | release =>
    have held : m.holder? = some i := of_decide_eq_true permitted
    simp [holderAfter,held,apart]
  | _ => exact Iff.rfl

end Drop

theorem past_step (m n : Callers σ ι) (step : Step m n) (i : ι) :
    ∃ u, (n.caller i).past = (m.caller i).past ++ u := by
  cases step with
  | act j action next => exact past_act m j i action next
  | drop j =>
    rw [past_drop]
    exact ⟨[],(List.append_nil _).symm⟩
  | outside => exact ⟨[],(List.append_nil _).symm⟩

end Callers
end CannedHttp.Store
