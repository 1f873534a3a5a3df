import CannedHttp.Proofs.Script
import CannedHttp.World

/-!
Runs of scripts in a world. Scripts in sequence run one after the other, a part of the world that no
action of a script changes is as it was afterwards, and what a run exchanges with the world is the script
followed to its end.
-/
namespace CannedHttp

namespace World
variable {σ : Type} [FileReader σ] (w : World σ) (action : Action)

theorem snapshot_perform (other : ∀ routes, action ≠ .publish routes) :
    (w.perform action).2.snapshot? = w.snapshot? := by
  cases action with
  | publish routes => exact absurd rfl (other routes)
  | bind address =>
    simp only [perform]
    split <;> rfl
  | _ => rfl

theorem publications_perform (other : ∀ routes, action ≠ .publish routes) :
    (w.perform action).2.publications = w.publications := by
  cases action with
  | publish routes => exact absurd rfl (other routes)
  | bind address =>
    simp only [perform]
    split <;> rfl
  | _ => rfl

theorem metrics_perform (other : ∀ m, action ≠ .measure m) : (w.perform action).2.metrics = w.metrics := by
  cases action with
  | measure m => exact absurd rfl (other m)
  | bind address =>
    simp only [perform]
    split <;> rfl
  | _ => rfl

end World

namespace Script
variable {α β σ : Type} [FileReader σ]

theorem run_bind (s : Script α) (f : α → Script β) (w : World σ) :
    (s >>= f).run w = (f (s.run w).1).run (s.run w).2 := by
  induction s generalizing w with
  | done a => rfl
  | step action next ih => exact ih (w.perform action).1 (w.perform action).2

/-- What every action of a script leaves alone is the same after the run. -/
theorem run_keeps (P : Action → Prop) (view : World σ → β)
    (kept : ∀ (w : World σ) action, P action → view (w.perform action).2 = view w)
    (s : Script α) (uses : s.Uses P) (w : World σ) : view (s.run w).2 = view w := by
  induction s generalizing w with
  | done a => rfl
  | step action next ih =>
    have later := ih (w.perform action).1 (uses.2 _) (w.perform action).2
    exact later.trans (kept w action uses.1)

/-- The actions of the run, each with the answer of the world. -/
def exchanges : Script α → World σ → List Exchange
  | .done _, _ => []
  | .step action next, w =>
    ⟨action,(w.perform action).1⟩ :: (next (w.perform action).1).exchanges (w.perform action).2

theorem exchanges_bind (s : Script α) (f : α → Script β) (w : World σ) :
    (s >>= f).exchanges w = s.exchanges w ++ (f (s.run w).1).exchanges (s.run w).2 := by
  induction s generalizing w with
  | done a => rfl
  | step action next ih => exact congrArg (_ :: ·) (ih (w.perform action).1 (w.perform action).2)

theorem follows_exchanges (s : Script α) (w : World σ) : Follows s (s.exchanges w) (.done (s.run w).1) := by
  induction s generalizing w with
  | done a => exact .here _
  | step action next ih =>
    exact .step action _ next _ _ (ih (w.perform action).1 (w.perform action).2)

theorem run_reportAll (events : List Event) (w : World σ) :
    ((reportAll events).run w).2.files = w.files := by
  induction events generalizing w with
  | nil => rfl
  | cons e events ih => exact ih (w.perform (.report e)).2

end Script
end CannedHttp
