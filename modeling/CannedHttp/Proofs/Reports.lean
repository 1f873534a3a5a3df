import CannedHttp.Proofs.World

/-!
Reports are written and never read. A script without its reports gives the same result and leaves the same
world but for what is reported, so scripts that differ in their reports alone cannot be told apart.
-/
namespace CannedHttp

namespace Action

private theorem reports_or_not (action : Action) : (∃ e, action = .report e) ∨ ∀ e, action ≠ .report e := by
  cases action with
  | report e => exact .inl ⟨e,rfl⟩
  | _ => exact .inr nofun

end Action

namespace World
variable {σ : Type} [FileReader σ] (w : World σ)

/-- The world apart from what was reported in it. -/
def unreported {σ : Type} (w : World σ) : World σ :=
  { w with reported := [] }

omit [FileReader σ] in
theorem same_of_unreported (v : World σ) (same : w.unreported = v.unreported) :
    w.snapshot? = v.snapshot? ∧ w.metrics = v.metrics := by
  have snapshot := congrArg World.snapshot? same
  have metrics := congrArg World.metrics same
  exact ⟨snapshot,metrics⟩

private theorem perform_unreported (action : Action) (other : ∀ e, action ≠ .report e) :
    w.unreported.perform action = ((w.perform action).1,(w.perform action).2.unreported) := by
  cases action with
  | report e => exact absurd rfl (other e)
  | bind address =>
    simp only [perform,unreported]
    cases Network.bind w.taken address <;> rfl
  | _ => rfl

end World

namespace Script
variable {α β σ : Type}

/-- The script without its reports. -/
def unreported : Script α → Script α
  | .done a => .done a
  | .step (.report _) next => (next ()).unreported
  | .step action next => .step action fun reply => (next reply).unreported

private theorem unreported_step (action : Action) (next : action.Reply → Script α)
    (other : ∀ e, action ≠ .report e) :
    (Script.step action next).unreported = .step action fun reply => (next reply).unreported := by
  cases action with
  | report e => exact absurd rfl (other e)
  | _ => rfl

theorem unreported_bind (s : Script α) (f : α → Script β) :
    (s >>= f).unreported = s.unreported >>= fun a => (f a).unreported := by
  induction s with
  | done a => rfl
  | step action next ih =>
    change (Script.step action fun reply => next reply >>= f).unreported = _
    rcases action.reports_or_not with ⟨e,rfl⟩ | other
    · exact ih ()
    · rw [unreported_step action _ other,unreported_step action next other]
      exact congrArg (Script.step action) (funext ih)

theorem unreported_reportAll (events : List Event) : (reportAll events).unreported = .done () := by
  induction events with
  | nil => rfl
  | cons e events ih => exact ih

variable [FileReader σ]

theorem run_unreported (s : Script α) (w : World σ) :
    s.unreported.run w.unreported = ((s.run w).1,(s.run w).2.unreported) := by
  induction s generalizing w with
  | done a => rfl
  | step action next ih =>
    rcases action.reports_or_not with ⟨e,rfl⟩ | other
    · exact ih () (w.perform (.report e)).2
    · rw [unreported_step action next other]
      simp only [run,w.perform_unreported action other]
      exact ih _ _

/-- Scripts that differ in reports alone, in worlds that do, give the same result in worlds that do. -/
theorem run_of_unreported (s t : Script α) (w v : World σ) (scripts : s.unreported = t.unreported)
    (worlds : w.unreported = v.unreported) :
    (s.run w).1 = (t.run v).1 ∧ (s.run w).2.unreported = (t.run v).2.unreported := by
  have same := run_unreported s w
  rw [scripts,worlds,run_unreported t v] at same
  exact ⟨(congrArg Prod.fst same).symm,(congrArg Prod.snd same).symm⟩

end Script
end CannedHttp
