import CannedHttp.Script

/-!
Runs of a script as lists of exchanges. What is left of a script is determined by the exchanges it has
gone through, and a run of two scripts in sequence is within the first or has ended it.
-/
namespace CannedHttp

/-- An action with the answer it got. -/
abbrev Exchange := (action : Action) × action.Reply

namespace Script
variable {α β : Type}

/-- The script goes through the exchanges, and the last argument is left of it. -/
inductive Follows : Script α → List Exchange → Script α → Prop where
  | here (s : Script α) : Follows s [] s
  | step (action : Action) (reply : action.Reply) (next : action.Reply → Script α)
      (t : List Exchange) (r : Script α) (rest : Follows (next reply) t r) :
      Follows (.step action next) (⟨action,reply⟩ :: t) r

theorem Follows.append (s r q : Script α) (t u : List Exchange) (first : Follows s t r)
    (second : Follows r u q) : Follows s (t ++ u) q := by
  induction first with
  | here => exact second
  | step action reply next t r _ ih => exact .step action reply next _ q (ih second)

theorem Follows.last (s : Script α) (t : List Exchange) (action : Action) (reply : action.Reply)
    (next : action.Reply → Script α) (follows : Follows s t (.step action next)) :
    Follows s (t ++ [⟨action,reply⟩]) (next reply) :=
  follows.append _ _ _ _ _ (.step action reply next [] _ (.here _))

theorem Follows.split (s q : Script α) (t u : List Exchange) (follows : Follows s (t ++ u) q) :
    ∃ r, Follows s t r ∧ Follows r u q := by
  induction t generalizing s with
  | nil => exact ⟨s,.here s,follows⟩
  | cons e t ih =>
    cases follows with
    | step action reply next _ _ rest =>
      obtain ⟨r,first,second⟩ := ih (next reply) rest
      exact ⟨r,.step action reply next t r first,second⟩

theorem Follows.unique (s r q : Script α) (t : List Exchange) (left : Follows s t r)
    (right : Follows s t q) : r = q := by
  induction left with
  | here =>
    cases right
    rfl
  | step action reply next t r _ ih =>
    cases right with
    | step _ _ _ _ _ rest => exact ih rest

theorem Follows.of_done (a : α) (t : List Exchange) (r : Script α) (follows : Follows (.done a) t r) :
    t = [] ∧ r = .done a := by
  cases follows
  exact ⟨rfl,rfl⟩

theorem Follows.unique_done (s : Script α) (t u x y : List Exchange) (a b : α)
    (left : Follows s t (.done a)) (right : Follows s u (.done b)) (same : t ++ x = u ++ y) :
    t = u ∧ a = b := by
  induction t generalizing s u with
  | nil =>
    cases left
    obtain ⟨rfl,finished⟩ := right.of_done
    exact ⟨rfl,(Script.done.inj finished).symm⟩
  | cons e t ih =>
    cases left with
    | step action reply next _ _ rest =>
      cases right with
      | step _ reply' _ u _ rest' =>
        obtain ⟨head,tail⟩ := List.cons.inj same
        cases head
        obtain ⟨rfl,equal⟩ := ih (next reply) u rest rest' tail
        exact ⟨rfl,equal⟩

theorem bind_assoc {γ : Type} (s : Script α) (f : α → Script β) (g : β → Script γ) :
    s >>= f >>= g = s >>= fun a => f a >>= g := by
  induction s with
  | done a => rfl
  | step action next ih => exact congrArg (Script.step action) (funext ih)

section Sequence
variable (f : α → Script β)

theorem Follows.bind (s r : Script α) (t : List Exchange) (follows : Follows s t r) :
    Follows (s >>= f) t (r >>= f) := by
  induction follows with
  | here => exact .here _
  | step action reply next t r _ ih => exact .step action reply _ t _ ih

theorem Follows.of_bind (s : Script α) (t : List Exchange) (q : Script β) (follows : Follows (s >>= f) t q) :
    (∃ action next, Follows s t (.step action next) ∧ q = Script.step action next >>= f) ∨
      ∃ u v a, t = u ++ v ∧ Follows s u (.done a) ∧ Follows (f a) v q := by
  induction s generalizing t with
  | done a => exact .inr ⟨[],t,a,rfl,.here _,follows⟩
  | step action next ih =>
    cases follows with
    | here => exact .inl ⟨action,next,.here _,rfl⟩
    | step _ reply _ t _ rest =>
      rcases ih reply t rest with ⟨later,following,inside,rfl⟩ | ⟨u,v,a,rfl,ended,after⟩
      · exact .inl ⟨later,following,.step action reply next t _ inside,rfl⟩
      · exact .inr ⟨⟨action,reply⟩ :: u,v,a,rfl,.step action reply next u _ ended,after⟩

end Sequence

section Within
variable (P : Action → Prop) (Q : α → Prop)

/-- Every action of the script, whatever the answers, satisfies `P`, and every result `Q`. -/
def Within : Script α → Prop
  | .done a => Q a
  | .step action next => P action ∧ ∀ reply, Within (next reply)

theorem within_bind (R : β → Prop) (s : Script α) (f : α → Script β) (first : s.Within P Q)
    (later : ∀ a, Q a → (f a).Within P R) : (s >>= f).Within P R := by
  induction s with
  | done a => exact later a first
  | step action next ih => exact ⟨first.1,fun reply => ih reply (first.2 reply)⟩

theorem Follows.within (s r : Script α) (t : List Exchange) (follows : Follows s t r) (within : s.Within P Q) :
    (∀ e ∈ t, P e.1) ∧ r.Within P Q := by
  induction follows with
  | here => exact ⟨by simp,within⟩
  | step action reply next t r _ ih =>
    obtain ⟨before,after⟩ := ih (within.2 reply)
    exact ⟨List.forall_mem_cons.mpr ⟨within.1,before⟩,after⟩

theorem reportAll_within (events : List Event) (reported : ∀ e ∈ events, P (.report e)) :
    (reportAll events).Within P fun _ => True := by
  induction events with
  | nil => trivial
  | cons e events ih =>
    obtain ⟨first,rest⟩ := List.forall_mem_cons.mp reported
    exact ⟨first,fun _ => ih rest⟩

end Within

section Uses
variable (P : Action → Prop)

/-- Every action of the script, whatever the answers, satisfies `P`. -/
def Uses : Script α → Prop
  | .done _ => True
  | .step action next => P action ∧ ∀ reply, Uses (next reply)

theorem uses_mono (Q : Action → Prop) (implies : ∀ action, P action → Q action) (s : Script α)
    (uses : Uses P s) : Uses Q s := by
  induction s with
  | done a => trivial
  | step action next ih => exact ⟨implies action uses.1,fun reply => ih reply (uses.2 reply)⟩

theorem uses_iff_within (s : Script α) : s.Uses P ↔ s.Within P fun _ => True := by
  induction s with
  | done a => exact Iff.rfl
  | step action next ih => exact and_congr Iff.rfl (forall_congr' ih)

theorem uses_bind (s : Script α) (f : α → Script β) (first : Uses P s) (later : ∀ a, Uses P (f a)) :
    Uses P (s >>= f) := by
  rw [uses_iff_within] at first ⊢
  exact within_bind P _ _ s f first fun a _ => (uses_iff_within P (f a)).mp (later a)

theorem Follows.uses (s r : Script α) (t : List Exchange) (follows : Follows s t r) (uses : Uses P s) :
    (∀ e ∈ t, P e.1) ∧ Uses P r := by
  rw [uses_iff_within] at uses ⊢
  exact follows.within P _ s r t uses

end Uses

end Script
end CannedHttp
