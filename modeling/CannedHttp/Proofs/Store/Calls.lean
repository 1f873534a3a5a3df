import CannedHttp.Proofs.Script
import CannedHttp.Store

/-!
The calls of the store taken apart. A call looks for the snapshot and takes the lock, populates, and
ends by what it does with the outcome. Everything but looking and waiting happens under the lock, and
what is published or returned comes from one populating run or from the snapshot.
-/
namespace CannedHttp

namespace Action

def loads : Action → Bool
  | .readText _ | .report _ => true
  | _ => false

def populates : Action → Bool
  | .directoryExists _ | .listFiles .. | .readText _ | .report _ | .measure _ => true
  | _ => false

/-- The actions at which a caller waits and may be dropped. -/
def awaits : Action → Bool
  | .acquire | .listFiles .. | .readText _ => true
  | _ => false

/-- Without the lock a caller looks for the snapshot or waits; with it, it does not wait again. -/
def permitted (held : Bool) : Action → Prop
  | .snapshot => True
  | .acquire => held = false
  | _ => held = true

def holds (held : Bool) : Action → Bool
  | .acquire => true
  | .release => false
  | _ => held

theorem publishes_or_not (action : Action) :
    (∃ routes, action = .publish routes) ∨ ∀ routes, action ≠ .publish routes := by
  cases action with
  | publish routes => exact .inl ⟨routes,rfl⟩
  | _ => exact .inr nofun

theorem populates_of_loads (action : Action) (loading : action.loads = true) : action.populates = true := by
  cases action <;> first | contradiction | rfl

theorem permitted_of_populates (action : Action) (held : Bool) (populating : action.populates = true) :
    action.permitted held ↔ held = true := by
  cases action <;> first | contradiction | exact Iff.rfl

theorem holds_of_populates (action : Action) (held : Bool) (populating : action.populates = true) :
    action.holds held = held := by
  cases action <;> first | contradiction | rfl

end Action

namespace Script
variable {α β : Type}

/-- Locking is well bracketed from a point where the lock is held or not. -/
def Guarded : Script α → Bool → Prop
  | .done _, held => held = false
  | .step action next, held =>
    action.permitted held ∧ ∀ reply, Guarded (next reply) (action.holds held)

private theorem guarded_bind (s : Script α) (f : α → Script β) (first : s.Uses (·.populates = true))
    (later : ∀ a, (f a).Guarded true) : (s >>= f).Guarded true := by
  induction s with
  | done a => exact later a
  | step action next ih =>
    have populating : action.populates = true := first.1
    refine ⟨(action.permitted_of_populates true populating).mpr rfl,fun reply => ?_⟩
    rw [action.holds_of_populates true populating]
    exact ih reply (first.2 reply)

end Script

namespace Store
open Script

section Populating

private theorem reportAll_loads (events : List Event) : (reportAll events).Uses (·.loads = true) :=
  (uses_iff_within _ _).mpr (reportAll_within _ events fun _ _ => rfl)

theorem loadFile_loads (path : Path) : (loadFile path).Uses (·.loads = true) := by
  refine ⟨rfl,fun content => ?_⟩
  cases content with
  | error e => trivial
  | ok content =>
    have routes : (reportAll (Definition.notices path.label content) >>= fun _ =>
        pure ((Definition.routes path.label content).mapError Error.format)).Uses (·.loads = true) :=
      uses_bind _ _ _ (reportAll_loads _) fun _ => trivial
    exact routes

theorem loadFiles_loads (skip : Bool) (paths : List Path) :
    (loadFiles skip paths).Uses (·.loads = true) := by
  induction paths with
  | nil => trivial
  | cons path paths ih =>
    apply uses_bind _ _ _ (loadFile_loads path)
    intro loaded
    cases loaded with
    | ok routes => exact uses_bind _ _ _ ih fun _ => trivial
    | error e =>
      cases e with
      | format e =>
        cases skip with
        | true => exact ⟨rfl,fun _ => ih⟩
        | false => trivial
      | pattern text e => trivial
      | io path e => trivial

/-- Populating asks for no other directory than that of the routes. -/
theorem populate_uses (c : Config.Routes) : (populate c).Uses fun action =>
    action.populates = true ∧ ∀ directory, action = .directoryExists directory → directory = c.directory := by
  apply uses_bind
  · refine ⟨⟨rfl,?_⟩,fun _ => trivial⟩
    rintro directory ⟨⟩
    rfl
  · intro present
    cases present with
    | false => exact ⟨⟨rfl,nofun⟩,fun _ => ⟨⟨rfl,nofun⟩,fun _ => trivial⟩⟩
    | true =>
      rw [if_pos rfl]
      cases Glob.compile c.filePattern with
      | error e => trivial
      | ok pattern =>
        refine ⟨⟨rfl,nofun⟩,fun listed => ?_⟩
        cases listed with
        | error e => trivial
        | ok files =>
          have loading : (loadFiles c.skipInvalidFiles files).Uses fun action => action.populates = true ∧
              ∀ directory, action = .directoryExists directory → directory = c.directory := by
            refine uses_mono _ _ (fun action loads => ⟨action.populates_of_loads loads,?_⟩) _
              (loadFiles_loads c.skipInvalidFiles files)
            rintro directory rfl
            contradiction
          apply uses_bind _ _ _ loading
          intro loaded
          cases loaded with
          | error e => trivial
          | ok routes => exact ⟨⟨rfl,nofun⟩,fun _ => ⟨⟨rfl,nofun⟩,fun _ => trivial⟩⟩

theorem populate_populates (c : Config.Routes) : (populate c).Uses (·.populates = true) :=
  uses_mono _ _ (fun _ both => both.1) _ (populate_uses c)

end Populating

inductive Call where
  | get
  | reload
  deriving DecidableEq

namespace Call

def script (c : Config.Routes) : Call → Script (Except Error Snapshot)
  | .get => getRoutes c
  | .reload => Store.reload c

/-- What a call goes through before it populates. -/
def entry : Call → List Exchange
  | .get => [⟨.snapshot,(none : Option Snapshot)⟩,⟨.acquire,()⟩,⟨.snapshot,(none : Option Snapshot)⟩]
  | .reload => [⟨.acquire,()⟩]

/-- What a call does with the outcome of populating. -/
def finish : Call → Except Error (List Route) → Script (Except Error Snapshot)
  | .get, .error e => do
    release
    pure (.error e)
  | .get, .ok routes => do
    let s ← publish routes
    release
    pure (.ok s)
  | .reload, .error e => do
    measure (.reload false)
    release
    pure (.error e)
  | .reload, .ok routes => do
    let s ← publish routes
    measure (.reload true)
    release
    pure (.ok s)

variable (c : Config.Routes)

theorem getRoutes_eq : getRoutes c = .step .snapshot fun found =>
    match found with
    | some s => .done (.ok s)
    | none => .step .acquire fun _ => .step .snapshot fun found =>
      match found with
      | some s => .step .release fun _ => .done (.ok s)
      | none => populate c >>= finish .get := by
  unfold getRoutes
  refine congrArg (Script.step .snapshot) (funext fun found => ?_)
  cases found with
  | some s => rfl
  | none =>
    refine congrArg (Script.step .acquire) (funext fun _ => ?_)
    refine congrArg (Script.step .snapshot) (funext fun found => ?_)
    cases found with
    | some s => rfl
    | none =>
      refine congrArg (populate c >>= ·) (funext fun outcome => ?_)
      cases outcome with
      | error e => rfl
      | ok routes => rfl

theorem reload_eq : Store.reload c = .step .acquire fun _ => populate c >>= finish .reload := by
  unfold Store.reload
  refine congrArg (Script.step .acquire) (funext fun _ => ?_)
  refine congrArg (populate c >>= ·) (funext fun outcome => ?_)
  cases outcome with
  | error e => rfl
  | ok routes => rfl

theorem script_get : script c .get = getRoutes c := rfl

theorem script_reload : script c .reload = Store.reload c := rfl

theorem finish_ok (call : Call) (routes : List Route) :
    ∃ next, call.finish (.ok routes) = .step (.publish routes) next := by
  cases call with
  | get => exact ⟨_,rfl⟩
  | reload => exact ⟨_,rfl⟩

/-- A call ends by publishing what it has loaded, counting a reload, and giving up the lock. -/
theorem finish_uses (P : Action → Prop) (call : Call) (outcome : Except Error (List Route))
    (measure : ∀ success, P (.measure (.reload success))) (release : P .release)
    (publish : ∀ routes, outcome = .ok routes → P (.publish routes)) : (call.finish outcome).Uses P := by
  cases call with
  | get =>
    cases outcome with
    | error e => exact ⟨release,fun _ => trivial⟩
    | ok routes => exact ⟨publish routes rfl,fun _ => ⟨release,fun _ => trivial⟩⟩
  | reload =>
    cases outcome with
    | error e => exact ⟨measure false,fun _ => ⟨release,fun _ => trivial⟩⟩
    | ok routes => exact ⟨publish routes rfl,fun _ => ⟨measure true,fun _ => ⟨release,fun _ => trivial⟩⟩⟩

theorem finish_guarded (call : Call) (outcome : Except Error (List Route)) :
    (call.finish outcome).Guarded true := by
  cases call with
  | get =>
    cases outcome with
    | error e => exact ⟨rfl,fun _ => rfl⟩
    | ok routes => exact ⟨rfl,fun _ => ⟨rfl,fun _ => rfl⟩⟩
  | reload =>
    cases outcome with
    | error e => exact ⟨rfl,fun _ => ⟨rfl,fun _ => rfl⟩⟩
    | ok routes => exact ⟨rfl,fun _ => ⟨rfl,fun _ => ⟨rfl,fun _ => rfl⟩⟩⟩

/-- A call takes the lock at most once, gives it up before it returns, and does everything under it
but look for the snapshot. -/
theorem script_guarded (call : Call) : (call.script c).Guarded false := by
  have populating (call : Call) : (populate c >>= call.finish).Guarded true :=
    guarded_bind _ _ (populate_populates c) (finish_guarded call)
  cases call with
  | get =>
    rw [script_get,getRoutes_eq]
    refine ⟨trivial,fun found => ?_⟩
    cases found with
    | some s => rfl
    | none =>
      refine ⟨rfl,fun _ => ⟨trivial,fun found => ?_⟩⟩
      cases found with
      | some s => exact ⟨rfl,fun _ => rfl⟩
      | none => exact populating .get
  | reload =>
    rw [script_reload,reload_eq]
    exact ⟨rfl,fun _ => populating .reload⟩

theorem entry_follows (call : Call) : Follows (call.script c) call.entry (populate c >>= call.finish) := by
  cases call with
  | get =>
    rw [script_get,getRoutes_eq]
    exact .step .snapshot none _ _ _ (.step .acquire () _ _ _ (.step .snapshot none _ _ _ (.here _)))
  | reload =>
    rw [script_reload,reload_eq]
    exact .step .acquire () _ _ _ (.here _)

/-- Short of populating a caller reads and publishes nothing and returns only a snapshot that it found. -/
structure Early (t : List Exchange) (q : Script (Except Error Snapshot)) : Prop where
  idle : ∀ action next, q = .step action next →
    action.populates = false ∧ ∀ routes, action ≠ .publish routes
  returns : ∀ result, q = .done result → ∃ s, result = .ok s ∧ ⟨.snapshot,some s⟩ ∈ t

private theorem early_of_action (t : List Exchange) (action : Action)
    (next : action.Reply → Script (Except Error Snapshot)) (idle : action.populates = false)
    (other : ∀ routes, action ≠ .publish routes) : Early t (.step action next) where
  idle _ _ same := (Script.step.inj same).1 ▸ ⟨idle,other⟩
  returns _ same := nomatch same

private theorem early_of_found (t : List Exchange) (s : Snapshot) (found : ⟨.snapshot,some s⟩ ∈ t) :
    Early t (.done (.ok s)) where
  idle _ _ same := nomatch same
  returns _ same := ⟨s,(Script.done.inj same).symm,found⟩

theorem early_or_populating (call : Call) (t : List Exchange) (q : Script (Except Error Snapshot))
    (follows : Follows (call.script c) t q) :
    Early t q ∨ ∃ u, t = call.entry ++ u ∧ Follows (populate c >>= call.finish) u q := by
  cases call with
  | reload =>
    rw [script_reload,reload_eq] at follows
    cases follows with
    | here => exact .inl (early_of_action _ _ _ rfl nofun)
    | step _ _ _ u _ rest => exact .inr ⟨u,rfl,rest⟩
  | get =>
    rw [script_get,getRoutes_eq] at follows
    cases follows with
    | here => exact .inl (early_of_action _ _ _ rfl nofun)
    | step _ found _ t _ rest =>
      cases found with
      | some s =>
        obtain ⟨rfl,rfl⟩ := rest.of_done
        exact .inl (early_of_found _ s List.mem_cons_self)
      | none =>
        cases rest with
        | here => exact .inl (early_of_action _ _ _ rfl nofun)
        | step _ _ _ t _ rest =>
          cases rest with
          | here => exact .inl (early_of_action _ _ _ rfl nofun)
          | step _ found _ t _ rest =>
            cases found with
            | none => exact .inr ⟨t,rfl,rest⟩
            | some s =>
              cases rest with
              | here => exact .inl (early_of_action _ _ _ rfl nofun)
              | step _ _ _ _ _ rest =>
                obtain ⟨rfl,rfl⟩ := rest.of_done
                exact .inl (early_of_found _ s (by simp))

section Finish
variable (call : Call) (u : List Exchange) (q : Script (Except Error Snapshot))

theorem finish_ok_follows (routes : List Route) (follows : Follows (call.finish (.ok routes)) u q) :
    u = [] ∧ q = call.finish (.ok routes) ∨ ∃ s v, u = ⟨.publish routes,s⟩ :: v := by
  cases call with
  | get =>
    cases follows with
    | here => exact .inl ⟨rfl,rfl⟩
    | step _ s _ v _ _ => exact .inr ⟨s,v,rfl⟩
  | reload =>
    cases follows with
    | here => exact .inl ⟨rfl,rfl⟩
    | step _ s _ v _ _ => exact .inr ⟨s,v,rfl⟩

theorem finish_publishes (outcome : Except Error (List Route)) (routes : List Route)
    (next : Snapshot → Script (Except Error Snapshot))
    (follows : Follows (call.finish outcome) u (.step (.publish routes) next)) :
    u = [] ∧ outcome = .ok routes := by
  cases outcome with
  | error e =>
    have never : (call.finish (.error e)).Uses fun action => ∀ routes, action ≠ .publish routes :=
      finish_uses _ call (.error e) (fun _ => nofun) nofun nofun
    exact absurd rfl ((follows.uses _ _ _ _ never).2.1 routes)
  | ok routes =>
    cases call with
    | get =>
      cases follows with
      | here => exact ⟨rfl,rfl⟩
      | step _ _ _ _ _ rest =>
        cases rest with
        | step _ _ _ _ _ rest => cases rest
    | reload =>
      cases follows with
      | here => exact ⟨rfl,rfl⟩
      | step _ _ _ _ _ rest =>
        cases rest with
        | step _ _ _ _ _ rest =>
          cases rest with
          | step _ _ _ _ _ rest => cases rest

theorem finish_returns (outcome : Except Error (List Route)) (s : Snapshot)
    (follows : Follows (call.finish outcome) u (.done (.ok s))) :
    ∃ routes, ⟨.publish routes,s⟩ ∈ u := by
  cases call with
  | get =>
    cases outcome with
    | error e =>
      cases follows with
      | step _ _ _ _ _ rest => cases rest
    | ok routes =>
      cases follows with
      | step _ published _ _ _ rest =>
        cases rest with
        | step _ _ _ _ _ rest =>
          cases rest
          exact ⟨routes,List.mem_cons_self⟩
  | reload =>
    cases outcome with
    | error e =>
      cases follows with
      | step _ _ _ _ _ rest =>
        cases rest with
        | step _ _ _ _ _ rest => cases rest
    | ok routes =>
      cases follows with
      | step _ published _ _ _ rest =>
        cases rest with
        | step _ _ _ _ _ rest =>
          cases rest with
          | step _ _ _ _ _ rest =>
            cases rest
            exact ⟨routes,List.mem_cons_self⟩

end Finish

end Call
end Store
end CannedHttp
