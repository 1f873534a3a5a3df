import CannedHttp.Proofs.Store.Calls

/-!
What a caller has gone through tells where it stands. A publication has a populating run right before
it, a caller that has begun to populate holds the lock, and what was populated is published next.
-/
namespace CannedHttp.Store.Call
open Script
variable (c : Config.Routes)

variable (call : Call) (t : List Exchange)

/-- The call has come to populating, of which the last argument is left. -/
def Begun (p : Script (Except Error (List Route))) : Prop :=
  ∃ u, t = call.entry ++ u ∧ Follows (populate c) u p

def Populating : Prop :=
  ∃ action next, call.Begun c t (.step action next)

/-- The call has ended populating with these routes. -/
def Populated (routes : List Route) : Prop :=
  ∃ u v, t = u ++ v ∧ call.Begun c u (.done (.ok routes))

/-- The call has ended populating and published the routes as this snapshot. -/
def Published (s : Snapshot) : Prop :=
  ∃ u v, t = u ++ ⟨.publish s.routes,s⟩ :: v ∧ call.Begun c u (.done (.ok s.routes))

section Origins

/-- A caller about to publish has just ended a populating run with these routes. -/
theorem publish_origin (routes : List Route) (next : Snapshot → Script (Except Error Snapshot))
    (follows : Follows (call.script c) t (.step (.publish routes) next)) :
    call.Begun c t (.done (.ok routes)) := by
  rcases early_or_populating c call t _ follows with early | ⟨u,rfl,rest⟩
  · exact absurd rfl ((early.idle (.publish routes) next rfl).2 routes)
  · refine ⟨u,rfl,?_⟩
    rcases rest.of_bind call.finish _ u _ with ⟨action,later,inside,same⟩ | ⟨v,w,outcome,rfl,ended,after⟩
    · have populating : action.populates = true :=
        (inside.uses _ _ _ _ (populate_populates c)).2.1
      obtain rfl : .publish routes = action := (Script.step.inj same).1
      contradiction
    · obtain ⟨rfl,rfl⟩ := finish_publishes call w outcome routes next after
      rw [List.append_nil]
      exact ended

theorem return_origin (s : Snapshot) (follows : Follows (call.script c) t (.done (.ok s))) :
    ⟨.snapshot,some s⟩ ∈ t ∨ ∃ routes, ⟨.publish routes,s⟩ ∈ t := by
  rcases early_or_populating c call t _ follows with early | ⟨u,rfl,rest⟩
  · obtain ⟨found,same,member⟩ := early.returns _ rfl
    obtain rfl : s = found := Except.ok.inj same
    exact .inl member
  · rcases rest.of_bind call.finish _ u _ with ⟨action,later,_,same⟩ | ⟨v,w,outcome,rfl,_,after⟩
    · contradiction
    · obtain ⟨routes,member⟩ := finish_returns call w outcome s after
      exact .inr ⟨routes,by simp [member]⟩

end Origins

section Progress

theorem last_of_entry (e : Exchange) (entered : t ++ [e] = entry .get) :
    e = ⟨.snapshot,(none : Option Snapshot)⟩ := by
  have last := congrArg List.getLast? entered
  rw [List.getLast?_concat] at last
  exact Option.some.inj last

theorem published_append (u : List Exchange) (s : Snapshot) (published : call.Published c t s) :
    call.Published c (t ++ u) s := by
  obtain ⟨before,after,rfl,begun⟩ := published
  exact ⟨before,after ++ u,by simp,begun⟩

theorem begun_last (e : Exchange) (p : Script (Except Error (List Route)))
    (begun : call.Begun c (t ++ [e]) p) :
    t ++ [e] = call.entry ∨ e.1.populates = true ∧ ∃ q, call.Begun c t q ∧ Follows q [e] p := by
  obtain ⟨u,same,inside⟩ := begun
  rcases List.eq_nil_or_concat u with rfl | ⟨v,f,rfl⟩
  · rw [List.append_nil] at same
    exact .inl same
  · rw [List.concat_eq_append,← List.append_assoc] at same
    obtain ⟨rfl,last⟩ := List.append_inj' same rfl
    obtain rfl : e = f := List.singleton_inj.mp last
    rw [List.concat_eq_append] at inside
    obtain ⟨q,before,after⟩ := inside.split _ _ _ _
    have populating := (inside.uses _ _ _ _ (populate_populates c)).1 e (by simp)
    exact .inr ⟨populating,q,⟨v,rfl,before⟩,after⟩

variable (q : Script (Except Error Snapshot)) (follows : Follows (call.script c) t q)
include follows

theorem rest_of_begun (p : Script (Except Error (List Route))) (begun : call.Begun c t p) :
    q = p >>= call.finish := by
  obtain ⟨u,rfl,inside⟩ := begun
  obtain ⟨r,entered,rest⟩ := follows.split _ _ _ _
  obtain rfl : r = populate c >>= call.finish := entered.unique _ _ _ _ (entry_follows c call)
  exact rest.unique _ _ _ _ (inside.bind call.finish _ _ _)

/-- Populating goes on under the lock. -/
theorem held_of_begun (held : Bool) (guarded : q.Guarded held) (p : Script (Except Error (List Route)))
    (begun : call.Begun c t p) : held = true := by
  obtain rfl := rest_of_begun c call t q follows p begun
  obtain ⟨u,_,inside⟩ := begun
  have populating := (inside.uses _ _ _ _ (populate_populates c)).2
  cases p with
  | step action next => exact (action.permitted_of_populates held populating.1).mp guarded.1
  | done outcome =>
    cases call with
    | get => cases outcome <;> exact guarded.1
    | reload => cases outcome <;> exact guarded.1

theorem published_or_next (routes : List Route) (populated : call.Populated c t routes) :
    (∃ s, ⟨.publish routes,s⟩ ∈ t) ∨
      call.Begun c t (.done (.ok routes)) ∧ q = call.finish (.ok routes) := by
  obtain ⟨u,v,rfl,begun⟩ := populated
  obtain ⟨r,before,after⟩ := follows.split _ _ _ _
  obtain rfl : r = call.finish (.ok routes) := rest_of_begun c call u r before _ begun
  rcases finish_ok_follows call v q routes after with ⟨rfl,rfl⟩ | ⟨s,w,rfl⟩
  · rw [List.append_nil]
    exact .inr ⟨begun,rfl⟩
  · exact .inl ⟨s,by simp⟩

end Progress

theorem populated_unique (call : Call) (t : List Exchange) (first second : List Route)
    (left : call.Populated c t first) (right : call.Populated c t second) : first = second := by
  obtain ⟨_,v,rfl,u,rfl,ended⟩ := left
  obtain ⟨_,w,same,x,rfl,ended'⟩ := right
  rw [List.append_assoc,List.append_assoc] at same
  have equal := ended.unique_done _ _ _ _ _ _ _ ended' (List.append_cancel_left same)
  exact Except.ok.inj equal.2

end CannedHttp.Store.Call
