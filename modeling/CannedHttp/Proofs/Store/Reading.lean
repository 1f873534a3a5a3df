import CannedHttp.Files.Disk
import CannedHttp.Proofs.Store.Population
import CannedHttp.Proofs.Store.Progress

/-!
What a call has read. It begins by asking for the directory, and as long as the files stay what they are, the
rest of populating gives what populating these files gives.
-/
namespace CannedHttp

theorem Action.asks_or_not (action : Action) :
    (∃ path, action = .directoryExists path) ∨ ∀ path, action ≠ .directoryExists path := by
  cases action with
  | directoryExists path => exact .inl ⟨path,rfl⟩
  | _ => exact .inr nofun

/-- Reading leaves the files as they are. -/
def FileReader.Steady (σ : Type) [FileReader σ] : Prop :=
  ∀ (files : σ) path, (FileReader.readText files path).2 = files

theorem Disk.steady : FileReader.Steady Disk :=
  fun _ _ => rfl

section Files
variable {σ : Type} [FileReader σ] (steady : FileReader.Steady σ)
include steady

theorem World.files_perform (w : World σ) (action : Action) : (w.perform action).2.files = w.files := by
  cases action with
  | readText path => exact steady w.files path
  | bind address =>
    simp only [perform]
    split <;> rfl
  | _ => rfl

theorem Script.files_run {α : Type} (s : Script α) (w : World σ) : (s.run w).2.files = w.files := by
  induction s generalizing w with
  | done a => rfl
  | step action next ih => exact (ih _ (w.perform action).2).trans (w.files_perform steady action)

omit steady in
private theorem World.reply_of_files (w v : World σ) (action : Action) (populating : action.populates = true)
    (same : w.files = v.files) : (w.perform action).1 = (v.perform action).1 := by
  cases action with
  | directoryExists path => exact congrArg (FileReader.directoryExists · path) same
  | listFiles directory pattern => exact congrArg (FileReader.listFiles · directory pattern) same
  | readText path => exact congrArg (fun files => (FileReader.readText files path).1) same
  | report e => rfl
  | measure m => rfl
  | _ => contradiction

theorem Script.run_of_files {α : Type} (s : Script α) (uses : s.Uses (·.populates = true)) (w v : World σ)
    (same : w.files = v.files) : (s.run w).1 = (s.run v).1 := by
  induction s generalizing w v with
  | done a => rfl
  | step action next ih =>
    have files : (w.perform action).2.files = (v.perform action).2.files := by
      rw [w.files_perform steady,v.files_perform steady,same]
    have later := ih (w.perform action).1 (uses.2 _) (w.perform action).2 (v.perform action).2 files
    simp only [run,← w.reply_of_files v action uses.1 same]
    exact later

end Files

namespace Store
open Script

def Asked (t : List Exchange) : Prop :=
  ∃ path reply, ⟨.directoryExists path,reply⟩ ∈ t

theorem asked_last (t : List Exchange) (e : Exchange) :
    Asked (t ++ [e]) ↔ Asked t ∨ ∃ path, e.1 = .directoryExists path := by
  constructor
  · rintro ⟨path,reply,member⟩
    rcases List.mem_append.mp member with old | new
    · exact .inl ⟨path,reply,old⟩
    · obtain rfl := List.mem_singleton.mp new
      exact .inr ⟨path,rfl⟩
  · rintro (⟨path,reply,old⟩ | ⟨path,asks⟩)
    · exact ⟨path,reply,List.mem_append_left _ old⟩
    · obtain ⟨action,reply⟩ := e
      subst asks
      exact ⟨path,reply,List.mem_append_right _ List.mem_cons_self⟩

namespace Call
variable (c : Config.Routes) (call : Call) (t : List Exchange)

theorem unasked_entry : ¬Asked call.entry := by
  rintro ⟨path,reply,member⟩
  have action : Action.directoryExists path ∈ call.entry.map Sigma.fst := List.mem_map_of_mem member
  cases call <;> simp [entry] at action

private theorem populate_asks : ∃ next, populate c = .step (.directoryExists c.directory) next :=
  ⟨_,rfl⟩

/-- A caller that asks for the directory has come to populating. -/
theorem asking_origin (path : Path) (next : Bool → Script (Except Error Snapshot))
    (follows : Follows (call.script c) t (.step (.directoryExists path) next)) :
    ∃ later, call.Begun c t (.step (.directoryExists path) later) := by
  rcases early_or_populating c call t _ follows with early | ⟨u,rfl,rest⟩
  · have idle := (early.idle (.directoryExists path) next rfl).1
    contradiction
  · rcases rest.of_bind call.finish _ u _ with ⟨action,later,inside,same⟩ | ⟨v,w,outcome,rfl,_,after⟩
    · obtain rfl : .directoryExists path = action := (Script.step.inj same).1
      exact ⟨later,u,rfl,inside⟩
    · have never : (call.finish outcome).Uses fun action => ∀ path, action ≠ .directoryExists path :=
        call.finish_uses _ outcome (fun _ => nofun) nofun fun _ _ => nofun
      exact absurd rfl ((after.uses _ _ _ _ never).2.1 path)

theorem begun_asked (p : Script (Except Error (List Route))) (begun : call.Begun c t p) :
    p = populate c ∨ Asked t := by
  obtain ⟨u,rfl,inside⟩ := begun
  obtain ⟨next,first⟩ := populate_asks c
  rw [first] at inside ⊢
  cases inside with
  | here => exact .inl rfl
  | step _ reply _ u _ rest =>
    exact .inr ⟨c.directory,reply,List.mem_append_right _ List.mem_cons_self⟩

theorem asked_of_populated (outcome : Except Error (List Route)) (begun : call.Begun c t (.done outcome)) :
    Asked t := by
  rcases begun_asked c call t _ begun with first | asked
  · obtain ⟨next,asks⟩ := populate_asks c
    rw [asks] at first
    contradiction
  · exact asked

theorem asked_of_reload (result : Except Error Snapshot)
    (follows : Follows (script c .reload) t (.done result)) : Asked t := by
  rw [script_reload,reload_eq] at follows
  cases follows with
  | step _ _ _ u _ rest =>
    obtain ⟨next,first⟩ := populate_asks c
    rw [first] at rest
    cases rest with
    | step _ reply _ u _ rest =>
      exact ⟨c.directory,reply,List.mem_cons_of_mem _ List.mem_cons_self⟩

end Call

section Telling
variable {σ : Type} [FileReader σ] (c : Config.Routes) (files : σ)

/-- The script gives what populating the files gives. -/
def Tells (p : Script (Except Error (List Route))) : Prop :=
  ∀ w : World σ, w.files = files → (p.run w).1 = populated c files

theorem tells_populate : Tells c files (populate c) := by
  rintro w rfl
  exact run_populate c w

theorem outcome_of_tells (outcome : Except Error (List Route)) (tells : Tells c files (.done outcome)) :
    outcome = populated c files :=
  tells (.start files) rfl

theorem tells_next (steady : FileReader.Steady σ) (action : Action)
    (next : action.Reply → Script (Except Error (List Route)))
    (uses : (Script.step action next).Uses (·.populates = true)) (w : World σ) (same : w.files = files)
    (tells : Tells c files (.step action next)) : Tells c files (next (w.perform action).1) := by
  intro v files_eq
  have after : (w.perform action).2.files = v.files :=
    (w.files_perform steady action).trans (same.trans files_eq.symm)
  have now := tells w same
  rw [← run_of_files steady _ (uses.2 _) (w.perform action).2 v after]
  exact now

end Telling
end Store
end CannedHttp
