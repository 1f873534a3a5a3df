import CannedHttp.Proofs.Server.Handling
import CannedHttp.Proofs.Store.Publishing
import Mathlib.Data.List.Induction

/-!
A server over time. Requests of every kind come in any order, and between them the files change in any way.
A published snapshot alone decides the answers of the routes until a reload succeeds, and logging requests
changes nothing but the log.
-/
namespace CannedHttp

/-- The same configuration with requests logged or not. -/
def Config.logging (c : Config) (logged : Bool) : Config :=
  { c with observability.logRequests := logged }

namespace Server
open Http (Request Response)
open Script

inductive Deed (σ : Type) where
  | request (r : Request)
  | edit (files : σ)

section Deeds
variable {σ : Type} [FileReader σ] (c : Config)

def Deed.after (w : World σ) : Deed σ → World σ
  | .request r => ((handle c r).run w).2
  | .edit files => { w with files }

def afterAll (w : World σ) (deeds : List (Deed σ)) : World σ :=
  deeds.foldl (Deed.after c) w

def answers (w : World σ) : List (Deed σ) → List Response
  | [] => []
  | .request r :: deeds => ((handle c r).run w).1 :: answers ((handle c r).run w).2 deeds
  | .edit files :: deeds => answers { w with files } deeds

end Deeds

section Logging
variable (c : Config) (logged : Bool) (r : Request)

private theorem unreported_dispatch : (dispatch (c.logging logged) r).unreported = (dispatch c r).unreported := by
  have same : endpoint? (c.logging logged) r.target.path = endpoint? c r.target.path := rfl
  unfold dispatch
  rw [same]
  cases endpoint? c r.target.path with
  | some e => rfl
  | none =>
    dsimp only
    split
    next => exact (unreported_mock (c.logging logged) r).trans (unreported_mock c r).symm
    next => rfl

private theorem unreported_handle : (handle (c.logging logged) r).unreported = (handle c r).unreported := by
  unfold handle
  rw [unreported_bind,unreported_bind]
  refine congrArg (_ >>= ·) (funext fun r => ?_)
  rw [unreported_bind,unreported_bind,unreported_dispatch]
  rfl

variable {σ : Type} [FileReader σ]

/-- Logging requests changes no answer, and the world only in what is reported. -/
private theorem logging_unseen (deeds : List (Deed σ)) (w v : World σ) (same : w.unreported = v.unreported) :
    answers (c.logging logged) w deeds = answers c v deeds ∧
      (afterAll (c.logging logged) w deeds).unreported = (afterAll c v deeds).unreported := by
  induction deeds generalizing w v with
  | nil => exact ⟨rfl,same⟩
  | cons d deeds ih =>
    cases d with
    | edit files =>
      have edited : ({ w with files } : World σ).unreported = ({ v with files } : World σ).unreported :=
        congrArg (fun w : World σ => { w with files }) same
      exact ih _ _ edited
    | request r =>
      obtain ⟨answer,world⟩ := run_of_unreported _ _ w v (unreported_handle c logged r) same
      obtain ⟨later,after⟩ := ih _ _ world
      exact ⟨List.cons_eq_cons.mpr ⟨answer,later⟩,after⟩

end Logging

section Runs
variable {σ : Type} [FileReader σ] (c : Config) (w : World σ) (deeds : List (Deed σ))

theorem afterAll_concat (d : Deed σ) : afterAll c w (deeds ++ [d]) = d.after c (afterAll c w deeds) :=
  List.foldl_concat _ _ _ _

private theorem kept_or_replaced (s : Snapshot) (published : w.snapshot? = some s) :
    Keeps w s (afterAll c w deeds) ∨ (∃ t, (afterAll c w deeds).snapshot? = some t) ∧
      w.metrics.reloadsSucceeded < (afterAll c w deeds).metrics.reloadsSucceeded := by
  induction deeds using List.reverseRecOn with
  | nil => exact .inl ⟨published,rfl⟩
  | append_singleton deeds d ih =>
    rw [afterAll_concat]
    cases d with
    | edit files => exact ih
    | request r =>
      rcases ih with ⟨kept,succeeded⟩ | ⟨⟨t,present⟩,more⟩
      · rcases keeps_or_reloads_handle c r _ s kept with ⟨snapshot,same⟩ | ⟨_,there,more⟩
        · exact .inl ⟨snapshot,same.trans succeeded⟩
        · refine .inr ⟨there,?_⟩
          change _ < ((handle c r).run _).2.metrics.reloadsSucceeded
          omega
      · rcases keeps_or_reloads_handle c r _ t present with ⟨snapshot,same⟩ | ⟨_,there,again⟩
        · exact .inr ⟨⟨t,snapshot⟩,same.symm ▸ more⟩
        · refine .inr ⟨there,?_⟩
          change _ < ((handle c r).run _).2.metrics.reloadsSucceeded
          omega

private theorem answer_of_published (s : Snapshot) (published : w.snapshot? = some s) (r : Request) :
    ((mock c r).run w).1 = routesAnswer s.routes r c := by
  have found : Store.served c.routes w = .ok s.routes := by rw [Store.served,published]
  exact ((answered c r w).served s.routes found).1

/-- After any requests and edits, a request is answered and counted as the snapshot says, which is
populated if there is none; a snapshot decides the answers until a reload succeeds, whatever happens to the
files; and with requests logged all answers and all that is kept are the same. -/
theorem mock_answers :
    (∀ r, Answered c r (afterAll c w deeds)) ∧
    (∀ s, w.snapshot? = some s →
      (afterAll c w deeds).metrics.reloadsSucceeded = w.metrics.reloadsSucceeded →
        ∀ r, ((mock c r).run (afterAll c w deeds)).1 = routesAnswer s.routes r c) ∧
    ∀ logged, answers (c.logging logged) w deeds = answers c w deeds ∧
      (afterAll (c.logging logged) w deeds).unreported = (afterAll c w deeds).unreported := by
  refine ⟨fun r => answered c r _,fun s published unloaded r => ?_,fun logged => ?_⟩
  · rcases kept_or_replaced c w deeds s published with ⟨kept,_⟩ | ⟨_,more⟩
    · exact answer_of_published c _ s kept r
    · omega
  · exact logging_unseen c logged deeds w w rfl

end Runs

def petServer : Config :=
  { Config.default with routes := Store.Callers.petConfig, admin := ⟨true,"key".toList⟩ }

def petRequest : Request :=
  ⟨"GET".toList,⟨none,[],"/pets".toList,none⟩,.empty,[]⟩

def bearer (key : String) : Bytes :=
  Utf8.encode ("Bearer ".toList ++ key.toList)

def reloadRequest : Request :=
  ⟨"POST".toList,⟨none,[],"/admin/reload".toList,none⟩,
    .ofList [(Admin.authorizationName,bearer "key")],[]⟩

def brokenPets : MemoryFiles :=
  .ofList [(Utf8.encode "routes/pets.http".toList,"pets".toList)]

def petWorld : World MemoryFiles :=
  afterAll petServer (.start Store.Callers.petFiles) [.request petRequest]

/-- The file is broken before it is to be loaded again. -/
def petDeeds : List (Deed MemoryFiles) :=
  [.edit brokenPets,.request reloadRequest]

theorem mock_answers_pets :
    ∃ s, petWorld.snapshot? = some s ∧
      (afterAll petServer petWorld petDeeds).metrics.reloadsSucceeded = petWorld.metrics.reloadsSucceeded ∧
      (afterAll petServer petWorld petDeeds).metrics.reloadsFailed = 1 ∧
      ((mock petServer petRequest).run (afterAll petServer petWorld petDeeds)).1 =
        ⟨200,.empty,"none".toList⟩ := by
  have answering : petWorld.snapshot?.map (fun s => routesAnswer s.routes petRequest petServer) =
      some ⟨200,.empty,"none".toList⟩ := by
    decide +kernel
  have unloaded : (afterAll petServer petWorld petDeeds).metrics.reloadsSucceeded =
      petWorld.metrics.reloadsSucceeded := by
    decide +kernel
  obtain ⟨s,published,answer⟩ := Option.map_eq_some_iff.mp answering
  refine ⟨s,published,unloaded,by decide +kernel,?_⟩
  exact ((mock_answers petServer petWorld petDeeds).2.1 s published unloaded petRequest).trans answer

end Server
end CannedHttp
