import Mathlib.Data.List.Forall2

/-!
Outcomes of work that can fail. A list of steps succeeds exactly if every step does, with the
results in order.
-/
namespace CannedHttp.Outcome
variable {ε α β : Type}

theorem map_ok (step : α → β) (input : Except ε α) (result : β) (ok : input.map step = .ok result) :
    ∃ value, input = .ok value ∧ step value = result := by
  cases input with
  | error e => cases ok
  | ok value => exact ⟨value,rfl,Except.ok.inj ok⟩

theorem map_map {γ : Type} (first : α → β) (second : β → γ) (input : Except ε α) :
    (input.map first).map second = input.map fun value => second (first value) := by
  cases input <;> rfl

theorem map_error_iff (step : α → β) (input : Except ε α) (e : ε) :
    input.map step = .error e ↔ input = .error e := by
  cases input <;> simp [Except.map]

theorem mapM_cons (f : α → Except ε β) (x : α) (xs : List α) :
    (x :: xs).mapM f = match f x with
      | .error e => .error e
      | .ok y => (xs.mapM f).map (y :: ·) := by
  rw [List.mapM_cons]
  cases f x with
  | error e => rfl
  | ok y => cases xs.mapM f <;> rfl

theorem mapM_ok_iff (f : α → Except ε β) (xs : List α) (ys : List β) :
    xs.mapM f = .ok ys ↔ List.Forall₂ (fun x y => f x = .ok y) xs ys := by
  induction xs generalizing ys with
  | nil => cases ys <;> simp [pure,Except.pure]
  | cons x xs ih =>
    rw [mapM_cons]
    constructor
    · intro ok
      cases first : f x with
      | error e => simp [first] at ok
      | ok y =>
        obtain ⟨rest,later,rfl⟩ := map_ok _ _ _ (by simpa [first] using ok)
        exact .cons first ((ih rest).mp later)
    · intro all
      cases all with
      | cons first later => simp [first,(ih _).mpr later,Except.map]

theorem mapM_ok_mem (f : α → Except ε β) (xs : List α) (ys : List β) (ok : xs.mapM f = .ok ys)
    (y : β) (member : y ∈ ys) : ∃ x ∈ xs, f x = .ok y := by
  have all := (mapM_ok_iff f xs ys).mp ok
  induction all with
  | nil => simp at member
  | cons first later ih =>
    rcases List.mem_cons.mp member with rfl | inside
    · exact ⟨_,List.mem_cons_self,first⟩
    · obtain ⟨x,present,result⟩ := ih ((mapM_ok_iff f _ _).mpr later) inside
      exact ⟨x,List.mem_cons_of_mem _ present,result⟩

/-- The steps fail with the error of the first one that does; those after it do not matter. -/
theorem mapM_error_iff (f : α → Except ε β) (xs : List α) (e : ε) :
    xs.mapM f = .error e ↔
      ∃ before x after, xs = before ++ x :: after ∧ (∃ ys, before.mapM f = .ok ys) ∧ f x = .error e := by
  constructor
  · intro failed
    induction xs with
    | nil => contradiction
    | cons x xs ih =>
      rw [mapM_cons] at failed
      cases first : f x with
      | error e' =>
        rw [first] at failed
        obtain rfl := Except.error.inj failed
        exact ⟨[],x,xs,rfl,⟨[],rfl⟩,first⟩
      | ok y =>
        rw [first] at failed
        cases rest : xs.mapM f with
        | ok ys =>
          rw [rest] at failed
          contradiction
        | error e' =>
          rw [rest] at failed
          obtain rfl := Except.error.inj failed
          obtain ⟨before,z,after,rfl,⟨ys,succeeded⟩,found⟩ := ih rest
          refine ⟨x :: before,z,after,rfl,⟨y :: ys,?_⟩,found⟩
          rw [mapM_cons,first,succeeded]
          rfl
  · rintro ⟨before,x,after,rfl,⟨ys,succeeded⟩,failed⟩
    rw [List.mapM_append,succeeded,mapM_cons,failed]
    rfl

theorem mapM_error_mem (f : α → Except ε β) (xs : List α) (e : ε) (failed : xs.mapM f = .error e) :
    ∃ x ∈ xs, f x = .error e := by
  obtain ⟨before,x,after,rfl,_,found⟩ := (mapM_error_iff f xs e).mp failed
  exact ⟨x,by simp,found⟩

theorem mapM_ok_of_mem (f : α → Except ε β) (xs : List α) (ys : List β) (ok : xs.mapM f = .ok ys)
    (x : α) (member : x ∈ xs) : ∃ y, f x = .ok y := by
  have all := (mapM_ok_iff f xs ys).mp ok
  induction all with
  | nil => simp at member
  | cons first later ih =>
    rcases List.mem_cons.mp member with rfl | inside
    · exact ⟨_,first⟩
    · exact ih ((mapM_ok_iff f _ _).mpr later) inside

end CannedHttp.Outcome
