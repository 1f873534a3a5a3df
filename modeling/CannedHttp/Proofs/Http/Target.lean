import CannedHttp.Http.Request
import CannedHttp.Proofs.Text.Splitting
import CannedHttp.Proofs.Url

/-!
What a request for a path has of the text it was made from. Without a fragment the target falls apart at
its first question mark, as a URL does.
-/
namespace CannedHttp.Http

/-- The text between the first question mark and the end of the target, if there is any. -/
def Target.rawQuery (t : Target) : Text :=
  t.query?.getD []

/-- The query with the question mark before it. -/
def Target.markedQuery (t : Target) : Text :=
  (t.query?.map ('?' :: ·)).getD []

theorem Request.make_parts (method target : Text) (headers : List (Text × Bytes)) (body : Bytes) (r : Request)
    (made : Request.make? method target headers body = some r) :
    Target.parse? target = some r.target ∧ r.method = method := by
  obtain ⟨parsed,ok,made⟩ := Option.bind_eq_some_iff.mp made
  obtain ⟨given,_,made⟩ := Option.bind_eq_some_iff.mp made
  rw [Option.ite_none_right_eq_some] at made
  obtain rfl := Option.some.inj made.2
  exact ⟨ok,rfl⟩

private theorem cut_without_fragment (t : Text) (clean : '#' ∉ t) :
    Text.cut (fun c => c == '?' || c == '#') t = Url.splitQuery t := by
  refine Text.cut_congr _ _ t fun c member => ?_
  have other : (c == '#') = false := Text.apart_of_not_mem '#' t clean c member
  rw [other,Bool.or_false]

theorem Target.parse_of_slash (t : Text) (target : Target) (slash : t.head? = some '/')
    (ok : Target.parse? t = some target) : Target.pathAndQuery? none [] t = some target := by
  have other : t ≠ ['*'] := by
    rintro rfl
    contradiction
  unfold Target.parse? at ok
  split at ok
  next => contradiction
  next => exact ok

theorem Target.split_of_parse (t : Text) (target : Target) (slash : t.head? = some '/') (clean : '#' ∉ t)
    (ok : Target.parse? t = some target) : Url.splitQuery t = (target.path, target.markedQuery) := by
  have parts := Target.parse_of_slash t target slash ok
  unfold Target.pathAndQuery? at parts
  rw [cut_without_fragment t clean] at parts
  simp only [Option.ite_none_right_eq_some] at parts
  obtain ⟨_,made⟩ := parts
  obtain rfl := Option.some.inj made
  have path : (if (Url.splitQuery t).1.isEmpty then ['/'] else (Url.splitQuery t).1) = (Url.splitQuery t).1 := by
    obtain ⟨rest,rfl⟩ := List.head?_eq_some_iff.mp slash
    rfl
  rcases Url.splitQuery_marked t with none_left | ⟨raw,rest⟩
  · simp only [path,none_left]
    exact Prod.ext rfl none_left
  · have kept : raw.takeWhile (· != '#') = raw := by
      refine congrArg Prod.fst (Text.run_of_forall (· != '#') raw fun c member => ?_)
      have inside : c ∈ t := (List.dropWhile_suffix _).subset (rest ▸ List.mem_cons_of_mem '?' member)
      exact bne_iff_ne.mpr fun sign => clean (sign ▸ inside)
    simp only [path,rest,kept]
    exact Prod.ext rfl rest

end CannedHttp.Http
