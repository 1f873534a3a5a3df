import CannedHttp.Proofs.Query
import CannedHttp.Url

/-!
The parts of a URL. A query is absent or begins with a question mark, and a text falls apart at its
first question mark in one way only.
-/
namespace CannedHttp.Url
open Query (Marked)

theorem splitQuery_marked (t : Text) : Marked (splitQuery t).2 := by
  cases rest : (splitQuery t).2 with
  | nil => exact .inl rfl
  | cons c cs =>
    have first := Text.cut_rest (· == '?') t cs c rest
    obtain rfl : c = '?' := by simpa using first
    exact .inr ⟨cs,rfl⟩

theorem splitQuery_append (path query : Text) (unmarked : '?' ∉ path) (marked : Marked query) :
    splitQuery (path ++ query) = (path, query) := by
  rcases marked with rfl | ⟨items,rfl⟩
  · rw [List.append_nil]
    exact Text.cut_of_not_mem '?' path unmarked
  · exact Text.cut_separator '?' path items unmarked

private theorem query_of_ofHostForm (t : Text) (u : Url) (ok : ofHostForm? t = some u) : Marked u.query := by
  unfold ofHostForm? at ok
  simp only [Option.ite_none_right_eq_some,Option.some.injEq] at ok
  obtain ⟨_,rfl⟩ := ok
  exact splitQuery_marked _

theorem query_of_parse (t : Text) (u : Url) (ok : parse? t = some u) : Marked u.query := by
  unfold parse? at ok
  split at ok
  next => contradiction
  next =>
    split at ok
    next =>
      obtain rfl := Option.some.inj ok
      exact splitQuery_marked t
    next => exact query_of_ofHostForm t u ok

theorem parse_of_slash (t : Text) (u : Url) (slash : t.head? = some '/') (ok : parse? t = some u) :
    u = ⟨none,(splitQuery t).1,(splitQuery t).2⟩ := by
  unfold parse? at ok
  split at ok
  next => contradiction
  next => exact (Option.some.inj ok).symm

end CannedHttp.Url
