import CannedHttp.Proofs.Http.Target
import CannedHttp.Proofs.Matching.FastPath
import CannedHttp.Proofs.Matching.Search

/-!
A definition asked for by its own URL. The query of a request is given its question mark unless it
already begins with one, so a raw query that begins with a question mark of its own loses one on the way
from the target to the route.
-/
namespace CannedHttp.Matching

section Queries

private theorem query_make_nonempty (method path raw : Text) (nonempty : raw ≠ []) :
    (Request.make method path raw).query = if raw.head? = some '?' then raw else '?' :: raw := by
  have given : raw.isEmpty = false := List.isEmpty_eq_false_iff.mpr nonempty
  by_cases marked : raw.head? = some '?'
  · simp [Request.make,marked]
  · simp [Request.make,given,marked]

/-- The first raw query is the second with a question mark before it that the second does not have. -/
def Doubled (a b : Text) : Prop :=
  a = '?' :: b ∧ b.head? ≠ some '?'

private theorem head_of_doubled (a b : Text) (doubled : Doubled a b) : a.head? = some '?' ∧ b.head? ≠ some '?' := by
  obtain ⟨rfl,plain⟩ := doubled
  exact ⟨rfl,plain⟩

private theorem marked_eq_iff (a b : Text) :
    (if a.head? = some '?' then a else '?' :: a) = (if b.head? = some '?' then b else '?' :: b) ↔
      a = b ∨ Doubled a b ∨ Doubled b a := by
  constructor
  · intro same
    by_cases first : a.head? = some '?' <;> by_cases second : b.head? = some '?'
    · rw [if_pos first,if_pos second] at same
      exact .inl same
    · rw [if_pos first,if_neg second] at same
      exact .inr (.inl ⟨same,second⟩)
    · rw [if_neg first,if_pos second] at same
      exact .inr (.inr ⟨same.symm,first⟩)
    · rw [if_neg first,if_neg second] at same
      exact .inl (List.cons.inj same).2
  · rintro (rfl | doubled | doubled)
    · rfl
    · obtain ⟨first,second⟩ := head_of_doubled a b doubled
      rw [if_pos first,if_neg second,doubled.1]
    · obtain ⟨second,first⟩ := head_of_doubled b a doubled
      rw [if_neg first,if_pos second,doubled.1]

private theorem same_query_iff (r s : Http.Request) (given : r.target.rawQuery ≠ [])
    (given_too : s.target.rawQuery ≠ []) :
    r.descriptor.query = s.descriptor.query ↔
      r.target.rawQuery = s.target.rawQuery ∨
      Doubled r.target.rawQuery s.target.rawQuery ∨ Doubled s.target.rawQuery r.target.rawQuery := by
  unfold Http.Request.descriptor
  change (Request.make _ _ r.target.rawQuery).query = (Request.make _ _ s.target.rawQuery).query ↔ _
  rw [query_make_nonempty _ _ _ given,query_make_nonempty _ _ _ given_too]
  exact marked_eq_iff r.target.rawQuery s.target.rawQuery

private theorem parse_descriptor (r : Http.Request) (plain : r.target.rawQuery.head? ≠ some '?') :
    Query.parse r.target.markedQuery = Query.parse r.descriptor.query := by
  unfold Http.Request.descriptor Http.Target.markedQuery
  unfold Http.Target.rawQuery at plain
  cases given : r.target.query? with
  | none => rfl
  | some raw =>
    rw [given,Option.getD_some] at plain
    -- an empty query is given no question mark, and a lone question mark has no parameters either
    by_cases empty : raw = []
    · subst empty
      rfl
    · rw [Option.getD_some,query_make_nonempty _ _ raw empty,if_neg plain]
      rfl

end Queries

section Search
variable (r : Route) (q : Request)

private theorem structural_of_same (compiled : r.Compiled) (path : r.path = q.path)
    (parameters : Query.parse r.query = Query.parse q.query) :
    ∃ captures, Strategy.structural.captures? r q = some captures := by
  have attempt := attempt_of_shaped r q _ _ compiled (shaped_of_same r q compiled path parameters)
  rw [Strategy.captures?,attempt]
  exact ⟨_,rfl⟩

private theorem find_of_accepting (ss : List Strategy) (s : Strategy) (chosen : eligible r q = true) (member : s ∈ ss)
    (captures : Captures) (accepts : s.captures? r q = some captures) : ∃ m, find? ss [r] q = some m := by
  obtain ⟨valid,method⟩ := (eligible_iff r q).mp chosen
  apply Option.ne_none_iff_exists'.mp
  intro missed
  exact (find_eq_none_iff ss q [r]).mp missed r List.mem_cons_self ⟨valid,method,s,member,captures,accepts⟩

end Search

/-- A request for the URL of a definition has the path and the raw query that the URL has. The definition
answers it if the raw query does not begin with a question mark, and two raw queries are taken for each
other only if one of them is the other after a question mark. -/
theorem find_own_url (file method url : Text) (headers : List (Text × Bytes)) (body : Bytes) (r : Http.Request)
    (made : Http.Request.make? method url headers body = some r) (slash : url.head? = some '/')
    (valid : (Url.parse? url).isSome = true) (clean : '#' ∉ url) :
    Url.splitQuery url = (r.target.path, r.target.markedQuery) ∧
    r.descriptor = .make method r.target.path r.target.rawQuery ∧
    (r.target.rawQuery.head? ≠ some '?' →
      ∃ m, find? defaultStrategies [.make file method url] r.descriptor = some m) ∧
    ∀ s : Http.Request, r.target.rawQuery ≠ [] → s.target.rawQuery ≠ [] →
      (r.descriptor.query = s.descriptor.query ↔
        r.target.rawQuery = s.target.rawQuery ∨
        Doubled r.target.rawQuery s.target.rawQuery ∨ Doubled s.target.rawQuery r.target.rawQuery) := by
  obtain ⟨parsed,rfl⟩ := r.make_parts method url headers body made
  have split := Http.Target.split_of_parse url r.target slash clean parsed
  refine ⟨split,rfl,?_,same_query_iff r⟩
  intro plain
  have compiled := Route.compiled_make file r.method url
  have parts : ((Route.make file r.method url).path,(Route.make file r.method url).query) =
      (r.target.path,r.target.markedQuery) :=
    (Route.split_of_compiled _ compiled valid slash).symm.trans split
  obtain ⟨path,query⟩ := Prod.mk.inj parts
  have chosen : eligible (Route.make file r.method url) r.descriptor = true :=
    Bool.and_eq_true_iff.mpr ⟨valid,beq_self_eq_true r.method⟩
  obtain ⟨captures,accepts⟩ := structural_of_same (Route.make file r.method url) r.descriptor compiled path
    (query ▸ parse_descriptor r plain)
  exact find_of_accepting _ _ defaultStrategies .structural chosen (List.mem_cons_of_mem _ List.mem_cons_self)
    captures accepts

def petUrl : Text :=
  "/pets?kind=cat&name=?".toList

theorem find_own_url_pet :
    ∃ r, Http.Request.make? "GET".toList petUrl [] [] = some r ∧ petUrl.head? = some '/' ∧
      (Url.parse? petUrl).isSome = true ∧ '#' ∉ petUrl ∧ r.target.rawQuery.head? ≠ some '?' ∧
      ∃ m, find? defaultStrategies [.make "pets.http".toList "GET".toList petUrl] r.descriptor = some m := by
  have valid : (Url.parse? petUrl).isSome = true := by decide +kernel
  have clean : '#' ∉ petUrl := by decide
  let target : Http.Target := ⟨none,[],"/pets".toList,some "kind=cat&name=?".toList⟩
  let r : Http.Request := ⟨"GET".toList,target,.ofList [],[]⟩
  have made : Http.Request.make? "GET".toList petUrl [] [] = some r := rfl
  have plain : r.target.rawQuery.head? ≠ some '?' := by decide
  have answers := find_own_url "pets.http".toList "GET".toList petUrl [] [] r made rfl valid clean
  exact ⟨r,made,rfl,valid,clean,plain,answers.2.2.1 plain⟩

def singleUrl : Text :=
  "/x?a=1".toList

def doubledUrl : Text :=
  "/x??a=1".toList

/-- A definition that does not answer its own URL, and a request for another URL that is taken for it. -/
theorem own_url_doubled :
    ∃ r s : Http.Request, Http.Request.make? "GET".toList doubledUrl [] [] = some r ∧
      Http.Request.make? "GET".toList singleUrl [] [] = some s ∧
      doubledUrl.head? = some '/' ∧ (Url.parse? doubledUrl).isSome = true ∧ '#' ∉ doubledUrl ∧
      find? defaultStrategies [.make "a.http".toList "GET".toList doubledUrl] r.descriptor = none ∧
      r.target.rawQuery ≠ [] ∧ s.target.rawQuery ≠ [] ∧ r.target.rawQuery ≠ s.target.rawQuery ∧
      r.descriptor = s.descriptor := by
  let r : Http.Request := ⟨"GET".toList,⟨none,[],"/x".toList,some "?a=1".toList⟩,.ofList [],[]⟩
  let s : Http.Request := ⟨"GET".toList,⟨none,[],"/x".toList,some "a=1".toList⟩,.ofList [],[]⟩
  have unanswered :
      (find? defaultStrategies [.make "a.http".toList "GET".toList doubledUrl] r.descriptor).isNone = true := by
    decide +kernel
  refine ⟨r,s,rfl,rfl,rfl,by decide +kernel,by decide,Option.isNone_iff_eq_none.mp unanswered,?_⟩
  exact ⟨by decide,by decide,by decide,by decide⟩

end CannedHttp.Matching
