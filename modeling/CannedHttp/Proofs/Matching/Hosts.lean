import CannedHttp.Proofs.Matching.FastPath
import CannedHttp.Proofs.Matching.Search
import CannedHttp.Proofs.Url.Grammar

/-!
A host before a path leaves path and query as they are, and matching looks at nothing else of a URL.
Only a number sign, which no URL with a host holds, tells a bare path from one with a host before it.
-/
namespace CannedHttp

namespace Url

/-- The parts of a path with a host before it. -/
def hostedParts (host t : Text) : HostUrl where
  scheme := "http://".toList
  host := host
  port := []
  path := (splitQuery t).1
  query := (splitQuery t).2

section Hosted
variable (host t : Text) (named : HostUrl.Host host) (slash : t.head? = some '/')

private theorem hash_not_mem_written (p : HostUrl) (wellFormed : p.WellFormed) : '#' ∉ p.written := by
  have scheme : ∀ s ∈ HostUrl.schemes, '#' ∉ s := by simp [HostUrl.schemes]
  simp only [HostUrl.written,List.mem_append,not_or]
  exact ⟨scheme p.scheme wellFormed.scheme,
    ⟨not_mem_host p.host wellFormed.host '#' (by simp),not_mem_port p.port wellFormed.port '#' (by simp)⟩,
    (path_of_wellFormed p wellFormed).2,(query_of_wellFormed p wellFormed).2⟩

include named

private theorem visible_host : ∀ c ∈ host, Text.isBlank c = false := by
  intro c member
  rcases mem_host host named c member with letter | other
  · have bounds := Text.isAlphanum_bounds c letter
    have word : Text.isWord c = true := by
      rw [Text.isWord,if_pos (by omega)]
      simp [letter]
    exact Text.isBlank_of_isWord c word
  · have apart : ∀ d ∈ ['.', '-', '_', '\x7b', '\x7d'], Text.isBlank d = false :=
      Text.visible_of_all _ (by decide)
    exact apart c other

private theorem visible_hosted :
    (∀ c ∈ "http://".toList ++ (host ++ t), Text.isBlank c = false) ↔ ∀ c ∈ t, Text.isBlank c = false := by
  have scheme : ∀ c ∈ "http://".toList, Text.isBlank c = false :=
    Text.visible_of_all _ (by decide)
  rw [List.forall_mem_append,List.forall_mem_append]
  constructor
  · rintro ⟨_,_,visible⟩
    exact visible
  · intro visible
    exact ⟨scheme,visible_host host named,visible⟩

include slash

private theorem wellFormed_hosted (clean : '#' ∉ t) :
    (hostedParts host t).WellFormed ∧ (hostedParts host t).written = "http://".toList ++ (host ++ t) := by
  obtain ⟨rest,rfl⟩ := List.head?_eq_some_iff.mp slash
  have cut := Text.cut_append_cons endsAuthority [] rest '/' (by simp) (by decide)
  rw [List.nil_append] at cut
  have path := path_of_rest ('/' :: rest)
  rw [cut] at path
  have scheme : "http://".toList ∈ HostUrl.schemes := List.mem_cons_of_mem _ List.mem_cons_self
  refine ⟨⟨scheme,named,.inl rfl,path clean,query_of_rest _ clean⟩,?_⟩
  have whole : (splitQuery ('/' :: rest)).1 ++ (splitQuery ('/' :: rest)).2 = '/' :: rest :=
    Text.append_cut (· == '?') ('/' :: rest)
  change "http://".toList ++ (host ++ [] ++ ((splitQuery ('/' :: rest)).1 ++ (splitQuery ('/' :: rest)).2)) = _
  rw [whole,List.append_nil]

/-- A path is read with a host before it as it is without, save that it may then hold no number sign. -/
private theorem parse_hosted : parse? ("http://".toList ++ (host ++ t)) =
    if '#' ∈ t then none else (parse? t).map fun u => { u with host? := some host } := by
  have nonempty : t ≠ [] := by
    rintro rfl
    simp at slash
  split
  next sign =>
    apply Option.eq_none_iff_forall_not_mem.mpr
    intro u ok
    obtain ⟨_,_,⟨absolute,_⟩ | ⟨p,wellFormed,same,_⟩⟩ := (parse_eq_some_iff _ u).mp ok
    · simp at absolute
    · apply hash_not_mem_written p wellFormed
      simp [same,sign]
  next clean =>
    obtain ⟨wellFormed,same⟩ := wellFormed_hosted host t named slash clean
    by_cases visible : ∀ c ∈ t, Text.isBlank c = false
    · have read := (parse_eq_some_iff _ _).mpr
        ⟨by simp,(visible_hosted host t named).mpr visible,.inr ⟨_,wellFormed,same,rfl⟩⟩
      have absolute : (splitQuery t).1 ≠ [] := by
        obtain ⟨rest,rfl⟩ := List.head?_eq_some_iff.mp slash
        simp [splitQuery,Text.cut]
      rw [read,parse_of_readable t nonempty visible,if_pos slash]
      change some (⟨some (host ++ []),if (splitQuery t).1.isEmpty then ['/'] else (splitQuery t).1,
        (splitQuery t).2⟩ : Url) = some ⟨some host,(splitQuery t).1,(splitQuery t).2⟩
      simp [absolute]
    · have bare : parse? t = none := by
        apply Option.eq_none_iff_forall_not_mem.mpr
        intro u ok
        exact visible (readable_of_parse t u ok).2
      rw [bare,Option.map_none]
      apply Option.eq_none_iff_forall_not_mem.mpr
      intro u ok
      exact visible ((visible_hosted host t named).mp (readable_of_parse _ u ok).2)

end Hosted
end Url

namespace Matching

theorem acceptsExactly_iff (r : Route) (q : Request) (compiled : r.Compiled) (split : q.Split)
    (valid : r.valid = true) : Strategy.acceptsExactly r q = true ↔ r.path = q.path ∧ r.query = q.query := by
  constructor
  · exact parts_of_exact r q compiled split valid
  · rintro ⟨path,query⟩
    simp [Strategy.acceptsExactly,path,query]

/-- Routes whose URLs have one path and one query have the same outcome with either strategy. -/
private theorem captures_of_same_parts (r s : Route) (q : Request) (split : q.Split) (left : r.Compiled)
    (right : s.Compiled) (usable : r.valid = true) (valid : r.valid = s.valid) (path : r.path = s.path)
    (query : r.query = s.query) (strategy : Strategy) (known : strategy ∈ defaultStrategies) :
    strategy.captures? r q = strategy.captures? s q := by
  rcases List.mem_pair.mp known with rfl | rfl
  · have same : Strategy.acceptsExactly r q = Strategy.acceptsExactly s q := by
      apply Bool.eq_iff_iff.mpr
      rw [acceptsExactly_iff r q left split usable,acceptsExactly_iff s q right split (valid ▸ usable),path,query]
    simp [captures_exact,same]
  · have segments : r.segments = s.segments := by
      rw [r.segments_of_compiled left,s.segments_of_compiled right,path]
    have parameters : r.parameters = s.parameters := by
      rw [r.parameters_of_compiled left,s.parameters_of_compiled right,query]
    have path_asked : pathDemands r q.path = pathDemands s q.path := by
      unfold pathDemands
      rw [segments]
    have query_asked : queryDemands r q.query = queryDemands s q.query := by
      unfold queryDemands
      rw [parameters]
    exact captures_of_demands r s q q path_asked query_asked

private theorem firstAccepting_congr (r s : Route) (q : Request) (ss : List Strategy)
    (same : ∀ strategy ∈ ss, strategy.captures? r q = strategy.captures? s q) :
    firstAccepting r q ss = firstAccepting s q ss := by
  induction ss with
  | nil => rfl
  | cons strategy ss ih =>
    rw [firstAccepting,firstAccepting,same strategy List.mem_cons_self]
    rw [ih fun other member => same other (List.mem_cons_of_mem strategy member)]

private theorem found_exchange (ss : List Strategy) (r s : Route) (q : Request) (same : turn ss r q = turn ss s q)
    (before after : List Route) (i : Nat) :
    (findFrom ss q i (before ++ r :: after)).map Match.found =
      (findFrom ss q i (before ++ s :: after)).map Match.found := by
  induction before generalizing i with
  | nil =>
    unfold turn at same
    simp only [List.nil_append,findFrom,same]
    split
    · simp [Match.found]
    · simp
  | cons first before ih =>
    simp only [List.cons_append,findFrom]
    split
    · simp
    · exact ih (i + 1)

section Irrelevance
variable (file method host t : Text) (named : HostUrl.Host host) (slash : t.head? = some '/')
include named slash

private theorem hosted_parts (clean : '#' ∉ t) :
    (Route.make file method ("http://".toList ++ (host ++ t))).valid = (Route.make file method t).valid ∧
      (Route.make file method ("http://".toList ++ (host ++ t))).path = (Route.make file method t).path ∧
      (Route.make file method ("http://".toList ++ (host ++ t))).query = (Route.make file method t).query := by
  have read := Url.parse_hosted host t named slash
  rw [if_neg clean] at read
  simp only [Route.make,read]
  cases Url.parse? t with
  | none => simp
  | some u => simp

/-- A host before a path changes neither its parts nor, in any list of routes, what is found for a request,
but a path with a number sign is no URL any more. -/
theorem host_irrelevant :
    ((Url.parse? ("http://".toList ++ (host ++ t))).isSome = true ↔
      (Url.parse? t).isSome = true ∧ '#' ∉ t) ∧
    (∀ u v, Url.parse? t = some u → Url.parse? ("http://".toList ++ (host ++ t)) = some v →
      u.path = v.path ∧ u.query = v.query) ∧
    ∀ q : Request, (∃ query, q = .make q.method q.path query) → q.path.head? = some '/' → '?' ∉ q.path →
      '#' ∉ t →
        ((Url.parse? t).isSome = true → ∀ strategy ∈ defaultStrategies,
          strategy.captures? (Route.make file method t) q =
            strategy.captures? (Route.make file method ("http://".toList ++ (host ++ t))) q) ∧
        ∀ (ss : List Strategy) (before after : List Route), ss ⊆ defaultStrategies →
          (find? ss (before ++ Route.make file method t :: after) q).map Match.found =
            (find? ss (before ++ Route.make file method ("http://".toList ++ (host ++ t)) :: after) q).map
              Match.found := by
  have read := Url.parse_hosted host t named slash
  refine ⟨?_,?_,?_⟩
  · rw [read]
    split
    next sign => simp [sign]
    next clean => simp [clean]
  · intro u v bare both
    rw [read,Option.ite_none_left_eq_some,bare,Option.map_some] at both
    obtain ⟨_,same⟩ := both
    simp [← Option.some.inj same]
  · intro q made absolute unmarked clean
    have split := split_of_made q made absolute unmarked
    obtain ⟨valid,path,query⟩ := hosted_parts file method host t named slash clean
    have each (usable : (Route.make file method t).valid = true) := captures_of_same_parts
      (Route.make file method t) (Route.make file method ("http://".toList ++ (host ++ t))) q split
      (Route.compiled_make file method t) (Route.compiled_make file method _) usable valid.symm path.symm query.symm
    refine ⟨each,?_⟩
    intro ss before after known
    apply found_exchange
    unfold turn eligible
    rw [valid]
    cases usable : (Route.make file method t).valid with
    | false => simp
    | true =>
      rw [firstAccepting_congr _ _ q ss fun strategy member => each usable strategy (known member)]
      rfl

end Irrelevance

theorem host_irrelevant_pets :
    HostUrl.Host "pets.example".toList ∧ "/pets?kind=cat".toList.head? = some '/' ∧
      (Url.parse? ("http://".toList ++ ("pets.example".toList ++ "/pets?kind=cat".toList))).isSome = true ∧
      petRequest.path.head? = some '/' ∧ '?' ∉ petRequest.path ∧ '#' ∉ "/pets?kind=cat".toList ∧
      Strategy.exact.captures? (Route.make [] [] "/pets?kind=cat".toList) petRequest =
        Strategy.exact.captures? (Route.make [] []
          ("http://".toList ++ ("pets.example".toList ++ "/pets?kind=cat".toList))) petRequest := by
  have named : HostUrl.Host "pets.example".toList := (Url.isHost_iff _).mp (by decide)
  have clean : '#' ∉ "/pets?kind=cat".toList := by decide
  have unmarked : '?' ∉ petRequest.path := by decide
  have readable : (Url.parse? "/pets?kind=cat".toList).isSome = true := by decide
  obtain ⟨accepted,_,requests⟩ := host_irrelevant [] [] "pets.example".toList "/pets?kind=cat".toList named rfl
  have same := (requests petRequest ⟨_,rfl⟩ rfl unmarked clean).1 readable .exact List.mem_cons_self
  exact ⟨named,rfl,accepted.mpr ⟨readable,clean⟩,rfl,unmarked,clean,same⟩

/-- A number sign is part of a path, but of no path after a host. -/
theorem number_sign_without_host :
    HostUrl.Host "h".toList ∧ (Url.parse? "/x#frag".toList).isSome = true ∧
      Url.parse? ("http://".toList ++ ("h".toList ++ "/x#frag".toList)) = none := by
  have named : HostUrl.Host "h".toList := (Url.isHost_iff _).mp (by decide)
  exact ⟨named,by decide,by decide⟩

end Matching

end CannedHttp
