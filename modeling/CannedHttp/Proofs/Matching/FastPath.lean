import CannedHttp.Proofs.Matching.Structural

/-!
The exact strategy decides nothing that the structural one would not. A text equal to the URL splits
into path and query in the same way as the URL, so a request accepted exactly repeats every literal of
the route.
-/
namespace CannedHttp.Matching

/-- The path is absolute and ends before any question mark, and the query begins at one. -/
structure Request.Split (q : Request) : Prop where
  slash : q.path.head? = some '/'
  unmarked : '?' ∉ q.path
  marked : Query.Marked q.query

theorem split_of_made (q : Request) (made : ∃ query, q = .make q.method q.path query)
    (slash : q.path.head? = some '/') (unmarked : '?' ∉ q.path) : q.Split where
  slash := slash
  unmarked := unmarked
  marked := by
    obtain ⟨query,whole⟩ := made
    have same : q.query = (Request.make q.method q.path query).query := congrArg Request.query whole
    rw [same,Request.make]
    split
    next known =>
      rcases Bool.or_eq_true_iff.mp known with empty | first
      · exact .inl (List.isEmpty_iff.mp empty)
      · obtain ⟨items,rest⟩ := List.head?_eq_some_iff.mp (of_decide_eq_true first)
        exact .inr ⟨items,rest⟩
    next => exact .inr ⟨query,rfl⟩

section Exact
variable (r : Route) (q : Request) (compiled : r.Compiled)
include compiled

theorem parts_of_exact (split : q.Split) (valid : r.valid = true)
    (exact_accepts : Strategy.acceptsExactly r q = true) : r.path = q.path ∧ r.query = q.query := by
  rcases Bool.or_eq_true_iff.mp exact_accepts with whole | separate
  · have url : r.url = q.path ++ q.query := beq_iff_eq.mp whole
    have slash : r.url.head? = some '/' := by
      rw [url,List.head?_append,split.slash]
      rfl
    have parts : (r.path, r.query) = (q.path, q.query) := by
      rw [← r.split_of_compiled compiled valid slash,url]
      exact Url.splitQuery_append q.path q.query split.unmarked split.marked
    exact Prod.mk.inj parts
  · obtain ⟨path,query⟩ := Bool.and_eq_true_iff.mp separate
    exact ⟨beq_iff_eq.mp path,beq_iff_eq.mp query⟩

theorem shaped_of_same (path : r.path = q.path) (parameters : Query.parse r.query = Query.parse q.query) :
    Shaped r q Segment.text id where
  pieces := by
    rw [← path,r.segments_of_compiled compiled,Segment.ofPath,List.map_map]
    exact (List.map_id _).symm
  parsed := by
    rw [← parameters]
    exact (Dict.mapValues_id _).symm
  literal_segment _ _ _ := rfl
  literal_value _ _ := rfl

theorem structural_of_exact (split : q.Split) (valid : r.valid = true)
    (exact_accepts : Strategy.acceptsExactly r q = true) :
    ∃ captures, Strategy.structural.captures? r q = some captures ∧
      (r.variableNames = [] → captures = .empty) := by
  obtain ⟨path,query⟩ := parts_of_exact r q compiled split valid exact_accepts
  have attempt := attempt_of_shaped r q _ _ compiled (shaped_of_same r q compiled path (congrArg Query.parse query))
  have names := names_of_answers r Segment.text id compiled
  refine ⟨Dict.ofList ((answers r Segment.text id).filterMap Answer.binding?),?_,?_⟩
  · rw [Strategy.captures?,attempt]
    rfl
  · intro no_variables
    rw [no_variables] at names
    rw [List.map_eq_nil_iff.mp names]
    rfl

end Exact

section Search
variable (ss ts : List Strategy) (q : Request)

/-- Searches agree as far as the strategies agree on each route. -/
private theorem findFrom_related (R : Route → Strategy × Captures → Strategy × Captures → Prop)
    (routes : List Route) (i : Nat)
    (each : ∀ r ∈ routes, eligible r q = true →
      Option.Rel (R r) (firstAccepting r q ss) (firstAccepting r q ts)) :
    Option.Rel (fun m n => m.index = n.index ∧ R m.route (m.strategy, m.captures) (n.strategy, n.captures))
      (findFrom ss q i routes) (findFrom ts q i routes) := by
  induction routes generalizing i with
  | nil => exact .none
  | cons r routes ih =>
    have later := ih (i + 1) fun s member => each s (List.mem_cons_of_mem r member)
    unfold findFrom
    by_cases chosen : eligible r q = true
    · rw [if_pos chosen,if_pos chosen]
      have here := each r List.mem_cons_self chosen
      cases left : firstAccepting r q ss with
      | none =>
        cases right : firstAccepting r q ts with
        | none => exact later
        | some b =>
          rw [left,right] at here
          cases here
      | some a =>
        cases right : firstAccepting r q ts with
        | none =>
          rw [left,right] at here
          cases here
        | some b =>
          rw [left,right] at here
          cases here with
          | some related => exact .some ⟨rfl,related⟩
    · rw [if_neg chosen,if_neg chosen]
      exact later

private theorem index_of_related (P : Match → Match → Prop) (a b : Option Match)
    (related : Option.Rel (fun m n => m.index = n.index ∧ P m n) a b) :
    a.map Match.index = b.map Match.index := by
  cases related with
  | none => rfl
  | some both => exact congrArg some both.1

end Search

section Strategies
variable (r : Route) (q : Request)

theorem captures_exact :
    Strategy.exact.captures? r q = if Strategy.acceptsExactly r q then some .empty else none := rfl

private theorem firstAccepting_structural :
    firstAccepting r q [.structural] = (Strategy.structural.captures? r q).map (.structural, ·) := by
  unfold firstAccepting
  cases Strategy.structural.captures? r q with
  | none => rfl
  | some captures => rfl

private theorem exact_first (compiled : r.Compiled) (split : q.Split) (valid : r.valid = true) :
    Option.Rel (fun a b => a.2 = b.2 ∨ a.1 = .exact ∧ r.variableNames ≠ [])
      (firstAccepting r q [.exact, .structural]) (firstAccepting r q [.structural]) := by
  rw [firstAccepting,captures_exact]
  cases accepted : Strategy.acceptsExactly r q with
  | false =>
    change Option.Rel _ (firstAccepting r q [.structural]) (firstAccepting r q [.structural])
    cases firstAccepting r q [.structural] with
    | none => exact .none
    | some a => exact .some (.inl rfl)
  | true =>
    obtain ⟨captures,accepts,empty⟩ := structural_of_exact r q compiled split valid accepted
    rw [firstAccepting_structural,accepts]
    apply Option.Rel.some
    by_cases no_variables : r.variableNames = []
    · exact .inl (empty no_variables).symm
    · exact .inr ⟨rfl,no_variables⟩

private theorem exact_last (compiled : r.Compiled) (split : q.Split) (valid : r.valid = true) :
    firstAccepting r q [.structural, .exact] = firstAccepting r q [.structural] := by
  rw [firstAccepting,firstAccepting_structural]
  cases structural : Strategy.structural.captures? r q with
  | some captures => rfl
  | none =>
    cases accepted : Strategy.acceptsExactly r q with
    | false =>
      rw [Option.map_none,firstAccepting,captures_exact,accepted]
      rfl
    | true =>
      obtain ⟨captures,accepts,_⟩ := structural_of_exact r q compiled split valid accepted
      rw [structural] at accepts
      contradiction

end Strategies

/-- Trying the exact strategy first or last changes neither which route is served nor, unless a route
with variables was matched exactly, what is captured. -/
theorem find_with_exact (routes : List Route) (q : Request) (compiled : ∀ r ∈ routes, r.Compiled)
    (made : ∃ query, q = .make q.method q.path query) (slash : q.path.head? = some '/')
    (unmarked : '?' ∉ q.path) :
    (∀ r ∈ routes, r.valid = true → Strategy.acceptsExactly r q = true →
      ∃ captures, Strategy.structural.captures? r q = some captures ∧
        (r.variableNames = [] → captures = .empty)) ∧
    (find? [.exact, .structural] routes q).map Match.index = (find? [.structural] routes q).map Match.index ∧
    (find? [.structural, .exact] routes q).map Match.index = (find? [.structural] routes q).map Match.index ∧
    ∀ m n, find? [.exact, .structural] routes q = some m → find? [.structural] routes q = some n →
      m.captures = n.captures ∨ m.strategy = .exact ∧ m.route.variableNames ≠ [] := by
  have split := split_of_made q made slash unmarked
  have valid_of (r : Route) (chosen : eligible r q = true) : r.valid = true :=
    (Bool.and_eq_true_iff.mp chosen).1
  have first := findFrom_related [.exact, .structural] [.structural] q
    (fun r a b => a.2 = b.2 ∨ a.1 = .exact ∧ r.variableNames ≠ []) routes 0
    fun r member chosen => exact_first r q (compiled r member) split (valid_of r chosen)
  have last := findFrom_related [.structural, .exact] [.structural] q (fun _ a b => a = b) routes 0
    fun r member chosen => by
      rw [exact_last r q (compiled r member) split (valid_of r chosen)]
      cases firstAccepting r q [.structural] with
      | none => exact .none
      | some a => exact .some rfl
  refine ⟨?_,index_of_related _ _ _ first,index_of_related _ _ _ last,?_⟩
  · intro r member valid accepted
    exact structural_of_exact r q (compiled r member) split valid accepted
  · intro m n found_first found
    change Option.Rel _ (find? [.exact, .structural] routes q) (find? [.structural] routes q) at first
    rw [found_first,found] at first
    cases first with
    | some related => exact related.2

def petRoutes : List Route :=
  [.make "pets.http".toList "GET".toList "/pets?kind=cat".toList,
   .make "pets.http".toList "GET".toList "/pets/\x7b\x7bid\x7d\x7d".toList]

def petRequest : Request :=
  .make "GET".toList "/pets".toList "kind=cat".toList

private theorem petRoutes_compiled : ∀ r ∈ petRoutes, r.Compiled := by
  intro r member
  rcases List.mem_cons.mp member with rfl | later
  · exact Route.compiled_make _ _ _
  · obtain rfl := List.mem_singleton.mp later
    exact Route.compiled_make _ _ _

def petItemRequest : Request :=
  .make "GET".toList "/pets/7".toList []

/-- The first route is served to a request that is its URL, the second one, which has a variable, to another
request; the exact strategy before or after the structural one makes no difference. -/
theorem find_with_exact_pets :
    (∀ r ∈ petRoutes, r.Compiled) ∧ petRequest.path.head? = some '/' ∧ '?' ∉ petRequest.path ∧
      (petRoutes.map fun r => Strategy.acceptsExactly r petRequest) = [true, false] ∧
      (find? [.structural] petRoutes petRequest).map Match.index = some 0 ∧
      (find? [.exact, .structural] petRoutes petRequest).map Match.index = some 0 ∧
      (find? [.structural, .exact] petRoutes petRequest).map Match.index = some 0 ∧
      (find? [.exact, .structural] petRoutes petRequest).map Match.captures = some .empty ∧
      (find? [.structural] petRoutes petItemRequest).map Match.index = some 1 ∧
      (find? [.exact, .structural] petRoutes petItemRequest).map Match.index = some 1 ∧
      (find? [.structural, .exact] petRoutes petItemRequest).map Match.index = some 1 ∧
      (find? [.exact, .structural] petRoutes petItemRequest).map Match.captures =
        some (.ofList [("id".toList,"7".toList)]) := by
  have unmarked : '?' ∉ petRequest.path := by decide
  have unmarked' : '?' ∉ petItemRequest.path := by decide
  have agree := find_with_exact petRoutes petRequest petRoutes_compiled ⟨_,rfl⟩ rfl unmarked
  have agree' := find_with_exact petRoutes petItemRequest petRoutes_compiled ⟨_,rfl⟩ rfl unmarked'
  have first : (find? [.structural] petRoutes petRequest).map Match.index = some 0 := by decide +kernel
  have second : (find? [.structural] petRoutes petItemRequest).map Match.index = some 1 := by decide +kernel
  exact ⟨petRoutes_compiled,rfl,unmarked,by decide,first,agree.2.1.trans first,agree.2.2.1.trans first,
    by decide +kernel,second,agree'.2.1.trans second,agree'.2.2.1.trans second,by decide +kernel⟩

end CannedHttp.Matching
