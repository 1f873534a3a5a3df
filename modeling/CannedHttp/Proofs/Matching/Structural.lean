import CannedHttp.Matching
import CannedHttp.Proofs.Route

/-!
The structural strategy on requests shaped like the route. Such a request answers each segment of the
path and each parameter of the query with a text of its own, and a literal with the literal itself.
Then every demand is met and the answers to variables are the bindings.
-/
namespace CannedHttp.Matching

theorem query_make (method path query : Text) (marked : Query.Marked query) :
    (Request.make method path query).query = query := by
  rcases marked with rfl | ⟨items,rfl⟩
  · rfl
  · rfl

abbrev Answer := Segment × Text

def Answer.demand (a : Answer) : Demand :=
  .ofSegment a.1 a.2 a.2

def Answer.binding? (a : Answer) : Option (Text × Text) :=
  a.1.capture?.map fun name => (name, a.2)

private theorem settle_answers (answers : List Answer) :
    settle (answers.map Answer.demand) = ⟨answers.filterMap Answer.binding?, true⟩ := by
  induction answers with
  | nil => rfl
  | cons a answers ih =>
    rw [List.map_cons,List.filterMap_cons]
    unfold Answer.demand Answer.binding? Demand.ofSegment at *
    cases a.1.capture? with
    | none => exact (if_pos rfl).trans ih
    | some name => simp only [settle,ih,Option.map_some]

theorem names_bound (answers : List Answer) :
    (answers.filterMap Answer.binding?).map Prod.fst = (answers.map Prod.fst).filterMap Segment.capture? := by
  rw [List.filterMap_map,List.map_filterMap]
  congr 1
  funext a
  unfold Answer.binding?
  rw [Option.map_map]
  exact Option.map_id'

private theorem demand_of_literal (s : Segment) (literal value : Text)
    (same : s.capture? = none → value = literal) :
    Demand.ofSegment s literal value = Answer.demand (s, value) := by
  unfold Answer.demand Demand.ofSegment
  cases capture : s.capture? with
  | none => rw [same capture]
  | some name => rfl

section Answered
variable (r : Route)

private theorem pathDemands_answers (path : Text) (given : Segment → Text)
    (pieces : Text.splitOn '/' path = r.segments.map given)
    (literal : ∀ s ∈ r.segments, s.capture? = none → given s = s.text) :
    pathDemands r path =
      (r.segments.map fun s => (s, Percent.decode (given s))).map Answer.demand := by
  unfold pathDemands
  rw [pieces,if_pos (List.length_map given),List.zipWith_map_right,List.zipWith_self,List.map_map]
  apply List.map_congr_left
  intro s member
  apply demand_of_literal
  intro uncaptured
  rw [literal s member uncaptured]

private theorem queryDemands_answers (query : Text) (given : Text → Text) (compiled : r.Compiled)
    (parsed : Query.parse query = (Query.parse r.query).mapValues given)
    (literal : ∀ value, Placeholder.inUrl? value = none → given value = value) :
    queryDemands r query =
      ((Query.parse r.query).entries.map fun e => (Segment.parse e.2, given e.2)).map Answer.demand := by
  have sizes : ((Query.parse r.query).mapValues given).size = (Query.segments r.query).size := by
    simp only [Query.segments,Dict.size,Dict.entries_mapValues,List.length_map]
  unfold queryDemands
  rw [parsed,r.parameters_of_compiled compiled,if_pos sizes,Query.segments]
  rw [Dict.entries_mapValues,List.map_map,List.map_map]
  apply List.map_congr_left
  intro e member
  have found : ((Query.parse r.query).mapValues given).get? e.1 = some (given e.2) := by
    rw [Dict.get_mapValues,Dict.get_of_mem _ e member]
    rfl
  simp only [Function.comp_apply,found]
  exact demand_of_literal _ _ _ (literal e.2)

end Answered

/-- The answers of a request to the segments of the path, then to the parameters in their order. -/
def answers (r : Route) (path : Segment → Text) (query : Text → Text) : List Answer :=
  r.segments.map (fun s => (s, Percent.decode (path s))) ++
    (Query.parse r.query).entries.map fun e => (Segment.parse e.2, query e.2)

/-- A request of the route's shape, whose path and query repeat every literal. -/
structure Shaped (r : Route) (q : Request) (path : Segment → Text) (query : Text → Text) : Prop where
  pieces : Text.splitOn '/' q.path = r.segments.map path
  parsed : Query.parse q.query = (Query.parse r.query).mapValues query
  literal_segment : ∀ s ∈ r.segments, s.capture? = none → path s = s.text
  literal_value : ∀ value, Placeholder.inUrl? value = none → query value = value

theorem attempt_structural (r : Route) (q : Request) :
    Strategy.structural.attempt r q = settle (pathDemands r q.path ++ queryDemands r q.query) := rfl

/-- The outcome depends on nothing but what is asked. -/
theorem captures_of_demands (r s : Route) (q p : Request) (path : pathDemands r q.path = pathDemands s p.path)
    (query : queryDemands r q.query = queryDemands s p.query) :
    Strategy.structural.captures? r q = Strategy.structural.captures? s p := by
  have attempted : Strategy.structural.attempt r q = Strategy.structural.attempt s p := by
    rw [attempt_structural,attempt_structural,path,query]
  unfold Strategy.captures?
  rw [attempted]

section Shaped
variable (r : Route) (q : Request) (path : Segment → Text) (query : Text → Text)

theorem attempt_of_shaped (compiled : r.Compiled) (shaped : Shaped r q path query) :
    Strategy.structural.attempt r q = ⟨(answers r path query).filterMap Answer.binding?, true⟩ := by
  rw [attempt_structural,pathDemands_answers r q.path path shaped.pieces shaped.literal_segment]
  rw [queryDemands_answers r q.query query compiled shaped.parsed shaped.literal_value]
  rw [← List.map_append]
  exact settle_answers _

private theorem segments_of_answers (compiled : r.Compiled) :
    (answers r path query).map Prod.fst = r.segments ++ r.parameters.values := by
  rw [r.parameters_of_compiled compiled,answers,List.map_append,List.map_map,List.map_map]
  simp only [Query.segments,Dict.values,Dict.entries_mapValues,List.map_map,Function.comp_def,List.map_id']

/-- The names that are bound are the variables of the route, in their order. -/
theorem names_of_answers (compiled : r.Compiled) :
    ((answers r path query).filterMap Answer.binding?).map Prod.fst = r.variableNames := by
  rw [Route.variableNames,← segments_of_answers r path query compiled]
  exact names_bound (answers r path query)

end Shaped

end CannedHttp.Matching
