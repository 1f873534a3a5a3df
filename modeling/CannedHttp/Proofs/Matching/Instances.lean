import CannedHttp.Proofs.Matching.Structural

/-!
Requests made from a route by giving its variables values. Values are arbitrary texts: in the path
they are percent-encoded and in the query form-encoded, so a slash, an ampersand or a placeholder in a
value stays in its place.
-/
namespace CannedHttp
open Matching

/-- A variable becomes the encoding of its value, a literal stays as written. -/
def Segment.fill (σ : Text → Text) (s : Segment) : Text :=
  match s.capture? with
  | some name => Percent.encode (σ name)
  | none => s.text

namespace Route

def fillPath (σ : Text → Text) (r : Route) : Text :=
  Text.join ['/'] (r.segments.map (Segment.fill σ))

/-- The request for the route with the values given to its variables. -/
def request (σ : Text → Text) (method : Text) (r : Route) : Request :=
  .make method (r.fillPath σ) (Query.fill σ r.query)

section Instances
variable (σ : Text → Text) (method : Text) (r : Route)

private theorem value_of_answer (a : Answer) (name : Text) (capture : a.1.capture? = some name)
    (member : a ∈ answers r (Segment.fill σ) (Query.fillValue σ)) : a.2 = σ name := by
  rcases List.mem_append.mp member with path | query
  · obtain ⟨s,_,rfl⟩ := List.mem_map.mp path
    change s.capture? = some name at capture
    change Percent.decode (s.fill σ) = σ name
    rw [Segment.fill,capture]
    exact Percent.decode_encode (σ name)
  · obtain ⟨e,_,rfl⟩ := List.mem_map.mp query
    change Placeholder.inUrl? e.2 = some name at capture
    change Query.fillValue σ e.2 = σ name
    rw [Query.fillValue,capture]

variable (compiled : r.Compiled)
include compiled

private theorem slash_not_mem_fill (s : Segment) (member : s ∈ r.segments) : '/' ∉ s.fill σ := by
  unfold Segment.fill
  cases s.capture? with
  | some name => exact Percent.slash_not_mem_encode (σ name)
  | none =>
    rw [r.segments_of_compiled compiled] at member
    obtain ⟨piece,present,rfl⟩ := List.mem_map.mp member
    exact Text.not_mem_of_mem_splitOn '/' r.path piece present

private theorem splitOn_fillPath : Text.splitOn '/' (r.fillPath σ) = r.segments.map (Segment.fill σ) := by
  apply Text.splitOn_intercalate
  · rw [r.segments_of_compiled compiled]
    intro none_left
    exact Text.splitOn_nonempty '/' r.path (List.map_eq_nil_iff.mp (List.map_eq_nil_iff.mp none_left))
  · intro filled member
    obtain ⟨s,present,rfl⟩ := List.mem_map.mp member
    exact slash_not_mem_fill σ r compiled s present

private theorem query_request : (r.request σ method).query = Query.fill σ r.query :=
  query_make _ _ _ (Query.fill_marked σ r.query (r.query_marked_of_compiled compiled))

private theorem request_shaped : Shaped r (r.request σ method) (Segment.fill σ) (Query.fillValue σ) where
  pieces := splitOn_fillPath σ r compiled
  parsed := by
    rw [query_request σ method r compiled]
    exact Query.parse_fill σ r.query (r.query_marked_of_compiled compiled)
  literal_segment s _ literal := by
    unfold Segment.fill
    rw [literal]
  literal_value value literal := by
    unfold Query.fillValue
    rw [literal]

private theorem bindings_of_request :
    (answers r (Segment.fill σ) (Query.fillValue σ)).filterMap Answer.binding? =
      r.variableNames.map fun x => (x, σ x) := by
  have kept : ∀ b ∈ (answers r (Segment.fill σ) (Query.fillValue σ)).filterMap Answer.binding?,
      (b.1, σ b.1) = id b := by
    intro b member
    obtain ⟨a,present,bound⟩ := List.mem_filterMap.mp member
    obtain ⟨name,capture,rfl⟩ := Option.map_eq_some_iff.mp bound
    rw [← value_of_answer σ r a name capture present]
    rfl
  rw [← names_of_answers r (Segment.fill σ) (Query.fillValue σ) compiled,List.map_map]
  exact ((List.map_congr_left kept).trans (List.map_id _)).symm

/-- A request that gives every variable a value is accepted, and the captures are the values given to
the variables of the route and nothing else. -/
theorem captures_request :
    ∃ captures, Strategy.structural.captures? r (r.request σ method) = some captures ∧
      ∀ x, captures.get? x = if x ∈ r.variableNames then some (σ x) else none := by
  have attempt := attempt_of_shaped r _ _ _ compiled (request_shaped σ method r compiled)
  rw [bindings_of_request σ r compiled] at attempt
  refine ⟨Dict.ofList (r.variableNames.map fun x => (x, σ x)),?_,?_⟩
  · rw [Strategy.captures?,attempt]
    rfl
  · intro x
    exact Dict.get_ofList_assigned r.variableNames σ x

end Instances

def petRoute : Route :=
  make "pets.http".toList "GET".toList "/pets/\x7b\x7bid\x7d\x7d?name=\x7b\x7bname\x7d\x7d".toList

/-- The name of the pet is written with reserved characters, its number as any other text is. -/
def petValue (variableName : Text) : Text :=
  if variableName = "name".toList then "a/b&c=\x7bid\x7d %".toList else "7".toList

theorem captures_request_pet :
    petRoute.Compiled ∧ petRoute.valid = true ∧ petRoute.variableNames = ["id".toList,"name".toList] ∧
      ∃ captures, Strategy.structural.captures? petRoute (petRoute.request petValue "GET".toList) = some captures ∧
        captures.get? "id".toList = some "7".toList ∧
        captures.get? "name".toList = some "a/b&c=\x7bid\x7d %".toList ∧
        captures.get? "kind".toList = none ∧
        ∀ x, captures.get? x = if x ∈ petRoute.variableNames then some (petValue x) else none := by
  obtain ⟨captures,accepted,given⟩ := captures_request petValue "GET".toList petRoute (compiled_make _ _ _)
  have names : petRoute.variableNames = ["id".toList,"name".toList] := by decide +kernel
  refine ⟨compiled_make _ _ _,by decide,names,captures,accepted,?_,?_,?_,given⟩
  · rw [given,names]
    rfl
  · rw [given,names]
    rfl
  · rw [given,names]
    rfl

end Route
end CannedHttp
