import CannedHttp.Proofs.Matching.Structural

/-!
What the structural strategy accepts, told without its demands. A request fits a route if its path has as
many segments with the same literals, decoded, and its query the same parameter names with the same literal
values. Of the occurrences of a variable, path before query, the last is captured.
-/
namespace CannedHttp.Matching

namespace Demand

def Met : Demand → Prop
  | .capture _ _ => True
  | .equal expected actual => expected = actual
  | .refuse => False

def binding? : Demand → Option (Text × Text)
  | .capture name value => some (name, value)
  | .equal _ _ => none
  | .refuse => none

private theorem met_ofSegment (s : Segment) (literal value : Text) :
    (ofSegment s literal value).Met ↔ (s.capture? = none → literal = value) := by
  unfold ofSegment
  cases s.capture? with
  | none => simp [Met]
  | some name => simp [Met]

private theorem binding_ofSegment (s : Segment) (literal value : Text) :
    (ofSegment s literal value).binding? = Answer.binding? (s, value) := by
  unfold ofSegment Answer.binding?
  cases s.capture? with
  | none => rfl
  | some name => rfl

end Demand

private theorem settle_accepted_iff (demands : List Demand) :
    (settle demands).accepted = true ↔ ∀ d ∈ demands, d.Met := by
  induction demands with
  | nil => simp [settle]
  | cons d demands ih =>
    cases d with
    | capture name value => simp [settle,ih,Demand.Met]
    | equal expected actual =>
      by_cases same : expected = actual
      · simp [settle,ih,Demand.Met,same]
      · simp [settle,Demand.Met,same]
    | refuse => simp [settle,Demand.Met]

private theorem settle_bindings (demands : List Demand) (met : ∀ d ∈ demands, d.Met) :
    (settle demands).bindings = demands.filterMap Demand.binding? := by
  induction demands with
  | nil => rfl
  | cons d demands ih =>
    obtain ⟨here,later⟩ := List.forall_mem_cons.mp met
    cases d with
    | capture name value => simp [settle,ih later,Demand.binding?]
    | equal expected actual =>
      have same : expected = actual := here
      rw [settle,if_pos same,ih later]
      rfl
    | refuse => exact here.elim

/-- A request has a segment for each segment of the route and a parameter for each parameter of it, and
repeats the literals among them. -/
structure Fits (r : Route) (q : Request) : Prop where
  positions : (Text.splitOn '/' q.path).length = r.segments.length
  segments : ∀ (i : Nat) (s : Segment) (piece : Text), r.segments[i]? = some s →
    (Text.splitOn '/' q.path)[i]? = some piece → s.capture? = none → Percent.decode s.text = Percent.decode piece
  names : ∀ name, name ∈ (Query.parse q.query).keys ↔ name ∈ r.parameters.keys
  values : ∀ name s, r.parameters.get? name = some s → s.capture? = none →
    (Query.parse q.query).get? name = some s.text

/-- The segments of the route by position, then its parameters by name, each with the decoded text that the
request has there. -/
def given (r : Route) (q : Request) : List Answer :=
  r.segments.zip ((Text.splitOn '/' q.path).map Percent.decode) ++
    r.parameters.entries.filterMap fun e => ((Query.parse q.query).get? e.1).map fun value => (e.2, value)

/-- The variables of the route in the order in which they occur, each with the text of that occurrence. -/
def occurrences (r : Route) (q : Request) : List (Text × Text) :=
  (given r q).filterMap Answer.binding?

section Demands
variable (r : Route) (q : Request)

private theorem met_pathDemands : (∀ d ∈ pathDemands r q.path, d.Met) ↔
    (Text.splitOn '/' q.path).length = r.segments.length ∧
    ∀ (i : Nat) (s : Segment) (piece : Text), r.segments[i]? = some s →
      (Text.splitOn '/' q.path)[i]? = some piece → s.capture? = none →
        Percent.decode s.text = Percent.decode piece := by
  unfold pathDemands
  by_cases positions : (Text.splitOn '/' q.path).length = r.segments.length
  · simp only [positions,true_and,if_true]
    rw [← List.map_uncurry_zip_eq_zipWith,List.forall_mem_map]
    constructor
    · intro met i s piece segment incoming
      have member : (s, piece) ∈ r.segments.zip (Text.splitOn '/' q.path) :=
        List.mem_of_getElem? (List.getElem?_zip_eq_some.mpr ⟨segment,incoming⟩)
      exact (Demand.met_ofSegment s _ _).mp (met (s, piece) member)
    · intro literals pair member
      obtain ⟨i,at_position⟩ := List.mem_iff_getElem?.mp member
      obtain ⟨segment,incoming⟩ := List.getElem?_zip_eq_some.mp at_position
      exact (Demand.met_ofSegment pair.1 _ _).mpr (literals i pair.1 pair.2 segment incoming)
  · simp [positions,Demand.Met]

private theorem bindings_pathDemands (positions : (Text.splitOn '/' q.path).length = r.segments.length) :
    (pathDemands r q.path).filterMap Demand.binding? =
      (r.segments.zip ((Text.splitOn '/' q.path).map Percent.decode)).filterMap Answer.binding? := by
  unfold pathDemands
  simp only [if_pos positions]
  rw [← List.map_uncurry_zip_eq_zipWith,List.filterMap_map,List.zip_map_right,List.filterMap_map]
  congr 1
  funext pair
  exact Demand.binding_ofSegment pair.1 _ _

/-- The parameters are counted and looked up under the names of the route; that is to compare the names. -/
private theorem met_queryDemands : (∀ d ∈ queryDemands r q.query, d.Met) ↔
    (∀ name, name ∈ (Query.parse q.query).keys ↔ name ∈ r.parameters.keys) ∧
    ∀ name s, r.parameters.get? name = some s → s.capture? = none →
      (Query.parse q.query).get? name = some s.text := by
  unfold queryDemands
  by_cases size : (Query.parse q.query).size = r.parameters.size
  · simp only [if_pos size,List.forall_mem_map]
    constructor
    · intro met
      have found (name : Text) (s : Segment) (parameter : r.parameters.get? name = some s) :
          ∃ value, (Query.parse q.query).get? name = some value ∧ (s.capture? = none → s.text = value) := by
        have asked := met (name, s) ((Dict.get_eq_some_iff _ _ _).mp parameter)
        cases incoming : (Query.parse q.query).get? name with
        | none =>
          rw [incoming] at asked
          exact asked.elim
        | some value =>
          rw [incoming] at asked
          exact ⟨value,rfl,(Demand.met_ofSegment s _ _).mp asked⟩
      constructor
      · apply Dict.keys_of_size _ _ size.symm
        intro name member
        obtain ⟨s,parameter⟩ := (Dict.mem_keys_iff _ _).mp member
        obtain ⟨value,incoming,_⟩ := found name s parameter
        exact (Dict.mem_keys_iff _ _).mpr ⟨value,incoming⟩
      · intro name s parameter literal
        obtain ⟨value,incoming,same⟩ := found name s parameter
        rw [incoming,same literal]
    · rintro ⟨names,values⟩ e member
      have parameter : r.parameters.get? e.1 = some e.2 := Dict.get_of_mem _ e member
      obtain ⟨value,incoming⟩ := (Dict.mem_keys_iff _ _).mp
        ((names e.1).mpr ((Dict.mem_keys_iff _ _).mpr ⟨e.2,parameter⟩))
      simp only [incoming]
      apply (Demand.met_ofSegment _ _ _).mpr
      intro literal
      rw [values e.1 e.2 parameter literal] at incoming
      exact Option.some.inj incoming
  · have different : ¬ ∀ name, name ∈ (Query.parse q.query).keys ↔ name ∈ r.parameters.keys :=
      fun same => size (Dict.size_of_keys _ _ same)
    simp [if_neg size,different,Demand.Met]

private theorem bindings_queryDemands (size : (Query.parse q.query).size = r.parameters.size) :
    (queryDemands r q.query).filterMap Demand.binding? =
      (r.parameters.entries.filterMap fun e =>
        ((Query.parse q.query).get? e.1).map fun value => (e.2, value)).filterMap Answer.binding? := by
  unfold queryDemands
  simp only [if_pos size]
  rw [List.filterMap_map,List.filterMap_filterMap]
  congr 1
  funext e
  cases incoming : (Query.parse q.query).get? e.1 with
  | none => simp [incoming,Demand.binding?]
  | some value => simp [incoming,Demand.binding_ofSegment]

theorem structural_accepts_iff : (Strategy.structural.attempt r q).accepted = true ↔ Fits r q := by
  rw [attempt_structural,settle_accepted_iff,List.forall_mem_append,met_pathDemands,met_queryDemands]
  constructor
  · rintro ⟨⟨positions,segments⟩,names,values⟩
    exact ⟨positions,segments,names,values⟩
  · intro fits
    exact ⟨⟨fits.positions,fits.segments⟩,fits.names,fits.values⟩

theorem structural_bindings (fits : Fits r q) :
    (Strategy.structural.attempt r q).bindings = occurrences r q := by
  have met := (settle_accepted_iff _).mp ((structural_accepts_iff r q).mpr fits)
  rw [attempt_structural,settle_bindings _ met,List.filterMap_append,bindings_pathDemands r q fits.positions]
  rw [bindings_queryDemands r q (Dict.size_of_keys _ _ fits.names),← List.filterMap_append]
  rfl

theorem captures_structural (captures : Captures) :
    Strategy.structural.captures? r q = some captures ↔ Fits r q ∧ captures = Dict.ofList (occurrences r q) := by
  unfold Strategy.captures?
  simp only [Option.ite_none_right_eq_some,Option.some.injEq,structural_accepts_iff]
  constructor
  · rintro ⟨fits,rfl⟩
    exact ⟨fits,by rw [structural_bindings r q fits]⟩
  · rintro ⟨fits,rfl⟩
    exact ⟨fits,by rw [structural_bindings r q fits]⟩

private theorem segments_of_given (fits : Fits r q) :
    (given r q).map Prod.fst = r.segments ++ r.parameters.values := by
  unfold given
  rw [List.map_append]
  congr 1
  · apply List.map_fst_zip
    rw [List.length_map,fits.positions]
  · rw [List.map_filterMap,Dict.values,← List.filterMap_eq_map]
    apply List.filterMap_congr
    intro e member
    have parameter : r.parameters.get? e.1 = some e.2 := Dict.get_of_mem _ e member
    obtain ⟨value,incoming⟩ := (Dict.mem_keys_iff _ _).mp
      ((fits.names e.1).mpr ((Dict.mem_keys_iff _ _).mpr ⟨e.2,parameter⟩))
    simp [incoming]

private theorem names_of_occurrences (fits : Fits r q) : (occurrences r q).map Prod.fst = r.variableNames := by
  rw [occurrences,Route.variableNames,← segments_of_given r q fits]
  exact names_bound (given r q)

end Demands

/-- The structural strategy accepts the requests that fit the route. It captures the variables of the route and
no others, each with the text that stands at its last occurrence. -/
theorem structural_iff_fits (r : Route) (q : Request) :
    ((∃ captures, Strategy.structural.captures? r q = some captures) ↔ Fits r q) ∧
    ∀ captures, Strategy.structural.captures? r q = some captures →
      (∀ x, x ∈ captures.keys ↔ x ∈ r.variableNames) ∧
      ∀ x, captures.get? x = Dict.last? (occurrences r q) x := by
  constructor
  · constructor
    · rintro ⟨captures,accepted⟩
      exact ((captures_structural r q captures).mp accepted).1
    · intro fits
      exact ⟨_,(captures_structural r q _).mpr ⟨fits,rfl⟩⟩
  · intro captures accepted
    obtain ⟨fits,rfl⟩ := (captures_structural r q captures).mp accepted
    constructor
    · intro x
      rw [Dict.mem_keys_iff,← names_of_occurrences r q fits,← Dict.last_isSome_iff]
      simp only [Dict.get_ofList]
    · intro x
      exact Dict.get_ofList _ x

def itemRoute : Route :=
  .make "items.http".toList "GET".toList "/items/\x7b\x7bid\x7d\x7d?id=\x7b\x7bid\x7d\x7d&Full=1".toList

def itemRequest : Request :=
  .make "GET".toList "/%69tems/first".toList "FULL=1&id=last%20one".toList

theorem structural_iff_fits_items :
    Fits itemRoute itemRequest ∧
      ∃ captures, Strategy.structural.captures? itemRoute itemRequest = some captures ∧
      occurrences itemRoute itemRequest =
        [("id".toList, "first".toList), ("id".toList, "last one".toList)] ∧
      captures.get? "id".toList = some "last one".toList := by
  have accepted : (Strategy.structural.captures? itemRoute itemRequest).isSome = true := by decide +kernel
  have twice : occurrences itemRoute itemRequest =
      [("id".toList, "first".toList), ("id".toList, "last one".toList)] := by decide +kernel
  obtain ⟨captures,found⟩ := Option.isSome_iff_exists.mp accepted
  obtain ⟨fits_iff,captured⟩ := structural_iff_fits itemRoute itemRequest
  refine ⟨fits_iff.mp ⟨captures,found⟩,captures,found,twice,?_⟩
  rw [(captured captures found).2,twice]
  decide

end CannedHttp.Matching
