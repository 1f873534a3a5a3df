import CannedHttp.Proofs.Matching.Acceptance
import CannedHttp.Proofs.Matching.FastPath
import CannedHttp.Proofs.Matching.Search
import CannedHttp.Proofs.Text.Lossy

/-!
How literals tell requests apart. They are compared as text, so a request that is served repeats the bytes of
every literal of the route, as far as these bytes are text; malformed bytes are one like another.
-/
namespace CannedHttp.Matching

/-- At each literal of the route, decoded bytes like those of the route stand in the request. -/
structure Agrees (r : Route) (q : Request) : Prop where
  segments : ∀ (i : Nat) (s : Segment), r.segments[i]? = some s → s.capture? = none →
    ∃ piece, (Text.splitOn '/' q.path)[i]? = some piece ∧
      Utf8.Alike (Percent.decodeBytes (Utf8.encode s.text)) (Percent.decodeBytes (Utf8.encode piece))
  values : ∀ (name : Text) (s : Segment), r.parameters.get? name = some s → s.capture? = none →
    ∃ written given, Dict.last? (Query.valueBytes r.query) name = some written ∧
      Dict.last? (Query.valueBytes q.query) name = some given ∧ Utf8.Alike written given

section Served
variable (r : Route) (q : Request) (compiled : r.Compiled)
include compiled

private theorem literal_of_parameter (name : Text) (s : Segment) (parameter : r.parameters.get? name = some s) :
    ∃ written, Dict.last? (Query.valueBytes r.query) name = some written ∧ s.text = Utf8.decodeLossy written := by
  rw [r.parameters_of_compiled compiled,Query.segments,Dict.get_mapValues,Query.get_parse,Option.map_map] at parameter
  obtain ⟨written,last,rfl⟩ := Option.map_eq_some_iff.mp parameter
  exact ⟨written,last,rfl⟩

private theorem agrees_of_fits (fits : Fits r q) : Agrees r q where
  segments := by
    intro i s segment literal
    have within : i < (Text.splitOn '/' q.path).length := by
      rw [fits.positions]
      exact (List.getElem?_eq_some_iff.mp segment).1
    have incoming := List.getElem?_eq_getElem within
    exact ⟨_,incoming,(Utf8.decodeLossy_eq_iff _ _).mp (fits.segments i s _ segment incoming literal)⟩
  values := by
    intro name s parameter literal
    obtain ⟨written,in_route,text⟩ := literal_of_parameter r compiled name s parameter
    have repeated := fits.values name s parameter literal
    rw [Query.get_parse] at repeated
    obtain ⟨given,in_request,same⟩ := Option.map_eq_some_iff.mp repeated
    refine ⟨written,given,in_route,in_request,(Utf8.decodeLossy_eq_iff _ _).mp ?_⟩
    rw [same,text]

private theorem agrees_of_structural (captures : Captures)
    (accepted : Strategy.structural.captures? r q = some captures) : Agrees r q :=
  agrees_of_fits r q compiled ((captures_structural r q captures).mp accepted).1

end Served

/-- A request that the structural strategy accepts agrees with the literals of the route, and so does every
request for which it or, unless the path has a question mark, the exact strategy finds the route. -/
theorem agrees_of_served (r : Route) (q : Request) (compiled : r.Compiled) :
    (∀ captures, Strategy.structural.captures? r q = some captures → Agrees r q) ∧
    ∀ ss routes m, find? ss routes q = some m → m.route = r →
      m.strategy = .structural ∨ m.strategy = .exact ∧ q.Split → Agrees r q := by
  constructor
  · exact agrees_of_structural r q compiled
  · rintro ss routes m found rfl plain
    have wins := (find_eq_some_iff ss q routes m).mp found
    have accepts := wins.strategy.accepts
    rcases plain with strategy | ⟨strategy,split⟩
    · rw [strategy] at accepts
      exact agrees_of_structural m.route q compiled m.captures accepts
    · rw [strategy,captures_exact] at accepts
      have exact_accepts := (Option.ite_none_right_eq_some.mp accepts).1
      obtain ⟨captures,accepted,_⟩ := structural_of_exact m.route q compiled split wins.valid exact_accepts
      exact agrees_of_structural m.route q compiled captures accepted

section Raw

def rawRoute : Route :=
  .make "raw.http".toList "GET".toList "/raw/%FF?key=%FF".toList

def rawRequest : Request :=
  .make "GET".toList "/r%61w/%FE".toList "KEY=%FE".toList

theorem agrees_of_served_raw :
    rawRoute.Compiled ∧ rawRequest.Split ∧
      ∃ m, find? defaultStrategies [rawRoute] rawRequest = some m ∧ m.route = rawRoute ∧
        Agrees rawRoute rawRequest := by
  have compiled : rawRoute.Compiled := Route.compiled_make _ _ _
  have split : rawRequest.Split := split_of_made rawRequest ⟨_,rfl⟩ rfl (by decide)
  have served : (find? defaultStrategies [rawRoute] rawRequest).map Match.route = some rawRoute := by
    decide +kernel
  obtain ⟨m,found,route⟩ := Option.map_eq_some_iff.mp served
  have known : m.strategy = .exact ∨ m.strategy = .structural :=
    List.mem_pair.mp (((find_eq_some_iff _ _ _ m).mp found).strategy_mem)
  have plain : m.strategy = .structural ∨ m.strategy = .exact ∧ rawRequest.Split :=
    known.symm.imp_right fun strategy => ⟨strategy,split⟩
  have agrees := (agrees_of_served rawRoute rawRequest compiled).2 _ _ m found route plain
  exact ⟨compiled,split,m,found,route,agrees⟩

/-- Malformed bytes do not tell requests apart. -/
theorem malformed_bytes_confused :
    rawRoute.valid = true ∧ (Strategy.structural.captures? rawRoute rawRequest).isSome = true ∧
      (find? defaultStrategies [rawRoute] rawRequest).map Match.index = some 0 ∧
      rawRoute.segments[2]? = some (.literal "%FF".toList) ∧
      (Text.splitOn '/' rawRequest.path)[2]? = some "%FE".toList ∧
      Percent.decodeBytes (Utf8.encode "%FF".toList) ≠ Percent.decodeBytes (Utf8.encode "%FE".toList) ∧
      rawRoute.parameters.get? "key".toList = some (.literal "\ufffd".toList) ∧
      Dict.last? (Query.valueBytes rawRoute.query) "key".toList ≠
        Dict.last? (Query.valueBytes rawRequest.query) "key".toList := by
  decide +kernel

end Raw

end CannedHttp.Matching
