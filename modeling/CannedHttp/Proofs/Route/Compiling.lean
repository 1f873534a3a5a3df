import CannedHttp.Proofs.Route
import CannedHttp.Proofs.Url.Grammar

/-!
What compiling makes of a URL. Its parts stand in it one after the other, the segments are the path cut at its
slashes, the parameters are those of the query, and the variables are the placeholders among these texts. A text
that is no URL has no parts.
-/
namespace CannedHttp

namespace Placeholder

/-- A run of ASCII letters, digits and underscores. -/
def Name (t : Text) : Prop :=
  t ≠ [] ∧ ∀ c ∈ t, ('A' ≤ c ∧ c ≤ 'Z') ∨ ('a' ≤ c ∧ c ≤ 'z') ∨ ('0' ≤ c ∧ c ≤ '9') ∨ c = '_'

/-- The text is the placeholder of the name. -/
def Written (name t : Text) : Prop :=
  Name name ∧ t = ['{', '{'] ++ name ++ ['}', '}']

private theorem isNameChar_iff (c : Char) : isNameChar c = true ↔
    ('A' ≤ c ∧ c ≤ 'Z') ∨ ('a' ≤ c ∧ c ≤ 'z') ∨ ('0' ≤ c ∧ c ≤ '9') ∨ c = '_' := by
  have classes : isNameChar c = (decide ('A' ≤ c ∧ c ≤ 'Z') || (decide ('a' ≤ c) && decide (c ≤ 'z')) ||
      (decide ('0' ≤ c) && decide (c ≤ '9')) || c == '_') := rfl
  simp [classes,or_assoc]

theorem isName_iff (t : Text) : isName t = true ↔ Name t := by
  simp [isName,Name,isNameChar_iff]

end Placeholder

namespace Segment

/-- The segment is a variable exactly if its whole text is a placeholder, and then the placeholder names it. -/
structure Classified (s : Segment) : Prop where
  is_variable : s.isVariable = true ↔ ∃ name, Placeholder.Written name s.text
  named : ∀ name, s.capture? = some name ↔ Placeholder.Written name s.text

private theorem capture_parse_iff (t name : Text) : (parse t).capture? = some name ↔ Placeholder.Written name t := by
  rw [Placeholder.Written,← Placeholder.isName_iff]
  exact Url.inUrl_eq_some_iff t name

private theorem classified_parse (t : Text) : (parse t).Classified where
  is_variable := by
    rw [isVariable,Option.isSome_iff_exists]
    exact exists_congr (capture_parse_iff t)
  named := capture_parse_iff t

private theorem texts_ofPath (path : Text) : (ofPath path).map text = Text.splitOn '/' path := by
  rw [ofPath,List.map_map]
  exact List.map_id _

end Segment

namespace Url
open HostUrl

/-- A URL that names a host and has no path. -/
def Pathless (t : Text) : Prop :=
  ∃ p : HostUrl, p.WellFormed ∧ p.written = t ∧ p.path = []

/-- What stands before the path: nothing, or an optional scheme and the host. -/
def Front (host? : Option Text) (front : Text) : Prop :=
  match host? with
  | none => front = []
  | some host => ∃ scheme ∈ schemes, front = scheme ++ host

/-- The text is what stands before the path, then the path and the query. The root counts as a path where there is
none. -/
def MadeOf (t : Text) (u : Url) : Prop :=
  ∃ front, Front u.host? front ∧ (Pathless t → t = front ++ u.query ∧ u.path = ['/']) ∧
    (¬Pathless t → t = front ++ u.path ++ u.query)

private theorem pathless_iff (p : HostUrl) (wellFormed : p.WellFormed) : Pathless p.written ↔ p.path = [] := by
  constructor
  · rintro ⟨q,other,same,no_path⟩
    rwa [← written_injective q p other wellFormed same]
  · intro no_path
    exact ⟨p,wellFormed,rfl,no_path⟩

private theorem not_pathless (t : Text) (slash : t.head? = some '/') : ¬Pathless t := by
  rintro ⟨p,wellFormed,rfl,_⟩
  exact head_written p wellFormed slash

theorem madeOf_parse (t : Text) (u : Url) (ok : parse? t = some u) : MadeOf t u := by
  obtain ⟨_,_,⟨slash,no_host,_,whole⟩ | ⟨p,wellFormed,rfl,rfl⟩⟩ := (parse_eq_some_iff t u).mp ok
  · have no_front : Front u.host? [] := by
      rw [no_host]
      rfl
    exact ⟨[],no_front,fun pathless => absurd pathless (not_pathless t slash),fun _ => whole.symm⟩
  · refine ⟨p.scheme ++ (p.host ++ p.port),⟨p.scheme,wellFormed.scheme,rfl⟩,?_,?_⟩
    · intro pathless
      have no_path := (pathless_iff p wellFormed).mp pathless
      simp [written,url,no_path]
    · intro present
      have some_path : p.path ≠ [] := fun no_path => present ((pathless_iff p wellFormed).mpr no_path)
      simp [written,url,some_path]

end Url

namespace Route

/-- A route that keeps all of a URL and has nothing that is not in it. -/
structure Faithful (url : Text) (r : Route) : Prop where
  valid : r.valid = true ↔ ∃ u, Url.parse? url = some u
  some_segment : r.segments ≠ []
  no_slash : ∀ s ∈ r.segments, '/' ∉ s.text
  joined : Text.join ['/'] (r.segments.map Segment.text) = r.path
  classified : ∀ s ∈ r.segments ++ r.parameters.values, s.Classified
  /-- Keys and texts are those that reading the query gives. -/
  parameters : r.parameters.mapValues Segment.text = Query.parse r.query
  written : r.valid = true → Url.MadeOf url ⟨r.host?,r.path,r.query⟩
  nothing : r.valid = false →
    r.host? = none ∧ r.path = [] ∧ r.query = [] ∧ r.parameters = .empty ∧ r.variableNames = []

section Compiled
variable (r : Route) (compiled : r.Compiled)
include compiled

private theorem host_of_compiled : r.host? = r.parts.host? :=
  (congrArg Route.host? compiled).symm

private theorem valid_iff_of_compiled : r.valid = true ↔ ∃ u, Url.parse? r.url = some u := by
  rw [r.valid_of_compiled compiled,Option.isSome_iff_exists]

private theorem texts_of_compiled : r.segments.map Segment.text = Text.splitOn '/' r.path := by
  rw [r.segments_of_compiled compiled,Segment.texts_ofPath]

private theorem parameter_texts_of_compiled : r.parameters.mapValues Segment.text = Query.parse r.query := by
  rw [r.parameters_of_compiled compiled,Query.segments,Dict.mapValues_mapValues]
  exact Dict.mapValues_id _

private theorem classified_of_compiled (s : Segment) (member : s ∈ r.segments ++ r.parameters.values) :
    s.Classified := by
  rw [r.segments_of_compiled compiled,r.parameters_of_compiled compiled] at member
  rcases List.mem_append.mp member with in_path | in_query
  · obtain ⟨piece,_,rfl⟩ := List.mem_map.mp in_path
    exact Segment.classified_parse piece
  · obtain ⟨e,parsed,rfl⟩ := List.mem_map.mp in_query
    obtain ⟨parameter,_,rfl⟩ := List.mem_map.mp parsed
    exact Segment.classified_parse parameter.2

private theorem madeOf_of_valid (valid : r.valid = true) : Url.MadeOf r.url ⟨r.host?,r.path,r.query⟩ := by
  obtain ⟨u,parsed⟩ := (r.valid_iff_of_compiled compiled).mp valid
  have parts : r.parts = u := by rw [Route.parts,parsed,Option.getD_some]
  rw [r.host_of_compiled compiled,r.path_of_compiled compiled,r.query_of_compiled compiled,parts]
  exact Url.madeOf_parse r.url u parsed

private theorem parts_of_invalid (invalid : r.valid = false) : r.parts = ⟨none,[],[]⟩ := by
  rw [r.valid_of_compiled compiled,Option.isSome_eq_false_iff,Option.isNone_iff_eq_none] at invalid
  rw [Route.parts,invalid,Option.getD_none]

private theorem nothing_of_invalid (invalid : r.valid = false) :
    r.host? = none ∧ r.path = [] ∧ r.query = [] ∧ r.parameters = .empty ∧ r.variableNames = [] := by
  have parts := r.parts_of_invalid compiled invalid
  have path : r.path = [] := by rw [r.path_of_compiled compiled,parts]
  have query : r.query = [] := by rw [r.query_of_compiled compiled,parts]
  have host : r.host? = none := by rw [r.host_of_compiled compiled,parts]
  have parameters : r.parameters = .empty := by
    rw [r.parameters_of_compiled compiled,query]
    rfl
  refine ⟨host,path,query,parameters,?_⟩
  rw [variableNames,r.segments_of_compiled compiled,path,parameters]
  rfl

end Compiled

/-- Compiling a text loses and invents nothing, whether or not it is a URL. -/
theorem faithful_make (file method url : Text) : Faithful url (make file method url) := by
  have compiled := compiled_make file method url
  have texts := texts_of_compiled _ compiled
  constructor
  case valid => exact valid_iff_of_compiled _ compiled
  case some_segment =>
    intro none_left
    rw [none_left] at texts
    exact Text.splitOn_nonempty '/' _ texts.symm
  case no_slash =>
    intro s member
    apply Text.not_mem_of_mem_splitOn '/' (make file method url).path
    rw [← texts]
    exact List.mem_map_of_mem member
  case joined =>
    rw [texts]
    exact Text.intercalate_splitOn '/' _
  case classified => exact classified_of_compiled _ compiled
  case parameters => exact parameter_texts_of_compiled _ compiled
  case written => exact madeOf_of_valid _ compiled
  case nothing => exact nothing_of_invalid _ compiled

section Pathless

/-- A host with a port and a query. One of the values is a placeholder, the other one has no name. -/
def hostOnly : HostUrl where
  scheme := "https://".toList
  host := "\x7b\x7bhost\x7d\x7d".toList
  port := ":8080".toList
  path := []
  query := "?Kind=\x7b\x7bkind\x7d\x7d&tag=\x7b\x7b\x7d\x7d".toList

theorem faithful_make_pathless :
    (make "a.http".toList "GET".toList hostOnly.written).valid = true ∧ Url.Pathless hostOnly.written ∧
      (∃ front, hostOnly.written = front ++ (make "a.http".toList "GET".toList hostOnly.written).query) ∧
      (make "a.http".toList "GET".toList hostOnly.written).path = ['/'] ∧
      (make "a.http".toList "GET".toList hostOnly.written).variableNames = ["kind".toList] := by
  have wellFormed : hostOnly.WellFormed :=
    { scheme := by decide
      host := (Url.isHost_iff _).mp (by decide)
      port := (Url.isPort_iff _).mp (by decide)
      path := .inl rfl
      query := .inr ⟨_,rfl,by decide⟩ }
  have pathless : Url.Pathless hostOnly.written := ⟨hostOnly,wellFormed,rfl,rfl⟩
  have valid : (make "a.http".toList "GET".toList hostOnly.written).valid = true := by decide +kernel
  have faithful := faithful_make "a.http".toList "GET".toList hostOnly.written
  obtain ⟨front,_,ends,_⟩ := faithful.written valid
  exact ⟨valid,pathless,⟨front,(ends pathless).1⟩,(ends pathless).2,by decide +kernel⟩

end Pathless

end Route
end CannedHttp
