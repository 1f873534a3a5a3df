import CannedHttp.Proofs.Url
import CannedHttp.Route

/-!
Routes keep what was compiled from their URL. Giving a route another answer changes its status,
headers and body alone.
-/
namespace CannedHttp.Route

/-- The route with another answer to the same requests. -/
def answering (r : Route) (status : Nat) (headers : HeaderList) (body : Text) : Route :=
  { r with status, headers, body }

/-- The fields that describe requests are those that compiling the URL gave. -/
def Compiled (r : Route) : Prop :=
  (make r.file r.method r.url).answering r.status r.headers r.body = r

instance (r : Route) : Decidable r.Compiled :=
  inferInstanceAs (Decidable (_ = _))

theorem compiled_make (file method url : Text) : (make file method url).Compiled := rfl

theorem compiled_answering (r : Route) (status : Nat) (headers : HeaderList) (body : Text)
    (compiled : r.Compiled) : (r.answering status headers body).Compiled := by
  have same : (make r.file r.method r.url).answering r.status r.headers r.body = r := compiled
  have changed := congrArg (fun known => answering known status headers body) same
  exact changed

def parts (r : Route) : Url :=
  (Url.parse? r.url).getD ⟨none, [], []⟩

section Fields
variable (r : Route) (compiled : r.Compiled)
include compiled

theorem valid_of_compiled : r.valid = (Url.parse? r.url).isSome :=
  (congrArg Route.valid compiled).symm

theorem path_of_compiled : r.path = r.parts.path :=
  (congrArg Route.path compiled).symm

theorem query_of_compiled : r.query = r.parts.query :=
  (congrArg Route.query compiled).symm

theorem segments_of_compiled : r.segments = Segment.ofPath r.path := by
  have segments := congrArg Route.segments compiled
  rw [path_of_compiled r compiled]
  exact segments.symm

theorem parameters_of_compiled : r.parameters = Query.segments r.query := by
  have parameters := congrArg Route.parameters compiled
  rw [query_of_compiled r compiled]
  exact parameters.symm

theorem query_marked_of_compiled : Query.Marked r.query := by
  rw [query_of_compiled r compiled,parts]
  cases parsed : Url.parse? r.url with
  | none => exact .inl rfl
  | some u => exact Url.query_of_parse r.url u parsed

theorem split_of_compiled (valid : r.valid = true) (slash : r.url.head? = some '/') :
    Url.splitQuery r.url = (r.path, r.query) := by
  rw [valid_of_compiled r compiled] at valid
  obtain ⟨u,parsed⟩ := Option.isSome_iff_exists.mp valid
  have whole : u = ⟨none,(Url.splitQuery r.url).1,(Url.splitQuery r.url).2⟩ :=
    Url.parse_of_slash r.url u slash parsed
  rw [path_of_compiled r compiled,query_of_compiled r compiled,parts,parsed,Option.getD_some,whole]

end Fields
end CannedHttp.Route
