import CannedHttp.HeaderList
import CannedHttp.Query
import CannedHttp.Url

/-!
A route is a compiled definition: a method and a URL to answer, and the status, headers and body of
the answer. A route with a malformed URL can be listed but has nothing to match.
-/
namespace CannedHttp

structure Route where
  file : Text
  method : Text
  url : Text
  valid : Bool
  host? : Option Text
  path : Text
  segments : List Segment
  query : Text
  /-- Keyed by parameter name in lower case. -/
  parameters : Dict Segment
  status : Nat
  headers : HeaderList
  body : Text
  deriving DecidableEq

namespace Route

def make (file method url : Text) : Route :=
  let parts := (Url.parse? url).getD ⟨none, [], []⟩
  { file, method, url
    valid := (Url.parse? url).isSome
    host? := parts.host?
    path := parts.path
    segments := Segment.ofPath parts.path
    query := parts.query
    parameters := Query.segments parts.query
    status := 200
    headers := .empty
    body := [] }

/-- Variables of the path, then of the query in the order of its parameter names. -/
def variableNames (r : Route) : List Text :=
  (r.segments ++ r.parameters.values).filterMap Segment.capture?

def display (r : Route) : Text :=
  r.method ++ ' ' :: r.url ++ ' ' :: Text.ofNat r.status ++ '\n' ::
    r.headers.entries.flatMap (fun e => e.1 ++ ':' :: ' ' :: e.2 ++ ['\n']) ++ r.body

def segmentJson (s : Segment) : Json :=
  .obj [("text".toList, .str s.text), ("variable_name".toList, Json.ofOption .str s.capture?)]

def toJson (r : Route) : Json :=
  .obj [
    ("file_name".toList, .str r.file),
    ("method".toList, .str r.method),
    ("url".toList, .str r.url),
    ("url_valid".toList, .bool r.valid),
    ("url_host".toList, Json.ofOption .str r.host?),
    ("url_path".toList, .str r.path),
    ("path_segments".toList, .arr (r.segments.map segmentJson)),
    ("query_string".toList, .str r.query),
    ("query_segments".toList, .obj (r.parameters.entries.map fun e => (e.1, segmentJson e.2))),
    ("status_code".toList, .num r.status),
    ("headers".toList, r.headers.toJson),
    ("body".toList, .str r.body)]

end Route
end CannedHttp
