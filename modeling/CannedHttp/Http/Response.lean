import CannedHttp.Config
import CannedHttp.Http.Headers
import CannedHttp.Matching
import CannedHttp.Template

/-!
The answers of the server. A route's answer has its status, those of its headers that HTTP admits,
and its rendered body; the fallback answer is configured.
-/
namespace CannedHttp.Http

structure Response where
  status : Nat
  headers : Headers
  body : Text
  deriving DecidableEq

def contentTypeName : Text := "content-type".toList

/-- Headers that describe how a body is sent are left to the connection. -/
def isFraming (name : Text) : Bool :=
  name == "content-length".toList || name == "transfer-encoding".toList

inductive HeaderFate where
  | kept (name : Text) (value : Bytes)
  | framing
  | invalid
  deriving DecidableEq

def HeaderFate.of (header : Text × Text) : HeaderFate :=
  match headerName? header.1 with
  | none => .invalid
  | some name =>
    if isFraming name then .framing
    else
      let value := Utf8.encode header.2
      if isHeaderValue value then .kept name value else .invalid

def HeaderFate.kept? : HeaderFate → Option (Text × Bytes)
  | .kept name value => some (name, value)
  | .framing | .invalid => none

namespace Response

def text (status : Nat) (body : Text) : Response :=
  ⟨status, .ofList [(contentTypeName, Utf8.encode "text/plain; charset=utf-8".toList)], body⟩

def json (body : Json) : Response :=
  ⟨200, .ofList [(contentTypeName, Utf8.encode "application/json".toList)], body.text⟩

/-- A status that HTTP does not admit becomes 500. -/
def ofRoute (r : Route) (captures : Matching.Captures) : Response :=
  { status := if isStatus r.status then r.status else 500
    headers := .ofList (r.headers.entries.filterMap fun h => (HeaderFate.of h).kept?)
    body := Template.render r.body captures }

def notices (r : Route) : List Event :=
  (if isStatus r.status then [] else [.invalidStatus r.file r.status])
    ++ (r.headers.entries.filter fun h => HeaderFate.of h = .invalid).map
      fun h => .invalidHeader r.file h.1

/-- A content type that is no header value leaves that of plain text in its place. -/
def fallback (c : Config.Fallback) : Response :=
  let plain := text (if isStatus c.status then c.status else 404) c.body
  let contentType := Utf8.encode c.contentType
  if isHeaderValue contentType then
    { plain with headers := plain.headers.set contentTypeName contentType }
  else plain

end Response
end CannedHttp.Http
