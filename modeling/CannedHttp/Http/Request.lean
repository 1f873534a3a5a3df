import CannedHttp.Http.Headers
import CannedHttp.Http.Target
import CannedHttp.Matching
import CannedHttp.Script

/-!
Requests as the server sees them, what of them is matched, and how they are logged.
-/
namespace CannedHttp.Http

structure Request where
  method : Text
  target : Target
  headers : Headers
  body : Bytes

namespace Request

def make? (method target : Text) (headers : List (Text × Bytes)) (body : Bytes) :
    Option Request := do
  let target ← Target.parse? target
  let headers ← headers.mapM fun h =>
    if isHeaderValue h.2 then (headerName? h.1).map (·, h.2) else none
  if isToken method then some ⟨method, target, .ofList headers, body⟩ else none

def descriptor (r : Request) : Matching.Request :=
  .make r.method r.target.path (r.target.query?.getD [])

def idName : Text := "x-request-id".toList

def id (r : Request) : Text :=
  ((r.headers.get? idName).bind readableText?).getD "unknown".toList

/-- Bodies up to this size are logged. -/
def loggedBodyLimit : Nat := 2 * 1024 * 1024

/-- Log a request and hand it on. A body that is too long to be logged is lost. -/
def log (r : Request) : Script Request := do
  let tooLong := loggedBodyLimit < r.body.length
  if tooLong then Script.report (.bodyNotLogged r.id "length limit exceeded".toList)
  let body := if tooLong then [] else r.body
  let headers := r.headers.entries.map fun h => h.1 ++ ':' :: ' ' :: Utf8.decodeLossy h.2
  Script.report (.requestReceived r.id r.method r.target.text (Text.join ['\n'] headers)
    (Utf8.decodeLossy body))
  pure { r with body }

end Request
end CannedHttp.Http
