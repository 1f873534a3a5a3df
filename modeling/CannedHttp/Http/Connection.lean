import CannedHttp.Server

/-!
Requests as they come over a connection and answers as they are sent. Requests that are not HTTP are
refused, and a body is sent only where the method and the status admit one.
-/
namespace CannedHttp.Http.Connection

def requestHeaders (given : List (Text × Bytes)) (body : Bytes) : List (Text × Bytes) :=
  [("host".toList, Utf8.encode "localhost".toList), ("connection".toList, Utf8.encode "close".toList)]
    ++ given.map (fun h => (h.1, trim h.2))
    ++ if body.isEmpty then [] else [("content-length".toList, Utf8.encode (Text.ofNat body.length))]
where
  isSpace (b : UInt8) : Bool := b == 0x20 || b == 9
  trim (v : Bytes) : Bytes := Text.trimEndBy isSpace (v.dropWhile isSpace)

def isOwn (name : Text) : Bool :=
  ["date", "content-length", "connection", "transfer-encoding"].any (·.toList == name)

/-- Has the answer a body, given its method and status? The answer to a granted tunnel has none. -/
def admitsBody (method : Text) (status : Nat) : Bool :=
  !(method == "HEAD".toList || status < 200 || status == 204 || status == 304
    || (method == "CONNECT".toList && status < 300))

/-- An answer as it is sent. Informational answers cannot end an exchange. -/
def sent (method : Text) (a : Response) : Response :=
  if a.status < 200 && a.status != 101 then ⟨500, .empty, []⟩
  else
    { a with
      headers := ⟨a.headers.entries.filter fun h => !isOwn h.1⟩
      body := if admitsBody method a.status then a.body else [] }

/-- The answer to what is no request, because the target is too long or some part malformed. -/
def refusal (target : Text) : Response :=
  ⟨if Target.byteLimit < (Utf8.encode target).length then 414 else 400, .empty, []⟩

def exchange (c : Config) (method target : Text) (headers : List (Text × Bytes)) (body : Bytes) :
    Script Response :=
  match Request.make? method target (requestHeaders headers body) body with
  | none => pure (refusal target)
  | some r => do
    let a ← Server.handle c r
    pure (sent method a)

end CannedHttp.Http.Connection
