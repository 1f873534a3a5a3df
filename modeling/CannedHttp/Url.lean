import CannedHttp.Placeholder
import CannedHttp.Text.Blank

/-!
The URL of a definition is a path with an optional query, or a host, optionally after `http://` or
`https://` and optionally with a port, path and query. A host is a host name or one placeholder.
-/
namespace CannedHttp

/-- A decomposed URL. The path begins with a slash; the query is empty or begins with a question
mark. -/
structure Url where
  host? : Option Text
  path : Text
  query : Text
  deriving DecidableEq

namespace Url

/-- Both parts of a text at its first question mark, which begins the second. -/
def splitQuery (t : Text) : Text × Text :=
  Text.cut (· == '?') t

def isHostChar (c : Char) : Bool :=
  c.isAlphanum || c == '.' || c == '-'

/-- Host names begin and end with a letter or digit. -/
def isHostName (t : Text) : Bool :=
  t.all isHostChar && t.head?.any Char.isAlphanum && t.getLast?.any Char.isAlphanum

def isHost (t : Text) : Bool :=
  isHostName t || (Placeholder.inUrl? t).isSome

/-- A port is empty, or a colon and one to five digits. -/
def isPort : Text → Bool
  | [] => true
  | c :: digits => c == ':' && digits.all Char.isDigit && !digits.isEmpty && digits.length ≤ 5

def dropScheme (t : Text) : Text :=
  ((Text.dropStart? "http://".toList t).or (Text.dropStart? "https://".toList t)).getD t

/-- The parts of a URL that names a host. -/
def ofHostForm? (t : Text) : Option Url :=
  let (authority, rest) := Text.cut (fun c => c == '/' || c == '?' || c == '#') (dropScheme t)
  let (host, port) := Text.cut (· == ':') authority
  if isHost host && isPort port && !rest.contains '#' then
    let (path, query) := splitQuery rest
    some ⟨some authority, if path.isEmpty then ['/'] else path, query⟩
  else none

def parse? (t : Text) : Option Url :=
  if t.isEmpty || t.any Text.isBlank then none
  else if t.head? = some '/' then
    let (path, query) := splitQuery t
    some ⟨none, path, query⟩
  else ofHostForm? t

end Url
end CannedHttp
