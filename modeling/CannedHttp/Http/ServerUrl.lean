import CannedHttp.Http.Target
import CannedHttp.Percent
import CannedHttp.SocketAddress

/-!
Which texts a client can take as the URL of something on a server: an HTTP scheme, any number of
slashes of either kind, optional credentials, a host and an optional port. Hosts are names, IPv6
addresses in brackets, and IPv4 addresses of one to four numbers in base 8, 10 or 16.
-/
namespace CannedHttp.Http.ServerUrl

/-- Line ends and tabs do not count, nor do controls and spaces at the ends. -/
def clean (t : Text) : Text :=
  let isEdge := fun c : Char => c.toNat ≤ 0x20
  (Text.trimEndBy isEdge (t.dropWhile isEdge)).filter fun c => !"\t\n\r".toList.contains c

/-- The text after an HTTP scheme, its colon, and the slashes that follow. -/
def afterScheme? (t : Text) : Option Text :=
  match Text.cut (· == ':') t with
  | (scheme, _ :: rest) =>
    if ["http".toList, "https".toList].contains (Text.foldCase scheme) then
      some (rest.dropWhile fun c => c == '/' || c == '\\')
    else none
  | _ => none

/-- The text before the path, without credentials; there must be something after these. -/
def hostAndPort (t : Text) : Text :=
  let authority := (Text.cut (fun c => "/\\?#".toList.contains c) t).1
  (authority.reverse.takeWhile (· != '@')).reverse

/-- The host, and its port with the colon. Colons in brackets are the host's own. -/
def splitPort (bracketed : Bool) : Text → Text × Text
  | [] => ([], [])
  | c :: cs =>
    if c = ':' && !bracketed then ([], c :: cs)
    else
      let bracketed := c = '[' || (bracketed && c != ']')
      let (host, port) := splitPort bracketed cs
      (c :: host, port)

def isPort : Text → Bool
  | [] => true
  | _ :: digits =>
    digits.isEmpty || (digits.all Char.isDigit && (Text.readBounded? 65535 digits).isSome)

/-- A number of an IPv4 address; one that begins with a zero is in base 8 or 16. -/
def number? (t : Text) : Option Nat :=
  match t with
  | '0' :: x :: digits =>
    let (base, digits) := if x = 'x' || x = 'X' then (16, digits) else (8, x :: digits)
    if digits.isEmpty then some 0 else Text.readNat? base digits
  | t => Text.readNat? 10 t

def labels (host : Text) : List Text :=
  let pieces := Text.splitOn '.' host
  if 1 < pieces.length && pieces.getLast? = some [] then pieces.dropLast else pieces

/-- Does a host end in a number, so that it must be an IPv4 address? -/
def isNumeric (host : Text) : Bool :=
  ((labels host).getLast?.getD []).all Char.isDigit && (labels host).getLast? != some []
    || (((labels host).getLast?).bind number?).isSome

/-- The last number fills all bytes that the others leave. -/
def isIPv4 (host : Text) : Bool :=
  match (labels host).mapM number? with
  | some ns =>
    ns.length ≤ 4 && ns.dropLast.all (· < 256)
      && ns.getLast?.any (· < Nat.pow 256 (5 - ns.length))
  | none => false

def isNameChar (c : Char) : Bool :=
  0x80 ≤ c.toNat || (Target.isAuthorityChar c && !":@[]".toList.contains c)

def isName (host : Text) : Bool :=
  match Utf8.decode? (Percent.decodeBytes (Utf8.encode host)) with
  | some name =>
    !name.isEmpty && name.all isNameChar && (!isNumeric name || isIPv4 name)
  | none => false

def isIPv6 (t : Text) : Bool :=
  t.getLast? = some ']' && (SocketAddress.ipv6? t.dropLast).any (·.2.isEmpty)

def isHost : Text → Bool
  | '[' :: t => isIPv6 t
  | t => isName t

def isValid (t : Text) : Bool :=
  match afterScheme? (clean t) with
  | some rest =>
    let (host, port) := splitPort false (hostAndPort rest)
    isHost host && isPort port
  | none => false

end CannedHttp.Http.ServerUrl
