import CannedHttp.IoError
import CannedHttp.SocketAddress

/-!
Binding a listener. The host has its loopback addresses and no way to look up other names; a port of
zero stands for a free one.
-/
namespace CannedHttp.Network

/-- The addresses of a host name, and the port after the last colon. -/
def resolve (address : Text) : Except IoError SocketAddress :=
  match SocketAddress.parse? address with
  | some a => .ok a
  | none =>
    let (port, host) := Text.cut (· == ':') address.reverse
    if host.isEmpty then .error .badSocketAddress
    else
      match Text.readBounded? 65535 port.reverse with
      | none => .error .badPort
      | some port =>
        if Text.sameIgnoringCase (host.drop 1).reverse "localhost".toList then
          .ok (.v4 [127, 0, 0, 1] port)
        else .error .unknownHost

/-- Can two listeners not have these addresses at a time? Unspecified addresses stand for all. -/
def conflict (a b : SocketAddress) : Bool :=
  a.port == b.port && (a == b || a.isUnspecified || b.isUnspecified)

/-- The port that is given for port zero: the first of a range that no listener has. -/
def freePort (taken : List SocketAddress) : Nat :=
  let first := 49152
  ((List.range' first (taken.length + 1)).find? fun p => !taken.any (·.port == p)).getD first

def bind (taken : List SocketAddress) (address : Text) : Except IoError SocketAddress := do
  let a ← resolve address
  if !a.isLocal then .error (.system .addressUnavailable)
  else if a.port = 0 then .ok (a.withPort (freePort taken))
  else if taken.any (conflict a) then .error (.system .addressInUse)
  else .ok a

end CannedHttp.Network
