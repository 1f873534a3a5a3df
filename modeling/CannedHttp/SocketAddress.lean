import CannedHttp.Text.Number

/-!
Socket addresses as texts: an IPv4 address and a port, or an IPv6 address in brackets, optionally
with a numeric scope, and a port. Every address has one printed form, with the longest run of zero
groups left out.
-/
namespace CannedHttp

inductive SocketAddress where
  | v4 (octets : List Nat) (port : Nat)
  | v6 (groups : List Nat) (scope port : Nat)
  deriving DecidableEq

namespace SocketAddress

/-- A number at the start of a text, its digits as many as they are but at most `width` if given. -/
def number? (base : Nat) (width? : Option Nat) (max : Nat) (t : Text) : Option (Nat × Text) := do
  let (digits, rest) := Text.run (fun c => (Text.digitValue? base c).isSome) t
  let n ← Text.readNat? base digits
  if width?.any (· < digits.length) || max < n then none else some (n, rest)

def char? (c : Char) (t : Text) : Option Text :=
  Text.dropStart? [c] t

/-- A part of an IPv4 address is written without leading zeros. -/
def octet? (t : Text) : Option (Nat × Text) := do
  let (n, rest) ← number? 10 (some 3) 255 t
  if t.head? = some '0' && 1 < t.length - rest.length then none else some (n, rest)

def octets? (t : Text) : Option (List Nat × Text) := do
  let (a, t) ← octet? t
  let (b, t) ← octet? (← char? '.' t)
  let (c, t) ← octet? (← char? '.' t)
  let (d, t) ← octet? (← char? '.' t)
  pure ([a, b, c, d], t)

/-- Up to `room` groups of an IPv6 address, separated by colons. The last two may be written as an
IPv4 address, which ends the groups; whether it did so comes with them. -/
def groups (started : Bool) : Nat → Text → List Nat × Bool × Text
  | 0, t => ([], false, t)
  | room + 1, t =>
    let next := if started then char? ':' t else some t
    match if 0 < room then next.bind octets? else none with
    | some ([a, b, c, d], rest) => ([a * 256 + b, c * 256 + d], true, rest)
    | _ =>
      match next.bind (number? 16 (some 4) 65535) with
      | some (g, rest) =>
        let (gs, embedded, rest) := groups true room rest
        (g :: gs, embedded, rest)
      | none => ([], false, t)

/-- Eight groups, or fewer with a double colon in the place of the missing ones. -/
def ipv6? (t : Text) : Option (List Nat × Text) := do
  let (front, embedded, rest) := groups false 8 t
  if front.length = 8 then pure (front, rest)
  else if embedded then none
  else
    let rest ← char? ':' (← char? ':' rest)
    let (back, _, rest) := groups false (7 - front.length) rest
    pure (front ++ List.replicate (8 - front.length - back.length) 0 ++ back, rest)

def port? (t : Text) : Option (Nat × Text) := do
  number? 10 none 65535 (← char? ':' t)

def parseV4? (t : Text) : Option SocketAddress := do
  let (octets, rest) ← octets? t
  let (port, rest) ← port? rest
  if rest.isEmpty then pure (.v4 octets port) else none

def parseV6? (t : Text) : Option SocketAddress := do
  let (groups, rest) ← ipv6? (← char? '[' t)
  let (scope, rest) := (((char? '%' rest).bind (number? 10 none (Nat.pow 2 32 - 1))).getD (0, rest))
  let (port, rest) ← port? (← char? ']' rest)
  if rest.isEmpty then pure (.v6 groups scope port) else none

def parse? (t : Text) : Option SocketAddress :=
  (parseV4? t).or (parseV6? t)

def port : SocketAddress → Nat
  | .v4 _ port | .v6 _ _ port => port

def withPort (port : Nat) : SocketAddress → SocketAddress
  | .v4 octets _ => .v4 octets port
  | .v6 groups scope _ => .v6 groups scope port

def isUnspecified : SocketAddress → Bool
  | .v4 octets _ => octets.all (· = 0)
  | .v6 groups _ _ => groups.all (· = 0)

/-- Addresses of the host itself: loopback addresses and the unspecified address. -/
def isLocal : SocketAddress → Bool
  | .v4 octets _ => octets.head? = some 127 || octets.all (· = 0)
  | .v6 groups _ _ => (groups.take 7).all (· = 0) && groups.getLast?.any (· ≤ 1)

def octetsText (octets : List Nat) : Text :=
  Text.join ['.'] (octets.map Text.ofNat)

def groupsText (gs : List Nat) : Text :=
  Text.join [':'] (gs.map (Text.hex 1))

/-- Start and length of the first longest run of zero groups, given the position of the first
group, the run under way and the longest so far. -/
def longestZeros (position : Nat) (current best : Nat × Nat) : List Nat → Nat × Nat
  | [] => best
  | g :: gs =>
    if g = 0 then
      let current := if current.2 = 0 then (position, 1) else (current.1, current.2 + 1)
      longestZeros (position + 1) current (if best.2 < current.2 then current else best) gs
    else longestZeros (position + 1) (0, 0) best gs

def ipv6Text (gs : List Nat) : Text :=
  match gs with
  | [0, 0, 0, 0, 0, 0xffff, a, b] =>
    "::ffff:".toList ++ octetsText [a / 256, a % 256, b / 256, b % 256]
  | gs =>
    let (start, length) := longestZeros 0 (0, 0) (0, 0) gs
    if 1 < length then
      groupsText (gs.take start) ++ [':', ':'] ++ groupsText (gs.drop (start + length))
    else groupsText gs

def text : SocketAddress → Text
  | .v4 octets port => octetsText octets ++ ':' :: Text.ofNat port
  | .v6 groups scope port =>
    let scope := if scope = 0 then [] else '%' :: Text.ofNat scope
    '[' :: ipv6Text groups ++ scope ++ ']' :: ':' :: Text.ofNat port

end SocketAddress
end CannedHttp
