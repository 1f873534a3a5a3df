import CannedHttp.Http.Token

/-!
The target of a request: a path with an optional query, an absolute URI, an authority alone, or an
asterisk. A fragment is cut off, and a scheme that HTTP knows is written in lower case.
-/
namespace CannedHttp.Http

structure Target where
  scheme? : Option Text
  authority : Text
  path : Text
  query? : Option Text
  deriving DecidableEq

namespace Target

def byteLimit : Nat := 65534

def schemeLimit : Nat := 64

def isPathChar (c : Char) : Bool :=
  0x21 ≤ c.toNat && !"#<>?`".toList.contains c

def isQueryChar (c : Char) : Bool :=
  0x21 ≤ c.toNat && !"\"#<>".toList.contains c

def isSchemeChar (c : Char) : Bool :=
  c.isAlphanum || c == '+' || c == '-' || c == '.'

def isAuthorityChar (c : Char) : Bool :=
  c.isAlphanum || "!$&'()*+,-.:;=@[]_~".toList.contains c

structure Scan where
  colons : Nat
  opened : Bool
  closed : Bool
  percent : Bool

def colonLimit : Nat := 8

/-- Colons and percent signs before an at sign, or inside brackets, are not those of the host. -/
def Scan.push? (s : Scan) (c : Char) : Option Scan :=
  if c = ':' then
    if s.colons < colonLimit then some { s with colons := s.colons + 1 } else none
  else if c = '[' then
    if s.percent || s.opened then none else some { s with opened := true }
  else if c = ']' then
    if !s.opened || s.closed then none
    else some { s with closed := true, colons := 0, percent := false }
  else if c = '@' then some { s with colons := 0, percent := false }
  else if c = '%' then some { s with percent := true }
  else if isAuthorityChar c then some s
  else none

/-- At most one colon, for the port; brackets closed; something after an at sign; and no percent
sign in the host. -/
def isAuthority (t : Text) : Bool :=
  match t.foldlM Scan.push? ⟨0, false, false, false⟩ with
  | some s => s.opened == s.closed && s.colons ≤ 1 && !s.percent && t.getLast? != some '@'
  | none => false

/-- Path and query of a target from its first slash on; an empty path is a slash. -/
def pathAndQuery? (scheme? : Option Text) (authority t : Text) : Option Target :=
  let (path, rest) := Text.cut (fun c => c == '?' || c == '#') t
  let query? :=
    match rest with
    | '?' :: query => some (query.takeWhile (· != '#'))
    | _ => none
  if path.all isPathChar && (query?.getD []).all isQueryChar then
    some ⟨scheme?, authority, if path.isEmpty then ['/'] else path, query?⟩
  else none

/-- The scheme of an absolute URI, and the text after it. A malformed scheme is none. -/
def splitScheme? (t : Text) : Option (Text × Text) :=
  let (scheme, rest) := Text.run isSchemeChar t
  if t.length ≤ 3 then none
  else (Text.dropStart? "://".toList rest).map (scheme, ·)

/-- Schemes of HTTP are known in any case. -/
def canonicalScheme (scheme : Text) : Text :=
  let folded := Text.foldCase scheme
  if folded = "http".toList || folded = "https".toList then folded else scheme

def absolute? (scheme t : Text) : Option Target :=
  let (authority, rest) := Text.cut (fun c => c == '/' || c == '?' || c == '#') t
  if schemeLimit < scheme.length || authority.isEmpty || !isAuthority authority then none
  else pathAndQuery? (some (canonicalScheme scheme)) authority rest

def parse? (t : Text) : Option Target :=
  if t.isEmpty || byteLimit < (Utf8.encode t).length then none
  else if t = ['*'] then some ⟨none, [], t, none⟩
  else if t.head? = some '/' then pathAndQuery? none [] t
  else
    match splitScheme? t with
    | some (scheme, rest) => absolute? scheme rest
    | none => if isAuthority t then some ⟨none, t, [], none⟩ else none

def text (t : Target) : Text :=
  (match t.scheme? with
    | some scheme => scheme ++ "://".toList
    | none => [])
  ++ t.authority ++ t.path
  ++ match t.query? with
    | some query => '?' :: query
    | none => []

end Target
end CannedHttp.Http
