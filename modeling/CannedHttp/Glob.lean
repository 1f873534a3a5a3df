import CannedHttp.Text.Quoted

/-!
File name patterns. A star matches any run of characters, slashes included, a question mark any one
character, brackets one character of a class, and two stars as a whole path component any number
of components.
-/
namespace CannedHttp

namespace Glob

/-- A member of a character class: the characters between two bounds. -/
structure Span where
  first : Char
  last : Char
  deriving DecidableEq

inductive Token where
  | char (c : Char)
  | anyChar
  | anyRun
  | anyComponents
  | within (spans : List Span)
  | except (spans : List Span)
  deriving DecidableEq

inductive Cause where
  | wildcards
  | recursiveWildcards
  | range
  deriving DecidableEq

structure Error where
  position : Nat
  cause : Cause
  deriving DecidableEq

def Cause.message : Cause → Text
  | .wildcards => "wildcards are either regular `*` or recursive `**`".toList
  | .recursiveWildcards => "recursive wildcards must form a single path component".toList
  | .range => "invalid range pattern".toList

def Error.message (e : Error) : Text :=
  "Pattern syntax error near position ".toList ++ Text.ofNat e.position ++ ": ".toList
    ++ e.cause.message

def Error.diagnostic (e : Error) : Text :=
  Text.Diagnostic.record "PatternError" [("pos", Text.ofNat e.position),
    ("msg", Text.Quoted.diagnostic e.cause.message)]

/-- The members of a class; a hyphen between two characters makes a range. -/
def spans : Text → List Span
  | [] => []
  | a :: '-' :: b :: rest => ⟨a, b⟩ :: spans rest
  | a :: rest => ⟨a, a⟩ :: spans rest

/-- The characters up to the closing bracket, of which there is at least one, and the rest. -/
def classBody? : Text → Option (Text × Text)
  | [] => none
  | c :: cs =>
    let (body, rest) := Text.cut (· == ']') cs
    match rest with
    | [] => none
    | _ :: rest => some (c :: body, rest)

def class? : Text → Option (Token × Text)
  | '!' :: cs => (classBody? cs).map fun (body, rest) => (.except (spans body), rest)
  | cs => (classBody? cs).map fun (body, rest) => (.within (spans body), rest)

/-- Two stars after the given character, before the given rest: what remains, or the position of
the fault. They must stand between slashes or the ends of the pattern. -/
def component (position : Nat) (before : Option Char) (rest : Text) : Except Error Text :=
  if before.all (· == '/') then
    match rest with
    | [] => .ok []
    | '/' :: rest => .ok rest
    | _ => .error ⟨position + 2, .recursiveWildcards⟩
  else .error ⟨position - 1, .recursiveWildcards⟩

/-- Read one token at a position. Two stars after two stars add nothing to the latter, unless these
begin the pattern. -/
def tokenAt (position : Nat) (before : Option Char) (read : List Token) :
    Text → Except Error (List Token × Text)
  | [] => .ok (read, [])
  | '?' :: rest => .ok (.anyChar :: read, rest)
  | '*' :: '*' :: '*' :: _ => .error ⟨position + 2, .wildcards⟩
  | '*' :: '*' :: rest =>
    (component position before rest).map fun rest =>
      match read with
      | .anyComponents :: _ :: _ => (read, rest)
      | _ => (.anyComponents :: read, rest)
  | '*' :: rest => .ok (.anyRun :: read, rest)
  | '[' :: rest =>
    match class? rest with
    | some (token, rest) => .ok (token :: read, rest)
    | none => .error ⟨position, .range⟩
  | c :: rest => .ok (.char c :: read, rest)

def tokensFrom (pattern : Text) : Nat → Text → List Token → Except Error (List Token)
  | 0, _, read => .ok read
  | _, [], read => .ok read
  | fuel + 1, rest, read => do
    let position := pattern.length - rest.length
    let before := if position = 0 then none else pattern[position - 1]?
    let (read, rest) ← tokenAt position before read rest
    tokensFrom pattern fuel rest read

end Glob

structure Glob where
  tokens : List Glob.Token
  deriving DecidableEq

namespace Glob

def compile (pattern : Text) : Except Error Glob :=
  (tokensFrom pattern pattern.length pattern []).map fun read => ⟨read.reverse⟩

def Token.matchesChar : Token → Char → Bool
  | .char c, d => c == d
  | .anyChar, _ => true
  | .within spans, d => spans.any fun s => s.first ≤ d && d ≤ s.last
  | .except spans, d => !spans.any fun s => s.first ≤ d && d ≤ s.last
  | .anyRun, _ | .anyComponents, _ => false

/-- Does some suffix that follows a slash match, where `row` tells of each shorter suffix whether it
does? -/
def afterSlash : Text → List Bool → Bool
  | c :: cs, m :: ms => (c == '/' && m) || afterSlash cs ms
  | _, _ => false

/-- From which suffixes of a name match the rest of a pattern, which match one more token before it.
Rows begin with the whole name and end with the empty suffix. -/
def Token.extend (t : Token) : Text → List Bool → List Bool
  | [], row =>
    match t with
    | .anyRun | .anyComponents => row
    | _ => [false]
  | c :: cs, m :: row =>
    let shorter := t.extend cs row
    let here :=
      match t with
      | .anyRun => m || shorter.head?.getD false
      | .anyComponents => m || row.getLast?.getD false || afterSlash (c :: cs) row
      | t => t.matchesChar c && row.head?.getD false
    here :: shorter
  | _, [] => []

def suffixes (name : Text) : List Token → List Bool
  | [] => List.replicate name.length false ++ [true]
  | t :: ts => t.extend name (suffixes name ts)

def accepts (g : Glob) (name : Text) : Bool :=
  (suffixes name g.tokens).head?.getD false

end Glob
end CannedHttp
