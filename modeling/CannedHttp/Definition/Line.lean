import CannedHttp.Text.Blank
import CannedHttp.Text.Number
import CannedHttp.Text.Word

/-!
The lines of a definition file and what each of them says. Whether a line is blank, a comment or a
separator is seen without its context; what a header line says is seen after trimming.
-/
namespace CannedHttp.Definition

structure Line where
  number : Nat
  text : Text
  deriving DecidableEq

namespace Line

def isSeparator (t : Text) : Bool :=
  ['#', '#', '#'].isPrefixOf (Text.trimStart t)

def isComment (t : Text) : Bool :=
  ['#'].isPrefixOf (Text.trimStart t)

def isBlank (t : Text) : Bool :=
  Text.allBlank t

def numberedFrom : Nat → List Text → List Line
  | _, [] => []
  | n, t :: ts => ⟨n, t⟩ :: numberedFrom (n + 1) ts

def ofText (content : Text) : List Line :=
  numberedFrom 1 (Text.lines content)

end Line

/-- Method and URL of a request line: a run of word characters, blanks, a run of anything else. What
follows is ignored. -/
def requestLine? (t : Text) : Option (Text × Text) :=
  let (method, rest) := Text.run Text.isWord t
  let (gap, rest) := Text.run Text.isBlank rest
  let url := rest.takeWhile fun c => !Text.isBlank c
  if method.isEmpty || gap.isEmpty || url.isEmpty then none else some (method, url)

def usableStatus? (code : Nat) : Option Nat :=
  if 100 ≤ code ∧ code ≤ 999 then some code else none

def afterVersion? (t : Text) : Option Text := do
  let rest ← Text.dropStart? "HTTP/".toList t
  match rest with
  | d :: '.' :: e :: rest =>
    if Text.isDecimalDigit d then
      if Text.isDecimalDigit e then some rest else some ('.' :: e :: rest)
    else none
  | d :: rest => if Text.isDecimalDigit d then some rest else none
  | [] => none

/-- The code of a status line such as `HTTP/1.1 404 Not Found`: three digits with no word character
after them. Only ASCII digits make a usable code. -/
def statusLine? (t : Text) : Option Nat := do
  let rest ← afterVersion? t
  let (gap, rest) := Text.run Text.isBlank rest
  let (digits, rest) := (rest.take 3, rest.drop 3)
  if gap.isEmpty || digits.length < 3 || !digits.all Text.isDecimalDigit
      || rest.head?.any Text.isWord then none
  else (Text.readNat? 10 digits).bind usableStatus?

/-- The code that the value of a status header gives: a status line or a bare number. -/
def statusValue? (value : Text) : Option Nat :=
  (statusLine? value).or ((Text.readBounded? 65535 value).bind usableStatus?)

def isHeaderNameChar (c : Char) : Bool :=
  Text.isWord c || c == '-'

/-- Name and value of a header line; the value is trimmed. -/
def headerLine? (t : Text) : Option (Text × Text) :=
  let (name, rest) := Text.run isHeaderNameChar t
  match rest.dropWhile Text.isBlank with
  | ':' :: value => if name.isEmpty then none else some (name, Text.trim value)
  | _ => none

def statusHeader : Text := "Status-Code".toList

inductive HeadLine where
  | comment
  | status (code : Nat)
  | unknownStatus (value : Text)
  | header (name value : Text)
  | malformed
  deriving DecidableEq

def HeadLine.ofText (line : Text) : HeadLine :=
  if Line.isComment line then .comment
  else
    match statusLine? (Text.trim line) with
    | some code => .status code
    | none =>
      match headerLine? (Text.trim line) with
      | some (name, value) =>
        if Text.sameIgnoringCase name statusHeader then
          match statusValue? value with
          | some code => .status code
          | none => .unknownStatus value
        else .header name value
      | none => .malformed

end CannedHttp.Definition
