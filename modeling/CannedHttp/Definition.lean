import CannedHttp.Definition.Error
import CannedHttp.Definition.Line
import CannedHttp.Route

/-!
A definition file holds definitions between separator lines. Each has a request line, a header
block up to the first blank line, and a body. The file gives the routes of its definitions in
order, or the error of the first definition whose request line is malformed.
-/
namespace CannedHttp

structure Definition where
  request : Definition.Line
  head : List Definition.Line
  body : List Definition.Line
  deriving DecidableEq

namespace Definition

/-- The runs of lines between separators; there is always at least one. -/
def parts : List Line → List (List Line)
  | [] => [[]]
  | l :: ls =>
    if Line.isSeparator l.text then [] :: parts ls
    else
      match parts ls with
      | [] => [[l]]
      | part :: rest => (l :: part) :: rest

/-- The definition in a part: blank lines and comments before its request line do not count, and a
part without more holds none. -/
def ofPart? (part : List Line) : Option Definition :=
  match part.dropWhile fun l => Line.isBlank l.text || Line.isComment l.text with
  | [] => none
  | request :: rest =>
    let (head, body) := Text.cut (fun l => Line.isBlank l.text) rest
    some ⟨request, head, body.drop 1⟩

def ofText (content : Text) : List Definition :=
  (parts (Line.ofText content)).filterMap ofPart?

def bodyText (lines : List Line) : Text :=
  Text.join ['\n'] (Text.trimEndBy Line.isBlank (lines.map Line.text))

def applyHeadLine (r : Route) : HeadLine → Route
  | .status code => { r with status := code }
  | .header name value => { r with headers := r.headers.insert name value }
  | .comment | .unknownStatus _ | .malformed => r

def startRoute (file : Text) (request : Line) : Except Error Route :=
  let line := Text.trim request.text
  match requestLine? line with
  | none => .error ⟨file, request.number, .badRequestLine line⟩
  | some (method, url) =>
    let r := Route.make file method url
    if r.valid then .ok r else .error ⟨file, request.number, .invalidUrl url⟩

def route (file : Text) (d : Definition) : Except Error Route :=
  (startRoute file d.request).map fun r =>
    let r := (d.head.map fun l => HeadLine.ofText l.text).foldl applyHeadLine r
    { r with body := bodyText d.body }

/-- The routes of a file, or its first error. A blank file is an error too. -/
def routes (file content : Text) : Except Error (List Route) :=
  if Text.allBlank content then .error ⟨file, 1, .empty⟩
  else (ofText content).mapM (route file)

end Definition
end CannedHttp
