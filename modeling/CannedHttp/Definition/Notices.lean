import CannedHttp.Definition
import CannedHttp.Telemetry.Event

/-!
What reading a definition file reports. Definitions report in file order up to the first one that
fails, and the file itself only when it was read to the end.
-/
namespace CannedHttp.Definition

/-- Reports of a header block, given the status in force before it. -/
def headNotices (file : Text) (status : Nat) : List Line → List Event
  | [] => []
  | l :: ls =>
    match HeadLine.ofText l.text with
    | .status code => headNotices file code ls
    | .unknownStatus value =>
      .unknownStatus file l.number value status :: headNotices file status ls
    | .malformed => .malformedHeader file l.number :: headNotices file status ls
    | .comment | .header .. => headNotices file status ls

def noticesOf (file : Text) (count : Nat) : List Definition → List Event
  | [] => [.definitionsParsed file count]
  | d :: ds =>
    match startRoute file d.request with
    | .error _ => []
    | .ok r => headNotices file r.status d.head ++ noticesOf file (count + 1) ds

def notices (file content : Text) : List Event :=
  if Text.allBlank content then [] else noticesOf file 0 (ofText content)

end CannedHttp.Definition
