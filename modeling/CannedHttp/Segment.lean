import CannedHttp.Placeholder

/-!
A segment is a path component or a query value of a definition: a literal text, or a variable
written as a placeholder.
-/
namespace CannedHttp

structure Segment where
  text : Text
  capture? : Option Text
  deriving DecidableEq

namespace Segment

def parse (t : Text) : Segment :=
  ⟨t, Placeholder.inUrl? t⟩

def literal (t : Text) : Segment :=
  ⟨t, none⟩

def isVariable (s : Segment) : Bool :=
  s.capture?.isSome

/-- Segments of a path; an absolute path begins with an empty one. -/
def ofPath (path : Text) : List Segment :=
  (Text.splitOn '/' path).map parse

end Segment
end CannedHttp
