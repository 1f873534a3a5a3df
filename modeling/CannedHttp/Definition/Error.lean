import CannedHttp.Text.Quoted

/-!
A malformed definition file is reported with the file, the number of the offending line counted
from one, and the cause.
-/
namespace CannedHttp.Definition

inductive Cause where
  | empty
  | badRequestLine (found : Text)
  | invalidUrl (url : Text)
  deriving DecidableEq

structure Error where
  file : Text
  line : Nat
  cause : Cause
  deriving DecidableEq

def Cause.message : Cause → Text
  | .empty => "definition file is empty".toList
  | .badRequestLine found =>
    "expected `<method> <url>` request line, found `".toList ++ found ++ "`".toList
  | .invalidUrl url => "invalid url `".toList ++ url ++ "`".toList

def Cause.detail? : Cause → Option Text
  | .empty => none
  | .badRequestLine found => some found
  | .invalidUrl url => some url

def Error.message (e : Error) : Text :=
  e.file ++ ':' :: Text.ofNat e.line ++ ':' :: ' ' :: e.cause.message

open Text.Diagnostic (record tuple)

def Cause.diagnostic : Cause → Text
  | .empty => "Empty".toList
  | .badRequestLine found => tuple "BadRequestLine" [Text.Quoted.diagnostic found]
  | .invalidUrl url => tuple "InvalidUrl" [Text.Quoted.diagnostic url]

def Error.diagnostic (e : Error) : Text :=
  record "FormatError" [("file", Text.Quoted.diagnostic e.file), ("line", Text.ofNat e.line),
    ("kind", e.cause.diagnostic)]

end CannedHttp.Definition
