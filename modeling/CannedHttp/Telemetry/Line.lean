import CannedHttp.Config
import CannedHttp.Json
import CannedHttp.Telemetry.Event

/-!
An event as a line of a log, as a JSON object or for a reader's eyes.
-/
namespace CannedHttp

def FieldValue.toJson : FieldValue → Json
  | .text t => .str t
  | .number n => .num n
  | .flag b => .bool b

namespace Event

def toJson (e : Event) : Json :=
  .obj [
    ("level".toList, .str e.level.name),
    ("fields".toList,
      .obj (("message".toList, .str e.message) :: e.fields.map fun f => (f.1, f.2.toJson))),
    ("target".toList, .str e.target)]

def prettyLine (e : Event) : Text :=
  e.level.name ++ ' ' :: e.target ++ ": ".toList ++ e.message
    ++ e.fields.flatMap fun f => ' ' :: f.1 ++ '=' :: f.2.toJson.text

def line (e : Event) : Config.LogFormat → Text
  | .json => e.toJson.text
  | .pretty => e.prettyLine

end Event
end CannedHttp
