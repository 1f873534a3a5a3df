import CannedHttp.Config.Validation
import CannedHttp.Files.Disk
import CannedHttp.Toml

/-!
Loading a configuration: from a file to text, from text to settings, from settings to a
configuration that obeys the rules.
-/
namespace CannedHttp.Config

inductive LoadError where
  | io (e : IoError)
  | malformed
  | violations (vs : List Violation)

def LoadError.message : LoadError → Text
  | .io e => "IO error: ".toList ++ e.message
  | .malformed => "Parse error".toList
  | .violations vs => "Validation failed: ".toList ++ violationsText vs

open Text.Diagnostic (list tuple) in
def LoadError.diagnostic : LoadError → Text
  | .io e => tuple "Io" [e.diagnostic]
  | .malformed => "Parse".toList
  | .violations vs => tuple "Validation" [list (vs.map Violation.diagnostic)]

def validate (c : Config) : Except (List Violation) Config :=
  match c.violations with
  | [] => .ok c
  | vs => .error vs

def parse (t : Text) : Except LoadError Config :=
  match (Toml.parse? t).bind (Setting.config? .toml) with
  | none => .error .malformed
  | some c => c.validate.mapError .violations

def load (d : Disk) (path : Path) : Except LoadError Config :=
  match d.readText path with
  | .error e => .error (.io e)
  | .ok t => parse t

end CannedHttp.Config
