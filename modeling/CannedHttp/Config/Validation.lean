import CannedHttp.Config
import CannedHttp.Glob
import CannedHttp.Http.Token
import CannedHttp.SocketAddress
import CannedHttp.Text.Blank

/-!
The rules that a configuration must obey beyond the kinds of its fields. All violations are
reported, each once and in a fixed order.
-/
namespace CannedHttp.Config

inductive Violation where
  | address (field value : Text)
  | filePattern (pattern : Text)
  | zeroTimeout
  | fallbackStatus (status : Nat)
  | emptyApiKey
  deriving DecidableEq

def Violation.message : Violation → Text
  | .address field value =>
    "invalid ".toList ++ field ++ " `".toList ++ value ++ "`: expected host:port".toList
  | .filePattern pattern =>
    "routes.file_pattern must be a valid file name glob, got `".toList ++ pattern ++ "`".toList
  | .zeroTimeout => "timeouts.request_secs must be greater than 0".toList
  | .fallbackStatus status =>
    "fallback.status ".toList ++ Text.ofNat status ++ " is not a valid HTTP status code".toList
  | .emptyApiKey => "admin.api_key must not be empty when the admin API is enabled".toList

open Text.Diagnostic (record tuple) in
def Violation.diagnostic : Violation → Text
  | .address field value =>
    record "InvalidAddress" [("field", Text.Quoted.diagnostic field),
      ("value", Text.Quoted.diagnostic value)]
  | .filePattern pattern => tuple "InvalidFilePattern" [Text.Quoted.diagnostic pattern]
  | .zeroTimeout => "ZeroTimeout".toList
  | .fallbackStatus status => tuple "InvalidFallbackStatus" [Text.ofNat status]
  | .emptyApiKey => "EmptyApiKey".toList

def isAddress (t : Text) : Bool :=
  (SocketAddress.parse? t).isSome

/-- A pattern for names in one directory: not empty, without separators, and well formed. -/
def isFilePattern (t : Text) : Bool :=
  !t.isEmpty && !t.contains '/' && !t.contains '\\' && (Glob.compile t).toBool

def violations (c : Config) : List Violation :=
  (if isAddress c.listener.address then []
    else [.address "listener.bind_address".toList c.listener.address])
  ++ (if isFilePattern c.routes.filePattern then [] else [.filePattern c.routes.filePattern])
  ++ (if c.timeouts.requestSeconds = 0 then [.zeroTimeout] else [])
  ++ (if Http.isStatus c.fallback.status then [] else [.fallbackStatus c.fallback.status])
  ++ (if c.observability.metricsEnabled && !isAddress c.observability.metricsAddress then
      [.address "observability.metrics_address".toList c.observability.metricsAddress]
    else [])
  ++ (if c.admin.enabled && Text.allBlank c.admin.apiKey then [.emptyApiKey] else [])

def violationsText (vs : List Violation) : Text :=
  Text.join ", ".toList (vs.map Violation.message)

end CannedHttp.Config
