import CannedHttp.Config

/-!
A setting is a value as a configuration file gives it, before it is known what it is for. Reading a
configuration from a setting checks the kind and range of every field; absent fields have their
defaults and unknown ones are ignored.
-/
namespace CannedHttp

inductive Setting where
  | null
  | flag (b : Bool)
  | int (n : Int)
  | real
  | moment
  | text (t : Text)
  | list (items : List Setting)
  | table (members : List (Text × Setting))
  deriving Inhabited

namespace Setting

/-- Where the notations for settings differ: whether a section written as a list may have more items
than fields, and what stands beside the name of a choice that is written as a table. -/
structure Encoding where
  surplusItems : Bool
  isNothing : Setting → Bool

def isEmpty : Setting → Bool
  | .list items => items.isEmpty
  | .table members => members.isEmpty
  | _ => false

def isNull : Setting → Bool
  | .null => true
  | _ => false

namespace Encoding

def json : Encoding := ⟨false, isNull⟩

def toml : Encoding := ⟨true, isEmpty⟩

/-- The fields of a section: its members by name, or its items in the order of the names. A date has
none of them. -/
def section? (e : Encoding) (names : List String) : Setting → Option (String → Option Setting)
  | .table members => some fun name => (members.find? (·.1 == name.toList)).map (·.2)
  | .list items =>
    if e.surplusItems || items.length ≤ names.length then
      some fun name => (names.idxOf? name).bind (items[·]?)
    else none
  | .moment => some fun _ => none
  | _ => none

/-- An absent field has its default, and a field that is present must be readable. -/
def field? {α : Type} (read? : Setting → Option α) (default : α) : Option Setting → Option α
  | none => some default
  | some s => read? s

end Encoding

def text? : Setting → Option Text
  | .text t => some t
  | _ => none

def flag? : Setting → Option Bool
  | .flag b => some b
  | _ => none

def nat? (max : Nat) : Setting → Option Nat
  | .int n => if 0 ≤ n ∧ n ≤ max then some n.toNat else none
  | _ => none

open Encoding (field?)

def logFormatOf? (name : Text) : Option Config.LogFormat :=
  if name = "pretty".toList then some .pretty
  else if name = "json".toList then some .json
  else none

def logFormat? (e : Encoding) : Setting → Option Config.LogFormat
  | .text name => logFormatOf? name
  | .table [(name, payload)] => if e.isNothing payload then logFormatOf? name else none
  | _ => none

def listener? (e : Encoding) (s : Setting) : Option Config.Listener := do
  let get ← e.section? ["bind_address"] s
  pure ⟨← field? text? Config.Listener.default.address (get "bind_address")⟩

def routes? (e : Encoding) (s : Setting) : Option Config.Routes := do
  let get ← e.section?
    ["directory", "file_pattern", "skip_invalid_files", "prewarm", "watch"] s
  let default := Config.Routes.default
  pure {
    directory := ← field? (fun s => s.text?.map Utf8.encode) default.directory (get "directory")
    filePattern := ← field? text? default.filePattern (get "file_pattern")
    skipInvalidFiles := ← field? flag? default.skipInvalidFiles (get "skip_invalid_files")
    prewarm := ← field? flag? default.prewarm (get "prewarm")
    watch := ← field? flag? default.watch (get "watch") }

def timeouts? (e : Encoding) (s : Setting) : Option Config.Timeouts := do
  let get ← e.section? ["request_secs"] s
  let default := Config.Timeouts.default
  pure ⟨← field? (nat? (Nat.pow 2 64 - 1)) default.requestSeconds (get "request_secs")⟩

def fallback? (e : Encoding) (s : Setting) : Option Config.Fallback := do
  let get ← e.section? ["status", "body", "content_type"] s
  let default := Config.Fallback.default
  pure {
    status := ← field? (nat? 65535) default.status (get "status")
    body := ← field? text? default.body (get "body")
    contentType := ← field? text? default.contentType (get "content_type") }

def observability? (e : Encoding) (s : Setting) : Option Config.Observability := do
  let get ← e.section?
    ["log_level", "log_format", "log_requests", "metrics_enabled", "metrics_address"] s
  let default := Config.Observability.default
  pure {
    logLevel := ← field? text? default.logLevel (get "log_level")
    logFormat := ← field? (logFormat? e) default.logFormat (get "log_format")
    logRequests := ← field? flag? default.logRequests (get "log_requests")
    metricsEnabled := ← field? flag? default.metricsEnabled (get "metrics_enabled")
    metricsAddress := ← field? text? default.metricsAddress (get "metrics_address") }

def admin? (e : Encoding) (s : Setting) : Option Config.Admin := do
  let get ← e.section? ["enabled", "api_key"] s
  pure {
    enabled := ← field? flag? Config.Admin.default.enabled (get "enabled")
    apiKey := ← field? text? Config.Admin.default.apiKey (get "api_key") }

def config? (e : Encoding) (s : Setting) : Option Config := do
  let get ← e.section?
    ["listener", "routes", "timeouts", "fallback", "observability", "admin"] s
  pure {
    listener := ← field? (listener? e) .default (get "listener")
    routes := ← field? (routes? e) .default (get "routes")
    timeouts := ← field? (timeouts? e) .default (get "timeouts")
    fallback := ← field? (fallback? e) .default (get "fallback")
    observability := ← field? (observability? e) .default (get "observability")
    admin := ← field? (admin? e) .default (get "admin") }

end Setting
end CannedHttp
