import CannedHttp.Text.Utf8

/-!
The configuration of a server. Every field has a default, so that an empty configuration is
complete.
-/
namespace CannedHttp

namespace Config

structure Listener where
  address : Text
  deriving DecidableEq

structure Routes where
  directory : Bytes
  filePattern : Text
  /-- Leave out malformed files instead of failing the whole load. -/
  skipInvalidFiles : Bool
  /-- Load before traffic is accepted. -/
  prewarm : Bool
  /-- Load again when a file in the directory changes. -/
  watch : Bool
  deriving DecidableEq

structure Timeouts where
  requestSeconds : Nat
  deriving DecidableEq

structure Fallback where
  status : Nat
  body : Text
  contentType : Text
  deriving DecidableEq

inductive LogFormat where
  | pretty
  | json
  deriving DecidableEq

structure Observability where
  logLevel : Text
  logFormat : LogFormat
  logRequests : Bool
  metricsEnabled : Bool
  metricsAddress : Text
  deriving DecidableEq

structure Admin where
  enabled : Bool
  apiKey : Text
  deriving DecidableEq

def Listener.default : Listener := ⟨"127.0.0.1:5080".toList⟩

def Routes.default : Routes :=
  { directory := Utf8.encode "./HttpFiles".toList
    filePattern := "*.http".toList
    skipInvalidFiles := false
    prewarm := true
    watch := false }

def Timeouts.default : Timeouts := ⟨30⟩

def Fallback.default : Fallback :=
  { status := 404, body := "No matching route found".toList, contentType := "text/plain".toList }

def Observability.default : Observability :=
  { logLevel := "info".toList
    logFormat := .pretty
    logRequests := false
    metricsEnabled := false
    metricsAddress := "127.0.0.1:9090".toList }

def Admin.default : Admin := ⟨false, "CHANGE_ME".toList⟩

end Config

structure Config where
  listener : Config.Listener
  routes : Config.Routes
  timeouts : Config.Timeouts
  fallback : Config.Fallback
  observability : Config.Observability
  admin : Config.Admin
  deriving DecidableEq

def Config.default : Config :=
  ⟨.default, .default, .default, .default, .default, .default⟩

end CannedHttp
