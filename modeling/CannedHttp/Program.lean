import CannedHttp.CommandLine
import CannedHttp.Config.Load
import CannedHttp.LogFilter
import CannedHttp.Server
import CannedHttp.Startup

/-!
The server as a program. Arguments and a file give the configuration, the arguments deciding; the
log begins once that is valid; and the program runs from startup to a signal of the operating
system.
-/
namespace CannedHttp

structure Program where
  config? : Option Path
  routes? : Option Path
  bind? : Option Text
  deriving DecidableEq

namespace Program

def commandLine : CommandLine :=
  { flags :=
      [⟨"config".toList, 'c', false⟩, ⟨"routes".toList, 'r', false⟩, ⟨"bind".toList, 'b', true⟩]
    commands := [] }

def ofArguments (args : List Text) : Except CommandLine.Refusal Program := do
  let parsed ← commandLine.parse args
  pure {
    config? := (parsed.value? 'c').map Utf8.encode
    routes? := (parsed.value? 'r').map Utf8.encode
    bind? := parsed.value? 'b' }

inductive Failure where
  | config (e : Config.LoadError)
  | violations (vs : List Config.Violation)
  | startup (e : Startup.Error)

def Failure.diagnostic : Failure → Text
  | .config e => e.diagnostic
  | .violations vs => Text.Quoted.diagnostic (Config.violationsText vs)
  | .startup e => e.diagnostic

/-- The configuration of a file, or else the default one, with what the arguments decide. It must be
valid before and after. -/
def configure (p : Program) (d : Disk) : Except Failure Config := do
  let c ←
    match p.config? with
    | none => pure Config.default
    | some path => (Config.load d path).mapError .config
  let c := { c with
    routes.directory := p.routes?.getD c.routes.directory
    listener.address := p.bind?.getD c.listener.address }
  c.validate.mapError .violations

/-- A log, and the complaints about its filter, which stand before all else that goes wrong. -/
structure Log where
  format : Config.LogFormat
  filter : LogFilter
  complaints : List Text

def Log.start (environment? : Option Text) (c : Config.Observability) : Log :=
  let (filter, complaints) := LogFilter.choose environment? c.logLevel
  ⟨c.logFormat, filter, complaints⟩

def Log.shown (l : Log) (events : List Event) : List Event :=
  events.filter l.filter.shows

def lastWords (complaints : List Text) (f : Failure) : Text :=
  Text.join ['\n'] (complaints ++ ["Error: ".toList ++ f.diagnostic])

open Script

def start (c : Config) : Script (Except Failure Startup.Started) := do
  report (.programStarting Admin.version)
  report (.configured c.listener.address (Path.display c.routes.directory) c.routes.filePattern)
  match ← Startup.start c with
  | .error e => pure (.error (.startup e))
  | .ok started => do
    Server.start c started.address
    pure (.ok started)

inductive Signal where
  | interrupt
  | terminate
  deriving DecidableEq

def stop (s : Signal) : Script Unit := do
  report (match s with
    | .interrupt => .interrupted
    | .terminate => .terminated)
  Server.stop
  report .programStopped

end Program
end CannedHttp
