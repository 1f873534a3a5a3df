import CannedHttp.Admin
import CannedHttp.CommandLine
import CannedHttp.Http.ServerUrl

/-!
A command line client of the admin interface: the URL of a server and the key of its admin interface
as options, and an endpoint as the command. The key may also come from the environment.
-/
namespace CannedHttp.Admin

structure Client where
  url : Text
  key : Text
  endpoint : Endpoint
  deriving DecidableEq

namespace Client

def commands : List (Text × Endpoint) :=
  [("status".toList, .status), ("routes".toList, .routes), ("reload".toList, .reload)]

def commandLine : CommandLine :=
  { flags := [⟨"url".toList, 'u', true⟩, ⟨"key".toList, 'k', true⟩]
    commands := commands.map (·.1) }

def defaultUrl : Text := "http://127.0.0.1:5080".toList

def ofArguments (args : List Text) (environmentKey? : Option Text) :
    Except CommandLine.Refusal Client := do
  let parsed ← commandLine.parse args
  match parsed.command?.bind fun c => commands.lookup c, (parsed.value? 'k').or environmentKey? with
  | some endpoint, some key => pure ⟨(parsed.value? 'u').getD defaultUrl, key, endpoint⟩
  | _, _ => throw .usage

inductive Failure where
  | key
  | url
  deriving DecidableEq

def authorization? (c : Client) : Option Bytes :=
  let value := Utf8.encode ("Bearer ".toList ++ c.key)
  if Http.isHeaderValue value then some value else none

def path : Endpoint → Text
  | .status => "/admin/status".toList
  | .routes => "/admin/routes".toList
  | .reload => "/admin/reload".toList

def method : Endpoint → Text
  | .status | .routes => "GET".toList
  | .reload => "POST".toList

structure Call where
  method : Text
  url : Text
  authorization : Bytes
  deriving DecidableEq

def call (c : Client) : Except Failure Call :=
  match c.authorization? with
  | none => .error .key
  | some authorization =>
    let url := c.url ++ path c.endpoint
    if Http.ServerUrl.isValid url then .ok ⟨method c.endpoint, url, authorization⟩ else .error .url

end Client
end CannedHttp.Admin
