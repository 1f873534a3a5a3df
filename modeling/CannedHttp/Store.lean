import CannedHttp.Definition.Notices
import CannedHttp.Config
import CannedHttp.Script

/-!
The route store loads all definition files of a directory and publishes their routes as one
snapshot. The first request populates it under a lock; a reload replaces the snapshot, and a failed
one leaves it as it was.
-/
namespace CannedHttp.Store

inductive Error where
  | format (e : Definition.Error)
  | pattern (text : Text) (e : Glob.Error)
  | io (path : Path) (e : IoError)
  deriving DecidableEq

def Error.message : Error → Text
  | .format e => e.message
  | .pattern text e => "invalid file pattern `".toList ++ text ++ "`: ".toList ++ e.message
  | .io path e => "failed to read ".toList ++ path.display ++ ": ".toList ++ e.message

open Text.Diagnostic (record tuple) in
def Error.diagnostic : Error → Text
  | .format e => tuple "Format" [e.diagnostic]
  | .pattern text e =>
    record "Pattern" [("pattern", Text.Quoted.diagnostic text), ("source", e.diagnostic)]
  | .io path e => record "Io" [("path", path.diagnostic), ("source", e.diagnostic)]

open Script

def loadFile (path : Path) : Script (Except Error (List Route)) := do
  match ← readText path with
  | .error e => pure (.error (.io path e))
  | .ok content =>
    reportAll (Definition.notices path.label content)
    pure ((Definition.routes path.label content).mapError .format)

/-- The routes of all files in order. A malformed file is left out if `skip` says so; one that
cannot be read never is. -/
def loadFiles (skip : Bool) : List Path → Script (Except Error (List Route))
  | [] => pure (.ok [])
  | path :: paths => do
    match ← loadFile path with
    | .ok routes => do
      let rest ← loadFiles skip paths
      pure (rest.map (routes ++ ·))
    | .error (.format e) =>
      if skip then do
        report (.fileSkipped path.display e.message)
        loadFiles skip paths
      else pure (.error (.format e))
    | .error e => pure (.error e)

/-- The routes of the configured directory; a directory that does not exist has none. -/
def populate (c : Config.Routes) : Script (Except Error (List Route)) := do
  if ← directoryExists c.directory then
    match Glob.compile c.filePattern with
    | .error e => pure (.error (.pattern c.filePattern e))
    | .ok pattern =>
      match ← listFiles c.directory pattern with
      | .error e => pure (.error (.io c.directory e))
      | .ok files =>
        match ← loadFiles c.skipInvalidFiles files with
        | .error e => pure (.error e)
        | .ok routes => do
          report (.routesLoaded (Path.display c.directory) files.length routes.length)
          measure (.routesLoaded routes.length)
          pure (.ok routes)
  else do
    report (.directoryAbsent (Path.display c.directory))
    measure (.routesLoaded 0)
    pure (.ok [])

def isPopulated : Script Bool := do
  pure (← snapshot).isSome

/-- The snapshot, populated first if there is none. It is looked for again once the lock is held. -/
def getRoutes (c : Config.Routes) : Script (Except Error Snapshot) := do
  match ← snapshot with
  | some s => pure (.ok s)
  | none => do
    acquire
    match ← snapshot with
    | some s => do
      release
      pure (.ok s)
    | none =>
      match ← populate c with
      | .error e => do
        release
        pure (.error e)
      | .ok routes => do
        let s ← publish routes
        release
        pure (.ok s)

def reload (c : Config.Routes) : Script (Except Error Snapshot) := do
  acquire
  match ← populate c with
  | .error e => do
    measure (.reload false)
    release
    pure (.error e)
  | .ok routes => do
    let s ← publish routes
    measure (.reload true)
    release
    pure (.ok s)

def pathExists (path : Path) : Script Bool := do
  if ← directoryExists path then pure true else fileExists path

end CannedHttp.Store
