import CannedHttp.Http.Connection
import CannedHttp.Program
import CannedHttp.Telemetry.Line
import CannedHttp.World

/-!
The server on the command line. Each line of the standard input is a request, a method and a target,
and its answer is written to the standard output.
-/
namespace CannedHttp

def helpText : String :=
  "Serve canned HTTP responses from .http definition files\n\n"
    ++ "Options:\n"
    ++ "  -c, --config <CONFIG>  Path to a TOML configuration file\n"
    ++ "  -r, --routes <ROUTES>  Route definition directory (overrides the config file)\n"
    ++ "  -b, --bind <BIND>      Bind address (overrides the config file)\n"
    ++ "  -h, --help             Print help\n"

def importFile (d : Disk) (path : Path) : IO Disk := do
  try
    let content ← IO.FS.readBinFile ((← IO.currentDir) / String.ofList path.display)
    pure (d.place path content.toList).1
  catch _ => pure d

def importDirectory (d : Disk) (path : Path) : IO Disk := do
  try
    let entries ← ((← IO.currentDir) / String.ofList path.display).readDir
    entries.foldlM (fun d e => importFile d (path.join (Utf8.encode e.fileName.toList)))
      (d.makeAll path)
  catch _ => pure d

def printLog (l : Program.Log) (shown : Nat) (w : World Disk) : IO Unit := do
  for e in l.shown (w.events.drop shown) do
    IO.println (String.ofList (e.line l.format))

def printResponse (r : Http.Response) : IO Unit := do
  IO.println ("HTTP/1.1 " ++ toString r.status)
  for h in r.headers.entries do
    IO.println (String.ofList (h.1 ++ ": ".toList ++ Utf8.decodeLossy h.2))
  IO.println ("\n" ++ String.ofList r.body)

partial def answerLines (c : Config) (l : Program.Log) (w : World Disk) : IO (World Disk) := do
  let line ← (← IO.getStdin).getLine
  if line.isEmpty then return w
  match Text.splitOn ' ' (line.trimAscii.toString).toList with
  | [method, target] =>
    let (r, after) := (Http.Connection.exchange c method target [] []).run w
    printLog l w.reported.length after
    printResponse r
    answerLines c l after
  | _ =>
    IO.eprintln "a request is a method and a target"
    answerLines c l w

def fail (complaints : List Text) (f : Program.Failure) : IO UInt32 := do
  IO.eprintln (String.ofList (Program.lastWords complaints f))
  return 1

def serve (c : Config) (l : Program.Log) (d : Disk) : IO UInt32 := do
  let (started, w) := (Program.start c).run (World.start d)
  printLog l 0 w
  match started with
  | .error f => fail l.complaints f
  | .ok _ =>
    let w ← answerLines c l w
    printLog l w.reported.length ((Program.stop .terminate).run w).2
    return 0

def runProgram (p : Program) : IO UInt32 := do
  let d ← match p.config? with
    | some path => importFile .empty path
    | none => pure .empty
  match p.configure d with
  | .error f => fail [] f
  | .ok c => do
    let given? ← IO.getEnv "RUST_LOG"
    let l := Program.Log.start (given?.map String.toList) c.observability
    serve c l (← importDirectory d c.routes.directory)

end CannedHttp

def main (args : List String) : IO UInt32 := do
  match CannedHttp.Program.ofArguments (args.map String.toList) with
  | .ok p => CannedHttp.runProgram p
  | .error r =>
    if r = .help then IO.print CannedHttp.helpText else IO.eprint CannedHttp.helpText
    return UInt32.ofNat r.exitCode
