import CannedHttp.Telemetry.Event
import CannedHttp.Text.Blank
import CannedHttp.Text.Number
import CannedHttp.Text.Word

/-!
Which events a log shows. A filter is a list of directives, separated by commas: each gives a level
to the events of all targets that begin with a text, or to those that have a field, and of the rules
that fit an event the most specific decides. Directives for the inside of spans are read, but no
event of the server happens in one.
-/
namespace CannedHttp

namespace LogFilter

structure Rule where
  target? : Option Text
  field? : Option Text
  /-- The most detailed level that is shown; `none` shows nothing. -/
  limit? : Option Level
  deriving DecidableEq

inductive Directive where
  | rule (r : Rule)
  | insideSpan
  deriving DecidableEq

inductive Fault where
  | level
  | directive
  deriving DecidableEq

def Fault.message : Fault → Text
  | .level =>
    "error parsing level filter: expected one of ".toList
      ++ "\"off\", \"error\", \"warn\", \"info\", \"debug\", \"trace\", ".toList
      ++ "or a number 0-5".toList
  | .directive => "invalid filter directive".toList

def limit? (t : Text) : Option (Option Level) :=
  let limits := [none, some .error, some .warn, some .info, some .debug, some .trace]
  match Text.readBounded? 5 t with
  | some n => limits[n]?
  | none =>
    limits.find? fun limit =>
      Text.sameIgnoringCase t (limit.elim "off".toList Level.name)

/-- The limit that a directive ends with; nothing written means every level. -/
def limitAtEnd (t : Text) : Except Fault (Option Level) :=
  if t.isEmpty then .ok (some .trace)
  else
    match limit? t with
    | some limit => .ok limit
    | none => .error .level

def between (t : Text) (start stop : Nat) : Text :=
  (t.take stop).drop start

/-- What may follow a closing bracket at a position: nothing, or a limit. -/
def closed (piece : Text) (make : Option Level → Directive) (position : Nat) :
    Text → Except Fault Directive
  | [] => .ok (make (some .trace))
  | '=' :: _ => (limitAtEnd (piece.drop (position + 1))).map make
  | _ => .error .directive

/-- A directive that names only a field, and asks for no value of it, is a rule. -/
def fieldDirective (target? : Option Text) (span field : Text) (limit? : Option Level) :
    Directive :=
  if span.isEmpty && !field.contains '=' then .rule ⟨target?, some field, limit?⟩ else .insideSpan

/-- The inside of brackets that have been opened before a position. -/
def bracketed (piece : Text) (target? : Option Text) (start : Nat) (t : Text) :
    Except Fault Directive :=
  let (name, rest) := Text.cut (fun c => c == ']' || c == '{') t
  let stop := start + name.length
  match rest with
  | ']' :: rest => closed piece (fun _ => .insideSpan) (stop + 1) rest
  | _ :: rest =>
    let (field, rest) := Text.cut (· == '}') rest
    let fieldStop := stop + 1 + field.length
    match rest with
    | _ :: ']' :: rest =>
      if field.isEmpty then .error .directive
      else
        let make := fieldDirective target? (between piece start stop)
          (between piece (stop + 1) fieldStop)
        closed piece make (fieldStop + 2) rest
    | _ => .error .directive
  | [] => .error .directive

def isStart (c : Char) : Bool :=
  c == '-' || c == ':' || Text.isWord c

/-- Read one directive. Its form is that of the text without blanks around it, but its parts are cut
from the text with them, at the same positions. -/
def Directive.parse (piece : Text) : Except Fault Directive :=
  match Text.trim piece with
  | [] => .error .directive
  | '[' :: rest => bracketed piece none 1 rest
  | c :: cs =>
    if isStart c then
      let (target, rest) := Text.cut (fun c => c == '=' || c == '[') (c :: cs)
      let stop := target.length
      match rest with
      | [] =>
        match limit? piece with
        | some limit => .ok (.rule ⟨none, none, limit⟩)
        | none => .ok (.rule ⟨some piece, none, some .trace⟩)
      | '[' :: rest => bracketed piece (some (piece.take stop)) (stop + 1) rest
      | _ =>
        (limitAtEnd (piece.drop (stop + 1))).map fun limit =>
          .rule ⟨some (piece.take stop), none, limit⟩
    else .error .directive

end LogFilter

structure LogFilter where
  rules : List LogFilter.Rule
  deriving DecidableEq

namespace LogFilter

def defaultText (level : Text) : Text :=
  "httpfile_mock=".toList ++ level ++ ",tower_http=".toList ++ level

def pieces (t : Text) : List Text :=
  (Text.splitOn ',' t).filter (· != [])

/-- The rules among directives. Without any directive only errors are shown. -/
def ofDirectives (ds : List Directive) : LogFilter :=
  if ds.isEmpty then ⟨[⟨none, none, some .error⟩]⟩
  else
    ⟨ds.filterMap fun
      | .rule r => some r
      | .insideSpan => none⟩

def parse? (t : Text) : Option LogFilter :=
  (((pieces t).mapM Directive.parse).map ofDirectives).toOption

/-- A filter of the well-formed directives, and a complaint about each other one. -/
def parseLossy (t : Text) : LogFilter × List Text :=
  let read := (pieces t).map fun piece => (piece, Directive.parse piece)
  (ofDirectives (read.filterMap (·.2.toOption)),
    read.filterMap fun
      | (piece, .error fault) =>
        some ("ignoring `".toList ++ piece ++ "`: ".toList ++ fault.message)
      | _ => none)

/-- The filter that the environment gives, or else that of the configured level. -/
def choose (environment? : Option Text) (level : Text) : LogFilter × List Text :=
  match environment?.bind parse? with
  | some f => (f, [])
  | none => parseLossy (defaultText level)

def Rule.fits (r : Rule) (e : Event) : Bool :=
  r.target?.all (·.isPrefixOf e.target)
    && r.field?.all fun name => name == "message".toList || e.fields.any (·.1 == name)

/-- The order of rules by the length of their targets and then by their fields. -/
def Rule.isBelow (r s : Rule) : Bool :=
  let length := fun r : Rule => (r.target?.map (·.length + 1)).getD 0
  length r < length s || (length r == length s &&
    match r.field?, s.field? with
    | none, some _ => true
    | some f, some g => decide (f < g)
    | _, none => false)

/-- The rule that decides about an event: of those that fit it none is above, and of equal ones it
is the last. -/
def deciding? (f : LogFilter) (e : Event) : Option Rule :=
  (f.rules.filter (·.fits e)).foldl
    (fun best? r => if best?.any r.isBelow then best? else some r) none

def shows (f : LogFilter) (e : Event) : Bool :=
  match (f.deciding? e).bind (·.limit?) with
  | some limit => e.level.detail ≤ limit.detail
  | none => false

end LogFilter
end CannedHttp
