import CannedHttp.Text.Basic

/-!
Reading the arguments of a command. An option has a long and a one-letter name and takes one value,
attached or as the next argument; a command may stand after the options, and what follows it is its
own. Help may be asked for at any place. An option that lacks its value, or that is given twice, is
refused only when the next option or the end is reached.
-/
namespace CannedHttp

namespace CommandLine

structure Flag where
  long : Text
  short : Char
  mayBeEmpty : Bool
  deriving DecidableEq

/-- Why a program does not run: help was asked for, or the arguments do not fit. -/
inductive Refusal where
  | help
  | usage
  deriving DecidableEq

def Refusal.exitCode : Refusal → Nat
  | .help => 0
  | .usage => 2

inductive Argument where
  | separator
  | long (name : Text) (value? : Option Text)
  /-- One hyphen and at least one letter; what follows the letter is its value. -/
  | short (name : Char) (value? : Option Text)
  | word (t : Text)
  deriving DecidableEq

def attached? : Text → Option Text
  | [] => none
  | '=' :: value => some value
  | value => some value

def Argument.ofText : Text → Argument
  | ['-', '-'] => .separator
  | '-' :: '-' :: t =>
    match Text.cut (· == '=') t with
    | (name, _ :: value) => .long name (some value)
    | (name, []) => .long name none
  | '-' :: c :: t => .short c (attached? t)
  | t => .word t

/-- The values of options by letter, and an option that is still to be settled. -/
structure Reading where
  values : List (Char × Text)
  pending? : Option (Flag × Option Text)

namespace Reading

def start : Reading := ⟨[], none⟩

def settle (r : Reading) : Except Refusal Reading :=
  match r.pending? with
  | none => .ok r
  | some (_, none) => .error .usage
  | some (f, some value) =>
    if r.values.any (·.1 == f.short) || (value.isEmpty && !f.mayBeEmpty) then .error .usage
    else .ok ⟨r.values ++ [(f.short, value)], none⟩

def meet (r : Reading) (f : Flag) (value? : Option Text) : Except Refusal Reading := do
  let r ← r.settle
  match value? with
  | none => pure { r with pending? := some (f, none) }
  | some value => settle { r with pending? := some (f, some value) }

def meetHelp (r : Reading) (value? : Option Text) : Except Refusal Reading :=
  match r.settle with
  | .error e => .error e
  | .ok _ => if value?.isSome then .error .usage else .error .help

end Reading
end CommandLine

/-- The options and commands of a program. -/
structure CommandLine where
  flags : List CommandLine.Flag
  commands : List Text
  deriving DecidableEq

namespace CommandLine

structure Parsed where
  values : List (Char × Text)
  command? : Option Text
  deriving DecidableEq

def Parsed.value? (p : Parsed) (name : Char) : Option Text :=
  (p.values.find? (·.1 == name)).map (·.2)

def bare : CommandLine := ⟨[], []⟩

/-- Help on the program, on one of its commands, or on help itself. -/
def help (l : CommandLine) : List Text → Refusal
  | [] => .help
  | [topic] => if topic = "help".toList || l.commands.contains topic then .help else .usage
  | _ => .usage

def meetNamed (l : CommandLine) (r : Reading) : Argument → Except Refusal Reading
  | .long name value? =>
    match l.flags.find? (·.long == name) with
    | some f => r.meet f value?
    | none => if name = "help".toList then r.meetHelp value? else .error .usage
  | .short name value? =>
    match l.flags.find? (·.short == name) with
    | some f => r.meet f value?
    | none => if name = 'h' then r.meetHelp none else .error .usage
  | .separator | .word _ => .error .usage

def parseFrom (l : CommandLine) (r : Reading) : List Text → Except Refusal Parsed
  | [] => r.settle.map fun r => ⟨r.values, none⟩
  | t :: ts =>
    match Argument.ofText t with
    | .separator =>
      if ts.isEmpty then r.settle.map fun r => ⟨r.values, none⟩ else .error .usage
    | .word t =>
      match r.pending? with
      | some (f, none) => parseFrom l { r with pending? := some (f, some t) } ts
      | _ =>
        if l.commands.contains t then
          match parseFrom bare .start ts with
          | .error e => .error e
          | .ok _ => r.settle.map fun r => ⟨r.values, some t⟩
        else if !l.commands.isEmpty && t = "help".toList then .error (l.help ts)
        else .error .usage
    | named =>
      match meetNamed l r named with
      | .error e => .error e
      | .ok r => parseFrom l r ts

def parse (l : CommandLine) (args : List Text) : Except Refusal Parsed :=
  parseFrom l .start args

end CommandLine
end CannedHttp
