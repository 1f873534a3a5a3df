import CannedHttp.Toml.Node
import CannedHttp.Toml.Scalar

/-!
Reading a TOML document: lines with a key and a value, and headers that open tables. A document that
breaks a rule of the grammar, or defines a name twice, gives nothing.
-/
namespace CannedHttp.Toml

/-- Values may be nested, and keys dotted, less deep than this. -/
def depthLimit : Nat := 80

def isBareKeyChar (c : Char) : Bool :=
  c.isAlphanum || c == '_' || c == '-'

/-- One part of a key: bare or quoted. -/
def keyPart? (t : Text) : Option (Text × Text) :=
  match lineString? t with
  | some r => some r
  | none =>
    let (name, rest) := Text.run isBareKeyChar t
    if name.isEmpty then none else some (name, rest)

def keyFrom : Nat → Text → Option (List Text × Text)
  | 0, _ => none
  | fuel + 1, t => do
    let (part, rest) ← keyPart? (skipSpace t)
    match skipSpace rest with
    | '.' :: rest =>
      let (parts, rest) ← keyFrom fuel rest
      pure (part :: parts, rest)
    | rest => pure ([part], rest)

/-- The parts of a dotted key, the last one apart. -/
def key? (t : Text) : Option (List Text × Text × Text) := do
  let (parts, rest) ← keyFrom (depthLimit - 1) t
  let name ← parts.getLast?
  pure (parts.dropLast, name, rest)

/-- Skip blanks, comments and line ends between the items of a list. -/
def skipLines : Nat → Text → Text
  | 0, t => t
  | fuel + 1, t =>
    let t := skipComment (skipSpace t)
    match newline? t with
    | some rest => skipLines fuel rest
    | none => t

def skipLayout (t : Text) : Text :=
  skipLines t.length t

/-- Items up to the closing bracket; a comma may follow the last. -/
def itemsFrom (value? : Text → Option (Setting × Text)) : Nat → Text →
    Option (List Setting × Text)
  | 0, _ => none
  | fuel + 1, t =>
    match skipLayout t with
    | ']' :: rest => some ([], rest)
    | t => do
      let (item, rest) ← value? t
      match skipLayout rest with
      | ',' :: rest =>
        let (items, rest) ← itemsFrom value? fuel rest
        pure (item :: items, rest)
      | ']' :: rest => pure ([item], rest)
      | _ => none

/-- Members up to the closing brace, on one line and without a comma after the last. -/
def membersFrom (value? : Text → Option (Setting × Text)) : Nat → Text → Node →
    Option (Node × Text)
  | 0, _, _ => none
  | fuel + 1, t, n => do
    let (path, name, rest) ← key? t
    let rest ← Text.dropStart? ['='] (skipSpace rest)
    let (s, rest) ← value? (skipSpace rest)
    let n ← n.put path name s
    match skipSpace rest with
    | ',' :: rest => membersFrom value? fuel rest n
    | '}' :: rest => pure (n, rest)
    | _ => none

/-- A value, given how many levels it may still have below it. -/
def value? : Nat → Text → Option (Setting × Text)
  | levels, '[' :: rest =>
    match levels with
    | 0 => none
    | levels + 1 =>
      (itemsFrom (value? levels) (rest.length + 1) rest).map fun (items, rest) =>
        (.list items, rest)
  | levels, '{' :: rest =>
    match levels with
    | 0 => none
    | levels + 1 =>
      match skipSpace rest with
      | '}' :: rest => some (.table [], rest)
      | rest =>
        (membersFrom (value? levels) (rest.length + 1) rest .root).map fun (n, rest) =>
          (n.setting, rest)
  | _, t =>
    match t with
    | '"' :: _ | '\'' :: _ => (string? t).map fun (s, rest) => (.text s, rest)
    | t => scalar t

/-- The text after the end of a line, where only a comment may stand before it. -/
def endOfLine? (t : Text) : Option Text :=
  let t := skipComment (skipSpace t)
  if t.isEmpty then some [] else newline? t

/-- A document under way: its root, and the path of the table that is open. -/
structure Document where
  root : Node
  path : List Text

/-- The rest of a header whose brackets have been opened. -/
def header? (closing : Text) (t : Text) : Option (List Text × Text × Text) := do
  let (path, name, rest) ← key? t
  pure (path, name, ← Text.dropStart? closing rest)

/-- Read one line that is neither blank nor a comment. -/
def line? (d : Document) : Text → Option (Document × Text)
  | '[' :: '[' :: rest => do
    let (path, name, rest) ← header? [']', ']'] rest
    pure (⟨← d.root.openRow path name, path ++ [name]⟩, rest)
  | '[' :: rest => do
    let (path, name, rest) ← header? [']'] rest
    pure (⟨← d.root.openTable path name, path ++ [name]⟩, rest)
  | t => do
    let (path, name, rest) ← key? t
    let rest ← Text.dropStart? ['='] (skipSpace rest)
    let (s, rest) ← value? (depthLimit - 1) (skipSpace rest)
    pure (⟨← d.root.modify false (Node.put path name s) d.path, d.path⟩, rest)

def linesFrom : Nat → Document → Text → Option Document
  | 0, _, _ => none
  | fuel + 1, d, t =>
    if t.isEmpty then some d
    else
      match endOfLine? t with
      | some rest => linesFrom fuel d rest
      | none => do
        let (d, rest) ← line? d (skipSpace t)
        linesFrom fuel d (← endOfLine? rest)

/-- The settings of a document; a byte order mark at its start does not count. -/
def parse? (t : Text) : Option Setting :=
  let t := (Text.dropStart? ['\ufeff'] t).getD t
  (linesFrom (t.length + 2) ⟨.root, []⟩ t).map fun d => d.root.setting

end CannedHttp.Toml
