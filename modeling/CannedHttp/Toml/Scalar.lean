import CannedHttp.Config.Setting
import CannedHttp.Text.Number

/-!
Strings, numbers and dates of TOML. Each reader takes a value from the start of a text and gives it
with the rest.
-/
namespace CannedHttp.Toml

def isSpace (c : Char) : Bool :=
  c == ' ' || c == '\t'

def skipSpace (t : Text) : Text :=
  t.dropWhile isSpace

/-- The text after a line end, if it begins with one. -/
def newline? : Text → Option Text
  | '\n' :: rest => some rest
  | '\r' :: '\n' :: rest => some rest
  | _ => none

/-- Comments and strings of one line hold tabs and everything but controls. -/
def isPlain (c : Char) : Bool :=
  c == '\t' || (0x20 ≤ c.toNat && c != '\x7f')

/-- The text after a comment, if it begins with one. -/
def skipComment : Text → Text
  | '#' :: rest => rest.dropWhile isPlain
  | t => t

/-- The character of a code point written in hexadecimal. -/
def scalar? (digits : Text) : Option Char :=
  (Text.readNat? 16 digits).bind fun n =>
    if n < 0xd800 ∨ (0xe000 ≤ n ∧ n < 0x110000) then some (Char.ofNat n) else none

/-- The character of an escape whose backslash has been read, and the rest. -/
def escape? : Text → Option (Char × Text)
  | 'b' :: rest => some ('\x08', rest)
  | 't' :: rest => some ('\t', rest)
  | 'n' :: rest => some ('\n', rest)
  | 'f' :: rest => some ('\x0c', rest)
  | 'r' :: rest => some ('\r', rest)
  | '"' :: rest => some ('"', rest)
  | '\\' :: rest => some ('\\', rest)
  | 'u' :: rest => if rest.length < 4 then none else (scalar? (rest.take 4)).map (·, rest.drop 4)
  | 'U' :: rest => if rest.length < 8 then none else (scalar? (rest.take 8)).map (·, rest.drop 8)
  | _ => none

/-- The rest of a string in double quotes. -/
def basicFrom : Nat → Text → Option (Text × Text)
  | 0, _ => none
  | _, [] => none
  | _, '"' :: rest => some ([], rest)
  | fuel + 1, '\\' :: rest => do
    let (c, rest) ← escape? rest
    let (t, rest) ← basicFrom fuel rest
    pure (c :: t, rest)
  | fuel + 1, c :: rest =>
    if isPlain c then (basicFrom fuel rest).map fun (t, rest) => (c :: t, rest) else none

/-- The rest of a string in single quotes. -/
def literalString? (t : Text) : Option (Text × Text) :=
  let (body, rest) := Text.cut (· == '\'') t
  match rest with
  | _ :: rest => if body.all isPlain then some (body, rest) else none
  | [] => none

/-- A backslash at the end of a line joins what follows the blanks and line ends after it. -/
def joinedLine? (t : Text) : Option Text :=
  (newline? (skipSpace t)).map fun rest =>
    go rest.length rest
where
  go : Nat → Text → Text
    | 0, t => t
    | fuel + 1, t =>
      match newline? (skipSpace t) with
      | some rest => go fuel rest
      | none => skipSpace t

/-- The rest of a string in three quotes. Up to two quotes before the closing ones belong to it. -/
def multilineFrom (quote : Char) (escapes : Bool) : Nat → Text → Option (Text × Text)
  | 0, _ => none
  | _, [] => none
  | fuel + 1, c :: rest =>
    if c = quote then
      let quotes := (rest.takeWhile (· == quote)).length + 1
      if quotes < 3 then
        (multilineFrom quote escapes fuel rest).map fun (t, rest) => (c :: t, rest)
      else if quotes ≤ 5 then some (List.replicate (quotes - 3) quote, rest.drop (quotes - 1))
      else none
    else if c = '\\' && escapes then
      match joinedLine? rest with
      | some rest => multilineFrom quote escapes fuel rest
      | none => do
        let (c, rest) ← escape? rest
        let (t, rest) ← multilineFrom quote escapes fuel rest
        pure (c :: t, rest)
    else
      match newline? (c :: rest) with
      | some rest => (multilineFrom quote escapes fuel rest).map fun (t, rest) => ('\n' :: t, rest)
      | none =>
        if isPlain c then
          (multilineFrom quote escapes fuel rest).map fun (t, rest) => (c :: t, rest)
        else none

def multiline? (quote : Char) (escapes : Bool) (t : Text) : Option (Text × Text) :=
  let body := (newline? t).getD t
  multilineFrom quote escapes (body.length + 1) body

/-- A string on one line, as keys may be written. -/
def lineString? : Text → Option (Text × Text)
  | '"' :: rest => basicFrom (rest.length + 1) rest
  | '\'' :: rest => literalString? rest
  | _ => none

def string? : Text → Option (Text × Text)
  | '"' :: '"' :: '"' :: rest => multiline? '"' true rest
  | '\'' :: '\'' :: '\'' :: rest => multiline? '\'' false rest
  | t => lineString? t

/-! Numbers and dates are read from the longest run of characters that can stand in one. -/

def isScalarChar (c : Char) : Bool :=
  c.isAlphanum || "+-_.:".toList.contains c

/-- Digits with single underscores between them, taken out. -/
def ungrouped? (isDigit : Char → Bool) (t : Text) : Option Text :=
  let pieces := Text.splitOn '_' t
  if pieces.all fun p => !p.isEmpty && p.all isDigit then some pieces.flatten else none

def dropSign : Text → Bool × Text
  | '+' :: rest => (false, rest)
  | '-' :: rest => (true, rest)
  | t => (false, t)

/-- The digits of a decimal integer without sign: no zero before other digits. -/
def decimalDigits? (t : Text) : Option Text :=
  if t.head? = some '0' && t != ['0'] then none else ungrouped? Char.isDigit t

def unsigned? (base : Nat) (t : Text) : Option Nat :=
  (ungrouped? (fun c => (Text.digitValue? base c).isSome) t).bind (Text.readNat? base)

def integerLimit : Int := Int.ofNat (Nat.pow 2 63)

/-- Integers fit 64 bits with sign. -/
def int? (t : Text) : Option Int :=
  let natural? : Option Nat :=
    match t with
    | '0' :: 'x' :: rest => unsigned? 16 rest
    | '0' :: 'o' :: rest => unsigned? 8 rest
    | '0' :: 'b' :: rest => unsigned? 2 rest
    | _ => none
  let signed? : Option Int :=
    let (negative, rest) := dropSign t
    ((decimalDigits? rest).bind (Text.readNat? 10)).map fun n => if negative then -n else n
  ((natural?.map Int.ofNat).or signed?).filter fun n => -integerLimit ≤ n && n < integerLimit

/-- The least magnitude that rounds to infinity. -/
def floatLimit : Nat := Nat.pow 2 1024 - Nat.pow 2 970

/-- Does the decimal number with these digits, the point after the first `places` of them, round to
a finite one? -/
def isFinite (digits : Text) (places : Int) : Bool :=
  let significant := digits.dropWhile (· == '0')
  let places := places - (digits.length - significant.length : Nat)
  if significant.isEmpty || places < 309 then true
  else if 309 < places then false
  else
    let n := (Text.readNat? 10 significant).getD 0
    let count := significant.length
    if count ≤ 309 then n * Nat.pow 10 (309 - count) < floatLimit
    else n < floatLimit * Nat.pow 10 (count - 309)

/-- Is this a decimal number with a fraction or an exponent, or the name of a special value? A
positive number must be finite. -/
def isReal (t : Text) : Bool :=
  let (negative, rest) := dropSign t
  if rest = "inf".toList || rest = "nan".toList then true
  else
    let (mantissa, tail) := Text.cut (fun c => c == 'e' || c == 'E') rest
    let (whole, fraction) := Text.cut (· == '.') mantissa
    let fraction? :=
      if fraction.isEmpty then some [] else ungrouped? Char.isDigit (fraction.drop 1)
    let exponent? : Option Int :=
      if tail.isEmpty then some 0
      else
        let (down, digits) := dropSign (tail.drop 1)
        ((ungrouped? Char.isDigit digits).bind (Text.readNat? 10)).map fun n =>
          if down then -n else n
    match decimalDigits? whole, fraction?, exponent? with
    | some whole, some fraction, some exponent =>
      !(fraction.isEmpty && tail.isEmpty)
        && (negative || isFinite (whole ++ fraction) (whole.length + exponent))
    | _, _, _ => false

/-- A number of exactly so many digits, between bounds. -/
def digits? (count low high : Nat) (t : Text) : Option (Nat × Text) :=
  let digits := t.take count
  if digits.length = count && digits.all Char.isDigit then
    (Text.readNat? 10 digits).bind fun n =>
      if low ≤ n ∧ n ≤ high then some (n, t.drop count) else none
  else none

def daysIn (year month : Nat) : Nat :=
  if month = 2 then (if year % 4 = 0 ∧ (year % 100 ≠ 0 ∨ year % 400 = 0) then 29 else 28)
  else if [4, 6, 9, 11].contains month then 30
  else 31

/-- The text after a full date. -/
def date? (t : Text) : Option Text := do
  let (year, t) ← digits? 4 0 9999 t
  let (month, t) ← digits? 2 1 12 (← Text.dropStart? ['-'] t)
  let (_, t) ← digits? 2 1 (daysIn year month) (← Text.dropStart? ['-'] t)
  pure t

/-- The text after a time of day. -/
def time? (t : Text) : Option Text := do
  let (_, t) ← digits? 2 0 23 t
  let (_, t) ← digits? 2 0 59 (← Text.dropStart? [':'] t)
  let (_, t) ← digits? 2 0 60 (← Text.dropStart? [':'] t)
  match t with
  | '.' :: rest =>
    if rest.head?.any Char.isDigit then some (rest.dropWhile Char.isDigit) else none
  | t => some t

def isOffset (t : Text) : Bool :=
  match t with
  | [] | ['z'] | ['Z'] => true
  | sign :: t =>
    (sign == '+' || sign == '-') && (do
      let (_, t) ← digits? 2 0 23 t
      let (_, t) ← digits? 2 0 59 (← Text.dropStart? [':'] t)
      pure t.isEmpty) == some true

/-- A time of day after a date, with an optional offset. -/
def isTimeOfDay (t : Text) : Bool :=
  (time? t).any isOffset

def isMoment (t : Text) : Bool :=
  (time? t).any List.isEmpty ||
    match date? t with
    | none => false
    | some [] => true
    | some (c :: rest) => (c == 'T' || c == 't') && isTimeOfDay rest

/-- The scalar that a run of characters stands for. -/
def ofRun? (t : Text) : Option Setting :=
  if t = "true".toList then some (.flag true)
  else if t = "false".toList then some (.flag false)
  else if isMoment t then some .moment
  else if isReal t then some .real
  else (int? t).map .int

/-- A date may be followed by a blank and a time. -/
def scalar (t : Text) : Option (Setting × Text) :=
  let (run, rest) := Text.run isScalarChar t
  match rest with
  | ' ' :: rest' =>
    let (time, rest'') := Text.run isScalarChar rest'
    if (date? run).any List.isEmpty && isTimeOfDay time then some (.moment, rest'')
    else (ofRun? run).map (·, rest)
  | rest => (ofRun? run).map (·, rest)

end CannedHttp.Toml
