import CannedHttp.Text.Number
import CannedHttp.Text.Printable

/-!
Two quoted forms of a text. The compact form escapes quotes, backslashes and controls; the
diagnostic form also escapes whatever has no visible form of its own. The diagnostic form of any
other value is the name of its case with its parts, each in its own diagnostic form, named in braces
or unnamed in parentheses.
-/
namespace CannedHttp.Text

namespace Quoted

def escape (c : Char) : Text :=
  if c = '"' then ['\\', '"']
  else if c = '\\' then ['\\', '\\']
  else if c = '\n' then ['\\', 'n']
  else if c = '\r' then ['\\', 'r']
  else if c = '\t' then ['\\', 't']
  else if c = '\x08' then ['\\', 'b']
  else if c = '\x0c' then ['\\', 'f']
  else if c.toNat < 0x20 then ['\\', 'u'] ++ hex 4 c.toNat
  else [c]

def compact (t : Text) : Text :=
  '"' :: t.flatMap escape ++ ['"']

def escapeDiagnostic (c : Char) : Text :=
  if c = '"' then ['\\', '"']
  else if c = '\\' then ['\\', '\\']
  else if c = '\n' then ['\\', 'n']
  else if c = '\r' then ['\\', 'r']
  else if c = '\t' then ['\\', 't']
  else if c = '\x00' then ['\\', '0']
  else if isPrintable c && !isExtender c then [c]
  else ['\\', 'u', '{'] ++ hex 1 c.toNat ++ ['}']

def diagnostic (t : Text) : Text :=
  '"' :: t.flatMap escapeDiagnostic ++ ['"']

end Quoted

namespace Diagnostic

def list (items : List Text) : Text :=
  '[' :: join ", ".toList items ++ [']']

def tuple (name : String) (items : List Text) : Text :=
  name.toList ++ '(' :: join ", ".toList items ++ [')']

def record (name : String) (fields : List (String × Text)) : Text :=
  let fields := fields.map fun f => f.1.toList ++ ": ".toList ++ f.2
  name.toList ++ ' ' :: '{' :: ' ' :: join ", ".toList fields ++ [' ', '}']

end Diagnostic
end CannedHttp.Text
