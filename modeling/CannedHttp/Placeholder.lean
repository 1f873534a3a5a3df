import CannedHttp.Text.Basic

/-!
A placeholder is a name between delimiters. In URLs the delimiters are double braces, in bodies
single ones, and a name is a non-empty run of ASCII letters, digits and underscores.
-/
namespace CannedHttp.Placeholder

def isNameChar (c : Char) : Bool :=
  c.isAlphanum || c == '_'

def isName (t : Text) : Bool :=
  !t.isEmpty && t.all isNameChar

/-- The name, if the whole text is one placeholder. -/
def name? (opening closing t : Text) : Option Text :=
  ((Text.dropStart? opening t).bind (Text.dropEnd? closing)).filter isName

def inUrl? (t : Text) : Option Text :=
  name? ['{', '{'] ['}', '}'] t

def inBody? (t : Text) : Option Text :=
  name? ['{'] ['}'] t

end CannedHttp.Placeholder
