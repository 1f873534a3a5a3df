import CannedHttp.Text.Utf8

/-!
Which texts can be methods and header names, and which bytes header values. A name is a token,
compared without regard to ASCII case; a value may hold anything but controls, the tab excepted.
-/
namespace CannedHttp.Http

def isTokenChar (c : Char) : Bool :=
  c.isAlphanum || "!#$%&'*+-.^_`|~".toList.contains c

def isToken (t : Text) : Bool :=
  !t.isEmpty && t.all isTokenChar

/-- The canonical form of a header name, if it is one: a token of at most 65535 bytes. -/
def headerName? (t : Text) : Option Text :=
  if isToken t && t.length ≤ 65535 then some (Text.foldCase t) else none

def isValueByte (b : UInt8) : Bool :=
  b == 9 || (0x20 ≤ b && b != 0x7f)

def isHeaderValue (v : Bytes) : Bool :=
  v.all isValueByte

/-- Values that can be read back as text: tab, space and visible ASCII. -/
def isReadableValue (v : Bytes) : Bool :=
  v.all fun b => isValueByte b && b < 0x80

def readableText? (v : Bytes) : Option Text :=
  if isReadableValue v then Utf8.decode? v else none

def isStatus (code : Nat) : Bool :=
  100 ≤ code && code ≤ 999

end CannedHttp.Http
