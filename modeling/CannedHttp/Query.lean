import CannedHttp.Dict
import CannedHttp.Percent
import CannedHttp.Segment
import CannedHttp.Text.Lowercase

/-!
Query strings in form encoding: items between ampersands, each split at its first equals sign, with
a plus sign for a space. Parameter names are compared in lower case and the last value wins.
-/
namespace CannedHttp.Query

def decodeComponent (bs : Bytes) : Text :=
  Utf8.decodeLossy (Percent.decodeBytes (bs.map fun b => if b = 0x2b then 0x20 else b))

/-- Name and value of one item; an item without an equals sign has an empty value. -/
def decodeItem (item : Bytes) : Text × Text :=
  let (name, rest) := Text.cut (· == 0x3d) item
  (decodeComponent name, decodeComponent (rest.drop 1))

def decodeItems (query : Bytes) : List (Text × Text) :=
  ((Text.splitOn 0x26 query).filter fun item => !item.isEmpty).map decodeItem

/-- Parameters of a query string, with or without its leading question mark. -/
def parse (query : Text) : Dict Text :=
  let query := (Text.dropStart? ['?'] query).getD query
  Dict.ofList ((decodeItems (Utf8.encode query)).map fun item => (Text.lower item.1, item.2))

def segments (query : Text) : Dict Segment :=
  (parse query).mapValues Segment.parse

end CannedHttp.Query
