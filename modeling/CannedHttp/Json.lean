import CannedHttp.Text.Quoted

/-!
JSON values and their compact text. An object keeps its members in the order given.
-/
namespace CannedHttp

inductive Json where
  | null
  | bool (b : Bool)
  | num (n : Nat)
  | str (t : Text)
  | arr (items : List Json)
  | obj (members : List (Text × Json))

namespace Json

def ofOption {α : Type} (f : α → Json) : Option α → Json
  | none => .null
  | some a => f a

def literal : Bool → Text
  | true => "true".toList
  | false => "false".toList

mutual

def text : Json → Text
  | .null => "null".toList
  | .bool b => literal b
  | .num n => Text.ofNat n
  | .str t => Text.Quoted.compact t
  | .arr items => '[' :: Text.join [','] (texts items) ++ [']']
  | .obj members => '{' :: Text.join [','] (memberTexts members) ++ ['}']

def texts : List Json → List Text
  | [] => []
  | j :: js => text j :: texts js

def memberTexts : List (Text × Json) → List Text
  | [] => []
  | (name, value) :: rest => (Text.Quoted.compact name ++ ':' :: text value) :: memberTexts rest

end

end Json
end CannedHttp
