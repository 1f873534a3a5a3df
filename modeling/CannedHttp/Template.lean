import CannedHttp.Dict
import CannedHttp.Placeholder

/-!
Response bodies with placeholders. A body is cut into placeholders and single characters, and each
placeholder gives the value captured for its name, or stays as it is written. Values are never
searched again.
-/
namespace CannedHttp.Template

inductive Piece where
  | char (c : Char)
  | placeholder (name : Text)
  deriving DecidableEq

/-- The name of the placeholder whose opening brace has been read, and the text after it. -/
def closed? (t : Text) : Option (Text × Text) :=
  let (name, rest) := Text.run Placeholder.isNameChar t
  match rest with
  | '}' :: rest => if name.isEmpty then none else some (name, rest)
  | _ => none

theorem length_of_closed? {t name rest : Text} (h : closed? t = some (name, rest)) :
    rest.length < t.length := by
  have hle : (t.dropWhile Placeholder.isNameChar).length ≤ t.length :=
    (List.dropWhile_suffix _).length_le
  simp only [closed?, Text.run] at h
  split at h
  · rename_i rest' heq
    rw [heq] at hle
    by_cases hempty : (t.takeWhile Placeholder.isNameChar).isEmpty = true
    · simp [hempty] at h
    · simp only [hempty, Bool.false_eq_true, if_false, Option.some.injEq, Prod.mk.injEq] at h
      exact h.2 ▸ hle
  · cases h

def pieces : Text → List Piece
  | [] => []
  | c :: cs =>
    if c = '{' then
      match h : closed? cs with
      | some (name, rest) =>
        have := length_of_closed? h
        .placeholder name :: pieces rest
      | none => .char c :: pieces cs
    else .char c :: pieces cs
termination_by t => t.length
decreasing_by all_goals simp_all; try omega

def Piece.render (values : Dict Text) : Piece → Text
  | .char c => [c]
  | .placeholder name => (values.get? name).getD ('{' :: name ++ ['}'])

def render (body : Text) (values : Dict Text) : Text :=
  if values.isEmpty then body else (pieces body).flatMap (Piece.render values)

end CannedHttp.Template
