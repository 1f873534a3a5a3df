import CannedHttp.Definition
import CannedHttp.Proofs.Outcome

/-!
Line numbers are carried along and never looked at. Definitions whose lines are numbered otherwise give the
same routes, or the same error at the line with the other number.
-/
namespace CannedHttp.Definition

def Line.renumber (f : Nat → Nat) (l : Line) : Line :=
  ⟨f l.number,l.text⟩

def renumber (f : Nat → Nat) (d : Definition) : Definition :=
  ⟨d.request.renumber f,d.head.map (Line.renumber f),d.body.map (Line.renumber f)⟩

def Error.renumber (f : Nat → Nat) (e : Error) : Error :=
  { e with line := f e.line }

variable (f : Nat → Nat)

theorem texts_renumber (ls : List Line) :
    (ls.map (Line.renumber f)).map Line.text = ls.map Line.text := by
  rw [List.map_map]
  rfl

theorem numberedFrom_renumber (n m : Nat) (ts : List Text) (moved : ∀ i < ts.length, f (n + i) = m + i) :
    (Line.numberedFrom n ts).map (Line.renumber f) = Line.numberedFrom m ts := by
  induction ts generalizing n m with
  | nil => rfl
  | cons t ts ih =>
    have first : f n = m := moved 0 (by simp)
    have later : ∀ i < ts.length, f (n + 1 + i) = m + 1 + i := fun i inside => by
      have next := moved (i + 1) (by simpa using inside)
      rwa [Nat.add_right_comm n,Nat.add_right_comm m]
    rw [Line.numberedFrom,List.map_cons,ih (n + 1) (m + 1) later,Line.renumber,first]
    rfl

private theorem parts_renumber (ls : List Line) :
    parts (ls.map (Line.renumber f)) = (parts ls).map (List.map (Line.renumber f)) := by
  fun_induction parts ls with
  | case1 => rfl
  | case2 l ls separator ih =>
    rw [List.map_cons,parts,ih]
    exact if_pos separator
  | case3 l ls inner none_left ih =>
    rw [List.map_cons,parts,ih,none_left]
    exact if_neg inner
  | case4 l ls inner part rest cut ih =>
    rw [List.map_cons,parts,ih,cut]
    exact if_neg inner

private theorem ofPart_renumber (part : List Line) :
    ofPart? (part.map (Line.renumber f)) = (ofPart? part).map (renumber f) := by
  have skipped : (part.map (Line.renumber f)).dropWhile (fun l => Line.isBlank l.text || Line.isComment l.text) =
      (part.dropWhile fun l => Line.isBlank l.text || Line.isComment l.text).map (Line.renumber f) :=
    List.dropWhile_map
  unfold ofPart?
  rw [skipped]
  cases part.dropWhile fun l => Line.isBlank l.text || Line.isComment l.text with
  | nil => rfl
  | cons request rest =>
    simp only [List.map_cons,Text.cut,List.takeWhile_map,List.dropWhile_map,Option.map_some,renumber,List.map_drop]
    rfl

private theorem startRoute_renumber (file : Text) (request : Line) :
    startRoute file (request.renumber f) = (startRoute file request).mapError (Error.renumber f) := by
  have text : (request.renumber f).text = request.text := rfl
  unfold startRoute
  dsimp only
  rw [text]
  cases requestLine? (Text.trim request.text) with
  | none => rfl
  | some tokens =>
    dsimp only
    by_cases valid : (Route.make file tokens.1 tokens.2).valid = true
    · rw [if_pos valid,if_pos valid]
      rfl
    · rw [if_neg valid,if_neg valid]
      rfl

private theorem route_renumber (file : Text) (d : Definition) :
    route file (d.renumber f) = (route file d).mapError (Error.renumber f) := by
  have head : (d.renumber f).head.map (fun l => HeadLine.ofText l.text) =
      d.head.map fun l => HeadLine.ofText l.text := by
    rw [renumber,List.map_map]
    rfl
  have body : bodyText (d.renumber f).body = bodyText d.body := by
    rw [bodyText,renumber,texts_renumber]
    rfl
  unfold route
  rw [head,body]
  change (startRoute file (d.request.renumber f)).map _ = _
  rw [startRoute_renumber]
  cases startRoute file d.request with
  | error e => rfl
  | ok r => rfl

theorem mapM_route_renumber (file : Text) (ds : List Definition) :
    (ds.map (renumber f)).mapM (route file) = (ds.mapM (route file)).mapError (Error.renumber f) := by
  induction ds with
  | nil => rfl
  | cons d ds ih =>
    rw [List.map_cons,Outcome.mapM_cons,Outcome.mapM_cons,ih,route_renumber]
    cases route file d with
    | error e => rfl
    | ok r =>
      cases ds.mapM (route file) with
      | error e => rfl
      | ok rs => rfl

theorem definitions_renumber (ls : List Line) :
    (parts (ls.map (Line.renumber f))).filterMap ofPart? =
      ((parts ls).filterMap ofPart?).map (renumber f) := by
  rw [parts_renumber,List.filterMap_map,List.map_filterMap]
  exact congrArg (List.filterMap · _) (funext (ofPart_renumber f))

end CannedHttp.Definition
