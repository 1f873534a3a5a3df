import CannedHttp.Proofs.Definition.Layout
import CannedHttp.Proofs.Definition.Requests
import CannedHttp.Proofs.Definition.Separators

/-!
The error of a file. A line is at fault if it begins a definition and is no request line, or names a URL that
cannot be read. The error of a file is that of the first line at fault, and what follows that line does not
matter.
-/
namespace CannedHttp.Definition

/-- The line is the first of its part that is neither blank nor a comment. -/
structure Opens (before : List Text) (line : Text) : Prop where
  not_blank : Line.isBlank line = false
  not_comment : Line.isComment line = false
  first : ∃ earlier skipped, before = earlier ++ skipped ∧ Parted earlier ∧
    ∀ l ∈ skipped, Line.isBlank l = true ∨ Line.isComment l = true

/-- A line at fault in a file, with the text before it. -/
structure Culprit (content before line : Text) (cause : Cause) : Prop where
  place : ∃ rest, Text.LineAt content before line rest
  opens : Opens (Text.lines before) line
  refused : Refused (Text.trim line) cause

section Lines

private theorem opens_iff (before : List Text) (line : Text) :
    Opens before line ↔ Place.after before = .lead ∧ Line.isIdle line = false := by
  have idle (l : Text) : Line.isIdle l = true ↔ Line.isBlank l = true ∨ Line.isComment l = true :=
    Bool.or_eq_true_iff
  have counts : Line.isIdle line = false ↔ Line.isBlank line = false ∧ Line.isComment line = false :=
    Bool.or_eq_false_iff
  rw [after_eq_lead_iff,counts]
  simp only [idle]
  exact ⟨fun opens => ⟨opens.first,opens.not_blank,opens.not_comment⟩,
    fun ⟨first,not_blank,not_comment⟩ => ⟨not_blank,not_comment,first⟩⟩

end Lines

section Definitions
variable (file : Text)

/-- Routes are read exactly if their request lines are, and fail with the same error. -/
private theorem mapM_route_outcome (ds : List Definition) :
    (ds.mapM (route file)).map (fun _ => ()) =
      ((ds.map Definition.request).mapM (startRoute file)).map fun _ => () := by
  induction ds with
  | nil => rfl
  | cons d ds ih =>
    rw [List.map_cons,Outcome.mapM_cons,Outcome.mapM_cons]
    cases started : startRoute file d.request with
    | error e =>
      rw [route,started]
      rfl
    | ok r =>
      obtain ⟨full,routed⟩ : ∃ full, route file d = .ok full := ⟨_,by rw [route,started]; rfl⟩
      rw [routed]
      dsimp only
      rw [Outcome.map_map,Outcome.map_map]
      exact ih

/-- The routes of numbered lines. -/
def lineRoutes (ls : List Line) : Except Error (List Route) :=
  ((parts ls).filterMap ofPart?).mapM (route file)

private theorem lineRoutes_outcome (ls : List Line) : (lineRoutes file ls).map (fun _ => ()) =
    ((openingsFrom .lead ls).mapM (startRoute file)).map fun _ => () := by
  rw [← (requests_eq ls).1]
  exact mapM_route_outcome file _

private theorem starts_of_lineRoutes (ls : List Line) (rs : List Route) (ok : lineRoutes file ls = .ok rs) :
    ∃ starts, (openingsFrom .lead ls).mapM (startRoute file) = .ok starts := by
  have outcome := lineRoutes_outcome file ls
  rw [ok] at outcome
  obtain ⟨starts,read,_⟩ := Outcome.map_ok _ _ _ outcome.symm
  exact ⟨starts,read⟩

private theorem lineRoutes_of_starts (ls : List Line) (starts : List Route)
    (ok : (openingsFrom .lead ls).mapM (startRoute file) = .ok starts) :
    ∃ rs, lineRoutes file ls = .ok rs := by
  have outcome := lineRoutes_outcome file ls
  rw [ok] at outcome
  obtain ⟨rs,read,_⟩ := Outcome.map_ok _ _ _ outcome
  exact ⟨rs,read⟩

/-- Reading lines fails with the error of the first line that begins a definition and cannot. -/
theorem lineRoutes_error_iff (ls : List Line) (e : Error) : lineRoutes file ls = .error e ↔
    ∃ before l after, ls = before ++ l :: after ∧ Place.after (before.map Line.text) = .lead ∧
      Line.isIdle l.text = false ∧ (∃ rs, lineRoutes file before = .ok rs) ∧ startRoute file l = .error e := by
  have failed_iff : lineRoutes file ls = .error e ↔ (openingsFrom .lead ls).mapM (startRoute file) = .error e := by
    rw [← Outcome.map_error_iff (fun _ => ()),lineRoutes_outcome,Outcome.map_error_iff]
  rw [failed_iff,Outcome.mapM_error_iff]
  constructor
  · rintro ⟨earlier,l,more,split,⟨starts,ok⟩,failed⟩
    obtain ⟨before,after,rfl,rfl,lead,counts⟩ := openingsFrom_split .lead ls earlier more l split
    exact ⟨before,l,after,rfl,lead,counts,lineRoutes_of_starts file before starts ok,failed⟩
  · rintro ⟨before,l,after,rfl,lead,counts,⟨rs,ok⟩,failed⟩
    refine ⟨openingsFrom .lead before,l,openingsFrom (Place.lead.next l.text) after,?_,
      starts_of_lineRoutes file before rs ok,failed⟩
    rw [openingsFrom_append,show Place.afterFrom .lead (before.map Line.text) = .lead from lead,openingsFrom,
      if_pos ⟨rfl,counts⟩]

/-- Where reading succeeds, no line is at fault. -/
private theorem not_refused_of_ok (before after : List Line) (l : Line) (rs : List Route)
    (ok : lineRoutes file (before ++ l :: after) = .ok rs) (lead : Place.after (before.map Line.text) = .lead)
    (counts : Line.isIdle l.text = false) (cause : Cause) : ¬ Refused (Text.trim l.text) cause := by
  obtain ⟨starts,read⟩ := starts_of_lineRoutes file _ rs ok
  have member : l ∈ openingsFrom .lead (before ++ l :: after) := by
    rw [openingsFrom_append,show Place.afterFrom .lead (before.map Line.text) = .lead from lead,openingsFrom,
      if_pos ⟨rfl,counts⟩]
    simp
  obtain ⟨start,started⟩ := Outcome.mapM_ok_of_mem _ _ starts read l member
  intro refused
  have failed := (startRoute_error_iff file l ⟨file,l.number,cause⟩).mpr ⟨rfl,rfl,refused⟩
  rw [started] at failed
  contradiction

end Definitions

section Files

private theorem numberedFrom_split (n : Nat) (ts : List Text) (before after : List Line) (l : Line)
    (split : Line.numberedFrom n ts = before ++ l :: after) :
    ∃ earlier later, ts = earlier ++ l.text :: later ∧ before = Line.numberedFrom n earlier ∧
      l.number = n + earlier.length := by
  induction before generalizing n ts with
  | nil =>
    cases ts with
    | nil => simp [Line.numberedFrom] at split
    | cons t ts =>
      obtain ⟨rfl,_⟩ := List.cons.inj split
      exact ⟨[],ts,rfl,rfl,rfl⟩
  | cons x before ih =>
    cases ts with
    | nil => simp [Line.numberedFrom] at split
    | cons t ts =>
      obtain ⟨rfl,later⟩ := List.cons.inj split
      obtain ⟨earlier,rest,rfl,rfl,number⟩ := ih (n + 1) ts later
      exact ⟨t :: earlier,rest,rfl,rfl,by rw [number,List.length_cons]; omega⟩

theorem routes_of_visible (file content : Text) (visible : Text.allBlank content = false) :
    routes file content = lineRoutes file (Line.ofText content) := by
  rw [routes,visible]
  rfl

theorem routes_error_iff (file content : Text) (visible : Text.allBlank content = false) (e : Error) :
    routes file content = .error e ↔ ∃ earlier read later, Text.lines content = earlier ++ read :: later ∧
      Place.after earlier = .lead ∧ Line.isIdle read = false ∧
      (∃ rs, lineRoutes file (Line.numberedFrom 1 earlier) = .ok rs) ∧
      e.file = file ∧ e.line = earlier.length + 1 ∧ Refused (Text.trim read) e.cause := by
  rw [routes_of_visible file content visible,lineRoutes_error_iff]
  constructor
  · rintro ⟨before,l,after,split,lead,counts,ok,failed⟩
    obtain ⟨earlier,later,texts,rfl,number⟩ := numberedFrom_split 1 _ before after l split
    obtain ⟨named,line,refused⟩ := (startRoute_error_iff file l e).mp failed
    rw [text_numberedFrom] at lead
    exact ⟨earlier,l.text,later,texts,lead,counts,ok,named,by rw [line,number,Nat.add_comm],refused⟩
  · rintro ⟨earlier,read,later,texts,lead,counts,ok,named,line,refused⟩
    have failed := (startRoute_error_iff file ⟨1 + earlier.length,read⟩ e).mpr
      ⟨named,by rw [line,Nat.add_comm],refused⟩
    refine ⟨Line.numberedFrom 1 earlier,⟨1 + earlier.length,read⟩,
      Line.numberedFrom (1 + earlier.length + 1) later,?_,?_,counts,ok,failed⟩
    · rw [Line.ofText,texts,numberedFrom_append,Line.numberedFrom]
    · rw [text_numberedFrom]
      exact lead

private theorem idle_of_readAs (line read : Text) (reads : Text.ReadAs line read) :
    Line.isIdle line = Line.isIdle read := by
  rcases reads with rfl | rfl
  · rfl
  · rw [Line.isIdle,isBlank_return,isComment_return,Line.isIdle]

private theorem trim_of_readAs (line read : Text) (reads : Text.ReadAs line read) :
    Text.trim line = Text.trim read := by
  rcases reads with rfl | rfl
  · rfl
  · exact Text.trim_return read

private theorem culprit_of_lines (content : Text) (earlier later : List Text) (read : Text) (cause : Cause)
    (split : Text.lines content = earlier ++ read :: later) (lead : Place.after earlier = .lead)
    (counts : Line.isIdle read = false) (refused : Refused (Text.trim read) cause) :
    ∃ before line, Culprit content before line cause ∧ Text.lines before = earlier := by
  obtain ⟨before,line,rest,place,rfl,reads⟩ := Text.exists_lineAt content earlier later read split
  rw [← idle_of_readAs line read reads] at counts
  rw [← trim_of_readAs line read reads] at refused
  exact ⟨before,line,⟨⟨rest,place⟩,(opens_iff _ line).mpr ⟨lead,counts⟩,refused⟩,rfl⟩

private theorem lines_of_culprit (content before line : Text) (cause : Cause)
    (culprit : Culprit content before line cause) :
    ∃ read later, Text.lines content = Text.lines before ++ read :: later ∧ Text.ReadAs line read ∧
      Place.after (Text.lines before) = .lead ∧ Line.isIdle read = false ∧ Refused (Text.trim read) cause := by
  obtain ⟨⟨rest,place⟩,opens,refused⟩ := culprit
  have nonempty : line ≠ [] := by
    rintro rfl
    exact absurd opens.not_blank (by decide)
  obtain ⟨lead,counts⟩ := (opens_iff _ line).mp opens
  obtain ⟨read,later,split,reads⟩ := place.read nonempty
  rw [idle_of_readAs line read reads] at counts
  rw [trim_of_readAs line read reads] at refused
  exact ⟨read,later,split,reads,lead,counts,refused⟩

private theorem visible_of_culprit (content before line : Text) (cause : Cause)
    (culprit : Culprit content before line cause) : Text.allBlank content = false := by
  obtain ⟨rest,place⟩ := culprit.place
  have inside : line.all Text.isBlank = false := culprit.opens.not_blank
  simp [Text.allBlank,place.text,inside]

private theorem not_refused_of_texts (file : Text) (ts earlier later : List Text) (read : Text) (rs : List Route)
    (ok : lineRoutes file (Line.numberedFrom 1 ts) = .ok rs) (split : ts = earlier ++ read :: later)
    (lead : Place.after earlier = .lead) (counts : Line.isIdle read = false) (cause : Cause) :
    ¬ Refused (Text.trim read) cause := by
  rw [split,numberedFrom_append,Line.numberedFrom] at ok
  exact not_refused_of_ok file _ _ ⟨1 + earlier.length,read⟩ rs ok (by rw [text_numberedFrom,lead]) counts cause

theorem exists_error_iff (file content : Text) (visible : Text.allBlank content = false) :
    (∃ e, routes file content = .error e) ↔ ∃ before line cause, Culprit content before line cause := by
  constructor
  · rintro ⟨e,failed⟩
    obtain ⟨earlier,read,later,split,lead,counts,_,_,_,refused⟩ :=
      (routes_error_iff file content visible e).mp failed
    obtain ⟨before,line,culprit,_⟩ := culprit_of_lines content earlier later read e.cause split lead counts refused
    exact ⟨before,line,e.cause,culprit⟩
  · rintro ⟨before,line,cause,culprit⟩
    obtain ⟨read,later,split,_,lead,counts,refused⟩ := lines_of_culprit content before line cause culprit
    cases outcome : routes file content with
    | error e => exact ⟨e,rfl⟩
    | ok rs =>
      rw [routes_of_visible file content visible] at outcome
      exact absurd refused (not_refused_of_texts file _ _ later read rs outcome split lead counts cause)

/-- An error that names the first line at fault, with the text before the line. The text before is read without
an error, and whatever follows the line the error is the same. -/
structure FirstFault (file content : Text) (e : Error) (before line : Text) : Prop where
  named : e.file = file
  culprit : Culprit content before line e.cause
  number : e.line = (Text.lines before).length + 1
  first : ∀ b l c, Culprit content b l c → e.line ≤ (Text.lines b).length + 1
  accepted : Text.allBlank before = true ∨ ∃ rs, routes file before = .ok rs
  final : ∀ other, routes file (before ++ line ++ '\n' :: other) = .error e

private theorem line_le_of_culprit (file content : Text) (earlier later : List Text) (read : Text) (rs : List Route)
    (split : Text.lines content = earlier ++ read :: later)
    (ok : lineRoutes file (Line.numberedFrom 1 earlier) = .ok rs) (before line : Text) (cause : Cause)
    (culprit : Culprit content before line cause) : earlier.length ≤ (Text.lines before).length := by
  obtain ⟨found,after,other_split,_,lead,counts,refused⟩ := lines_of_culprit content before line cause culprit
  rcases List.append_eq_append_iff.mp (split.symm.trans other_split) with ⟨more,same,_⟩ | ⟨more,same,rest⟩
  · simp [same]
  · cases more with
    | nil => simp [same]
    | cons x more =>
      -- the line would stand among those that were read without an error
      obtain ⟨rfl,_⟩ := List.cons.inj rest
      exact absurd refused (not_refused_of_texts file earlier _ more found rs ok same lead counts cause)

private theorem error_after (file content before line : Text) (e : Error) (rs : List Route)
    (ok : lineRoutes file (Line.ofText before) = .ok rs) (named : e.file = file)
    (number : e.line = (Text.lines before).length + 1) (culprit : Culprit content before line e.cause) :
    routes file content = .error e := by
  have visible := visible_of_culprit content before line e.cause culprit
  obtain ⟨read,later,split,_,lead,counts,refused⟩ := lines_of_culprit content before line e.cause culprit
  exact (routes_error_iff file content visible e).mpr
    ⟨Text.lines before,read,later,split,lead,counts,⟨rs,ok⟩,named,number,refused⟩

theorem firstFault_of_error (file content : Text) (visible : Text.allBlank content = false) (e : Error)
    (failed : routes file content = .error e) : ∃ before line, FirstFault file content e before line := by
  obtain ⟨earlier,read,later,split,lead,counts,⟨rs,ok⟩,named,number,refused⟩ :=
    (routes_error_iff file content visible e).mp failed
  obtain ⟨before,line,culprit,rfl⟩ := culprit_of_lines content earlier later read e.cause split lead counts refused
  refine ⟨before,line,⟨named,culprit,number,fun b l c other => ?_,?_,fun other => ?_⟩⟩
  · have bound := line_le_of_culprit file content _ later read rs split ok b l c other
    omega
  · cases blank : Text.allBlank before with
    | true => exact .inl rfl
    | false => exact .inr ⟨rs,(routes_of_visible file before blank).trans ok⟩
  · obtain ⟨rest,place⟩ := culprit.place
    have same_place : Text.LineAt (before ++ line ++ '\n' :: other) before line ('\n' :: other) :=
      ⟨rfl,place.closed,place.one_line,.inr rfl⟩
    exact error_after file _ before line e rs ok named number ⟨⟨_,same_place⟩,culprit.opens,culprit.refused⟩

/-- A blank file is empty. Any other fails exactly if it has a line at fault, and then with the first one. -/
theorem routes_first_fault (file content : Text) :
    (Text.allBlank content = true → routes file content = .error ⟨file,1,.empty⟩) ∧
    (Text.allBlank content = false →
      ((∃ e, routes file content = .error e) ↔ ∃ before line cause, Culprit content before line cause) ∧
      ∀ e, routes file content = .error e → ∃ before line, FirstFault file content e before line) := by
  refine ⟨fun blank => ?_,fun visible => ⟨exists_error_iff file content visible,?_⟩⟩
  · rw [routes,blank]
    rfl
  · exact firstFault_of_error file content visible

/-- Behind a definition with a body that looks like one, a request line without a URL and, further down, a URL
that cannot be read. -/
def faultyFile : Text :=
  "GET /a\r\n\r\nPUT\r\n### two\n# none\n \n  PUT \r\nX: 1\n###\nGET ftp://x\n".toList

theorem routes_first_fault_second : ∃ before line,
    Text.allBlank faultyFile = false ∧
      FirstFault "a.http".toList faultyFile ⟨"a.http".toList,7,.badRequestLine "PUT".toList⟩ before line := by
  have visible : Text.allBlank faultyFile = false := by decide
  have failed : routes "a.http".toList faultyFile = .error ⟨"a.http".toList,7,.badRequestLine "PUT".toList⟩ := by
    decide +kernel
  obtain ⟨before,line,fault⟩ := ((routes_first_fault "a.http".toList faultyFile).2 visible).2 _ failed
  exact ⟨before,line,visible,fault⟩

end Files

end CannedHttp.Definition
