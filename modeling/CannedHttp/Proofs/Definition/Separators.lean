import CannedHttp.Proofs.Definition.LineEnds
import CannedHttp.Proofs.Definition.Numbering
import CannedHttp.Proofs.Definition.Parts

/-!
What a separator parts is read apart. A definition found further down in a file is the same definition
with other line numbers, and only the line number of an error shows where in the file it was found.
-/
namespace CannedHttp.Definition

section Numbering

def Line.shift (k : Nat) (l : Line) : Line :=
  ⟨l.number + k,l.text⟩

/-- The definition, found so many lines further down. -/
def shift (k : Nat) (d : Definition) : Definition :=
  ⟨d.request.shift k,d.head.map (Line.shift k),d.body.map (Line.shift k)⟩

def Error.shift (k : Nat) (e : Error) : Error :=
  { e with line := e.line + k }

variable (k : Nat)

private theorem numberedFrom_shift (n : Nat) (ts : List Text) :
    Line.numberedFrom (n + k) ts = (Line.numberedFrom n ts).map (Line.shift k) :=
  (numberedFrom_renumber (· + k) n (n + k) ts fun i _ => Nat.add_right_comm n i k).symm

theorem routes_shift (file : Text) (ds : List Definition) :
    (ds.map (shift k)).mapM (route file) = (ds.mapM (route file)).mapError (Error.shift k) :=
  mapM_route_renumber (· + k) file ds

theorem definitions_shift (n : Nat) (ts : List Text) :
    (parts (Line.numberedFrom (n + k) ts)).filterMap ofPart? =
      ((parts (Line.numberedFrom n ts)).filterMap ofPart?).map (shift k) := by
  rw [numberedFrom_shift]
  exact definitions_renumber (· + k) (Line.numberedFrom n ts)

end Numbering

section Blanks

private theorem isBlank_of_mem_lines (content l : Text) (blank : Text.allBlank content = true)
    (member : l ∈ Text.lines content) : Line.isBlank l = true := by
  refine List.all_eq_true.mpr fun c inside => ?_
  exact List.all_eq_true.mp blank c (Text.mem_of_mem_lines content l c member inside)

private theorem not_separator_of_blank (l : Text) (blank : Line.isBlank l = true) : Line.isSeparator l = false := by
  rw [Line.isSeparator,Text.trimStart_of_blank l blank]
  rfl

private theorem ofText_of_blank (content : Text) (blank : Text.allBlank content = true) : ofText content = [] := by
  have lines : ∀ l ∈ Line.ofText content, Line.isBlank l.text = true := fun l member =>
    isBlank_of_mem_lines content l.text blank (text_mem_of_mem_numberedFrom 1 _ l member)
  have skipped : (Line.ofText content).dropWhile (fun l => Line.isBlank l.text || Line.isComment l.text) = [] :=
    congrArg Prod.snd (Text.run_of_forall _ _ fun l member => by rw [lines l member,Bool.true_or])
  unfold ofText
  rw [parts_of_no_separator _ fun l member => not_separator_of_blank l.text (lines l member)]
  simp only [List.filterMap_cons,ofPart?,skipped,List.filterMap_nil]

/-- The routes of a part of a file. Other than a whole file, a part may be blank. -/
def partRoutes (file content : Text) : Except Error (List Route) :=
  if Text.allBlank content then .ok [] else routes file content

private theorem partRoutes_eq (file content : Text) :
    partRoutes file content = (ofText content).mapM (route file) := by
  unfold partRoutes routes
  split
  next blank =>
    rw [ofText_of_blank content blank]
    rfl
  next => rfl

end Blanks

section Separators

theorem isSeparator_iff (l : Text) : Line.isSeparator l = true ↔ "###".toList <+: Text.trimStart l :=
  List.isPrefixOf_iff_prefix

theorem parts_append (before after : List Line) (separator : Line)
    (ends : Line.isSeparator separator.text = true) :
    parts (before ++ separator :: after) = parts before ++ parts after := by
  rw [parts_eq_library,parts_eq_library,parts_eq_library]
  exact List.splitOnP_append_cons before after ends

private theorem ofText_append (before separator after : Text) (closed : Text.Closed before)
    (one_line : '\n' ∉ separator) (separates : Line.isSeparator separator = true) :
    ofText (before ++ separator ++ '\n' :: after) =
      ofText before ++ (ofText after).map (shift ((Text.lines before).length + 1)) := by
  obtain ⟨line,lines,same⟩ := Text.lines_append_feed separator after one_line
  have ends : Line.isSeparator line = true := by
    rcases same with rfl | rfl
    · exact separates
    · rwa [isSeparator_return] at separates
  unfold ofText Line.ofText
  rw [List.append_assoc,Text.lines_append before _ closed,lines,numberedFrom_append,Line.numberedFrom]
  rw [parts_append _ _ _ ends,List.filterMap_append,Nat.add_assoc,definitions_shift]

private theorem not_blank_of_separator (before separator after : Text)
    (separates : Line.isSeparator separator = true) :
    Text.allBlank (before ++ separator ++ '\n' :: after) = false := by
  rw [← Bool.not_eq_true]
  intro blank
  have inner : Line.isBlank separator = true :=
    List.all_eq_true.mpr fun c inside => List.all_eq_true.mp blank c (by simp [inside])
  rw [not_separator_of_blank separator inner] at separates
  contradiction

/-- The parts of a file before and after a separator are read apart. An error of the first part is the
error of the file, one of the second part is found as many lines further down as stand before that part,
and without errors the routes of the second part follow those of the first. -/
theorem routes_append_separator (file before separator after : Text)
    (closed : before = [] ∨ before.getLast? = some '\n') (one_line : '\n' ∉ separator)
    (separates : "###".toList <+: Text.trimStart separator) :
    routes file (before ++ separator ++ '\n' :: after) =
      match partRoutes file before with
      | .error e => .error e
      | .ok first =>
        match partRoutes file after with
        | .error e => .error { e with line := e.line + (Text.lines before).length + 1 }
        | .ok second => .ok (first ++ second) := by
  have is_separator := (isSeparator_iff separator).mpr separates
  have whole : routes file (before ++ separator ++ '\n' :: after) =
      (ofText (before ++ separator ++ '\n' :: after)).mapM (route file) := by
    rw [← partRoutes_eq,partRoutes,not_blank_of_separator before separator after is_separator]
    rfl
  rw [whole,partRoutes_eq,partRoutes_eq,ofText_append before separator after closed one_line is_separator]
  rw [List.mapM_append,routes_shift]
  cases (ofText before).mapM (route file) with
  | error e => rfl
  | ok first =>
    cases (ofText after).mapM (route file) with
    | error e => rfl
    | ok second => rfl

/-- A part whose body begins like a comment and ends in a blank line. -/
def closedPart : Text :=
  "# one\nGET /a\nX: 1\n\n# body\n\n".toList

def titleLine : Text :=
  "\t### Get\r".toList

/-- A part whose third line should be a request line. -/
def brokenPart : Text :=
  "\n# two\nPUT\n".toList

theorem routes_append_separator_titled :
    closedPart.getLast? = some '\n' ∧ '\n' ∉ titleLine ∧ "###".toList <+: Text.trimStart titleLine ∧
      routes "a.http".toList (closedPart ++ titleLine ++ '\n' :: brokenPart) =
        .error ⟨"a.http".toList,10,.badRequestLine "PUT".toList⟩ := by
  have closed : closedPart.getLast? = some '\n' := by decide
  have one_line : '\n' ∉ titleLine := by decide
  have separates : "###".toList <+: Text.trimStart titleLine := by decide
  have apart := routes_append_separator "a.http".toList closedPart titleLine brokenPart (.inr closed) one_line separates
  have first : ∃ rs, partRoutes "a.http".toList closedPart = .ok rs := ⟨_,rfl⟩
  have second : partRoutes "a.http".toList brokenPart =
      .error ⟨"a.http".toList,3,.badRequestLine "PUT".toList⟩ := by decide +kernel
  obtain ⟨rs,first⟩ := first
  rw [first,second] at apart
  exact ⟨closed,one_line,separates,apart⟩

end Separators
end CannedHttp.Definition
