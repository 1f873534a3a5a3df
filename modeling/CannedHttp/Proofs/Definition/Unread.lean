import CannedHttp.Proofs.Definition.Faults

/-!
Lines that say nothing. Outside of bodies a comment is passed over wherever it stands, and in a header block
so is a line that is no header, or a status that is not recognised. A file reads the same with such a line
put into it, but for the line number of an error further down.
-/
namespace CannedHttp.Definition

/-- The line says nothing behind the lines before it. -/
inductive Unread (before : List Text) (line : Text) : Prop
  | comment (outside : Place.after before ≠ .body) (sign : "#".toList <+: Text.trimStart line)
      (inner : ¬ "###".toList <+: Text.trimStart line)
  | malformed (head : Place.after before = .head) (visible : Line.isBlank line = false)
      (no_sign : ¬ "#".toList <+: Text.trimStart line)
      (no_status : ∀ code, IsStatusLine (Text.trim line) code → ¬ Usable code)
      (no_header : ∀ name value, ¬ IsHeader (Text.trim line) name value)
  | unknownStatus (head : Place.after before = .head) (name value : Text)
      (header : IsHeader (Text.trim line) name value) (same : Text.sameIgnoringCase name statusHeader = true)
      (unknown : ∀ code, IsStatusLine value code ∨ IsNumeral value code → ¬ Usable code)

/-- A line that leaves its part as it is. -/
structure Passed (place : Place) (line : Text) : Prop where
  inner : Line.isSeparator line = false
  silent : place = .lead ∧ Line.isIdle line = true ∨
    place = .head ∧ Line.isBlank line = false ∧ ∀ r, applyHeadLine r (HeadLine.ofText line) = r

section Lines

private theorem not_separator_of_no_comment (line : Text) (no_comment : Line.isComment line = false) :
    Line.isSeparator line = false := by
  rw [← Bool.not_eq_true] at *
  exact fun separator => no_comment (isComment_of_isSeparator line separator)

private theorem not_blank_of_comment (line : Text) (comment : Line.isComment line = true) :
    Line.isBlank line = false := by
  rw [← Bool.not_eq_true]
  intro blank
  rw [Line.isComment,Text.trimStart_of_blank line blank] at comment
  contradiction

private theorem ofText_of_comment (line : Text) (comment : Line.isComment line = true) :
    HeadLine.ofText line = .comment :=
  if_pos comment

private theorem passed_comment (place : Place) (line : Text) (outside : place ≠ .body)
    (comment : Line.isComment line = true) (inner : Line.isSeparator line = false) : Passed place line := by
  refine ⟨inner,?_⟩
  cases place with
  | lead => exact .inl ⟨rfl,by rw [Line.isIdle,comment,Bool.or_true]⟩
  | head => exact .inr ⟨rfl,not_blank_of_comment line comment,fun r => by rw [ofText_of_comment line comment]; rfl⟩
  | body => contradiction

private theorem passed_of_unread (before : List Text) (line : Text) (unread : Unread before line) :
    Passed (Place.after before) line := by
  cases unread with
  | comment outside sign inner =>
    refine passed_comment _ line outside (List.isPrefixOf_iff_prefix.mpr sign) ?_
    rwa [← Bool.not_eq_true,isSeparator_iff]
  | malformed head visible no_sign no_status no_header =>
    have no_comment : Line.isComment line = false := by
      rw [← Bool.not_eq_true]
      exact fun comment => no_sign (List.isPrefixOf_iff_prefix.mp comment)
    refine ⟨not_separator_of_no_comment line no_comment,.inr ⟨head,visible,fun r => ?_⟩⟩
    rcases ofText_cases line with ⟨comment,_⟩ | ⟨code,status,usable,_⟩ | ⟨name,value,header⟩ | malformed
    · simp [comment] at no_comment
    · exact absurd usable (no_status code status)
    · exact absurd header (no_header name value)
    · rw [malformed]
      rfl
  | unknownStatus head name value header same unknown =>
    have no_comment := not_comment_of_header line name value header
    have unread : statusValue? value = none := by
      rw [Option.eq_none_iff_forall_ne_some]
      intro code read
      obtain ⟨given,usable⟩ := (statusValue_eq_some_iff value code).mp read
      exact unknown code given usable
    have visible := not_blank_of_header line name value header
    refine ⟨not_separator_of_no_comment line no_comment,.inr ⟨head,visible,fun r => ?_⟩⟩
    rw [ofText_of_header line name value header,if_pos same,unread]
    rfl

private theorem passed_of_readAs (place : Place) (line read : Text) (reads : Text.ReadAs line read)
    (passed : Passed place line) : Passed place read := by
  rcases reads with rfl | rfl
  · exact passed
  · obtain ⟨inner,silent⟩ := passed
    rw [isSeparator_return] at inner
    rw [Line.isIdle,isBlank_return,isComment_return,headLine_return] at silent
    exact ⟨inner,silent⟩

end Lines

section Parts
variable (file : Text)

private theorem route_pass (request : Line) (before after body : List Line) (x : Line)
    (silent : ∀ r, applyHeadLine r (HeadLine.ofText x.text) = r) :
    route file ⟨request,before ++ x :: after,body⟩ = route file ⟨request,before ++ after,body⟩ := by
  simp only [route,List.map_append,List.map_cons,List.foldl_append,List.foldl_cons,silent]

private theorem ofPart_pass (part rest : List Line) (x : Line) (inner : ∀ l ∈ part, Line.isSeparator l.text = false)
    (passed : Passed (Place.after (part.map Line.text)) x.text) :
    (ofPart? (part ++ x :: rest)).map (route file) = (ofPart? (part ++ rest)).map (route file) := by
  have inner_texts : ∀ t ∈ part.map Line.text, Line.isSeparator t = false := by simpa using inner
  rcases passed.silent with ⟨lead,idle⟩ | ⟨head,visible,silent⟩
  · have skipped : ∀ l ∈ part, Line.isIdle l.text = true := by
      simpa using idle_of_lead _ inner_texts lead
    rw [ofPart_idle part rest skipped,ofPart_idle part (x :: rest) skipped]
    exact congrArg _ (ofPart_idle [x] rest (by simpa using idle))
  · obtain ⟨_,_,_,texts,idle,counts,block⟩ := begun_of_head _ inner_texts head
    obtain ⟨skipped,begun,rfl,rfl,begun_texts⟩ := List.map_eq_append_iff.mp texts
    obtain ⟨request,lines,rfl,rfl,rfl⟩ := List.map_eq_cons_iff.mp begun_texts
    simp only [List.forall_mem_map] at idle block
    have longer : ∀ l ∈ lines ++ [x], Line.isBlank l.text = false := by
      simpa [or_imp,forall_and,visible] using block
    have dropped (ls : List Line) :
        ofPart? (skipped ++ request :: lines ++ ls) = ofPart? (request :: (lines ++ ls)) := by
      rw [List.append_assoc]
      exact ofPart_idle skipped _ idle
    have without := ofPart_begun request lines rest counts block
    have with_line := ofPart_begun request (lines ++ [x]) rest counts longer
    rw [← List.append_cons,← List.append_cons] at with_line
    rw [dropped,dropped,with_line,without,Option.map_some,Option.map_some,
      route_pass file request lines _ _ x silent]

/-- What the parts of a file give. -/
def outcomes (ls : List Line) : List (Except Error Route) :=
  (parts ls).filterMap fun part => (ofPart? part).map (route file)

private theorem lineRoutes_eq (ls : List Line) : lineRoutes file ls = (outcomes file ls).mapM id := by
  rw [outcomes,← List.map_filterMap,List.mapM_map]
  rfl

private theorem outcomes_pass_part (part after : List Line) (x : Line)
    (inner : ∀ l ∈ part, Line.isSeparator l.text = false)
    (passed : Passed (Place.after (part.map Line.text)) x.text) :
    outcomes file (part ++ x :: after) = outcomes file (part ++ after) := by
  have longer : ∀ l ∈ part ++ [x], Line.isSeparator l.text = false := by
    simpa [or_imp,forall_and,passed.inner] using inner
  obtain ⟨first,rest,cut,without⟩ := parts_append_inner part after inner
  -- with the line the part is longer by one line, and the separators behind it are the same
  obtain ⟨same_first,same_rest,same_cut,with_line⟩ := parts_append_inner (part ++ [x]) after longer
  obtain ⟨rfl,rfl⟩ := List.cons.inj (cut.symm.trans same_cut)
  rw [← List.append_cons,← List.append_cons] at with_line
  rw [outcomes,outcomes,with_line,without,List.filterMap_cons,List.filterMap_cons,
    ofPart_pass file part first x inner passed]

private theorem outcomes_pass (before after : List Line) (x : Line)
    (passed : Passed (Place.after (before.map Line.text)) x.text) :
    outcomes file (before ++ x :: after) = outcomes file (before ++ after) := by
  obtain ⟨_,_,texts,parted,inner⟩ := exists_part (before.map Line.text)
  obtain ⟨earlier,part,rfl,rfl,rfl⟩ := List.map_eq_append_iff.mp texts
  rw [List.map_append,after_parted _ _ parted] at passed
  have inner_lines : ∀ l ∈ part, Line.isSeparator l.text = false := by simpa using inner
  have same := outcomes_pass_part file part after x inner_lines passed
  -- what stands before the part is read apart from it, and is the same on both sides
  rcases parted with none_before | ⟨_,_,earlier_texts,ends⟩
  · rw [List.map_eq_nil_iff.mp none_before]
    exact same
  · obtain ⟨first,last,rfl,rfl,last_texts⟩ := List.map_eq_append_iff.mp earlier_texts
    obtain ⟨separator,rfl,rfl⟩ := List.map_eq_singleton_iff.mp last_texts
    have apart (ls : List Line) : outcomes file (first ++ [separator] ++ part ++ ls) =
        outcomes file first ++ outcomes file (part ++ ls) := by
      rw [outcomes,List.append_assoc,List.append_assoc,List.singleton_append,parts_append _ _ _ ends,
        List.filterMap_append]
      rfl
    rw [apart,apart,same]

/-- A line that is passed over can be left out. -/
private theorem lineRoutes_pass (before after : List Line) (x : Line)
    (passed : Passed (Place.after (before.map Line.text)) x.text) :
    lineRoutes file (before ++ x :: after) = lineRoutes file (before ++ after) := by
  rw [lineRoutes_eq,outcomes_pass file before after x passed,← lineRoutes_eq]

private theorem lineRoutes_renumber (f : Nat → Nat) (ls : List Line) :
    lineRoutes file (ls.map (Line.renumber f)) = (lineRoutes file ls).mapError (Error.renumber f) := by
  rw [lineRoutes,definitions_renumber,mapM_route_renumber]
  rfl

end Parts

section Files

/-- The number of a line once another has been put in behind the first `n`. -/
def pushed (n line : Nat) : Nat :=
  if n < line then line + 1 else line

private theorem numberedFrom_insert (before after : List Text) (x : Text) :
    Line.numberedFrom 1 (before ++ x :: after) =
      (Line.numberedFrom 1 before).map (Line.renumber (pushed before.length)) ++ ⟨1 + before.length,x⟩ ::
        (Line.numberedFrom (1 + before.length) after).map (Line.renumber (pushed before.length)) := by
  have above : ∀ i < before.length, pushed before.length (1 + i) = 1 + i := fun i inside =>
    if_neg (by omega)
  have below : ∀ i < after.length, pushed before.length (1 + before.length + i) = 1 + before.length + 1 + i :=
    fun i _ => (if_pos (by omega)).trans (Nat.add_right_comm _ i 1)
  rw [numberedFrom_append,Line.numberedFrom,numberedFrom_renumber _ 1 1 before above,
    numberedFrom_renumber _ _ _ after below]

private theorem lineRoutes_insert (file : Text) (before after : List Text) (x : Text)
    (passed : Passed (Place.after before) x) :
    lineRoutes file (Line.numberedFrom 1 (before ++ x :: after)) =
      (lineRoutes file (Line.numberedFrom 1 (before ++ after))).mapError
        (Error.renumber (pushed before.length)) := by
  rw [numberedFrom_insert,lineRoutes_pass,← List.map_append,← numberedFrom_append,lineRoutes_renumber]
  rw [texts_renumber,text_numberedFrom]
  exact passed

/-- A line that says nothing leaves the routes of a file as they are, and an error of the file too, but for the
number of its line. -/
theorem routes_insert (file before inserted after : Text)
    (closed : before = [] ∨ before.getLast? = some '\n') (one_line : '\n' ∉ inserted)
    (visible : Text.allBlank (before ++ after) = false) (unread : Unread (Text.lines before) inserted) :
    routes file (before ++ inserted ++ '\n' :: after) =
      (routes file (before ++ after)).mapError fun e =>
        { e with line := if (Text.lines before).length < e.line then e.line + 1 else e.line } := by
  obtain ⟨read,split,reads⟩ := Text.lines_append_feed inserted after one_line
  have passed := passed_of_readAs _ inserted read reads (passed_of_unread _ inserted unread)
  have still_visible : Text.allBlank (before ++ inserted ++ '\n' :: after) = false := by
    simp only [Text.allBlank,List.all_append,List.all_cons,Bool.and_eq_false_iff] at visible ⊢
    rcases visible with first | second
    · exact .inl (.inl first)
    · exact .inr (.inr second)
  rw [routes_of_visible file _ still_visible,routes_of_visible file _ visible,Line.ofText,Line.ofText,
    Text.lines_append before after closed,List.append_assoc,Text.lines_append before _ closed,split]
  exact lineRoutes_insert file _ _ read passed

def headerPart : Text :=
  "GET /a\nX: 1\n".toList

/-- No status: the number is too large. -/
def strayStatus : Text :=
  "status-code: 1000\r".toList

/-- The rest of a file whose sixth line should be a request line. -/
def brokenRest : Text :=
  "\n# body\n###\nPUT\n".toList

private theorem unread_strayStatus : Unread (Text.lines headerPart) strayStatus := by
  have header : IsHeader (Text.trim strayStatus) "status-code".toList "1000".toList :=
    (headerLine_eq_some_iff _ _ _).mp (by decide)
  refine .unknownStatus (by decide) _ _ header (by decide) fun code given usable => ?_
  have read := (statusValue_eq_some_iff "1000".toList code).mpr ⟨given,usable⟩
  rw [show statusValue? "1000".toList = none by decide] at read
  contradiction

theorem routes_insert_strayStatus :
    headerPart.getLast? = some '\n' ∧ '\n' ∉ strayStatus ∧ Text.allBlank (headerPart ++ brokenRest) = false ∧
      Unread (Text.lines headerPart) strayStatus ∧
      routes "a.http".toList (headerPart ++ strayStatus ++ '\n' :: brokenRest) =
        .error ⟨"a.http".toList,7,.badRequestLine "PUT".toList⟩ := by
  have closed : headerPart.getLast? = some '\n' := by decide
  have one_line : '\n' ∉ strayStatus := by decide
  have visible : Text.allBlank (headerPart ++ brokenRest) = false := by decide
  have inserted := routes_insert "a.http".toList headerPart strayStatus brokenRest (.inr closed) one_line visible
    unread_strayStatus
  have failed : routes "a.http".toList (headerPart ++ brokenRest) =
      .error ⟨"a.http".toList,6,.badRequestLine "PUT".toList⟩ := by decide +kernel
  rw [failed] at inserted
  exact ⟨closed,one_line,visible,unread_strayStatus,inserted⟩

end Files

end CannedHttp.Definition
