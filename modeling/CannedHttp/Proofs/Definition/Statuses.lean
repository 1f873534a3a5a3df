import CannedHttp.Http.Response
import CannedHttp.Proofs.Definition.Layout
import CannedHttp.Proofs.Definition.Requests
import CannedHttp.Proofs.Text.Trimming

/-!
What a definition gives. The last line of the header block that gives a status decides, the header lines give
the headers in their order, and the body is kept as it stands up to its last line that is not blank.
-/
namespace CannedHttp.Definition

/-- The status after a header block: the last one given, or else the one before the block. -/
def LastStatus (start : Nat) (head : List Text) (status : Nat) : Prop :=
  (∃ before line after, head = before ++ line :: after ∧ GivesStatus line status ∧
    ∀ l ∈ after, ∀ code, ¬ GivesStatus l code) ∨
  status = start ∧ ∀ l ∈ head, ∀ code, ¬ GivesStatus l code

/-- A header line that is no status, in either form. -/
structure PlainHeader (line name value : Text) : Prop where
  header : IsHeader (Text.trim line) name value
  other : Text.sameIgnoringCase name statusHeader = false
  no_status : ∀ code, ¬ IsStatusLine (Text.trim line) code

/-- The headers that a header block gives, in their order. -/
inductive GivesHeaders : List Text → List (Text × Text) → Prop
  | nil : GivesHeaders [] []
  | header (line name value : Text) (lines : List Text) (given : List (Text × Text))
      (plain : PlainHeader line name value) (rest : GivesHeaders lines given) :
      GivesHeaders (line :: lines) ((name,value) :: given)
  | other (line : Text) (lines : List Text) (given : List (Text × Text))
      (none_here : ∀ name value, ¬ PlainHeader line name value) (rest : GivesHeaders lines given) :
      GivesHeaders (line :: lines) given

/-- Lines of a body as they are kept. -/
def GivesBody (lines : List Text) (body : Text) : Prop :=
  ∃ kept blanks, lines = kept ++ blanks ∧ (∀ l ∈ blanks, Line.isBlank l = true) ∧
    (∀ l, kept.getLast? = some l → Line.isBlank l = false) ∧ body = Text.join ['\n'] kept

/-- What the lines of a definition give its route. -/
structure Given (d : Definition) (r : Route) : Prop where
  status : LastStatus 200 (d.head.map Line.text) r.status
  headers : ∃ given, GivesHeaders (d.head.map Line.text) given ∧ r.headers = .ofList given
  body : GivesBody (d.body.map Line.text) r.body

section Steps
variable (r : Route) (line : Text)

private theorem status_of_gives (code : Nat) (gives : GivesStatus line code) :
    (applyHeadLine r (HeadLine.ofText line)).status = code := by
  rw [(ofText_eq_status_iff line code).mpr gives]
  rfl

private theorem status_of_gives_none (none_given : ∀ code, ¬ GivesStatus line code) :
    (applyHeadLine r (HeadLine.ofText line)).status = r.status := by
  cases read : HeadLine.ofText line with
  | status code => exact absurd ((ofText_eq_status_iff line code).mp read) (none_given code)
  | comment | unknownStatus _ | header _ _ | malformed => rfl

private theorem plainHeader_iff (name value : Text) :
    PlainHeader line name value ↔ HeadLine.ofText line = .header name value := by
  rw [ofText_eq_header_iff]
  constructor
  · exact fun plain => ⟨plain.header,plain.other⟩
  · exact fun ⟨header,other⟩ =>
      ⟨header,other,fun code status => not_header_of_statusLine _ name value code status header⟩

private theorem headers_of_plain (name value : Text) (plain : PlainHeader line name value) :
    (applyHeadLine r (HeadLine.ofText line)).headers = r.headers.insert name value := by
  rw [(plainHeader_iff line name value).mp plain]
  rfl

private theorem headers_of_none (none_here : ∀ name value, ¬ PlainHeader line name value) :
    (applyHeadLine r (HeadLine.ofText line)).headers = r.headers := by
  cases read : HeadLine.ofText line with
  | header name value => exact absurd ((plainHeader_iff line name value).mpr read) (none_here name value)
  | comment | status _ | unknownStatus _ | malformed => rfl

end Steps

section Blocks

def applyHead (r : Route) (head : List Text) : Route :=
  head.foldl (fun r l => applyHeadLine r (HeadLine.ofText l)) r

private theorem applyHead_concat (r : Route) (head : List Text) (line : Text) :
    applyHead r (head ++ [line]) = applyHeadLine (applyHead r head) (HeadLine.ofText line) := by
  simp [applyHead]

private theorem lastStatus_applyHead (r : Route) (head : List Text) :
    LastStatus r.status head (applyHead r head).status := by
  induction head using List.reverseRecOn with
  | nil => exact .inr ⟨rfl,by simp⟩
  | append_singleton head line ih =>
    rw [applyHead_concat]
    by_cases gives : ∃ code, GivesStatus line code
    · obtain ⟨code,gives⟩ := gives
      rw [status_of_gives _ line code gives]
      exact .inl ⟨head,line,[],rfl,gives,by simp⟩
    · have none_given := not_exists.mp gives
      rw [status_of_gives_none _ line none_given]
      rcases ih with ⟨before,last,after,rfl,given,none_after⟩ | ⟨start,none_before⟩
      · refine .inl ⟨before,last,after ++ [line],by simp,given,?_⟩
        exact List.forall_mem_append.mpr ⟨none_after,by simpa using none_given⟩
      · exact .inr ⟨start,List.forall_mem_append.mpr ⟨none_before,by simpa using none_given⟩⟩

theorem LastStatus.unique {start : Nat} {head : List Text} {status other : Nat} (first : LastStatus start head status)
    (second : LastStatus start head other) : status = other := by
  rcases first with ⟨before,line,after,rfl,gives,none_after⟩ | ⟨rfl,none_given⟩
  · rcases second with ⟨before',line',after',split,gives',none_after'⟩ | ⟨_,none_given⟩
    · rcases List.append_eq_append_iff.mp split with ⟨more,_,rest⟩ | ⟨more,_,rest⟩
      · cases more with
        | nil =>
          obtain ⟨rfl,_⟩ := List.cons.inj rest
          exact gives.unique gives'
        | cons x more =>
          obtain ⟨rfl,rfl⟩ := List.cons.inj rest
          exact absurd gives' (none_after line' (by simp) other)
      · cases more with
        | nil =>
          obtain ⟨rfl,_⟩ := List.cons.inj rest
          exact gives.unique gives'
        | cons x more =>
          obtain ⟨rfl,rfl⟩ := List.cons.inj rest
          exact absurd gives (none_after' line (by simp) status)
    · exact absurd gives (none_given line (by simp) status)
  · rcases second with ⟨before,line,after,rfl,gives,_⟩ | ⟨rfl,_⟩
    · exact absurd gives (none_given line (by simp) other)
    · rfl

theorem PlainHeader.unique {line name value other another : Text} (first : PlainHeader line name value)
    (second : PlainHeader line other another) : (name,value) = (other,another) := by
  have same := ((plainHeader_iff line name value).mp first).symm.trans ((plainHeader_iff line other another).mp second)
  obtain ⟨rfl,rfl⟩ := HeadLine.header.inj same
  rfl

theorem GivesHeaders.unique {head : List Text} {given other : List (Text × Text)} (first : GivesHeaders head given)
    (second : GivesHeaders head other) : given = other := by
  induction first generalizing other with
  | nil =>
    cases second
    rfl
  | header line name value lines given plain rest ih =>
    cases second with
    | header _ _ _ _ _ plain' rest' => rw [plain.unique plain',ih rest']
    | other _ _ _ none_here _ => exact absurd plain (none_here name value)
  | other line lines given none_here rest ih =>
    cases second with
    | header _ name value _ _ plain _ => exact absurd plain (none_here name value)
    | other _ _ _ _ rest' => exact ih rest'

theorem GivesBody.unique {lines : List Text} {body other : Text} (first : GivesBody lines body)
    (second : GivesBody lines other) : body = other := by
  obtain ⟨kept,blanks,rfl,blank,last,rfl⟩ := first
  obtain ⟨kept',blanks',split,blank',last',rfl⟩ := second
  rw [← Text.trimEndBy_append Line.isBlank kept blanks blank last,split]
  rw [Text.trimEndBy_append Line.isBlank kept' blanks' blank' last']

/-- The lines of a definition leave no choice of status, headers and body. -/
theorem Given.unique {d : Definition} {r s : Route} (first : Given d r) (second : Given d s) :
    r.status = s.status ∧ r.headers = s.headers ∧ r.body = s.body := by
  obtain ⟨given,gives,headers⟩ := first.headers
  obtain ⟨other,gives',headers'⟩ := second.headers
  refine ⟨first.status.unique second.status,?_,first.body.unique second.body⟩
  rw [headers,headers',gives.unique gives']

private theorem exists_givesHeaders (r : Route) (head : List Text) : ∃ given, GivesHeaders head given ∧
    (applyHead r head).headers = given.foldl (fun h e => h.insert e.1 e.2) r.headers := by
  induction head generalizing r with
  | nil => exact ⟨[],.nil,rfl⟩
  | cons line head ih =>
    obtain ⟨given,gives,folded⟩ := ih (applyHeadLine r (HeadLine.ofText line))
    by_cases plain : ∃ name value, PlainHeader line name value
    · obtain ⟨name,value,plain⟩ := plain
      rw [headers_of_plain r line name value plain] at folded
      exact ⟨(name,value) :: given,.header line name value head given plain gives,folded⟩
    · have none_here : ∀ name value, ¬ PlainHeader line name value := by simpa using plain
      rw [headers_of_none r line none_here] at folded
      exact ⟨given,.other line head given none_here gives,folded⟩

private theorem givesBody_bodyText (lines : List Line) : GivesBody (lines.map Line.text) (bodyText lines) := by
  refine ⟨_,_,List.rdropWhile_append_rtakeWhile.symm,fun l member => List.mem_rtakeWhile_imp member,?_,rfl⟩
  exact Text.trimEndBy_last Line.isBlank _

end Blocks

section Files

theorem given_of_route (file : Text) (d : Definition) (r : Route) (ok : route file d = .ok r) : Given d r := by
  obtain ⟨start,started,head,folded,rfl⟩ := route_ok file d r ok
  obtain ⟨method,url,_,_,rfl⟩ := (startRoute_ok_iff file d.request start).mp started
  have block : head = applyHead (Route.make file method url) (d.head.map Line.text) := by
    rw [folded,applyHead,List.foldl_map,List.foldl_map]
  refine ⟨?_,?_,givesBody_bodyText d.body⟩
  · rw [block]
    exact lastStatus_applyHead (Route.make file method url) _
  · rw [block]
    exact exists_givesHeaders (Route.make file method url) _

theorem LastStatus.usable {head : List Text} {status : Nat} (last : LastStatus 200 head status) :
    Usable status := by
  rcases last with ⟨before,line,after,_,⟨_,usable⟩,_⟩ | ⟨rfl,_⟩
  · exact usable
  · exact ⟨by omega,by omega⟩

private theorem isStatus_of_usable (status : Nat) (usable : Usable status) : Http.isStatus status = true := by
  simpa [Http.isStatus,Usable] using usable

theorem status_ofRoute (r : Route) (captures : Matching.Captures) (usable : Usable r.status) :
    (Http.Response.ofRoute r captures).status = r.status :=
  if_pos (isStatus_of_usable r.status usable)

private theorem laidOut_of_mem (content : Text) (d : Definition) (member : d ∈ ofText content) :
    ∃ part ∈ parts (Line.ofText content), LaidOut part d := by
  obtain ⟨part,present,found⟩ := List.mem_filterMap.mp member
  exact ⟨part,present,(ofPart_eq_some_iff part d).mp found⟩

private theorem definitions_of_routes (file content : Text) (rs : List Route) (ok : routes file content = .ok rs) :
    (ofText content).mapM (route file) = .ok rs := by
  unfold routes at ok
  split at ok
  next => contradiction
  next => exact ok

/-- The routes of a file are those of its definitions in their order. Each has the one status, headers and body that
the lines of its definition give, the status being the last of its header block, and is answered with that
status. -/
theorem routes_lastStatus (file content : Text) (rs : List Route) (ok : routes file content = .ok rs) :
    List.Forall₂ (fun d r => (∃ part ∈ parts (Line.ofText content), LaidOut part d) ∧ Given d r)
        (ofText content) rs ∧
      (∀ r ∈ rs, Usable r.status ∧ Http.isStatus r.status = true ∧
        ∀ captures, (Http.Response.ofRoute r captures).status = r.status) ∧
      ∀ d r s, Given d r → Given d s → r.status = s.status ∧ r.headers = s.headers ∧ r.body = s.body := by
  have read := definitions_of_routes file content rs ok
  refine ⟨?_,?_,fun d r s first second => first.unique second⟩
  · rw [List.forall₂_and_left]
    refine ⟨laidOut_of_mem content,?_⟩
    exact ((Outcome.mapM_ok_iff _ _ rs).mp read).imp fun d r => given_of_route file d r
  · intro r member
    obtain ⟨d,_,routed⟩ := Outcome.mapM_ok_mem _ _ rs read r member
    have usable := (given_of_route file d r routed).status.usable
    exact ⟨usable,isStatus_of_usable r.status usable,fun captures => status_ofRoute r captures usable⟩

/-- A status line, the headers `X` and `Status-Code` with codes, two codes that are none, and a status line in
the body. -/
def statusFile : Text :=
  "GET /a\nHTTP/1.1 201 Created\nX: HTTP/1.1 500\nstatus-code: +404\n".toList ++
    "Status-Code: 1000\nHTTP/2 099\n\nHTTP/1.1 500\n".toList

theorem routes_lastStatus_numeral : ∃ d r, routes "a.http".toList statusFile = .ok [r] ∧ Given d r ∧
    r.status = 404 ∧ r.headers.entries = [("X".toList,"HTTP/1.1 500".toList)] ∧ r.body = "HTTP/1.1 500".toList := by
  let r := (Route.make "a.http".toList "GET".toList "/a".toList).answering 404
    ⟨[("X".toList,"HTTP/1.1 500".toList)]⟩ "HTTP/1.1 500".toList
  have read : routes "a.http".toList statusFile = .ok [r] := by decide +kernel
  obtain ⟨all,_⟩ := routes_lastStatus "a.http".toList statusFile [r] read
  obtain ⟨d,_,⟨_,given⟩,_⟩ := List.forall₂_cons_right_iff.mp all
  exact ⟨d,r,read,given,rfl,rfl,rfl⟩

end Files

end CannedHttp.Definition
