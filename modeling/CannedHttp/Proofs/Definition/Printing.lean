import CannedHttp.Proofs.Definition.Layout
import CannedHttp.Proofs.Definition.Lines
import CannedHttp.Proofs.Definition.Requests
import CannedHttp.Proofs.HeaderList

/-!
Routes printed as a definition file. A printed file reads back as the routes that were printed, and
every file that can be read gives routes that can be printed.
-/
namespace CannedHttp.Definition

def headLines (r : Route) : List Text :=
  headerText statusHeader (Text.ofNat r.status) :: r.headers.entries.map fun e => headerText e.1 e.2

/-- The lines of a route: request line, header block, an empty line, and the body. -/
def routeLines (r : Route) : List Text :=
  requestText r.method r.url :: (headLines r ++ [] :: Text.splitOn '\n' r.body)

/-- A definition file with the given routes. -/
def print (rs : List Route) : Text :=
  Text.ofLines ([['#', '#', '#']].intercalate (rs.map routeLines))

/-- What the head of a definition fixes can be printed: each part is read back from its own line. -/
structure Headed (file : Text) (r : Route) : Prop where
  compiled : r.Compiled
  file_name : r.file = file
  valid : r.valid = true
  method : r.method ≠ [] ∧ ∀ c ∈ r.method, Text.isWord c = true
  url : r.url ≠ [] ∧ ∀ c ∈ r.url, Text.isBlank c = false
  status : 100 ≤ r.status ∧ r.status ≤ 999
  distinct : HeaderList.Distinct r.headers.entries
  headers : ∀ e ∈ r.headers.entries, HeaderName e.1 ∧ HeaderValue e.2

/-- A route that can be printed: no line of its body ends the definition or is lost at its end. -/
structure Printable (file : Text) (r : Route) : Prop extends Headed file r where
  body : ∀ l ∈ Text.splitOn '\n' r.body, Line.isSeparator l = false
  body_end : r.body = [] ∨ ∀ l, (Text.splitOn '\n' r.body).getLast? = some l → Line.isBlank l = false

section Bodies

private theorem bodyText_printable (lines : List Line)
    (clean : ∀ l ∈ lines, '\n' ∉ l.text ∧ Line.isSeparator l.text = false) :
    (∀ l ∈ Text.splitOn '\n' (bodyText lines), Line.isSeparator l = false) ∧
      (bodyText lines = [] ∨
        ∀ l, (Text.splitOn '\n' (bodyText lines)).getLast? = some l → Line.isBlank l = false) := by
  have kept : ∀ t ∈ Text.trimEndBy Line.isBlank (lines.map Line.text),
      '\n' ∉ t ∧ Line.isSeparator t = false := by
    intro t member
    obtain ⟨l,present,rfl⟩ := List.mem_map.mp (Text.mem_of_mem_trimEndBy _ _ t member)
    exact clean l present
  by_cases empty : Text.trimEndBy Line.isBlank (lines.map Line.text) = []
  · have nothing : bodyText lines = [] := by simp [bodyText,empty,Text.join]
    rw [nothing]
    exact ⟨by decide,.inl rfl⟩
  · have split : Text.splitOn '\n' (bodyText lines) = Text.trimEndBy Line.isBlank (lines.map Line.text) :=
      Text.splitOn_intercalate '\n' _ empty fun t member => (kept t member).1
    rw [split]
    exact ⟨fun t member => (kept t member).2,.inr (Text.trimEndBy_last Line.isBlank _)⟩

private theorem bodyText_splitOn (body : Text) (lines : List Line)
    (written : lines.map Line.text = Text.splitOn '\n' body)
    (last : body = [] ∨ ∀ l, (Text.splitOn '\n' body).getLast? = some l → Line.isBlank l = false) :
    bodyText lines = body := by
  unfold bodyText Text.join
  rw [written]
  rcases last with rfl | visible
  · rfl
  · rw [Text.trimEndBy_eq_self _ _ visible,Text.intercalate_splitOn]

end Bodies

section Image

private theorem headed_answering (file : Text) (r : Route) (status : Nat) (headers : HeaderList) (body : Text)
    (headed : Headed file r) (usable : 100 ≤ status ∧ status ≤ 999)
    (distinct : HeaderList.Distinct headers.entries)
    (entries : ∀ e ∈ headers.entries, HeaderName e.1 ∧ HeaderValue e.2) :
    Headed file (r.answering status headers body) :=
  ⟨Route.compiled_answering r status headers body headed.compiled,headed.file_name,headed.valid,
    headed.method,headed.url,usable,distinct,entries⟩

private theorem headed_startRoute (file : Text) (request : Line) (r : Route)
    (ok : startRoute file request = .ok r) : Headed file r := by
  obtain ⟨method,url,is_request,valid,rfl⟩ := (startRoute_ok_iff file request r).mp ok
  obtain ⟨_,_,_,is_method,_,⟨some_url,visible⟩,_⟩ := is_request
  have is_url : ∀ c ∈ url, Text.isBlank c = false := by simpa using visible
  have no_headers : (Route.make file method url).headers.entries = [] := rfl
  have default_status : (Route.make file method url).status = 200 := rfl
  refine ⟨Route.compiled_make file method url,rfl,valid,is_method,⟨some_url,is_url⟩,?_,?_,?_⟩
  · omega
  · rw [no_headers]
    exact List.Pairwise.nil
  · simp [no_headers]

private theorem headed_applyHeadLine (file : Text) (r : Route) (line : Text) (one_line : '\n' ∉ line)
    (headed : Headed file r) : Headed file (applyHeadLine r (HeadLine.ofText line)) := by
  cases reading : HeadLine.ofText line with
  | comment => exact headed
  | unknownStatus value => exact headed
  | malformed => exact headed
  | status code =>
    have usable := ((ofText_eq_status_iff line code).mp reading).2
    exact headed_answering file r code r.headers r.body headed usable headed.distinct headed.headers
  | header name value =>
    obtain ⟨is_name,is_value⟩ := ofText_header_parts line name value one_line reading
    refine headed_answering file r r.status (r.headers.insert name value) r.body headed headed.status ?_ ?_
    · exact HeaderList.distinct_insertEntry name value _ headed.distinct
    · exact HeaderList.forall_insertEntry HeaderName HeaderValue name value _ headed.headers is_name is_value

private theorem headed_head (file : Text) (head : List Line) (r : Route)
    (one_line : ∀ l ∈ head, '\n' ∉ l.text) (headed : Headed file r) :
    Headed file ((head.map fun l => HeadLine.ofText l.text).foldl applyHeadLine r) := by
  induction head generalizing r with
  | nil => exact headed
  | cons l head ih =>
    have first := headed_applyHeadLine file r l.text (one_line l List.mem_cons_self) headed
    exact ih _ (fun m member => one_line m (List.mem_cons_of_mem l member)) first

theorem printable_route (file : Text) (d : Definition) (r : Route)
    (lines : ∀ l ∈ d.request :: d.head ++ d.body, '\n' ∉ l.text ∧ Line.isSeparator l.text = false)
    (ok : route file d = .ok r) : Printable file r := by
  obtain ⟨start,started,head,folded,rfl⟩ := route_ok file d r ok
  have headed : Headed file head := by
    rw [folded]
    refine headed_head file d.head start (fun l member => ?_) (headed_startRoute file d.request start started)
    exact (lines l (by simp [member])).1
  have body_lines : ∀ l ∈ d.body, '\n' ∉ l.text ∧ Line.isSeparator l.text = false :=
    fun l member => lines l (by simp [member])
  have kept := headed_answering file head head.status head.headers (bodyText d.body) headed
    headed.status headed.distinct headed.headers
  obtain ⟨inner,last⟩ := bodyText_printable d.body body_lines
  exact ⟨kept,inner,last⟩

theorem printable_routes (file content : Text) (rs : List Route) (read : routes file content = .ok rs) :
    ∀ r ∈ rs, Printable file r := by
  unfold routes at read
  split at read
  next => cases read
  next =>
    intro r member
    obtain ⟨d,found,ok⟩ := Outcome.mapM_ok_mem _ _ _ read r member
    obtain ⟨part,present,holds⟩ := List.mem_filterMap.mp found
    obtain ⟨skipped,opening,laid_out,_⟩ := (ofPart_eq_some_iff part d).mp holds
    refine printable_route file d r (fun l inside => ?_) ok
    have in_part : l ∈ part := by
      simp only [laid_out,List.mem_append,List.mem_cons] at inside ⊢
      tauto
    obtain ⟨in_file,inner⟩ := mem_of_mem_parts _ part present l in_part
    have in_text := text_mem_of_mem_numberedFrom 1 _ l in_file
    exact ⟨Text.feed_not_mem_lines content l.text in_text,inner⟩

end Image

section Reading

private theorem startRoute_printed (file : Text) (n : Nat) (r : Route) (headed : Headed file r) :
    startRoute file ⟨n, requestText r.method r.url⟩ = .ok (Route.make file r.method r.url) := by
  have is_request := request_requestText r.method r.url headed.method.1 headed.method.2
    headed.url.1 headed.url.2
  have valid := (Route.valid_of_compiled r headed.compiled).symm.trans headed.valid
  exact (startRoute_ok_iff file _ _).mpr ⟨_,_,is_request,valid,rfl⟩

private theorem foldl_headers (es : List (Text × Text)) (r : Route) :
    (es.map fun e => HeadLine.header e.1 e.2).foldl applyHeadLine r =
      r.answering r.status (es.foldl (fun h e => h.insert e.1 e.2) r.headers) r.body := by
  induction es generalizing r with
  | nil => rfl
  | cons e es ih =>
    rw [List.map_cons,List.foldl_cons,ih]
    rfl

private theorem plain_head (file : Text) (r : Route) (headed : Headed file r) :
    ∀ l ∈ headLines r, Plain l := by
  refine List.forall_mem_cons.mpr ⟨plain_headerText _ _ (by decide) statusHeader_token,fun l member => ?_⟩
  obtain ⟨e,present,rfl⟩ := List.mem_map.mp member
  have is_name := (headed.headers e present).1
  exact plain_headerText e.1 e.2 is_name.nonempty is_name.token

private theorem plain_request (file : Text) (r : Route) (headed : Headed file r) :
    Plain (requestText r.method r.url) := by
  obtain ⟨nonempty,word⟩ := headed.method
  refine plain_append r.method _ nonempty (fun c member => Text.isBlank_of_isWord c (word c member)) ?_
  exact fun sign => absurd (word '#' sign) (by decide)

private theorem ofText_head (file : Text) (r : Route) (headed : Headed file r) :
    (headLines r).map HeadLine.ofText =
      .status r.status :: r.headers.entries.map fun e => .header e.1 e.2 := by
  rw [headLines,List.map_cons,ofText_status r.status headed.status.1 headed.status.2,List.map_map]
  refine congrArg (HeadLine.status r.status :: ·) (List.map_congr_left fun e member => ?_)
  exact ofText_header e.1 e.2 (headed.headers e member).1 (headed.headers e member).2

private theorem route_printed (file : Text) (r : Route) (printable : Printable file r) (d : Definition) (n : Nat)
    (request : d.request = ⟨n, requestText r.method r.url⟩)
    (head : d.head.map Line.text = headLines r)
    (body : d.body.map Line.text = Text.splitOn '\n' r.body) : route file d = .ok r := by
  have readings : (d.head.map fun l => HeadLine.ofText l.text) =
      .status r.status :: r.headers.entries.map fun e => .header e.1 e.2 := by
    rw [← ofText_head file r printable.toHeaded,← head,List.map_map]
    rfl
  have inserted := HeaderList.foldl_insert_of_distinct r.headers.entries [] printable.distinct
  have folded (start : Route) (fresh : start.headers = .empty) :
      (d.head.map fun l => HeadLine.ofText l.text).foldl applyHeadLine start =
        start.answering r.status r.headers start.body := by
    rw [readings,List.foldl_cons,foldl_headers]
    change (start.answering r.status _ start.body) = _
    rw [show (applyHeadLine start (.status r.status)).headers = ⟨[]⟩ from fresh,inserted]
    rfl
  have same : (Route.make r.file r.method r.url).answering r.status r.headers r.body = r :=
    printable.compiled
  unfold route
  rw [request,startRoute_printed file n r printable.toHeaded,
    bodyText_splitOn r.body d.body body printable.body_end]
  simp only [Except.map,folded _ (rfl : (Route.make file r.method r.url).headers = .empty)]
  rw [← printable.file_name]
  exact congrArg Except.ok same

private theorem ofPart_routeLines (file : Text) (r : Route) (printable : Printable file r) (n : Nat) :
    ∃ d, ofPart? (Line.numberedFrom n (routeLines r)) = some d ∧ route file d = .ok r := by
  have request := plain_request file r printable.toHeaded
  have head := plain_head file r printable.toHeaded
  have visible : ∀ l ∈ Line.numberedFrom (n + 1) (headLines r), Line.isBlank l.text = false :=
    fun l member => (head l.text (text_mem_of_mem_numberedFrom _ _ l member)).not_blank
  have written : Line.numberedFrom n (routeLines r) = ⟨n, requestText r.method r.url⟩ ::
      (Line.numberedFrom (n + 1) (headLines r) ++ ⟨n + 1 + (headLines r).length, []⟩ ::
        Line.numberedFrom (n + 1 + (headLines r).length + 1) (Text.splitOn '\n' r.body)) := by
    rw [routeLines,Line.numberedFrom,numberedFrom_append,Line.numberedFrom]
  refine ⟨⟨⟨n, requestText r.method r.url⟩,Line.numberedFrom (n + 1) (headLines r),
    Line.numberedFrom (n + 1 + (headLines r).length + 1) (Text.splitOn '\n' r.body)⟩,?_,?_⟩
  · rw [written,ofPart_eq_some_iff]
    exact ⟨[],_,rfl,by simp,by simp [Line.isIdle,request.not_blank,request.not_comment],visible,.inr ⟨_,rfl,rfl⟩⟩
  · exact route_printed file r printable _ n rfl (text_numberedFrom _ _) (text_numberedFrom _ _)

private theorem routeLines_inner (file : Text) (r : Route) (printable : Printable file r) (n : Nat) :
    ∀ l ∈ Line.numberedFrom n (routeLines r), Line.isSeparator l.text = false := by
  intro l member
  rcases List.mem_cons.mp (text_mem_of_mem_numberedFrom n _ l member) with request | later
  · rw [request]
    exact (plain_request file r printable.toHeaded).not_separator
  · rcases List.mem_append.mp later with head | body
    · exact (plain_head file r printable.toHeaded l.text head).not_separator
    · rcases List.mem_cons.mp body with gap | inside
      · rw [gap]
        rfl
      · exact printable.body l.text inside

private theorem definitions_printed (file : Text) (rs : List Route) (nonempty : rs ≠ [])
    (printable : ∀ r ∈ rs, Printable file r) (n : Nat) :
    ((parts (Line.numberedFrom n ([['#', '#', '#']].intercalate (rs.map routeLines)))).filterMap
      ofPart?).mapM (route file) = .ok rs := by
  induction rs generalizing n with
  | nil => exact absurd rfl nonempty
  | cons r rs ih =>
    have first := printable r List.mem_cons_self
    obtain ⟨d,found,ok⟩ := ofPart_routeLines file r first n
    have inner := routeLines_inner file r first n
    cases rs with
    | nil =>
      rw [List.map_cons,List.map_nil,List.intercalate_singleton,parts_of_no_separator _ inner]
      simp [found,ok]
    | cons s rs =>
      have rest := ih (by simp) (fun x member => printable x (List.mem_cons_of_mem r member))
        (n + (routeLines r).length + 1)
      rw [List.map_cons] at rest
      rw [List.map_cons,List.map_cons,List.intercalate_cons_cons,List.append_assoc,numberedFrom_append,
        List.singleton_append,Line.numberedFrom,parts_append_separator _ _ _ inner rfl,
        List.filterMap_cons_some found,Outcome.mapM_cons,ok,rest]
      rfl

private theorem feed_not_mem_headerText (name value : Text) (token : ∀ c ∈ name, isHeaderNameChar c = true)
    (one_line : '\n' ∉ value) : '\n' ∉ headerText name value := by
  intro member
  rcases List.mem_append.mp member with in_name | later
  · exact absurd (token '\n' in_name) (by decide)
  · simp [one_line] at later

private theorem feed_not_mem_routeLines (file : Text) (r : Route) (printable : Printable file r) :
    ∀ l ∈ routeLines r, '\n' ∉ l := by
  intro l member feed
  rcases List.mem_cons.mp member with rfl | later
  · rcases List.mem_append.mp feed with in_method | in_url
    · exact absurd (printable.method.2 '\n' in_method) (by decide)
    · rcases List.mem_cons.mp in_url with equal | in_url
      · exact absurd equal (by decide)
      · exact absurd (printable.url.2 '\n' in_url) (by decide)
  · rcases List.mem_append.mp later with head | body
    · rcases List.mem_cons.mp head with rfl | inside
      · refine feed_not_mem_headerText statusHeader _ statusHeader_token (fun digit => ?_) feed
        exact absurd (Text.isDigit_of_mem_ofNat r.status '\n' digit) (by decide)
      · obtain ⟨e,present,rfl⟩ := List.mem_map.mp inside
        obtain ⟨is_name,is_value⟩ := printable.headers e present
        exact feed_not_mem_headerText e.1 e.2 is_name.token is_value.one_line feed
    · rcases List.mem_cons.mp body with rfl | inside
      · exact List.not_mem_nil feed
      · exact Text.not_mem_of_mem_splitOn '\n' r.body l inside feed

private theorem print_not_blank (file : Text) (rs : List Route) (nonempty : rs ≠ [])
    (printable : ∀ r ∈ rs, Printable file r) : Text.allBlank (print rs) = false := by
  obtain ⟨r,rest,rfl⟩ := List.exists_cons_of_ne_nil nonempty
  obtain ⟨some_method,word⟩ := (printable r List.mem_cons_self).method
  obtain ⟨c,cs,method⟩ := List.exists_cons_of_ne_nil some_method
  have visible : Text.isBlank c = false := Text.isBlank_of_isWord c (word c (by simp [method]))
  have first : ∃ later, [['#', '#', '#']].intercalate ((r :: rest).map routeLines) =
      requestText r.method r.url :: later := by
    cases rest with
    | nil => exact ⟨_,by rw [List.map_cons,List.map_nil,List.intercalate_singleton,routeLines]⟩
    | cons s rest =>
      exact ⟨_,by rw [List.map_cons,List.map_cons,List.intercalate_cons_cons,routeLines]; rfl⟩
  obtain ⟨later,lines⟩ := first
  unfold print
  rw [lines,Text.ofLines,List.flatMap_cons,requestText,method]
  simp [Text.allBlank,visible]

/-- A printed file reads back as the routes that were printed. -/
theorem routes_print (file : Text) (rs : List Route) (nonempty : rs ≠ [])
    (printable : ∀ r ∈ rs, Printable file r) : routes file (print rs) = .ok rs := by
  have lines : Text.lines (print rs) = [['#', '#', '#']].intercalate (rs.map routeLines) := by
    refine Text.lines_ofLines _ fun l member => ?_
    rcases Text.mem_intercalate _ _ l member with separator | ⟨piece,present,inside⟩
    · rw [List.mem_singleton.mp separator]
      decide
    · obtain ⟨r,known,rfl⟩ := List.mem_map.mp present
      exact feed_not_mem_routeLines file r (printable r known) l inside
  unfold routes ofText Line.ofText
  rw [print_not_blank file rs nonempty printable,lines]
  exact definitions_printed file rs nonempty printable 1

end Reading

/-- Printing what was read and reading it again gives the same routes, and every route that was read
can be printed. -/
theorem routes_print_routes (file content : Text) (rs : List Route)
    (read : routes file content = .ok rs) (nonempty : rs ≠ []) :
    routes file (print rs) = .ok rs ∧ ∀ r ∈ rs, Printable file r := by
  have printable := printable_routes file content rs read
  exact ⟨routes_print file rs nonempty printable,printable⟩

/-- Two definitions under a title, with a header given twice, a status overridden twice over, a lone
carriage return in a value and in the body, and blank lines at the end. -/
def titledFile : Text :=
  "# first\r\nGET  /a/\x7b\x7bid\x7d\x7d?Q=%7B\nX-A: 1\nHTTP/1.1 404 Not Found\nx-a:  b\rc \n".toList ++
    "Status-Code: 99\n\n one\r\r\n\n# two\n \n### next\nPOST h:80\n".toList

theorem routes_print_routes_titled : ∃ rs, rs.length = 2 ∧ routes "a.http".toList titledFile = .ok rs ∧
    (rs.map fun r => (r.method,r.url)) =
      [("GET".toList,"/a/\x7b\x7bid\x7d\x7d?Q=%7B".toList),("POST".toList,"h:80".toList)] ∧
    (rs.map fun r => (r.status,r.headers.entries,r.body)) =
      [(404,[("X-A".toList,"b\rc".toList)]," one\r\n\n# two".toList),(200,[],[])] ∧
    routes "a.http".toList (print rs) = .ok rs ∧ ∀ r ∈ rs, Printable "a.http".toList r := by
  let first := Route.make "a.http".toList "GET".toList "/a/\x7b\x7bid\x7d\x7d?Q=%7B".toList
  let second := Route.make "a.http".toList "POST".toList "h:80".toList
  have read : routes "a.http".toList titledFile =
      .ok [first.answering 404 ⟨[("X-A".toList, "b\rc".toList)]⟩ " one\r\n\n# two".toList,second] := by
    decide +kernel
  obtain ⟨again,printable⟩ := routes_print_routes _ _ _ read (by decide)
  exact ⟨_,rfl,read,rfl,rfl,again,printable⟩

end CannedHttp.Definition
