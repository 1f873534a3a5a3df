import CannedHttp.Proofs.Url

/-!
The grammar of URLs that name a host. None of the characters that end a part occurs inside it, so the
text of a URL fixes its parts, and reading accepts exactly what the grammar writes.
-/
namespace CannedHttp
open Query (Marked)

/-- A URL that names a host, part by part as it is written. -/
structure HostUrl where
  scheme : Text
  host : Text
  port : Text
  path : Text
  query : Text

namespace HostUrl

def written (p : HostUrl) : Text :=
  p.scheme ++ (p.host ++ p.port ++ (p.path ++ p.query))

/-- What is read: the port stays with the host, and a missing path is the root. -/
def url (p : HostUrl) : Url where
  host? := some (p.host ++ p.port)
  path := if p.path.isEmpty then ['/'] else p.path
  query := p.query

def schemes : List Text :=
  [[], "http://".toList, "https://".toList]

def HostName (t : Text) : Prop :=
  (∀ c ∈ t, c.isAlphanum = true ∨ c = '.' ∨ c = '-') ∧
    (∃ c, t.head? = some c ∧ c.isAlphanum = true) ∧ ∃ c, t.getLast? = some c ∧ c.isAlphanum = true

def HostVariable (t : Text) : Prop :=
  ∃ name, Placeholder.isName name = true ∧ t = '{' :: '{' :: name ++ ['}', '}']

def Host (t : Text) : Prop :=
  HostName t ∨ HostVariable t

def Port (t : Text) : Prop :=
  t = [] ∨ ∃ digits, t = ':' :: digits ∧ (∀ c ∈ digits, c.isDigit = true) ∧
    1 ≤ digits.length ∧ digits.length ≤ 5

def Path (t : Text) : Prop :=
  t = [] ∨ ∃ rest, t = '/' :: rest ∧ '?' ∉ rest ∧ '#' ∉ rest

def Query (t : Text) : Prop :=
  t = [] ∨ ∃ rest, t = '?' :: rest ∧ '#' ∉ rest

structure WellFormed (p : HostUrl) : Prop where
  scheme : p.scheme ∈ schemes
  host : Host p.host
  port : Port p.port
  path : Path p.path
  query : Query p.query

end HostUrl

namespace Url
open HostUrl

section Recognising
variable (t : Text)

theorem isHostName_iff : isHostName t = true ↔ HostName t := by
  simp [isHostName,HostName,isHostChar,Option.any_eq_true,or_assoc,and_assoc]

theorem inUrl_eq_some_iff (name : Text) : Placeholder.inUrl? t = some name ↔
    Placeholder.isName name = true ∧ t = '{' :: '{' :: name ++ ['}', '}'] := by
  simp only [Placeholder.inUrl?,Placeholder.name?,Option.filter_eq_some_iff,Option.bind_eq_some_iff,
    Text.dropStart?,Text.dropEnd?,List.isPrefixOf?_eq_some_iff_append_eq,
    List.isSuffixOf?_eq_some_iff_append_eq]
  constructor
  · rintro ⟨⟨rest,rfl,rfl⟩,named⟩
    simp [named]
  · rintro ⟨named,rfl⟩
    exact ⟨⟨name ++ ['}','}'],by simp,rfl⟩,named⟩

theorem isHost_iff : isHost t = true ↔ Host t := by
  simp [isHost,Host,isHostName_iff,HostVariable,Option.isSome_iff_exists,inUrl_eq_some_iff]

theorem isPort_iff : isPort t = true ↔ Port t := by
  cases t with
  | nil => simp [isPort,Port]
  | cons c digits =>
    simp only [isPort,Port,Bool.and_eq_true,beq_iff_eq,List.all_eq_true,decide_eq_true_eq]
    constructor
    · rintro ⟨⟨⟨rfl,digital⟩,some_digit⟩,few⟩
      refine .inr ⟨digits,rfl,digital,?_,few⟩
      exact List.length_pos_iff.mpr (by simpa using some_digit)
    · rintro (absent | ⟨known,same,digital,some_digit,few⟩)
      · contradiction
      · obtain ⟨rfl,rfl⟩ := List.cons.inj same
        exact ⟨⟨⟨rfl,digital⟩,by simpa using List.length_pos_iff.mp some_digit⟩,few⟩

end Recognising

section Marks

private theorem mark_apart : ∀ c ∈ [':', '/', '?', '#'],
    ¬(c.isAlphanum = true ∨ c ∈ ['.', '-', '_', '\x7b', '\x7d']) := by
  simp

theorem mem_host (t : Text) (host : Host t) (c : Char) (member : c ∈ t) :
    c.isAlphanum = true ∨ c ∈ ['.', '-', '_', '\x7b', '\x7d'] := by
  rcases host with ⟨allowed,_⟩ | ⟨name,named,rfl⟩
  · rcases allowed c member with letter | rfl | rfl
    · exact .inl letter
    · simp
    · simp
  · simp only [Placeholder.isName,Placeholder.isNameChar,Bool.and_eq_true,List.all_eq_true,
      Bool.or_eq_true,beq_iff_eq] at named
    simp only [List.cons_append,List.mem_cons,List.mem_append,List.not_mem_nil,or_false] at member
    rcases member with rfl | rfl | inside | rfl | rfl
    · simp
    · simp
    · rcases named.2 c inside with letter | rfl
      · exact .inl letter
      · simp
    · simp
    · simp

/-- No character of a host ends it. -/
theorem not_mem_host (t : Text) (host : Host t) (c : Char) (mark : c ∈ [':', '/', '?', '#']) : c ∉ t :=
  fun member => mark_apart c mark (mem_host t host c member)

theorem not_mem_port (t : Text) (port : Port t) (c : Char) (mark : c ∈ ['/', '?', '#']) : c ∉ t := by
  intro member
  have apart : ∀ c ∈ ['/', '?', '#'], ¬(c = ':' ∨ c.isDigit = true) := by simp
  apply apart c mark
  rcases port with rfl | ⟨digits,rfl,digital,_⟩
  · simp at member
  · exact (List.mem_cons.mp member).imp_right (digital c)

end Marks

/-- What ends the host and its port. -/
def endsAuthority (c : Char) : Bool :=
  c == '/' || c == '?' || c == '#'

private theorem ofHostForm_eq (t : Text) : ofHostForm? t =
    if isHost (Text.cut (· == ':') (Text.cut endsAuthority (dropScheme t)).1).1 &&
        isPort (Text.cut (· == ':') (Text.cut endsAuthority (dropScheme t)).1).2 &&
        !(Text.cut endsAuthority (dropScheme t)).2.contains '#' then
      some ⟨some (Text.cut endsAuthority (dropScheme t)).1,
        if (splitQuery (Text.cut endsAuthority (dropScheme t)).2).1.isEmpty then ['/']
          else (splitQuery (Text.cut endsAuthority (dropScheme t)).2).1,
        (splitQuery (Text.cut endsAuthority (dropScheme t)).2).2⟩
    else none := rfl

section Cutting
variable (p : HostUrl) (wellFormed : p.WellFormed)
include wellFormed

theorem path_of_wellFormed : '?' ∉ p.path ∧ '#' ∉ p.path := by
  rcases wellFormed.path with absent | ⟨rest,same,unmarked,clean⟩
  · simp [absent]
  · simp [same,unmarked,clean]

theorem query_of_wellFormed : Marked p.query ∧ '#' ∉ p.query := by
  rcases wellFormed.query with absent | ⟨rest,same,clean⟩
  · simp [absent,Marked]
  · simp [same,clean,Marked]

private theorem cut_host : Text.cut (· == ':') (p.host ++ p.port) = (p.host, p.port) := by
  have inside := not_mem_host p.host wellFormed.host ':' (by simp)
  rcases wellFormed.port with absent | ⟨digits,same,_⟩
  · rw [absent,List.append_nil]
    exact Text.cut_of_not_mem ':' p.host inside
  · rw [same]
    exact Text.cut_separator ':' p.host digits inside

private theorem cut_authority :
    Text.cut endsAuthority (p.host ++ p.port ++ (p.path ++ p.query)) =
      (p.host ++ p.port, p.path ++ p.query) := by
  have inside : ∀ c ∈ p.host ++ p.port, endsAuthority c = false := by
    intro c member
    have apart (mark : Char) (known : mark ∈ ['/', '?', '#']) : c ≠ mark := by
      rintro rfl
      rcases List.mem_append.mp member with inside | inside
      · exact not_mem_host p.host wellFormed.host c (List.mem_cons_of_mem _ known) inside
      · exact not_mem_port p.port wellFormed.port c known inside
    simp [endsAuthority,apart]
  rcases wellFormed.path with absent | ⟨rest,same,_⟩
  · rcases wellFormed.query with empty | ⟨items,same,_⟩
    · simp [absent,empty,Text.cut_of_forall _ _ inside]
    · rw [absent,same]
      exact Text.cut_append_cons _ _ items '?' inside (by decide)
  · rw [same]
    exact Text.cut_append_cons _ _ (rest ++ p.query) '/' inside (by decide)

/-- A port has digits, so a host and what follows it do not begin with a scheme. -/
private theorem no_scheme (s : Text) (plain : ∀ c ∈ s, c ∉ [':', '/', '?', '#']) :
    Text.dropStart? (s ++ [':', '/', '/']) (p.host ++ p.port ++ (p.path ++ p.query)) = none := by
  apply Option.eq_none_iff_forall_not_mem.mpr
  intro rest found
  have same := (Text.dropStart_eq_some_iff _ _ rest).mp found
  have whole := cut_authority p wellFormed
  have inside : ∀ c ∈ s ++ [':'], endsAuthority c = false := by
    intro c member
    rcases List.mem_append.mp member with letter | colon
    · have apart := plain c letter
      simp only [List.mem_cons,not_or] at apart
      simp [endsAuthority,apart]
    · obtain rfl := List.mem_singleton.mp colon
      decide
  have cut := Text.cut_append_cons endsAuthority (s ++ [':']) ('/' :: rest) '/' inside (by decide)
  have shifted : s ++ [':', '/', '/'] ++ rest = s ++ [':'] ++ '/' :: '/' :: rest := by simp
  rw [same,shifted,cut] at whole
  have authority : s ++ [':'] = p.host ++ p.port := (Prod.mk.inj whole).1
  have parts := cut_host p wellFormed
  have no_colon : ':' ∉ s := fun member => plain ':' member (by simp)
  rw [← authority,Text.cut_separator ':' s [] no_colon] at parts
  have port : [':'] = p.port := (Prod.mk.inj parts).2
  rcases wellFormed.port with absent | ⟨digits,known,_,some_digit,_⟩
  · simp [absent] at port
  · rw [known] at port
    have empty : [] = digits := (List.cons.inj port).2
    simp [← empty] at some_digit

private theorem dropScheme_written : dropScheme p.written = p.host ++ p.port ++ (p.path ++ p.query) := by
  have known := wellFormed.scheme
  simp only [schemes,List.mem_cons,List.not_mem_nil,or_false] at known
  unfold dropScheme written
  rcases known with bare | plain | secure
  · have no_plain : Text.dropStart? "http://".toList (p.host ++ p.port ++ (p.path ++ p.query)) = none :=
      no_scheme p wellFormed "http".toList (by simp)
    have no_secure : Text.dropStart? "https://".toList (p.host ++ p.port ++ (p.path ++ p.query)) = none :=
      no_scheme p wellFormed "https".toList (by simp)
    rw [bare,List.nil_append,no_plain,no_secure]
    rfl
  · rw [plain,Text.dropStart_append]
    rfl
  · -- the shorter scheme ends where the longer one has its last letter
    have shorter : Text.dropStart? "http://".toList
        ("https://".toList ++ (p.host ++ p.port ++ (p.path ++ p.query))) = none := rfl
    rw [secure,shorter,Text.dropStart_append]
    rfl

private theorem ofHostForm_written : ofHostForm? p.written = some p.url := by
  obtain ⟨unmarked,clean_path⟩ := path_of_wellFormed p wellFormed
  obtain ⟨marked,clean_query⟩ := query_of_wellFormed p wellFormed
  have host := (isHost_iff p.host).mpr wellFormed.host
  have port := (isPort_iff p.port).mpr wellFormed.port
  rw [ofHostForm_eq,dropScheme_written p wellFormed,cut_authority p wellFormed]
  simp only [cut_host p wellFormed,splitQuery_append p.path p.query unmarked marked]
  simp [host,port,clean_path,clean_query,url]

end Cutting

private theorem scheme_dropScheme (t : Text) : ∃ scheme ∈ schemes, scheme ++ dropScheme t = t := by
  unfold dropScheme
  cases plain : Text.dropStart? "http://".toList t with
  | some rest =>
    refine ⟨"http://".toList,by simp [schemes],?_⟩
    exact ((Text.dropStart_eq_some_iff _ _ rest).mp plain).symm
  | none =>
    cases secure : Text.dropStart? "https://".toList t with
    | some rest =>
      refine ⟨"https://".toList,by simp [schemes],?_⟩
      exact ((Text.dropStart_eq_some_iff _ _ rest).mp secure).symm
    | none => exact ⟨[],by simp [schemes],rfl⟩

/-- What follows the host splits into a path and a query. -/
theorem path_of_rest (t : Text) (clean : '#' ∉ (Text.cut endsAuthority t).2) :
    HostUrl.Path (splitQuery (Text.cut endsAuthority t).2).1 := by
  cases rest : (Text.cut endsAuthority t).2 with
  | nil => exact .inl rfl
  | cons c cs =>
    have first := Text.cut_rest endsAuthority t cs c rest
    have inside := Text.forall_mem_cut (· == '?') cs
    have part : ∀ d ∈ (Text.cut (· == '?') cs).1, d ∈ cs := fun d member => List.takeWhile_subset _ member
    rw [rest,List.mem_cons,not_or] at clean
    simp only [endsAuthority,Bool.or_eq_true,beq_iff_eq] at first
    rcases first with (rfl | rfl) | rfl
    · refine .inr ⟨(Text.cut (· == '?') cs).1,by simp [splitQuery,Text.cut],?_,?_⟩
      · intro member
        simpa using inside '?' member
      · exact fun member => clean.2 (part '#' member)
    · exact .inl (by simp [splitQuery,Text.cut])
    · exact absurd rfl clean.1

theorem query_of_rest (rest : Text) (clean : '#' ∉ rest) : HostUrl.Query (splitQuery rest).2 := by
  have part : ∀ d ∈ (splitQuery rest).2, d ∈ rest := fun d member => (List.dropWhile_sublist _).subset member
  rcases splitQuery_marked rest with absent | ⟨items,same⟩
  · exact .inl absent
  · refine .inr ⟨items,same,?_⟩
    intro member
    exact clean (part '#' (by simp [same,member]))

private theorem written_of_ofHostForm (t : Text) (u : Url) (ok : ofHostForm? t = some u) :
    ∃ p : HostUrl, p.WellFormed ∧ p.written = t ∧ u = p.url := by
  rw [ofHostForm_eq,Option.ite_none_right_eq_some] at ok
  obtain ⟨accepted,same⟩ := ok
  simp only [Bool.and_eq_true,Bool.not_eq_true',List.contains_eq_mem,decide_eq_false_iff_not] at accepted
  obtain ⟨⟨host,port⟩,clean⟩ := accepted
  obtain ⟨scheme,known,whole⟩ := scheme_dropScheme t
  have authority := Text.append_cut endsAuthority (dropScheme t)
  have parts := Text.append_cut (· == ':') (Text.cut endsAuthority (dropScheme t)).1
  have rest := Text.append_cut (· == '?') (Text.cut endsAuthority (dropScheme t)).2
  refine ⟨⟨scheme,_,_,_,_⟩,⟨known,(isHost_iff _).mp host,(isPort_iff _).mp port,
    path_of_rest (dropScheme t) clean,query_of_rest _ clean⟩,?_,?_⟩
  · rw [written]
    dsimp only [splitQuery]
    rw [parts,rest,authority,whole]
  · rw [← Option.some.inj same,url]
    dsimp only
    rw [parts]

/-- Texts of the grammar fall apart in one way. -/
theorem written_injective (p q : HostUrl) (left : p.WellFormed) (right : q.WellFormed)
    (same : p.written = q.written) : p = q := by
  have rest : p.host ++ p.port ++ (p.path ++ p.query) = q.host ++ q.port ++ (q.path ++ q.query) := by
    rw [← dropScheme_written p left,same,dropScheme_written q right]
  have scheme : p.scheme = q.scheme := by
    rw [written,written,rest] at same
    exact (List.append_left_inj _).mp same
  have authority := cut_authority p left
  rw [rest,cut_authority q right] at authority
  obtain ⟨names,remaining⟩ := Prod.mk.inj authority
  have host := cut_host p left
  rw [← names,cut_host q right] at host
  have path := splitQuery_append p.path p.query (path_of_wellFormed p left).1 (query_of_wellFormed p left).1
  rw [← remaining,splitQuery_append q.path q.query (path_of_wellFormed q right).1
    (query_of_wellFormed q right).1] at path
  cases p
  cases q
  simp_all

private theorem host_not_empty (t : Text) (host : Host t) : t ≠ [] := by
  rintro rfl
  rcases host with ⟨_,⟨c,first,_⟩,_⟩ | ⟨name,_,same⟩
  · simp at first
  · simp at same

theorem head_written (p : HostUrl) (wellFormed : p.WellFormed) : p.written.head? ≠ some '/' := by
  intro slash
  obtain ⟨c,cs,host⟩ := List.exists_cons_of_ne_nil (host_not_empty p.host wellFormed.host)
  have known := wellFormed.scheme
  simp only [schemes,List.mem_cons,List.not_mem_nil,or_false] at known
  rcases known with bare | plain | secure
  · obtain rfl : c = '/' := by simpa [written,bare,host] using slash
    exact not_mem_host p.host wellFormed.host '/' (by simp) (by simp [host])
  · simp [written,plain] at slash
  · simp [written,secure] at slash

section Parsing
variable (t : Text)

theorem readable_of_parse (u : Url) (ok : parse? t = some u) : t ≠ [] ∧ ∀ c ∈ t, Text.isBlank c = false := by
  rw [parse?,Option.ite_none_left_eq_some] at ok
  simpa using ok.1

theorem parse_of_readable (nonempty : t ≠ []) (visible : ∀ c ∈ t, Text.isBlank c = false) : parse? t =
    if t.head? = some '/' then some ⟨none,(splitQuery t).1,(splitQuery t).2⟩ else ofHostForm? t := by
  rw [parse?,if_neg (by simpa [nonempty] using visible)]

theorem splitQuery_eq_iff (path query : Text) :
    splitQuery t = (path, query) ↔ path = t.takeWhile (· != '?') ∧ path ++ query = t := by
  have whole := Text.append_cut (· == '?') t
  constructor
  · intro split
    rw [splitQuery] at split
    rw [split] at whole
    exact ⟨(congrArg Prod.fst split).symm,whole⟩
  · rintro ⟨first,joined⟩
    have path_same : (splitQuery t).1 = path := first.symm
    have query_same : (splitQuery t).2 = query := by
      apply (List.append_right_inj path).mp
      rw [joined,← path_same]
      exact whole
    exact Prod.ext path_same query_same

theorem parse_eq_some_iff (u : Url) : parse? t = some u ↔ t ≠ [] ∧ (∀ c ∈ t, Text.isBlank c = false) ∧
    (t.head? = some '/' ∧ u.host? = none ∧ u.path = t.takeWhile (· != '?') ∧ u.path ++ u.query = t ∨
      ∃ p : HostUrl, p.WellFormed ∧ p.written = t ∧ u = p.url) := by
  constructor
  · intro ok
    obtain ⟨nonempty,visible⟩ := readable_of_parse t u ok
    refine ⟨nonempty,visible,?_⟩
    rw [parse_of_readable t nonempty visible] at ok
    split at ok
    next slash =>
      obtain rfl := Option.some.inj ok
      exact .inl ⟨slash,rfl,(splitQuery_eq_iff t _ _).mp rfl⟩
    next => exact .inr (written_of_ofHostForm t u ok)
  · rintro ⟨nonempty,visible,⟨slash,no_host,parts⟩ | ⟨p,wellFormed,rfl,rfl⟩⟩
    · have split := (splitQuery_eq_iff t u.path u.query).mpr parts
      rw [parse_of_readable t nonempty visible,if_pos slash,split,← no_host]
    · rw [parse_of_readable _ nonempty visible,if_neg (head_written p wellFormed)]
      exact ofHostForm_written p wellFormed

private theorem path_of_parse (u : Url) (ok : parse? t = some u) : u.path.head? = some '/' ∧ '?' ∉ u.path := by
  obtain ⟨_,_,⟨slash,_,first,_⟩ | ⟨p,wellFormed,_,rfl⟩⟩ := (parse_eq_some_iff t u).mp ok
  · obtain ⟨rest,rfl⟩ := List.head?_eq_some_iff.mp slash
    constructor
    · simp [first]
    · intro member
      rw [first] at member
      simpa using Text.forall_mem_cut (· == '?') ('/' :: rest) '?' member
  · rcases wellFormed.path with absent | ⟨rest,same,unmarked,_⟩
    · simp [url,absent]
    · simp [url,same,unmarked]

/-- A text is a URL if it is visible and either begins with a slash, which splits it at its first question
mark, or is written by the grammar, which then fixes its parts. A path is always absolute and without a
question mark, and a query absent or marked. -/
theorem parse_grammar :
    (∀ u, parse? t = some u ↔ t ≠ [] ∧ (∀ c ∈ t, Text.isBlank c = false) ∧
      (t.head? = some '/' ∧ u.host? = none ∧ u.path = t.takeWhile (· != '?') ∧ u.path ++ u.query = t ∨
        ∃ p : HostUrl, p.WellFormed ∧ p.written = t ∧ u = p.url)) ∧
    (∀ p : HostUrl, p.WellFormed → p.written = t →
      t.head? ≠ some '/' ∧ ∀ q : HostUrl, q.WellFormed → q.written = t → q = p) ∧
    ∀ u, parse? t = some u →
      u.path.head? = some '/' ∧ '?' ∉ u.path ∧ (u.query = [] ∨ u.query.head? = some '?') := by
  refine ⟨parse_eq_some_iff t,?_,?_⟩
  · intro p wellFormed same
    refine ⟨same ▸ head_written p wellFormed,?_⟩
    intro q other known
    exact written_injective q p other wellFormed (known.trans same.symm)
  · intro u ok
    obtain ⟨absolute,unmarked⟩ := path_of_parse t u ok
    refine ⟨absolute,unmarked,?_⟩
    rcases query_of_parse t u ok with absent | ⟨items,marked⟩
    · exact .inl absent
    · simp [marked]

end Parsing

/-- A URL with all parts. -/
def fullUrl : HostUrl where
  scheme := "https://".toList
  host := "\x7b\x7bhost\x7d\x7d".toList
  port := ":8080".toList
  path := "/pets".toList
  query := "?kind=cat".toList

theorem parse_grammar_full :
    fullUrl.WellFormed ∧ parse? "https://\x7b\x7bhost\x7d\x7d:8080/pets?kind=cat".toList = some fullUrl.url ∧
      ∀ q : HostUrl, q.WellFormed →
        q.written = "https://\x7b\x7bhost\x7d\x7d:8080/pets?kind=cat".toList → q = fullUrl := by
  have wellFormed : fullUrl.WellFormed :=
    { scheme := by decide
      host := (isHost_iff _).mp (by decide)
      port := (isPort_iff _).mp (by decide)
      path := .inr ⟨"pets".toList,rfl,by decide,by decide⟩
      query := .inr ⟨"kind=cat".toList,rfl,by decide⟩ }
  obtain ⟨forms,unique,_⟩ := parse_grammar "https://\x7b\x7bhost\x7d\x7d:8080/pets?kind=cat".toList
  refine ⟨wellFormed,?_,(unique fullUrl wellFormed rfl).2⟩
  exact (forms fullUrl.url).mpr ⟨by decide,Text.visible_of_all _ (by decide),.inr ⟨fullUrl,wellFormed,rfl,rfl⟩⟩

end Url
end CannedHttp
