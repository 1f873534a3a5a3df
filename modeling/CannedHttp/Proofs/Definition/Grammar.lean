import CannedHttp.Definition.Line
import CannedHttp.Proofs.Text.Numbers
import CannedHttp.Proofs.Text.Splitting

/-!
The grammar of lines. Request lines, status lines and header lines are described by the texts they are made
of, and reading a line gives exactly what its description says.
-/
namespace CannedHttp.Definition

/-- A run of characters of one class, not empty. -/
def Run (p : Char → Bool) (t : Text) : Prop :=
  t ≠ [] ∧ ∀ c ∈ t, p c = true

def Ends (p : Char → Bool) (rest : Text) : Prop :=
  ∀ c, rest.head? = some c → p c = false

/-- Word characters, blanks, and a URL up to the next blank or the end. -/
def IsRequest (t method url : Text) : Prop :=
  ∃ gap rest, t = method ++ (gap ++ (url ++ rest)) ∧ Run Text.isWord method ∧ Run Text.isBlank gap ∧
    Run (fun c => !Text.isBlank c) url ∧ Ends (fun c => !Text.isBlank c) rest

def IsVersion (t : Text) : Prop :=
  ∃ d, Text.isDecimalDigit d = true ∧
    (t = [d] ∨ ∃ e, Text.isDecimalDigit e = true ∧ t = [d, '.', e])

/-- `HTTP/`, a version, blanks, and three ASCII digits with no word character after them. -/
def IsStatusLine (t : Text) (code : Nat) : Prop :=
  ∃ version gap digits rest, t = "HTTP/".toList ++ (version ++ (gap ++ (digits ++ rest))) ∧
    IsVersion version ∧ Run Text.isBlank gap ∧ digits.length = 3 ∧ Run Char.isDigit digits ∧
    Ends Text.isWord rest ∧ code = Nat.ofDigitChars 10 digits 0

/-- ASCII digits with an optional plus sign. -/
def IsNumeral (t : Text) (code : Nat) : Prop :=
  ∃ digits, (t = digits ∨ t = '+' :: digits) ∧ Run Char.isDigit digits ∧ code = Nat.ofDigitChars 10 digits 0

/-- A name, a colon with or without blanks before it, and a value, which is trimmed. -/
def IsHeader (t name value : Text) : Prop :=
  ∃ gap written, t = name ++ (gap ++ ':' :: written) ∧ Run isHeaderNameChar name ∧
    (∀ c ∈ gap, Text.isBlank c = true) ∧ value = Text.trim written

def Usable (code : Nat) : Prop :=
  100 ≤ code ∧ code ≤ 999

/-- The line is a status line, or a header line with the status header and a status line or a number as its
value. -/
def GivesStatus (line : Text) (code : Nat) : Prop :=
  (IsStatusLine (Text.trim line) code ∨
    ∃ name value, IsHeader (Text.trim line) name value ∧ Text.sameIgnoringCase name statusHeader = true ∧
      (IsStatusLine value code ∨ IsNumeral value code)) ∧ Usable code

section Runs
variable {p q : Char → Bool}

private theorem Run.ends {t : Text} (run : Run q t) (rest : Text) (apart : ∀ c, q c = true → p c = false) :
    Ends p (t ++ rest) := by
  obtain ⟨nonempty,inside⟩ := run
  obtain ⟨d,ds,rfl⟩ := List.exists_cons_of_ne_nil nonempty
  intro c first
  obtain rfl : d = c := by simpa using first
  exact apart d (inside d List.mem_cons_self)

theorem run_append {before rest : Text} (inside : ∀ c ∈ before, p c = true) (ends : Ends p rest) :
    Text.run p (before ++ rest) = (before,rest) := by
  cases rest with
  | nil => rw [List.append_nil,Text.run_of_forall p before inside]
  | cons c rest => exact Text.run_append_cons p before rest c inside (ends c rfl)

private theorem exists_run (p : Char → Bool) (t : Text) :
    ∃ before rest, t = before ++ rest ∧ (∀ c ∈ before, p c = true) ∧ Ends p rest := by
  refine ⟨t.takeWhile p,t.dropWhile p,List.takeWhile_append_dropWhile.symm,Text.forall_mem_run p t,?_⟩
  intro c first
  have stop := List.head?_dropWhile_not p t
  rw [first] at stop
  exact stop

end Runs

section Requests

private theorem not_word_of_blank (c : Char) (blank : Text.isBlank c = true) : Text.isWord c = false := by
  rw [← Bool.not_eq_true]
  intro word
  rw [Text.isBlank_of_isWord c word] at blank
  contradiction

private theorem requestLine_runs (method gap url rest : Text) (word : ∀ c ∈ method, Text.isWord c = true)
    (word_ends : Ends Text.isWord (gap ++ (url ++ rest))) (blank : ∀ c ∈ gap, Text.isBlank c = true)
    (blank_ends : Ends Text.isBlank (url ++ rest)) (visible : ∀ c ∈ url, (!Text.isBlank c) = true)
    (url_ends : Ends (fun c => !Text.isBlank c) rest) :
    requestLine? (method ++ (gap ++ (url ++ rest))) =
      if method = [] ∨ gap = [] ∨ url = [] then none else some (method,url) := by
  have taken : (url ++ rest).takeWhile (fun c => !Text.isBlank c) = url :=
    congrArg Prod.fst (run_append visible url_ends)
  unfold requestLine?
  rw [run_append word word_ends]
  dsimp only
  rw [run_append blank blank_ends]
  simp only [taken,Bool.or_eq_true,List.isEmpty_iff,or_assoc]

theorem requestLine_eq_some_iff (t method url : Text) :
    requestLine? t = some (method,url) ↔ IsRequest t method url := by
  constructor
  · obtain ⟨m,r,rfl,word,word_ends⟩ := exists_run Text.isWord t
    obtain ⟨g,r,rfl,blank,blank_ends⟩ := exists_run Text.isBlank r
    obtain ⟨u,rest,rfl,visible,url_ends⟩ := exists_run (fun c => !Text.isBlank c) r
    rw [requestLine_runs m g u rest word word_ends blank blank_ends visible url_ends]
    intro read
    split at read
    next => contradiction
    next complete =>
      simp only [not_or] at complete
      obtain ⟨rfl,rfl⟩ := Prod.mk.inj (Option.some.inj read)
      exact ⟨g,rest,rfl,⟨complete.1,word⟩,⟨complete.2.1,blank⟩,⟨complete.2.2,visible⟩,url_ends⟩
  · rintro ⟨gap,rest,rfl,is_method,is_gap,is_url,url_ends⟩
    have word_ends : Ends Text.isWord (gap ++ (url ++ rest)) := is_gap.ends _ not_word_of_blank
    have blank_ends : Ends Text.isBlank (url ++ rest) := is_url.ends rest fun c => by simp
    rw [requestLine_runs method gap url rest is_method.2 word_ends is_gap.2 blank_ends is_url.2 url_ends]
    simp [is_method.1,is_gap.1,is_url.1]

end Requests

section Numbers

theorem usableStatus_eq_some_iff (code status : Nat) :
    usableStatus? code = some status ↔ code = status ∧ Usable status := by
  unfold usableStatus? Usable
  split
  next usable =>
    simp only [Option.some.injEq]
    exact ⟨fun same => ⟨same,same ▸ usable⟩,And.left⟩
  next unusable =>
    simp only [reduceCtorEq,false_iff]
    rintro ⟨rfl,usable⟩
    exact unusable usable

theorem numeral_eq_some_iff (t : Text) (code : Nat) :
    (Text.readBounded? 65535 t).bind usableStatus? = some code ↔ IsNumeral t code ∧ Usable code := by
  simp only [Option.bind_eq_some_iff,Text.readBounded_eq_some_iff,Text.readNat_eq_some_iff,
    usableStatus_eq_some_iff]
  constructor
  · rintro ⟨value,⟨digits,written,⟨run,read⟩,_⟩,rfl,usable⟩
    exact ⟨⟨digits,written,run,read⟩,usable⟩
  · rintro ⟨⟨digits,written,run,read⟩,usable⟩
    have small : code ≤ 65535 := Nat.le_trans usable.2 (by decide)
    exact ⟨code,⟨digits,written,⟨run,read⟩,small⟩,rfl,usable⟩

end Numbers

section Statuses

private theorem version_of_afterVersion (t rest : Text) (read : afterVersion? t = some rest) :
    ∃ version, IsVersion version ∧ t = "HTTP/".toList ++ (version ++ rest) := by
  obtain ⟨after,dropped,found⟩ := Option.bind_eq_some_iff.mp read
  obtain rfl := (Text.dropStart_eq_some_iff _ _ _).mp dropped
  clear read dropped
  split at found
  next d e tail =>
    split at found
    next major =>
      split at found
      next minor =>
        obtain rfl := Option.some.inj found
        exact ⟨[d,'.',e],⟨d,major,.inr ⟨e,minor,rfl⟩⟩,rfl⟩
      next =>
        obtain rfl := Option.some.inj found
        exact ⟨[d],⟨d,major,.inl rfl⟩,rfl⟩
    next => contradiction
  next d tail _ =>
    split at found
    next major =>
      obtain rfl := Option.some.inj found
      exact ⟨[d],⟨d,major,.inl rfl⟩,rfl⟩
    next => contradiction
  next => contradiction

private theorem afterVersion_append (version rest : Text) (is_version : IsVersion version)
    (apart : ∀ c, rest.head? = some c → c ≠ '.') :
    afterVersion? ("HTTP/".toList ++ (version ++ rest)) = some rest := by
  unfold afterVersion?
  rw [Text.dropStart_append]
  obtain ⟨d,major,rfl | ⟨e,minor,rfl⟩⟩ := is_version
  · cases rest with
    | nil => simp [major]
    | cons c rest =>
      have other := apart c rfl
      cases rest with
      | nil => simp [major]
      | cons e rest => simp [major,other]
  · simp [major,minor]

private theorem ends_iff_any (p : Char → Bool) (rest : Text) : rest.head?.any p = false ↔ Ends p rest := by
  cases rest <;> simp [Ends]

theorem statusLine_eq_some_iff (t : Text) (code : Nat) :
    statusLine? t = some code ↔ IsStatusLine t code ∧ Usable code := by
  constructor
  · intro read
    obtain ⟨after,versioned,found⟩ := Option.bind_eq_some_iff.mp read
    obtain ⟨version,is_version,rfl⟩ := version_of_afterVersion t after versioned
    obtain ⟨gap,rest,rfl,blank,gap_ends⟩ := exists_run Text.isBlank after
    rw [run_append blank gap_ends] at found
    dsimp only at found
    split at found
    next => contradiction
    next fits =>
      simp only [Bool.or_eq_true,not_or,Bool.not_eq_true,ends_iff_any,List.isEmpty_iff,decide_eq_true_eq,
        Nat.not_lt] at fits
      obtain ⟨number,digits,usable⟩ := Option.bind_eq_some_iff.mp found
      obtain ⟨rfl,usable⟩ := (usableStatus_eq_some_iff number code).mp usable
      obtain ⟨run,value⟩ := (Text.readNat_eq_some_iff _ number).mp digits
      have three : (rest.take 3).length = 3 := Nat.le_antisymm (List.length_take_le 3 rest) fits.1.1.2
      exact ⟨⟨version,gap,rest.take 3,rest.drop 3,by rw [List.take_append_drop],is_version,⟨fits.1.1.1,blank⟩,
        three,run,fits.2,value⟩,usable⟩
  · rintro ⟨⟨version,gap,digits,rest,rfl,is_version,is_gap,three,run,word_ends,value⟩,usable⟩
    have gap_ends : Ends Text.isBlank (digits ++ rest) := run.ends rest fun c digit =>
      Text.isBlank_of_isWord c (Text.isWord_of_isDigit c digit)
    have no_point : ∀ c, (gap ++ (digits ++ rest)).head? = some c → c ≠ '.' := by
      rintro _ first rfl
      have apart : Ends (· == '.') (gap ++ (digits ++ rest)) := is_gap.ends _ fun c blank => by
        rw [beq_eq_false_iff_ne]
        rintro rfl
        exact absurd blank (by decide)
      simpa using apart '.' first
    have decimal : digits.all Text.isDecimalDigit = true :=
      List.all_eq_true.mpr fun c member => Text.isDecimalDigit_of_isDigit c (run.2 c member)
    have number := (Text.readNat_eq_some_iff digits code).mpr ⟨run,value⟩
    unfold statusLine?
    rw [afterVersion_append version _ is_version no_point]
    simp only [Option.bind_eq_bind,Option.bind_some]
    rw [run_append is_gap.2 gap_ends]
    simp [List.take_left' three,List.drop_left' three,three,is_gap.1,decimal,(ends_iff_any _ rest).mpr word_ends,
      number,(usableStatus_eq_some_iff code code).mpr ⟨rfl,usable⟩]

private theorem statusLine_of_no_protocol (t : Text) (other : Text.dropStart? "HTTP/".toList t = none) :
    statusLine? t = none := by
  unfold statusLine? afterVersion?
  rw [other]
  rfl

theorem statusValue_eq_some_iff (value : Text) (code : Nat) :
    statusValue? value = some code ↔ (IsStatusLine value code ∨ IsNumeral value code) ∧ Usable code := by
  unfold statusValue?
  rw [Option.or_eq_some_iff,statusLine_eq_some_iff,numeral_eq_some_iff,or_and_right]
  refine or_congr_right ⟨And.right,fun numeral => ⟨?_,numeral⟩⟩
  obtain ⟨⟨digits,written,run,_⟩,_⟩ := numeral
  apply statusLine_of_no_protocol
  rw [Option.eq_none_iff_forall_ne_some]
  intro version begins
  obtain rfl := (Text.dropStart_eq_some_iff _ _ _).mp begins
  rcases written with rfl | signed
  · exact absurd (run.2 'H' (by simp)) (by decide)
  · simp at signed

end Statuses

section Headers

theorem isBlank_of_isHeaderNameChar (c : Char) (token : isHeaderNameChar c = true) :
    Text.isBlank c = false := by
  rcases Bool.or_eq_true_iff.mp token with word | hyphen
  · exact Text.isBlank_of_isWord c word
  · obtain rfl := beq_iff_eq.mp hyphen
    decide

private theorem ends_gap (gap written : Text) (blank : ∀ c ∈ gap, Text.isBlank c = true) :
    Ends isHeaderNameChar (gap ++ ':' :: written) := by
  cases gap with
  | nil => simp [Ends,show isHeaderNameChar ':' = false by decide]
  | cons b gap =>
    rintro c first
    obtain rfl : b = c := by simpa using first
    rw [← Bool.not_eq_true]
    intro token
    have visible := isBlank_of_isHeaderNameChar b token
    rw [blank b List.mem_cons_self] at visible
    contradiction

theorem headerLine_eq_some_iff (t name value : Text) :
    headerLine? t = some (name,value) ↔ IsHeader t name value := by
  unfold headerLine?
  constructor
  · obtain ⟨before,rest,rfl,token,ends⟩ := exists_run isHeaderNameChar t
    obtain ⟨gap,rest,rfl,blank,gap_ends⟩ := exists_run Text.isBlank rest
    have dropped : (gap ++ rest).dropWhile Text.isBlank = rest := congrArg Prod.snd (run_append blank gap_ends)
    rw [run_append token ends]
    dsimp only
    rw [dropped]
    intro read
    split at read
    next written =>
      split at read
      next => contradiction
      next nonempty =>
        obtain ⟨rfl,rfl⟩ := Prod.mk.inj (Option.some.inj read)
        exact ⟨gap,written,rfl,⟨by simpa using nonempty,token⟩,blank,rfl⟩
    next => contradiction
  · rintro ⟨gap,written,rfl,is_name,blank,rfl⟩
    have colon : Ends Text.isBlank (':' :: written) := by simp [Ends,show Text.isBlank ':' = false by decide]
    have dropped : (gap ++ ':' :: written).dropWhile Text.isBlank = ':' :: written :=
      congrArg Prod.snd (run_append blank colon)
    rw [run_append is_name.2 (ends_gap gap written blank)]
    simp [dropped,is_name.1]

/-- A status line is never a header line: its protocol is followed by a slash. -/
theorem not_header_of_statusLine (t name value : Text) (code : Nat) (status : IsStatusLine t code) :
    ¬ IsHeader t name value := by
  obtain ⟨version,gap,digits,rest,rfl,_⟩ := status
  rintro ⟨between,written,same,is_name,blank,_⟩
  have header := run_append is_name.2 (ends_gap between written blank)
  have protocol := Text.run_append_cons isHeaderNameChar ['H', 'T', 'T', 'P']
    (version ++ (gap ++ (digits ++ rest))) '/' (List.all_eq_true.mp rfl) (by decide)
  rw [← same] at header
  obtain ⟨_,after⟩ := Prod.mk.inj (header.symm.trans protocol)
  cases between with
  | nil => simp at after
  | cons b between =>
    obtain ⟨rfl,_⟩ := List.cons.inj after
    exact absurd (blank '/' List.mem_cons_self) (by decide)

private theorem trim_of_comment (line : Text) (comment : Line.isComment line = true) :
    ∃ rest, Text.trim line = '#' :: rest := by
  obtain ⟨rest,starts⟩ := List.isPrefixOf_iff_prefix.mp comment
  have trimmed := Text.trimEndBy_append_cons Text.isBlank [] rest '#' (by decide)
  refine ⟨Text.trimEndBy Text.isBlank rest,?_⟩
  rw [Text.trim,← starts]
  exact trimmed

theorem isComment_of_isSeparator (line : Text) (separator : Line.isSeparator line = true) :
    Line.isComment line = true := by
  unfold Line.isSeparator Line.isComment at *
  obtain ⟨rest,text⟩ := List.isPrefixOf_iff_prefix.mp separator
  rw [← text]
  rfl

theorem not_comment_of_header (line name value : Text) (header : IsHeader (Text.trim line) name value) :
    Line.isComment line = false := by
  rw [← Bool.not_eq_true]
  intro comment
  obtain ⟨rest,sign⟩ := trim_of_comment line comment
  obtain ⟨gap,written,same,⟨nonempty,token⟩,_⟩ := header
  obtain ⟨c,cs,rfl⟩ := List.exists_cons_of_ne_nil nonempty
  obtain ⟨rfl,_⟩ := List.cons.inj (same.symm.trans sign)
  exact absurd (token '#' List.mem_cons_self) (by decide)

theorem not_blank_of_header (line name value : Text) (header : IsHeader (Text.trim line) name value) :
    Line.isBlank line = false := by
  rw [← Bool.not_eq_true]
  intro blank
  obtain ⟨gap,written,same,⟨nonempty,_⟩,_⟩ := header
  rw [Text.trim,Text.trimStart_of_blank line blank] at same
  exact nonempty (List.append_eq_nil_iff.mp same.symm).1

private theorem not_comment_of_statusLine (line : Text) (code : Nat) (status : IsStatusLine (Text.trim line) code) :
    Line.isComment line = false := by
  rw [← Bool.not_eq_true]
  intro comment
  obtain ⟨rest,sign⟩ := trim_of_comment line comment
  obtain ⟨version,gap,digits,after,same,_⟩ := status
  simp [same] at sign

end Headers

section HeadLines

private theorem statusLine_of_header (t name value : Text) (header : IsHeader t name value) :
    statusLine? t = none := by
  rw [Option.eq_none_iff_forall_ne_some]
  intro code read
  exact not_header_of_statusLine t name value code ((statusLine_eq_some_iff t code).mp read).1 header

theorem ofText_of_header (line name value : Text) (header : IsHeader (Text.trim line) name value) :
    HeadLine.ofText line =
      if Text.sameIgnoringCase name statusHeader then
        match statusValue? value with
        | some code => .status code
        | none => .unknownStatus value
      else .header name value := by
  unfold HeadLine.ofText
  rw [not_comment_of_header line name value header,statusLine_of_header _ name value header,
    (headerLine_eq_some_iff _ name value).mpr header]
  rfl

theorem ofText_cases (line : Text) :
    Line.isComment line = true ∧ HeadLine.ofText line = .comment ∨
      (∃ code, IsStatusLine (Text.trim line) code ∧ Usable code ∧ HeadLine.ofText line = .status code) ∨
      (∃ name value, IsHeader (Text.trim line) name value) ∨
      HeadLine.ofText line = .malformed := by
  unfold HeadLine.ofText
  split
  next comment => exact .inl ⟨comment,rfl⟩
  next =>
    split
    next code status =>
      obtain ⟨is_status,usable⟩ := (statusLine_eq_some_iff _ code).mp status
      exact .inr (.inl ⟨code,is_status,usable,rfl⟩)
    next =>
      split
      next name value header =>
        exact .inr (.inr (.inl ⟨name,value,(headerLine_eq_some_iff _ name value).mp header⟩))
      next => exact .inr (.inr (.inr rfl))

theorem ofText_eq_status_iff (line : Text) (code : Nat) :
    HeadLine.ofText line = .status code ↔ GivesStatus line code := by
  constructor
  · intro read
    rcases ofText_cases line with ⟨_,comment⟩ | ⟨found,status,usable,reads⟩ | ⟨name,value,header⟩ | malformed
    · simp [comment] at read
    · obtain rfl := HeadLine.status.inj (reads.symm.trans read)
      exact ⟨.inl status,usable⟩
    · rw [ofText_of_header line name value header] at read
      split at read
      next same =>
        split at read
        next found given =>
          obtain rfl := HeadLine.status.inj read
          obtain ⟨given,usable⟩ := (statusValue_eq_some_iff value found).mp given
          exact ⟨.inr ⟨name,value,header,same,given⟩,usable⟩
        next => contradiction
      next => contradiction
    · simp [malformed] at read
  · rintro ⟨status | ⟨name,value,header,same,given⟩,usable⟩
    · unfold HeadLine.ofText
      rw [not_comment_of_statusLine line code status,(statusLine_eq_some_iff _ code).mpr ⟨status,usable⟩]
      rfl
    · rw [ofText_of_header line name value header,if_pos same,(statusValue_eq_some_iff value code).mpr ⟨given,usable⟩]

theorem GivesStatus.unique {line : Text} {code other : Nat} (first : GivesStatus line code)
    (second : GivesStatus line other) : code = other := by
  rw [← ofText_eq_status_iff] at first second
  exact HeadLine.status.inj (first.symm.trans second)

theorem ofText_eq_header_iff (line name value : Text) :
    HeadLine.ofText line = .header name value ↔
      IsHeader (Text.trim line) name value ∧ Text.sameIgnoringCase name statusHeader = false := by
  constructor
  · intro read
    rcases ofText_cases line with ⟨_,comment⟩ | ⟨found,_,_,status⟩ | ⟨n,v,header⟩ | malformed
    · simp [comment] at read
    · simp [status] at read
    · rw [ofText_of_header line n v header] at read
      split at read
      next =>
        split at read
        all_goals contradiction
      next other =>
        obtain ⟨rfl,rfl⟩ := HeadLine.header.inj read
        exact ⟨header,eq_false_of_ne_true other⟩
    · simp [malformed] at read
  · rintro ⟨header,other⟩
    rw [ofText_of_header line name value header,other]
    rfl

end HeadLines

end CannedHttp.Definition
