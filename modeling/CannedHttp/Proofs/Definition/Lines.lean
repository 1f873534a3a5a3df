import CannedHttp.Proofs.Definition.Grammar

/-!
What the lines of a definition can say. Every reading of a line has the shape that a printed line
needs, and lines printed in that shape are read back exactly.
-/
namespace CannedHttp.Definition

/-- A name that a header line can give: a run of name characters other than the status header. -/
structure HeaderName (name : Text) : Prop where
  nonempty : name ≠ []
  token : ∀ c ∈ name, isHeaderNameChar c = true
  no_status : Text.sameIgnoringCase name statusHeader = false

/-- A value that a header line can give: trimmed and on one line. -/
structure HeaderValue (value : Text) : Prop where
  trimmed : Text.trim value = value
  one_line : '\n' ∉ value

theorem ofText_header_parts (line name value : Text) (one_line : '\n' ∉ line)
    (read : HeadLine.ofText line = .header name value) : HeaderName name ∧ HeaderValue value := by
  obtain ⟨⟨gap,written,same,is_name,_,rfl⟩,other⟩ := (ofText_eq_header_iff line name value).mp read
  refine ⟨⟨is_name.1,is_name.2,other⟩,Text.trim_trim written,fun feed => one_line ?_⟩
  have inside : '\n' ∈ Text.trim line := by
    simp [same,Text.mem_of_mem_trim written '\n' feed]
  exact Text.mem_of_mem_trim line '\n' inside

def requestText (method url : Text) : Text :=
  method ++ ' ' :: url

def headerText (name value : Text) : Text :=
  name ++ ':' :: ' ' :: value

/-- A line that begins with a visible character other than the comment sign. -/
def Plain (line : Text) : Prop :=
  ∃ c rest, line = c :: rest ∧ Text.isBlank c = false ∧ c ≠ '#'

theorem Plain.not_blank {line : Text} (plain : Plain line) : Line.isBlank line = false := by
  obtain ⟨c,rest,rfl,visible,-⟩ := plain
  simp [Line.isBlank,Text.allBlank,visible]

theorem Plain.not_comment {line : Text} (plain : Plain line) : Line.isComment line = false := by
  obtain ⟨c,rest,rfl,visible,other⟩ := plain
  simp [Line.isComment,Text.trimStart_of_head c rest visible,List.isPrefixOf,other.symm]

theorem Plain.not_separator {line : Text} (plain : Plain line) : Line.isSeparator line = false := by
  cases separator : Line.isSeparator line with
  | false => rfl
  | true => exact absurd (isComment_of_isSeparator line separator) (by simp [plain.not_comment])

theorem plain_append (first rest : Text) (nonempty : first ≠ [])
    (visible : ∀ c ∈ first, Text.isBlank c = false) (no_sign : '#' ∉ first) :
    Plain (first ++ rest) := by
  obtain ⟨c,cs,rfl⟩ := List.exists_cons_of_ne_nil nonempty
  refine ⟨c,cs ++ rest,rfl,visible c List.mem_cons_self,?_⟩
  rintro rfl
  exact no_sign List.mem_cons_self

theorem request_requestText (method url : Text) (some_method : method ≠ [])
    (word : ∀ c ∈ method, Text.isWord c = true) (some_url : url ≠ [])
    (visible : ∀ c ∈ url, Text.isBlank c = false) :
    IsRequest (Text.trim (requestText method url)) method url := by
  have word_visible : ∀ c ∈ method, Text.isBlank c = false :=
    fun c member => Text.isBlank_of_isWord c (word c member)
  have trimmed : Text.trim (requestText method url) = requestText method url := by
    refine Text.trim_eq_self _ ?_ ?_
    · intro c first
      obtain ⟨m,ms,rfl⟩ := List.exists_cons_of_ne_nil some_method
      obtain rfl : m = c := by simpa [requestText] using first
      exact word_visible m List.mem_cons_self
    · intro c last
      have end_of_url : url.getLast? = some c := by
        simpa [requestText,List.getLast?_cons,List.getLast?_append,some_url,
          List.getLast?_eq_some_getLast some_url] using last
      exact visible c (List.mem_of_getLast? end_of_url)
  rw [trimmed]
  refine ⟨[' '],[],by simp [requestText],⟨some_method,word⟩,⟨by simp,List.all_eq_true.mp rfl⟩,?_,by simp [Ends]⟩
  exact ⟨some_url,fun c member => by simp [visible c member]⟩

theorem plain_headerText (name value : Text) (nonempty : name ≠ [])
    (token : ∀ c ∈ name, isHeaderNameChar c = true) : Plain (headerText name value) := by
  refine plain_append name _ nonempty (fun c member => ?_) fun sign => ?_
  · exact isBlank_of_isHeaderNameChar c (token c member)
  · exact absurd (token '#' sign) (by decide)

private theorem trim_headerText (name value : Text) (token : ∀ c ∈ name, isHeaderNameChar c = true) :
    Text.trim (headerText name value) = name ++ ':' :: Text.trimEnd (' ' :: value) := by
  refine Text.trim_append_cons name _ ':' (fun c first => ?_) (by decide)
  exact isBlank_of_isHeaderNameChar c (token c (List.mem_of_mem_head? first))

private theorem header_headerText (name value : Text) (nonempty : name ≠ [])
    (token : ∀ c ∈ name, isHeaderNameChar c = true) (trimmed : Text.trim value = value) :
    IsHeader (Text.trim (headerText name value)) name value := by
  have value_read : Text.trim (Text.trimEnd (' ' :: value)) = value := by
    rw [Text.trim_trimEnd,Text.trim_blank_cons ' ' value (by decide),trimmed]
  rw [trim_headerText name value token]
  exact ⟨[],_,rfl,⟨nonempty,token⟩,by simp,value_read.symm⟩

theorem ofText_header (name value : Text) (is_name : HeaderName name) (is_value : HeaderValue value) :
    HeadLine.ofText (headerText name value) = .header name value := by
  rw [ofText_eq_header_iff]
  exact ⟨header_headerText name value is_name.nonempty is_name.token is_value.trimmed,is_name.no_status⟩

theorem statusHeader_token : ∀ c ∈ statusHeader, isHeaderNameChar c = true :=
  List.all_eq_true.mp rfl

theorem ofText_status (status : Nat) (low : 100 ≤ status) (high : status ≤ 999) :
    HeadLine.ofText (headerText statusHeader (Text.ofNat status)) = .status status := by
  have trimmed : Text.trim (Text.ofNat status) = Text.ofNat status := by
    refine Text.trim_of_visible _ fun c member => ?_
    exact Text.isBlank_of_isWord c (Text.isWord_of_isDigit c (Text.isDigit_of_mem_ofNat status c member))
  have header := header_headerText statusHeader _ (by decide) statusHeader_token trimmed
  obtain ⟨run,value⟩ := (Text.readNat_eq_some_iff _ status).mp (Text.readNat_ofNat status)
  rw [ofText_eq_status_iff]
  exact ⟨.inr ⟨_,_,header,by decide,.inr ⟨_,.inl rfl,run,value⟩⟩,low,high⟩

end CannedHttp.Definition
