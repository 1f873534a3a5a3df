import CannedHttp.Text.Basic

/-!
Texts cut at separators and at line ends. Joining the pieces gives the text back, splitting a join
gives the pieces back, and no piece holds the separator.
-/
namespace CannedHttp.Text

section Separators
variable {α : Type} [DecidableEq α]

theorem splitOn_eq_library (sep : α) (l : List α) : splitOn sep l = l.splitOn sep := by
  induction l with
  | nil => rfl
  | cons c cs ih =>
    rw [splitOn,List.splitOn_cons_eq_if_modifyHead,ih]
    by_cases same : c = sep
    · simp [same]
    · obtain ⟨piece,pieces,cut⟩ := List.exists_cons_of_ne_nil (List.splitOn_ne_nil sep cs)
      simp [same,cut]

theorem splitOn_nonempty (sep : α) (l : List α) : splitOn sep l ≠ [] := by
  rw [splitOn_eq_library]
  exact List.splitOn_ne_nil sep l

theorem intercalate_splitOn (sep : α) (l : List α) : [sep].intercalate (splitOn sep l) = l := by
  rw [splitOn_eq_library,List.intercalate_splitOn]

theorem splitOn_intercalate (sep : α) (pieces : List (List α)) (some_piece : pieces ≠ [])
    (clean : ∀ piece ∈ pieces, sep ∉ piece) : splitOn sep ([sep].intercalate pieces) = pieces := by
  rw [splitOn_eq_library]
  exact List.splitOn_intercalate sep clean some_piece

theorem forall_mem_splitOnP {β : Type} (p : β → Bool) (l piece : List β)
    (member : piece ∈ l.splitOnP p) : ∀ x ∈ piece, x ∈ l ∧ p x = false := by
  induction l generalizing piece with
  | nil =>
    obtain rfl : piece = [] := by simpa using member
    simp
  | cons c cs ih =>
    have later (inside : piece ∈ cs.splitOnP p) : ∀ x ∈ piece, x ∈ c :: cs ∧ p x = false :=
      fun x present => ⟨List.mem_cons_of_mem c (ih piece inside x present).1,(ih piece inside x present).2⟩
    rw [List.splitOnP_cons_eq_if_modifyHead] at member
    split at member
    next =>
      rcases List.mem_cons.mp member with rfl | inside
      · simp
      · exact later inside
    next kept =>
      obtain ⟨first,pieces,cut⟩ := List.exists_cons_of_ne_nil (List.splitOnP_ne_nil p cs)
      rw [cut,List.modifyHead_cons] at member
      rcases List.mem_cons.mp member with rfl | inside
      · refine List.forall_mem_cons.mpr ⟨⟨List.mem_cons_self,eq_false_of_ne_true kept⟩,?_⟩
        intro x present
        have known := ih first (by simp [cut]) x present
        exact ⟨List.mem_cons_of_mem c known.1,known.2⟩
      · exact later (by simp [cut,inside])

theorem not_mem_of_mem_splitOn (sep : α) (l piece : List α) (member : piece ∈ splitOn sep l) :
    sep ∉ piece := by
  rw [splitOn_eq_library,List.splitOn_eq_splitOnP] at member
  intro inside
  simpa using (forall_mem_splitOnP _ l piece member sep inside).2

theorem mem_intercalate {β : Type} (sep : List β) (pieces : List (List β)) (x : β)
    (member : x ∈ sep.intercalate pieces) : x ∈ sep ∨ ∃ piece ∈ pieces, x ∈ piece := by
  induction pieces with
  | nil => simp at member
  | cons piece pieces ih =>
    cases pieces with
    | nil => exact .inr ⟨piece,List.mem_cons_self,by simpa using member⟩
    | cons next pieces =>
      rw [List.intercalate_cons_cons,List.append_assoc,List.mem_append,List.mem_append] at member
      rcases member with here | between | later
      · exact .inr ⟨piece,List.mem_cons_self,here⟩
      · exact .inl between
      · exact (ih later).imp_right fun ⟨p,present,inside⟩ => ⟨p,List.mem_cons_of_mem piece present,inside⟩

end Separators

section Runs
variable {α : Type} (p : α → Bool)

theorem run_append_cons (before after : List α) (c : α) (inside : ∀ b ∈ before, p b = true)
    (stop : p c = false) : run p (before ++ c :: after) = (before, c :: after) := by
  simp [run,List.takeWhile_append_of_pos inside,List.dropWhile_append_of_pos inside,stop]

theorem run_of_forall (l : List α) (inside : ∀ b ∈ l, p b = true) : run p l = (l, []) := by
  have taken : (l ++ []).takeWhile p = l ++ [].takeWhile p := List.takeWhile_append_of_pos inside
  have dropped : (l ++ []).dropWhile p = [].dropWhile p := List.dropWhile_append_of_pos inside
  rw [List.append_nil] at taken dropped
  simp [run,taken,dropped]

theorem forall_mem_run (l : List α) : ∀ c ∈ (run p l).1, p c = true :=
  List.all_eq_true.mp List.all_takeWhile

theorem cut_append_cons (before after : List α) (c : α) (outside : ∀ b ∈ before, p b = false)
    (stop : p c = true) : cut p (before ++ c :: after) = (before, c :: after) :=
  run_append_cons _ before after c (fun b member => by simp [outside b member]) (by simp [stop])

theorem cut_of_forall (l : List α) (outside : ∀ b ∈ l, p b = false) : cut p l = (l, []) :=
  run_of_forall _ l fun b member => by simp [outside b member]

theorem append_cut (l : List α) : (cut p l).1 ++ (cut p l).2 = l :=
  List.takeWhile_append_dropWhile

theorem forall_mem_cut (l : List α) : ∀ c ∈ (cut p l).1, p c = false := by
  intro c member
  simpa using forall_mem_run (fun c => !p c) l c member

theorem cut_rest (l rest : List α) (c : α) (cut_at : (cut p l).2 = c :: rest) : p c = true := by
  have first := List.head?_dropWhile_not (fun c => !p c) l
  change l.dropWhile (fun c => !p c) = c :: rest at cut_at
  rw [cut_at] at first
  simpa using first

theorem cut_congr (q : α → Bool) (l : List α) (same : ∀ c ∈ l, p c = q c) : cut p l = cut q l := by
  induction l with
  | nil => rfl
  | cons c l ih =>
    have here := same c List.mem_cons_self
    have later := ih fun d member => same d (List.mem_cons_of_mem c member)
    obtain ⟨first,second⟩ := Prod.mk.inj later
    unfold cut
    cases value : q c with
    | false => simp [here,value,first,second]
    | true => simp [here,value]

end Runs

section Cuts
variable {α : Type} [BEq α] [LawfulBEq α] (sep : α)

theorem apart_of_not_mem (l : List α) (clean : sep ∉ l) : ∀ c ∈ l, (c == sep) = false := by
  intro c member
  rw [beq_eq_false_iff_ne]
  rintro rfl
  exact clean member

theorem cut_separator (before after : List α) (clean : sep ∉ before) :
    cut (· == sep) (before ++ sep :: after) = (before, sep :: after) :=
  cut_append_cons _ before after sep (apart_of_not_mem sep before clean) (beq_self_eq_true sep)

theorem cut_of_not_mem (l : List α) (clean : sep ∉ l) : cut (· == sep) l = (l, []) :=
  cut_of_forall _ l (apart_of_not_mem sep l clean)

end Cuts

section Starts
variable {α : Type} [BEq α]

theorem dropStart_nil (l : List α) : dropStart? [] l = some l := by
  cases l <;> rfl

theorem dropStart_cons_nil (s : α) (start : List α) : dropStart? (s :: start) [] = none := rfl

theorem dropStart_cons_cons (s c : α) (start cs : List α) :
    dropStart? (s :: start) (c :: cs) = if s == c then dropStart? start cs else none := rfl

theorem dropStart_eq_some_iff [LawfulBEq α] (start l rest : List α) :
    dropStart? start l = some rest ↔ l = start ++ rest := by
  induction start generalizing l with
  | nil => simp [dropStart_nil]
  | cons s start ih =>
    cases l with
    | nil => simp [dropStart_cons_nil]
    | cons c cs =>
      by_cases same : s = c
      · simp [dropStart_cons_cons,same,ih]
      · simp [dropStart_cons_cons,same,Ne.symm same]

theorem dropStart_append [LawfulBEq α] (start rest : List α) : dropStart? start (start ++ rest) = some rest :=
  (dropStart_eq_some_iff start (start ++ rest) rest).mpr rfl

end Starts

/-- The text of lines that each end in a carriage return and a line feed. -/
def ofLines (ls : List Text) : Text :=
  ls.flatMap (· ++ ['\r', '\n'])

theorem lines_cons (c : Char) (cs : Text) (no_feed : c ≠ '\n')
    (no_end : c = '\r' → ∀ rest, cs ≠ '\n' :: rest) :
    lines (c :: cs) = (c :: (lines cs).headD []) :: (lines cs).tail := by
  rw [lines]
  · cases lines cs <;> rfl
  · rintro rest rfl rfl
    exact no_end rfl rest rfl
  · exact no_feed

theorem lines_append_end (l rest : Text) (clean : '\n' ∉ l) :
    lines (l ++ '\r' :: '\n' :: rest) = l :: lines rest := by
  induction l with
  | nil => simp [lines]
  | cons c cs ih =>
    have no_feed : c ≠ '\n' := fun equal => clean (by simp [equal])
    have tail_clean : '\n' ∉ cs := fun inside => clean (List.mem_cons_of_mem c inside)
    rw [List.cons_append,lines_cons c _ no_feed,ih tail_clean]
    · rfl
    · rintro - tail equal
      cases cs with
      | nil => simp at equal
      | cons d ds =>
        obtain rfl : d = '\n' := (List.cons.inj equal).1
        exact tail_clean List.mem_cons_self

theorem lines_ofLines (ls : List Text) (clean : ∀ l ∈ ls, '\n' ∉ l) : lines (ofLines ls) = ls := by
  induction ls with
  | nil => rfl
  | cons l ls ih =>
    have first : '\n' ∉ l := clean l List.mem_cons_self
    have written : ofLines (l :: ls) = l ++ '\r' :: '\n' :: ofLines ls := by
      simp [ofLines,List.flatMap_cons]
    rw [written,lines_append_end l _ first,ih fun m member => clean m (List.mem_cons_of_mem l member)]

theorem feed_not_mem_lines (t l : Text) (member : l ∈ lines t) : '\n' ∉ l := by
  fun_induction lines t generalizing l with
  | case1 => simp at member
  | case2 cs ih =>
    rcases List.mem_cons.mp member with rfl | inside
    · simp
    · exact ih l inside
  | case3 cs ih =>
    rcases List.mem_cons.mp member with rfl | inside
    · simp
    · exact ih l inside
  | case4 c cs no_end no_feed none_left ih =>
    obtain rfl : l = [c] := by simpa using member
    simpa [eq_comm] using no_feed
  | case5 c cs no_end no_feed line rest cut ih =>
    rcases List.mem_cons.mp member with rfl | inside
    · have clean := ih line (by simp [cut])
      simpa [clean,eq_comm] using no_feed
    · exact ih l (by simp [cut,inside])

theorem lines_append_bare (l rest : Text) (clean : '\n' ∉ l) (last : l.getLast? ≠ some '\r') :
    lines (l ++ '\n' :: rest) = l :: lines rest := by
  induction l with
  | nil => simp [lines]
  | cons c cs ih =>
    have no_feed : c ≠ '\n' := fun equal => clean (by simp [equal])
    have tail_clean : '\n' ∉ cs := fun inside => clean (List.mem_cons_of_mem c inside)
    cases cs with
    | nil =>
      have no_return : c ≠ '\r' := fun equal => last (by simp [equal])
      rw [List.cons_append,lines_cons c _ no_feed fun equal => absurd equal no_return]
      simp [lines]
    | cons d ds =>
      rw [List.getLast?_cons_cons] at last
      rw [List.cons_append,lines_cons c _ no_feed,ih tail_clean last]
      · rfl
      · rintro - tail equal
        obtain rfl : d = '\n' := (List.cons.inj equal).1
        exact tail_clean List.mem_cons_self

/-- A text up to its first line feed is one line, save for a carriage return at its end. -/
theorem lines_append_feed (l rest : Text) (clean : '\n' ∉ l) :
    ∃ line, lines (l ++ '\n' :: rest) = line :: lines rest ∧ (l = line ∨ l = line ++ ['\r']) := by
  by_cases last : l.getLast? = some '\r'
  · obtain ⟨line,rfl⟩ := List.getLast?_eq_some_iff.mp last
    have inner : '\n' ∉ line := fun inside => clean (List.mem_append_left _ inside)
    rw [List.append_assoc]
    exact ⟨line,lines_append_end line rest inner,.inr rfl⟩
  · exact ⟨l,lines_append_bare l rest clean last,.inl rfl⟩

theorem lines_ne_nil (t : Text) (nonempty : t ≠ []) : lines t ≠ [] := by
  unfold lines
  split
  · exact absurd rfl nonempty
  · simp
  · simp
  · split <;> simp

/-- A text that is empty or ends in a line feed. -/
def Closed (t : Text) : Prop :=
  t = [] ∨ t.getLast? = some '\n'

private theorem Closed.tail (c : Char) (cs : Text) (closed : Closed (c :: cs)) : Closed cs := by
  cases cs with
  | nil => exact .inl rfl
  | cons d ds =>
    rcases closed with empty | last
    · contradiction
    · rw [List.getLast?_cons_cons] at last
      exact .inr last

/-- Lines may be read in two parts if the first part ends in a line feed. -/
theorem lines_append (t u : Text) (closed : Closed t) : lines (t ++ u) = lines t ++ lines u := by
  fun_induction lines t with
  | case1 => rfl
  | case2 cs ih =>
    rw [List.cons_append,List.cons_append,lines,ih (closed.tail.tail)]
    rfl
  | case3 cs ih =>
    rw [List.cons_append,lines,ih closed.tail]
    rfl
  | case4 c cs no_end no_feed none_left =>
    -- a last character without a line after it would have to be the line feed
    have alone : cs = [] := Decidable.byContradiction fun more => lines_ne_nil cs more none_left
    subst alone
    rcases closed with empty | last
    · contradiction
    · exact absurd (Option.some.inj last) no_feed
  | case5 c cs no_end no_feed line rest cut ih =>
    rw [List.cons_append,lines_cons c _ no_feed,ih closed.tail,cut]
    · rfl
    · rintro rfl tail starts
      cases cs with
      | nil => simp [lines] at cut
      | cons d ds =>
        obtain rfl : d = '\n' := (List.cons.inj starts).1
        exact no_end ds rfl rfl

theorem mem_of_mem_lines (t l : Text) (c : Char) (line : l ∈ lines t) (member : c ∈ l) : c ∈ t := by
  fun_induction lines t generalizing l with
  | case1 => simp at line
  | case2 cs ih =>
    rcases List.mem_cons.mp line with rfl | inside
    · simp at member
    · simp [ih l inside member]
  | case3 cs ih =>
    rcases List.mem_cons.mp line with rfl | inside
    · simp at member
    · simp [ih l inside member]
  | case4 c cs no_end no_feed none_left ih =>
    obtain rfl : l = [c] := by simpa using line
    simp [List.mem_singleton.mp member]
  | case5 c cs no_end no_feed first rest cut ih =>
    rcases List.mem_cons.mp line with rfl | inside
    · rcases List.mem_cons.mp member with rfl | later
      · exact List.mem_cons_self
      · exact List.mem_cons_of_mem c (ih first (by simp [cut]) later)
    · exact List.mem_cons_of_mem c (ih l (by simp [cut,inside]) member)

section Places

/-- What is read of a line: all of it but a carriage return at its end. -/
def ReadAs (line read : Text) : Prop :=
  line = read ∨ line = read ++ ['\r']

/-- A line in a text. Its line feed, if it has one, stands after it. -/
structure LineAt (t before line rest : Text) : Prop where
  text : t = before ++ line ++ rest
  closed : Closed before
  one_line : '\n' ∉ line
  ends : rest = [] ∨ rest.head? = some '\n'

private theorem lines_of_no_feed (l : Text) (clean : '\n' ∉ l) (nonempty : l ≠ []) : lines l = [l] := by
  induction l with
  | nil => contradiction
  | cons c cs ih =>
    have no_feed : c ≠ '\n' := fun equal => clean (by simp [equal])
    have tail_clean : '\n' ∉ cs := fun inside => clean (List.mem_cons_of_mem c inside)
    have no_end : c = '\r' → ∀ rest, cs ≠ '\n' :: rest := by
      rintro - rest rfl
      exact tail_clean List.mem_cons_self
    rw [lines_cons c cs no_feed no_end]
    cases cs with
    | nil => rfl
    | cons d ds => simp [ih tail_clean (by simp)]

theorem LineAt.read {t before line rest : Text} (place : LineAt t before line rest) (nonempty : line ≠ []) :
    ∃ read after, lines t = lines before ++ read :: after ∧ ReadAs line read := by
  obtain ⟨rfl,closed,one_line,rfl | feed⟩ := place
  · refine ⟨line,[],?_,.inl rfl⟩
    rw [List.append_nil,lines_append before line closed,lines_of_no_feed line one_line nonempty]
  · obtain ⟨tail,rfl⟩ := List.head?_eq_some_iff.mp feed
    obtain ⟨read,split,reads⟩ := lines_append_feed line tail one_line
    exact ⟨read,lines tail,by rw [List.append_assoc,lines_append before _ closed,split],reads⟩

/-- Each line that is read of a text stands somewhere in it. -/
theorem exists_lineAt (t : Text) (earlier after : List Text) (read : Text)
    (split : lines t = earlier ++ read :: after) :
    ∃ before line rest, LineAt t before line rest ∧ lines before = earlier ∧ ReadAs line read := by
  induction earlier generalizing t with
  | nil =>
    by_cases feed : '\n' ∈ t
    · obtain ⟨line,tail,rfl,clean⟩ := List.eq_append_cons_of_mem feed
      obtain ⟨first,cut,reads⟩ := lines_append_feed line tail clean
      obtain ⟨rfl,_⟩ := List.cons.inj (cut.symm.trans split)
      exact ⟨[],line,'\n' :: tail,⟨rfl,.inl rfl,clean,.inr rfl⟩,rfl,reads⟩
    · have nonempty : t ≠ [] := by
        rintro rfl
        simp [lines] at split
      rw [lines_of_no_feed t feed nonempty] at split
      obtain ⟨rfl,_⟩ := List.cons.inj split
      exact ⟨[],t,[],⟨by simp,.inl rfl,feed,.inl rfl⟩,rfl,.inl rfl⟩
  | cons x earlier ih =>
    by_cases feed : '\n' ∈ t
    · obtain ⟨line,tail,rfl,clean⟩ := List.eq_append_cons_of_mem feed
      obtain ⟨first,alone,_⟩ := lines_append_feed line [] clean
      have closed : Closed (line ++ ['\n']) := .inr (by simp)
      have parted (u : Text) : lines (line ++ '\n' :: u) = first :: lines u := by
        rw [List.append_cons,lines_append _ u closed,alone]
        rfl
      rw [parted] at split
      obtain ⟨rfl,later⟩ := List.cons.inj split
      obtain ⟨before,found,rest,place,same,reads⟩ := ih tail later
      refine ⟨line ++ '\n' :: before,found,rest,⟨by simp [place.text],.inr ?_,place.one_line,place.ends⟩,?_,reads⟩
      · rcases place.closed with rfl | last
        · simp
        · simp [List.getLast?_append,List.getLast?_cons,last]
      · rw [parted,same]
    · have nonempty : t ≠ [] := by
        rintro rfl
        simp [lines] at split
      rw [lines_of_no_feed t feed nonempty] at split
      simp at split

end Places

end CannedHttp.Text
