import CannedHttp.Proofs.Definition.Grammar
import CannedHttp.Proofs.Definition.Parts
import Mathlib.Data.List.Induction

/-!
Where in a file a line stands, seen from the lines before it. A file begins outside of definitions, a line
other than a blank one or a comment begins a definition there, the first blank line ends its header block,
and a separator ends it.
-/
namespace CannedHttp.Definition

/-- Blank lines and comments do not count outside of definitions. -/
def Line.isIdle (t : Text) : Bool :=
  Line.isBlank t || Line.isComment t

inductive Place where
  | lead
  | head
  | body
  deriving DecidableEq

namespace Place

/-- The place after a line. -/
def next (place : Place) (line : Text) : Place :=
  if Line.isSeparator line then .lead
  else
    match place with
    | .lead => if Line.isIdle line then .lead else .head
    | .head => if Line.isBlank line then .body else .head
    | .body => .body

def afterFrom (place : Place) (lines : List Text) : Place :=
  lines.foldl next place

/-- The place after some lines of a file. -/
def after (lines : List Text) : Place :=
  afterFrom .lead lines

private theorem afterFrom_append (place : Place) (ls ms : List Text) :
    afterFrom place (ls ++ ms) = afterFrom (afterFrom place ls) ms := by
  simp [afterFrom]

private theorem after_concat (ls : List Text) (l : Text) : after (ls ++ [l]) = (after ls).next l := by
  simp [after,afterFrom]

private theorem next_separator (place : Place) (line : Text) (separator : Line.isSeparator line = true) :
    place.next line = .lead :=
  if_pos separator

private theorem next_idle (line : Text) (idle : Line.isIdle line = true) : lead.next line = .lead := by
  simp [next,idle]

private theorem lead_of_next (place : Place) (line : Text) (inner : Line.isSeparator line = false)
    (lead : place.next line = .lead) : place = .lead ∧ Line.isIdle line = true := by
  cases place with
  | lead => cases idle : Line.isIdle line <;> simp [next,inner,idle] at lead ⊢
  | head => cases blank : Line.isBlank line <;> simp [next,inner,blank] at lead
  | body => simp [next,inner] at lead

private theorem head_of_next (place : Place) (line : Text) (inner : Line.isSeparator line = false)
    (head : place.next line = .head) :
    place = .lead ∧ Line.isIdle line = false ∨ place = .head ∧ Line.isBlank line = false := by
  cases place with
  | lead => cases idle : Line.isIdle line <;> simp [next,inner,idle] at head ⊢
  | head => cases blank : Line.isBlank line <;> simp [next,inner,blank] at head ⊢
  | body => simp [next,inner] at head

end Place

section Parts

/-- Lines that end where a part begins: there are none, or the last is a separator. -/
def Parted (ls : List Text) : Prop :=
  ls = [] ∨ ∃ before separator, ls = before ++ [separator] ∧ Line.isSeparator separator = true

theorem after_parted (earlier part : List Text) (parted : Parted earlier) :
    Place.after (earlier ++ part) = Place.after part := by
  rcases parted with rfl | ⟨before,separator,rfl,ends⟩
  · rfl
  · have start : Place.after (before ++ [separator]) = .lead := by
      rw [Place.after_concat,Place.next_separator _ _ ends]
    rw [Place.after,Place.afterFrom_append]
    exact congrArg (Place.afterFrom · part) start

private theorem after_idle (part : List Text) (idle : ∀ l ∈ part, Line.isIdle l = true) :
    Place.after part = .lead := by
  induction part using List.reverseRecOn with
  | nil => rfl
  | append_singleton part l ih =>
    rw [Place.after_concat,ih fun m member => idle m (by simp [member])]
    exact Place.next_idle l (idle l (by simp))

theorem idle_of_lead (part : List Text) (inner : ∀ l ∈ part, Line.isSeparator l = false)
    (lead : Place.after part = .lead) : ∀ l ∈ part, Line.isIdle l = true := by
  induction part using List.reverseRecOn with
  | nil => simp
  | append_singleton part l ih =>
    rw [Place.after_concat] at lead
    obtain ⟨before,idle⟩ := Place.lead_of_next _ l (inner l (by simp)) lead
    intro m member
    rcases List.mem_append.mp member with inside | last
    · exact ih (fun m member => inner m (by simp [member])) before m inside
    · rw [List.mem_singleton.mp last,idle]

theorem begun_of_head (part : List Text) (inner : ∀ l ∈ part, Line.isSeparator l = false)
    (head : Place.after part = .head) :
    ∃ skipped request lines, part = skipped ++ request :: lines ∧ (∀ l ∈ skipped, Line.isIdle l = true) ∧
      Line.isIdle request = false ∧ ∀ l ∈ lines, Line.isBlank l = false := by
  induction part using List.reverseRecOn with
  | nil => contradiction
  | append_singleton part l ih =>
    have earlier : ∀ m ∈ part, Line.isSeparator m = false := fun m member => inner m (by simp [member])
    rw [Place.after_concat] at head
    rcases Place.head_of_next _ l (inner l (by simp)) head with ⟨before,counts⟩ | ⟨before,visible⟩
    · exact ⟨part,l,[],rfl,idle_of_lead part earlier before,counts,by simp⟩
    · obtain ⟨skipped,request,lines,rfl,idle,counts,block⟩ := ih earlier before
      refine ⟨skipped,request,lines ++ [l],by simp,idle,counts,?_⟩
      intro m member
      rcases List.mem_append.mp member with inside | last
      · exact block m inside
      · rw [List.mem_singleton.mp last,visible]

/-- Some lines of a file end in the beginning of a part. -/
theorem exists_part (ls : List Text) : ∃ earlier part, ls = earlier ++ part ∧ Parted earlier ∧
    ∀ l ∈ part, Line.isSeparator l = false := by
  induction ls using List.reverseRecOn with
  | nil => exact ⟨[],[],rfl,.inl rfl,by simp⟩
  | append_singleton ls l ih =>
    cases separates : Line.isSeparator l with
    | true => exact ⟨ls ++ [l],[],by simp,.inr ⟨ls,l,rfl,separates⟩,by simp⟩
    | false =>
      obtain ⟨earlier,part,rfl,parted,inner⟩ := ih
      refine ⟨earlier,part ++ [l],by simp,parted,?_⟩
      intro m member
      rcases List.mem_append.mp member with inside | last
      · exact inner m inside
      · rw [List.mem_singleton.mp last,separates]

/-- Outside of definitions, nothing but blank lines and comments stands before a line in its part. -/
theorem after_eq_lead_iff (ls : List Text) : Place.after ls = .lead ↔
    ∃ earlier skipped, ls = earlier ++ skipped ∧ Parted earlier ∧ ∀ l ∈ skipped, Line.isIdle l = true := by
  constructor
  · intro lead
    obtain ⟨earlier,part,rfl,parted,inner⟩ := exists_part ls
    rw [after_parted earlier part parted] at lead
    exact ⟨earlier,part,rfl,parted,idle_of_lead part inner lead⟩
  · rintro ⟨earlier,skipped,rfl,parted,idle⟩
    rw [after_parted earlier skipped parted,after_idle skipped idle]

end Parts

section Definitions

/-- A definition as it stands in a part: lines that do not count, the request line, a header block without
blank lines, and after a blank line the body. -/
def LaidOut (part : List Line) (d : Definition) : Prop :=
  ∃ skipped opening, part = skipped ++ d.request :: (d.head ++ (opening ++ d.body)) ∧
    (∀ l ∈ skipped, Line.isIdle l.text = true) ∧ Line.isIdle d.request.text = false ∧
    (∀ l ∈ d.head, Line.isBlank l.text = false) ∧
    (opening = [] ∧ d.body = [] ∨ ∃ blank, opening = [blank] ∧ Line.isBlank blank.text = true)

theorem ofPart_idle (skipped rest : List Line) (idle : ∀ l ∈ skipped, Line.isIdle l.text = true) :
    ofPart? (skipped ++ rest) = ofPart? rest := by
  have dropped : (skipped ++ rest).dropWhile (fun l => Line.isBlank l.text || Line.isComment l.text) =
      rest.dropWhile fun l => Line.isBlank l.text || Line.isComment l.text :=
    List.dropWhile_append_of_pos idle
  unfold ofPart?
  rw [dropped]

theorem ofPart_begun (request : Line) (lines rest : List Line) (counts : Line.isIdle request.text = false)
    (block : ∀ l ∈ lines, Line.isBlank l.text = false) :
    ofPart? (request :: (lines ++ rest)) =
      some ⟨request,lines ++ (Text.cut (fun l => Line.isBlank l.text) rest).1,
        (Text.cut (fun l => Line.isBlank l.text) rest).2.drop 1⟩ := by
  have kept : (request :: (lines ++ rest)).dropWhile (fun l => Line.isBlank l.text || Line.isComment l.text) =
      request :: (lines ++ rest) := List.dropWhile_cons_of_neg (Bool.eq_false_iff.mp counts)
  have visible : ∀ l ∈ lines, (!Line.isBlank l.text) = true := fun l member => by simp [block l member]
  unfold ofPart?
  rw [kept]
  simp only [Text.cut,List.takeWhile_append_of_pos visible,List.dropWhile_append_of_pos visible]

theorem ofPart_eq_some_iff (part : List Line) (d : Definition) : ofPart? part = some d ↔ LaidOut part d := by
  constructor
  · obtain ⟨skipped,rest,rfl,idle,ends⟩ : ∃ skipped rest, part = skipped ++ rest ∧
        (∀ l ∈ skipped, Line.isIdle l.text = true) ∧ ∀ l, rest.head? = some l → Line.isIdle l.text = false := by
      refine ⟨_,_,(Text.append_cut (fun l => !Line.isIdle l.text) part).symm,?_,?_⟩
      · simpa using Text.forall_mem_cut (fun l => !Line.isIdle l.text) part
      · intro l first
        obtain ⟨later,rest⟩ := List.head?_eq_some_iff.mp first
        simpa using Text.cut_rest _ part later l rest
    intro found
    rw [ofPart_idle skipped rest idle] at found
    cases rest with
    | nil => contradiction
    | cons request lines =>
      have counts := ends request rfl
      have begun := ofPart_begun request [] lines counts (by simp)
      rw [List.nil_append] at begun
      obtain rfl := Option.some.inj (begun.symm.trans found)
      have whole := Text.append_cut (fun l => Line.isBlank l.text) lines
      have block := Text.forall_mem_cut (fun l => Line.isBlank l.text) lines
      cases opening : (Text.cut (fun l => Line.isBlank l.text) lines).2 with
      | nil =>
        rw [opening] at whole
        refine ⟨skipped,[],?_,idle,counts,by simpa using block,.inl ⟨rfl,rfl⟩⟩
        simpa using whole.symm
      | cons blank body =>
        rw [opening] at whole
        have is_blank := Text.cut_rest (fun l => Line.isBlank l.text) lines body blank opening
        refine ⟨skipped,[blank],?_,idle,counts,by simpa using block,.inr ⟨blank,rfl,is_blank⟩⟩
        simpa using whole.symm
  · obtain ⟨request,head,body⟩ := d
    rintro ⟨skipped,opening,rfl,idle,counts,block,⟨rfl,rfl⟩ | ⟨blank,rfl,is_blank⟩⟩
    · rw [ofPart_idle skipped _ idle,ofPart_begun request head _ counts block]
      simp [Text.cut]
    · have opens : Text.cut (fun l => Line.isBlank l.text) ([blank] ++ body) = ([],blank :: body) :=
        Text.cut_append_cons (fun l => Line.isBlank l.text) [] body blank (by simp) is_blank
      rw [ofPart_idle skipped _ idle,ofPart_begun request head _ counts block,opens]
      simp

end Definitions

section Requests

/-- The lines that begin definitions. -/
def openingsFrom (place : Place) : List Line → List Line
  | [] => []
  | l :: ls =>
    if place = .lead ∧ Line.isIdle l.text = false then l :: openingsFrom (place.next l.text) ls
    else openingsFrom (place.next l.text) ls

theorem openingsFrom_append (place : Place) (ls ms : List Line) :
    openingsFrom place (ls ++ ms) =
      openingsFrom place ls ++ openingsFrom (Place.afterFrom place (ls.map Line.text)) ms := by
  induction ls generalizing place with
  | nil => rfl
  | cons l ls ih =>
    simp only [List.cons_append,openingsFrom,ih]
    split <;> rfl

theorem openingsFrom_split (place : Place) (ls earlier more : List Line) (l : Line)
    (split : openingsFrom place ls = earlier ++ l :: more) :
    ∃ before after, ls = before ++ l :: after ∧ openingsFrom place before = earlier ∧
      Place.afterFrom place (before.map Line.text) = .lead ∧ Line.isIdle l.text = false := by
  induction ls generalizing place earlier with
  | nil => simp [openingsFrom] at split
  | cons m ls ih =>
    unfold openingsFrom at split
    split at split
    next opens =>
      cases earlier with
      | nil =>
        obtain ⟨rfl,_⟩ := List.cons.inj split
        exact ⟨[],ls,rfl,rfl,opens.1,opens.2⟩
      | cons x earlier =>
        obtain ⟨rfl,later⟩ := List.cons.inj split
        obtain ⟨before,after,rfl,first,place_after,counts⟩ := ih _ earlier later
        refine ⟨m :: before,after,rfl,?_,place_after,counts⟩
        rw [openingsFrom,if_pos opens,first]
    next other =>
      obtain ⟨before,after,rfl,first,place_after,counts⟩ := ih _ earlier split
      refine ⟨m :: before,after,rfl,?_,place_after,counts⟩
      rw [openingsFrom,if_neg other,first]

/-- Requests are the lines that begin definitions: all of them if reading begins outside of definitions, and
those of the parts after the first if it begins inside of one. -/
theorem requests_eq (ls : List Line) :
    ((parts ls).filterMap ofPart?).map Definition.request = openingsFrom .lead ls ∧
      ∀ place, place ≠ .lead →
        ((parts ls).tail.filterMap ofPart?).map Definition.request = openingsFrom place ls := by
  induction ls with
  | nil => exact ⟨rfl,fun _ _ => rfl⟩
  | cons l ls ih =>
    cases separates : Line.isSeparator l.text with
    | true =>
      have cut : parts (l :: ls) = [] :: parts ls := if_pos separates
      have idle : Line.isIdle l.text = true := by
        rw [Line.isIdle,isComment_of_isSeparator l.text separates,Bool.or_true]
      refine ⟨?_,fun place inside => ?_⟩
      · rw [cut,openingsFrom,if_neg (by simp [idle]),Place.next_separator _ _ separates]
        exact ih.1
      · rw [cut,openingsFrom,if_neg (by simp [inside]),Place.next_separator _ _ separates]
        exact ih.1
    | false =>
      obtain ⟨part,rest,cut_rest,cut⟩ := parts_append_inner [l] ls (by simpa using separates)
      simp only [List.cons_append,List.nil_append] at cut
      rw [cut_rest] at ih
      refine ⟨?_,fun place inside => ?_⟩
      · rw [cut,openingsFrom]
        cases counts : Line.isIdle l.text with
        | true =>
          have skipped := ofPart_idle [l] part (by simpa using counts)
          rw [if_neg (by simp),Place.next_idle l.text counts,← ih.1]
          simp only [List.filterMap_cons]
          rw [show ofPart? (l :: part) = ofPart? part from skipped]
        | false =>
          have begun := ofPart_begun l [] part counts (by simp)
          have place_after : Place.lead.next l.text = .head := by simp [Place.next,separates,counts]
          rw [if_pos ⟨rfl,rfl⟩,place_after,← ih.2 .head (by simp)]
          simp only [List.filterMap_cons]
          rw [show ofPart? (l :: part) = _ from begun]
          rfl
      · have still_inside : place.next l.text ≠ .lead := fun lead =>
          inside (Place.lead_of_next place l.text separates lead).1
        rw [cut,openingsFrom,if_neg (by simp [inside]),← ih.2 _ still_inside]
        rfl

end Requests

end CannedHttp.Definition
