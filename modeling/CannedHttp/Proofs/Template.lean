import CannedHttp.Proofs.Text.Splitting
import CannedHttp.Template

/-!
Rendering replaces all placeholders of a body at once. A placeholder holds no opening brace but its
own, so a body can be cut before any opening brace and its parts rendered apart.
-/
namespace CannedHttp.Template
open Placeholder (isNameChar isName)

/-- A placeholder as it stands in a body. -/
def written (name : Text) : Text :=
  '{' :: name ++ ['}']

section Closing

private theorem closed_eq_some_iff (t name rest : Text) :
    closed? t = some (name, rest) ↔ isName name = true ∧ t = name ++ '}' :: rest := by
  constructor
  · intro closed
    have whole : (Text.run isNameChar t).1 ++ (Text.run isNameChar t).2 = t := List.takeWhile_append_dropWhile
    have named := Text.forall_mem_run isNameChar t
    unfold closed? at closed
    split at closed
    next first after cut =>
      rw [cut] at whole named
      split at closed
      next =>
        rw [Option.ite_none_left_eq_some] at closed
        obtain ⟨nonempty,same⟩ := closed
        obtain ⟨rfl,rfl⟩ := Prod.mk.inj (Option.some.inj same)
        exact ⟨by simpa [isName,nonempty] using named,whole.symm⟩
      next => contradiction
  · rintro ⟨named,rfl⟩
    simp only [isName,Bool.and_eq_true,Bool.not_eq_true',List.all_eq_true] at named
    rw [closed?,Text.run_append_cons isNameChar name rest '}' named.2 (by decide)]
    simp [named.1]

private theorem brace_not_mem_name (name : Text) (named : isName name = true) : '{' ∉ name := by
  intro member
  simp only [isName,Bool.and_eq_true,List.all_eq_true] at named
  exact absurd (named.2 '{' member) (by decide)

/-- No placeholder reaches over an opening brace. -/
private theorem closed_append_brace (t after : Text) :
    closed? (t ++ '{' :: after) = (closed? t).map fun c => (c.1,c.2 ++ '{' :: after) := by
  cases closed : closed? t with
  | some c =>
    obtain ⟨named,rfl⟩ := (closed_eq_some_iff t c.1 c.2).mp closed
    apply (closed_eq_some_iff _ _ _).mpr
    simp [named]
  | none =>
    apply Option.eq_none_iff_forall_not_mem.mpr
    rintro ⟨name,rest⟩ found
    obtain ⟨named,same⟩ := (closed_eq_some_iff _ name rest).mp found
    rcases List.append_eq_append_iff.mp same with ⟨more,rfl,starts⟩ | ⟨more,rfl,starts⟩
    · -- the name would go on past the brace
      cases more with
      | nil => simp at starts
      | cons c more =>
        obtain rfl : '{' = c := (List.cons.inj starts).1
        exact brace_not_mem_name _ named (by simp)
    · -- the name would have been closed before the brace
      cases more with
      | nil => simp at starts
      | cons c more =>
        obtain rfl : '}' = c := (List.cons.inj starts).1
        rw [(closed_eq_some_iff _ name more).mpr ⟨named,rfl⟩] at closed
        contradiction

end Closing

section Pieces

private theorem pieces_char (c : Char) (cs : Text) (plain : c ≠ '{') : pieces (c :: cs) = .char c :: pieces cs := by
  rw [pieces,if_neg plain]

private theorem pieces_closed (cs name rest : Text) (closed : closed? cs = some (name, rest)) :
    pieces ('{' :: cs) = .placeholder name :: pieces rest := by
  rw [pieces,if_pos rfl]
  split
  next found =>
    rw [closed] at found
    obtain ⟨rfl,rfl⟩ := Prod.mk.inj (Option.some.inj found)
    rfl
  next found => simp [closed] at found

private theorem pieces_unclosed (cs : Text) (unclosed : closed? cs = none) :
    pieces ('{' :: cs) = .char '{' :: pieces cs := by
  rw [pieces,if_pos rfl]
  split
  next found => simp [unclosed] at found
  next => rfl

private theorem pieces_append_brace (before after : Text) :
    pieces (before ++ '{' :: after) = pieces before ++ pieces ('{' :: after) := by
  fun_induction pieces before with
  | case1 => simp
  | case2 cs name rest closed shorter ih =>
    have still := closed_append_brace cs after
    rw [closed,Option.map_some] at still
    rw [List.cons_append,pieces_closed _ _ _ still,ih]
    simp
  | case3 cs unclosed ih =>
    have still := closed_append_brace cs after
    rw [unclosed,Option.map_none] at still
    rw [List.cons_append,pieces_unclosed _ still,ih]
    simp
  | case4 c cs plain ih =>
    rw [List.cons_append,pieces_char _ _ plain,ih]
    simp

private theorem written_of_mem_pieces (t name : Text) (member : .placeholder name ∈ pieces t) :
    isName name = true ∧ ∃ before after, t = before ++ written name ++ after := by
  fun_induction pieces t with
  | case1 => simp at member
  | case2 cs found rest closed shorter ih =>
    obtain ⟨named,rfl⟩ := (closed_eq_some_iff cs found rest).mp closed
    rcases List.mem_cons.mp member with same | later
    · obtain rfl := Piece.placeholder.inj same
      exact ⟨named,[],rest,by simp [written]⟩
    · obtain ⟨fine,before,after,rfl⟩ := ih later
      exact ⟨fine,written found ++ before,after,by simp [written]⟩
  | case3 cs unclosed ih =>
    obtain ⟨fine,before,after,rfl⟩ := ih (by simpa using member)
    exact ⟨fine,'{' :: before,after,by simp⟩
  | case4 c cs plain ih =>
    obtain ⟨fine,before,after,rfl⟩ := ih (by simpa using member)
    exact ⟨fine,c :: before,after,by simp⟩

end Pieces

section Rendering
variable (values : Dict Text)

/-- Pieces without a value give back what was cut. -/
private theorem flatMap_pieces (t : Text) (missing : ∀ name, .placeholder name ∈ pieces t → values.get? name = none) :
    (pieces t).flatMap (Piece.render values) = t := by
  fun_induction pieces t with
  | case1 => simp
  | case2 cs name rest closed shorter ih =>
    obtain ⟨named,rfl⟩ := (closed_eq_some_iff cs name rest).mp closed
    have rendered := ih fun other member => missing other (List.mem_cons_of_mem _ member)
    simp [Piece.render,missing name List.mem_cons_self,rendered]
  | case3 cs unclosed ih =>
    have rendered := ih fun other member => missing other (List.mem_cons_of_mem _ member)
    simp [Piece.render,rendered]
  | case4 c cs plain ih =>
    have rendered := ih fun other member => missing other (List.mem_cons_of_mem _ member)
    simp [Piece.render,rendered]

/-- Without values the body is not looked at, which gives what rendering its pieces would. -/
theorem render_eq (body : Text) : render body values = (pieces body).flatMap (Piece.render values) := by
  unfold render
  split
  next empty =>
    symm
    apply flatMap_pieces
    intro name member
    rw [Dict.isEmpty,List.isEmpty_iff] at empty
    simp [Dict.get?,empty]
  next => rfl

theorem render_append_brace (before after : Text) :
    render (before ++ '{' :: after) values = render before values ++ render ('{' :: after) values := by
  simp [render_eq,pieces_append_brace]

theorem render_char (c : Char) (cs : Text) (plain : c ≠ '{') :
    render (c :: cs) values = c :: render cs values := by
  simp [render_eq,pieces_char c cs plain,Piece.render]

theorem render_unclosed (cs : Text) (unclosed : closed? cs = none) :
    render ('{' :: cs) values = '{' :: render cs values := by
  simp [render_eq,pieces_unclosed cs unclosed,Piece.render]

theorem render_written (name after : Text) (named : isName name = true) :
    render (written name ++ after) values = (values.get? name).getD (written name) ++ render after values := by
  have closed : closed? (name ++ '}' :: after) = some (name,after) :=
    (closed_eq_some_iff _ name after).mpr ⟨named,rfl⟩
  have cut : pieces (written name ++ after) = .placeholder name :: pieces after := by
    simp [written,pieces_closed _ _ _ closed]
  rw [render_eq,render_eq,cut]
  simp [Piece.render,written]

theorem render_append_written (before name after : Text) (named : isName name = true) :
    render (before ++ written name ++ after) values =
      render before values ++ (values.get? name).getD (written name) ++ render after values := by
  have starts : written name ++ after = '{' :: (name ++ '}' :: after) := by simp [written]
  rw [List.append_assoc,starts,render_append_brace,← starts,render_written values name after named]
  simp

/-- Each placeholder gives its value as it is, or itself where there is no value, and the text on both
sides of it is rendered apart. A body without placeholders stays, as do braces around a placeholder and
braces that open none, and a body is rendered in the same way where nothing was captured. -/
theorem render_simultaneous :
    (∀ before name after, isName name = true →
      render (before ++ written name ++ after) values =
        render before values ++ (values.get? name).getD (written name) ++ render after values) ∧
    (∀ body, (∀ before name after, isName name = true → body ≠ before ++ written name ++ after) →
      render body values = body) ∧
    (∀ before name after, isName name = true →
      render (before ++ '{' :: written name ++ '}' :: after) values =
        render before values ++ '{' :: (values.get? name).getD (written name) ++ '}' :: render after values) ∧
    (∀ before after, (∀ name rest, isName name = true → after ≠ name ++ '}' :: rest) →
      render (before ++ '{' :: after) values = render before values ++ '{' :: render after values) ∧
    ∀ body, render body values = (pieces body).flatMap (Piece.render values) := by
  have opens (before after : Text) (unclosed : closed? after = none) :
      render (before ++ '{' :: after) values = render before values ++ '{' :: render after values := by
    rw [render_append_brace,render_unclosed values after unclosed]
  refine ⟨render_append_written values,?_,?_,?_,render_eq values⟩
  · intro body free
    rw [render_eq]
    apply flatMap_pieces
    intro name member
    obtain ⟨named,before,after,whole⟩ := written_of_mem_pieces body name member
    exact absurd whole (free before name after named)
  · intro before name after named
    have outer := opens before [] rfl
    have inner := render_append_written values (before ++ ['{']) name ('}' :: after) named
    rw [outer,render_char values '}' after (by decide)] at inner
    simpa [render_eq,pieces] using inner
  · intro before after free
    apply opens
    apply Option.eq_none_iff_forall_not_mem.mpr
    rintro ⟨name,rest⟩ found
    obtain ⟨named,same⟩ := (closed_eq_some_iff after name rest).mp found
    exact free name rest named same

end Rendering

/-- A value that is written like another placeholder. -/
def crossed : Dict Text :=
  .ofList [("id".toList,written "name".toList),("name".toList,"Tom".toList)]

theorem render_simultaneous_crossed :
    isName "id".toList = true ∧ isName "name".toList = true ∧
      render (written "id".toList ++ written "name".toList) crossed = written "name".toList ++ "Tom".toList ∧
      render ('{' :: written "id".toList ++ ['}']) crossed = '{' :: written "name".toList ++ ['}'] := by
  have id_named : isName "id".toList = true := by decide
  have name_named : isName "name".toList = true := by decide
  have nothing : render [] crossed = [] := by simp [render_eq,pieces]
  have id_value : crossed.get? "id".toList = some (written "name".toList) := by decide
  have name_value : crossed.get? "name".toList = some "Tom".toList := by decide
  obtain ⟨each,_,doubled,_⟩ := render_simultaneous crossed
  have first := each [] "id".toList (written "name".toList) id_named
  have second := each [] "name".toList [] name_named
  have braced := doubled [] "id".toList [] id_named
  rw [nothing,id_value] at first braced
  rw [nothing,name_value,List.append_nil] at second
  rw [List.nil_append] at second
  rw [List.nil_append,second] at first
  exact ⟨id_named,name_named,first,braced⟩

end CannedHttp.Template
