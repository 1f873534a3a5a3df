import CannedHttp.Definition
import CannedHttp.Proofs.Route
import CannedHttp.Proofs.Text.Splitting
import CannedHttp.Proofs.Text.Trimming

/-!
How lines end is not seen. A carriage return at the end of a line is a blank there, so it changes nothing
that is asked of the line, and a file reads the same whether its lines end in line feeds alone or each in a
carriage return and a line feed.
-/
namespace CannedHttp

namespace Text

/-- The text with a carriage return before every line feed. -/
def withReturns (t : Text) : Text :=
  t.flatMap fun c => if c = '\n' then ['\r', '\n'] else [c]

private theorem withReturns_feed (t : Text) : withReturns ('\n' :: t) = '\r' :: '\n' :: withReturns t := by
  simp [withReturns]

private theorem withReturns_cons (c : Char) (t : Text) (no_feed : c ≠ '\n') :
    withReturns (c :: t) = c :: withReturns t := by
  simp [withReturns,no_feed]

private theorem withReturns_no_feed (t rest : Text) : withReturns t ≠ '\n' :: rest := by
  cases t with
  | nil => simp [withReturns]
  | cons c t =>
    by_cases feed : c = '\n'
    · rw [feed,withReturns_feed]
      simp
    · rw [withReturns_cons c t feed]
      simp [feed]

private theorem lines_withReturns (t : Text) (clean : ¬ ['\r', '\n'] <:+: t) :
    lines (withReturns t) = lines t := by
  induction t with
  | nil => rfl
  | cons c t ih =>
    have later := ih fun inside => clean (List.infix_cons inside)
    by_cases feed : c = '\n'
    · subst feed
      rw [withReturns_feed,lines,later,lines]
    · have no_end : c = '\r' → ∀ rest, t ≠ '\n' :: rest := by
        rintro rfl rest rfl
        exact clean ⟨[],rest,rfl⟩
      rw [withReturns_cons c t feed,lines_cons c t feed no_end,
        lines_cons c (withReturns t) feed fun _ => withReturns_no_feed t,later]

private theorem allBlank_withReturns (t : Text) : allBlank (withReturns t) = allBlank t := by
  induction t with
  | nil => rfl
  | cons c t ih =>
    unfold allBlank at *
    by_cases feed : c = '\n'
    · subst feed
      rw [withReturns_feed,List.all_cons,List.all_cons,ih,List.all_cons]
      rfl
    · rw [withReturns_cons c t feed,List.all_cons,ih,List.all_cons]

theorem trim_return (l : Text) : trim (l ++ ['\r']) = trim l := by
  have dropped : trimEnd (l ++ ['\r']) = trimEnd l := by
    simp [trimEnd,trimEndBy,show isBlank '\r' = true by decide]
  rw [← trim_trimEnd,dropped,trim_trimEnd]

private theorem isPrefixOf_trimStart_return (sign l : Text) (other : '\r' ∉ sign) :
    sign.isPrefixOf (trimStart (l ++ ['\r'])) = sign.isPrefixOf (trimStart l) := by
  unfold trimStart
  rw [List.dropWhile_append]
  split
  next blank =>
    rw [List.isEmpty_iff.mp blank]
    rfl
  next =>
    rw [Bool.eq_iff_iff,List.isPrefixOf_iff_prefix,List.isPrefixOf_iff_prefix,List.prefix_concat_iff]
    constructor
    · rintro (whole | shorter)
      · exact absurd (whole ▸ List.mem_append_right _ List.mem_cons_self) other
      · exact shorter
    · exact .inr

end Text

namespace Definition

theorem isBlank_return (l : Text) : Line.isBlank (l ++ ['\r']) = Line.isBlank l := by
  simp [Line.isBlank,Text.allBlank,show Text.isBlank '\r' = true by decide]

theorem isComment_return (l : Text) : Line.isComment (l ++ ['\r']) = Line.isComment l :=
  Text.isPrefixOf_trimStart_return ['#'] l (by decide)

theorem isSeparator_return (l : Text) : Line.isSeparator (l ++ ['\r']) = Line.isSeparator l :=
  Text.isPrefixOf_trimStart_return ['#', '#', '#'] l (by decide)

theorem headLine_return (l : Text) : HeadLine.ofText (l ++ ['\r']) = HeadLine.ofText l := by
  unfold HeadLine.ofText
  rw [isComment_return,Text.trim_return]

/-- Line ends do not matter: with a carriage return before every line feed, a file gives the same routes or
the same error. -/
theorem routes_withReturns (file content : Text) (clean : ¬ "\r\n".toList <:+: content) :
    routes file (Text.withReturns content) = routes file content := by
  unfold routes ofText Line.ofText
  rw [Text.allBlank_withReturns,Text.lines_withReturns content clean]

/-- Carriage returns alone: in a header value, before a separator, in a body and at the end of the file. -/
def returnsFile : Text :=
  "GET /a\nX: b\rc\n\n one\rtwo\n \r###\nPUT /b\n\nend\r".toList

theorem routes_withReturns_lone : ¬ "\r\n".toList <:+: returnsFile ∧
    (∃ rs, rs.map (·.body) = [" one\rtwo".toList,"end\r".toList] ∧
      routes "a.http".toList (Text.withReturns returnsFile) = .ok rs) := by
  have clean : ¬ "\r\n".toList <:+: returnsFile := by decide +kernel
  have same := routes_withReturns "a.http".toList returnsFile clean
  let first := Route.make "a.http".toList "GET".toList "/a".toList
  let second := Route.make "a.http".toList "PUT".toList "/b".toList
  have read : routes "a.http".toList returnsFile =
      .ok [first.answering 200 ⟨[("X".toList, "b\rc".toList)]⟩ " one\rtwo".toList,
        second.answering 200 .empty "end\r".toList] := by
    decide +kernel
  exact ⟨clean,_,rfl,same.trans read⟩

end Definition
end CannedHttp
