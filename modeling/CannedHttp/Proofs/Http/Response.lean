import CannedHttp.Http.Response
import CannedHttp.Proofs.HeaderList
import CannedHttp.Proofs.Http.Token
import Mathlib.Data.List.Induction
import Mathlib.Data.List.Nodup

/-!
The headers of a route's answer. Each header of the route is judged by itself: it is left out, or it comes with
its name in lower case and its value in UTF-8. No name comes twice, since the names in a header list differ in
more than the case of their letters.
-/
namespace CannedHttp.Http

namespace Headers

private theorem appendEntry_of_new (name : Text) (value : Bytes) (es : List (Text × Bytes))
    (new : name ∉ es.map (·.1)) : appendEntry name value es = es ++ [(name,value)] := by
  induction es with
  | nil => rfl
  | cons e es ih =>
    rw [List.map_cons,List.mem_cons,not_or] at new
    unfold appendEntry
    simp [Ne.symm new.1,ih new.2]

private theorem ofList_concat (es : List (Text × Bytes)) (e : Text × Bytes) :
    ofList (es ++ [e]) = (ofList es).append e.1 e.2 := by
  rw [ofList,List.foldl_append]
  rfl

theorem entries_ofList (es : List (Text × Bytes)) (distinct : (es.map (·.1)).Nodup) :
    (ofList es).entries = es := by
  induction es using List.reverseRecOn with
  | nil => rfl
  | append_singleton es e ih =>
    rw [List.map_append,List.map_singleton,← List.concat_eq_append,List.nodup_concat] at distinct
    rw [ofList_concat,append,ih distinct.2,appendEntry_of_new _ _ _ distinct.1]

end Headers

/-- The header can stand in an answer: its name is a token within the bound, its value is legal, and it does not
describe how the body is sent. -/
structure Admitted (h : Text × Text) : Prop where
  token : h.1 ≠ [] ∧ ∀ c ∈ h.1, isTokenChar c = true
  short : h.1.length ≤ 65535
  legal : Legal h.2
  unframed : Text.sameIgnoringCase h.1 "content-length".toList = false ∧
    Text.sameIgnoringCase h.1 "transfer-encoding".toList = false

theorem isToken_iff (t : Text) : isToken t = true ↔ t ≠ [] ∧ ∀ c ∈ t, isTokenChar c = true := by
  simp [isToken]

private theorem isFraming_foldCase (name : Text) : isFraming (Text.foldCase name) =
    (Text.sameIgnoringCase name "content-length".toList ||
      Text.sameIgnoringCase name "transfer-encoding".toList) := rfl

theorem admitted_iff (h : Text × Text) : Admitted h ↔ (isToken h.1 && h.1.length ≤ 65535) = true ∧
    isHeaderValue (Utf8.encode h.2) = true ∧ isFraming (Text.foldCase h.1) = false := by
  rw [Bool.and_eq_true,isToken_iff,isHeaderValue_encode,isFraming_foldCase,Bool.or_eq_false_iff,decide_eq_true_iff]
  constructor
  · rintro ⟨token,short,legal,unframed⟩
    exact ⟨⟨token,short⟩,legal,unframed⟩
  · rintro ⟨⟨token,short⟩,legal,unframed⟩
    exact ⟨token,short,legal,unframed⟩

instance : DecidablePred Admitted := fun h => decidable_of_iff _ (admitted_iff h).symm

/-- The form in which a header stands in an answer. -/
def lowered (h : Text × Text) : Text × Bytes :=
  (Text.foldCase h.1,Utf8.encode h.2)

private theorem kept_of (h : Text × Text) :
    (HeaderFate.of h).kept? = if Admitted h then some (lowered h) else none := by
  rw [if_congr (admitted_iff h) rfl rfl]
  unfold HeaderFate.of headerName?
  by_cases token : (isToken h.1 && h.1.length ≤ 65535) = true
  · rw [if_pos token]
    dsimp only
    by_cases framing : isFraming (Text.foldCase h.1) = true
    · rw [if_pos framing,if_neg fun admitted => absurd framing (ne_true_of_eq_false admitted.2.2)]
      rfl
    · rw [if_neg framing]
      by_cases legal : isHeaderValue (Utf8.encode h.2) = true
      · rw [if_pos legal,if_pos ⟨token,legal,eq_false_of_ne_true framing⟩]
        rfl
      · rw [if_neg legal,if_neg fun admitted => absurd admitted.2.1 legal]
        rfl
  · rw [if_neg token,if_neg fun admitted => absurd admitted.1 token]
    rfl

private theorem filterMap_kept (es : List (Text × Text)) :
    es.filterMap (fun h => (HeaderFate.of h).kept?) = (es.filter (Admitted ·)).map lowered := by
  induction es with
  | nil => rfl
  | cons h es ih =>
    rw [List.filterMap_cons,kept_of,List.filter_cons,ih]
    by_cases admitted : Admitted h <;> simp [admitted]

private theorem nodup_lowered (es : List (Text × Text)) (distinct : HeaderList.Distinct es) :
    ((es.map lowered).map (·.1)).Nodup := by
  rw [List.map_map,List.Nodup,List.pairwise_map]
  exact distinct.imp fun apart => beq_eq_false_iff_ne.mp apart

/-- The fallback answer has one header, whatever is configured. -/
theorem fallback_eq (f : Config.Fallback) : Response.fallback f =
    ⟨if isStatus f.status then f.status else 404,⟨[(contentTypeName,
      Utf8.encode (if Legal f.contentType then f.contentType else "text/plain; charset=utf-8".toList))]⟩,
      f.body⟩ := by
  unfold Response.fallback
  by_cases legal : Legal f.contentType
  · rw [if_pos legal]
    dsimp only
    rw [if_pos ((isHeaderValue_encode _).mpr legal)]
    rfl
  · rw [if_neg legal]
    dsimp only
    rw [if_neg fun sendable => legal ((isHeaderValue_encode _).mp sendable)]
    rfl

section Routes
variable (r : Route) (captures : Matching.Captures)

theorem entries_ofRoute (distinct : HeaderList.Distinct r.headers.entries) :
    (Response.ofRoute r captures).headers.entries = (r.headers.entries.filter (Admitted ·)).map lowered := by
  have names := nodup_lowered _ (distinct.sublist (List.filter_sublist (p := (Admitted ·))))
  rw [Response.ofRoute,filterMap_kept]
  exact Headers.entries_ofList _ names

/-- The answer has exactly those headers of the route that can stand in it, in the same order and each name once,
and the rendered body; a header that cannot stand in it changes nothing about the others. -/
theorem headers_ofRoute (inserted : List (Text × Text)) (built : r.headers = .ofList inserted) :
    (Response.ofRoute r captures).headers.entries = (r.headers.entries.filter (Admitted ·)).map lowered ∧
    ((Response.ofRoute r captures).headers.entries.map (·.1)).Nodup ∧
    (∀ before bad after, r.headers.entries = before ++ bad :: after → ¬Admitted bad →
      (Response.ofRoute { r with headers := ⟨before ++ after⟩ } captures).headers =
        (Response.ofRoute r captures).headers) ∧
    (Response.ofRoute r captures).body = Template.render r.body captures := by
  have distinct : HeaderList.Distinct r.headers.entries := built ▸ HeaderList.distinct_ofList inserted
  have entries := entries_ofRoute r captures distinct
  refine ⟨entries,?_,fun before bad after parted unadmitted => ?_,rfl⟩
  · rw [entries]
    exact nodup_lowered _ (distinct.sublist List.filter_sublist)
  · rw [parted] at distinct entries
    have shorter : (before ++ after).Sublist (before ++ bad :: after) :=
      (List.sublist_cons_self bad after).append_left before
    have without := entries_ofRoute { r with headers := ⟨before ++ after⟩ } captures (distinct.sublist shorter)
    rw [List.filter_append,List.filter_cons_of_neg (by simpa using unadmitted),← List.filter_append] at entries
    exact congrArg Headers.mk (without.trans entries.symm)

end Routes

def labelled : List (Text × Text) :=
  [("Content-Type".toList,"text/plain".toList),("X Bad".toList,"1".toList),("content-LENGTH".toList,"9".toList),
    ("X-Lines".toList,"a\nb".toList),("X-Café".toList,"1".toList),("X-Note".toList,"é\t1".toList),
    ("CONTENT-type".toList,"application/json".toList)]

def labelledRoute : Route :=
  { Route.make "a.http".toList "GET".toList "/a".toList with headers := .ofList labelled, status := 42 }

/-- Of these seven insertions two give a header of the answer, one of them with the value of the last. -/
theorem headers_ofRoute_labelled : labelledRoute.headers = .ofList labelled ∧
    (Response.ofRoute labelledRoute .empty).headers.entries =
      [("content-type".toList,Utf8.encode "application/json".toList),
        ("x-note".toList,Utf8.encode "é\t1".toList)] ∧
    ¬Admitted ("X-Lines".toList,"a\nb".toList) ∧
    ((Response.ofRoute labelledRoute .empty).headers.entries.map (·.1)).Nodup := by
  have answered := headers_ofRoute labelledRoute .empty labelled rfl
  refine ⟨rfl,?_,by decide,answered.2.1⟩
  rw [answered.1]
  decide

def longName : Text :=
  List.replicate 65536 'a'

def longNamed : Route :=
  { Route.make "a.http".toList "GET".toList "/a".toList with headers := .ofList [(longName,['1'])] }

/-- A token above the bound is left out, although nothing else is wrong with its header. -/
theorem long_name_left_out : isToken longName = true ∧ isHeaderValue (Utf8.encode ['1']) = true ∧
    isFraming (Text.foldCase longName) = false ∧ (longName,['1']) ∈ longNamed.headers.entries ∧
    lowered (longName,['1']) ∉ (Response.ofRoute longNamed .empty).headers.entries := by
  have length : longName.length = 65536 := List.length_replicate
  have other (name : Text) (short : name.length < 65536) : (Text.foldCase longName == name) = false := by
    apply beq_eq_false_iff_ne.mpr
    rintro rfl
    rw [Text.foldCase,List.length_map,length] at short
    exact absurd short (Nat.lt_irrefl 65536)
  have token : isToken longName = true := by
    refine (isToken_iff _).mpr ⟨List.ne_nil_of_length_pos (by omega),fun c member => ?_⟩
    obtain rfl := List.eq_of_mem_replicate member
    decide
  have framing : isFraming (Text.foldCase longName) = false := by
    rw [isFraming,other _ (by decide),other _ (by decide)]
    rfl
  refine ⟨token,by decide,framing,List.mem_singleton_self _,?_⟩
  have unadmitted : ¬Admitted (longName,['1']) := by
    intro admitted
    have short := admitted.short
    rw [length] at short
    exact absurd short (by decide)
  have entries := entries_ofRoute longNamed .empty (HeaderList.distinct_ofList [(longName,['1'])])
  have single : longNamed.headers.entries = [(longName,['1'])] := rfl
  rw [entries,single,List.filter_cons_of_neg (by simpa using unadmitted)]
  exact List.not_mem_nil

end CannedHttp.Http
