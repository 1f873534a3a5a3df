import CannedHttp.Proofs.Matching.Structural
import CannedHttp.Proofs.Query.Writing

/-!
Requests whose queries are written differently. Only the parameters of a query are matched, so neither the way
in which a list of parameters is written nor, if no two names fall together, its order can be told from what a
route captures.
-/
namespace CannedHttp.Matching

private theorem structural_of_parameters (r : Route) (q p : Request) (path : q.path = p.path)
    (parameters : Query.parse q.query = Query.parse p.query) :
    Strategy.structural.captures? r q = Strategy.structural.captures? r p := by
  have asked : queryDemands r q.query = queryDemands r p.query := by
    unfold queryDemands
    rw [parameters]
  exact captures_of_demands r r q p (congrArg (pathDemands r) path) asked

/-- A written list of parameters is read as the dictionary of its names in lower case, the last value of each.
Another writing of the list, or of a permutation of it if its names are different in lower case, makes no
difference to any route. -/
theorem captures_of_writing (pairs : List (Text × Text)) (query : Text) (writing : Query.Writing pairs query) :
    (∀ name, (Query.parse query).get? name =
      Dict.last? (pairs.map fun pair => (Text.lower pair.1, pair.2)) name) ∧
    ∀ (others : List (Text × Text)) (other : Text), Query.Writing others other →
      (others = pairs ∨ others.Perm pairs ∧ (pairs.map fun pair => Text.lower pair.1).Nodup) →
      ∀ (r : Route) (q p : Request), q.path = p.path → q.query = query → p.query = other →
        Strategy.structural.captures? r q = Strategy.structural.captures? r p := by
  have read := Query.parse_writing pairs query writing
  constructor
  · intro name
    rw [read,Dict.get_ofList]
  · rintro others other other_writing related r q p path rfl rfl
    apply structural_of_parameters r q p path
    rw [read,Query.parse_writing others p.query other_writing]
    rcases related with rfl | ⟨permuted,distinct⟩
    · rfl
    · apply Dict.ofList_perm
      · simpa [List.map_map,Function.comp_def] using distinct
      · exact (permuted.map _).symm

section Tags

def tagPairs : List (Text × Text) :=
  [("Tag".toList, "a b".toList), ("name".toList, "é&=".toList)]

def tagQuery : Text :=
  "?Tag=a+b&name=%c3%A9%26=".toList

def swappedQuery : Text :=
  "?&name=é%26%3d&&Tag=a b".toList

def tagRoute : Route :=
  .make "tags.http".toList "GET".toList "/tags?name=\x7b\x7bname\x7d\x7d&tag=\x7b\x7btag\x7d\x7d".toList

private theorem tagQuery_writing : Query.Writing tagPairs tagQuery := by
  refine ⟨["Tag=a+b".toList, "name=%c3%A9%26=".toList],by decide +kernel,?_⟩
  change List.Forall₂ Query.ItemWriting tagPairs ["Tag=a+b".toList, "name=%c3%A9%26=".toList]
  have tag : Query.TextWriting Query.reservedInValue "a b".toList "a+b".toList :=
    ⟨_,.cons (.itself 0x61 (by decide)) (.cons .plus (.cons (.itself 0x62 (by decide)) .nil)),by decide +kernel⟩
  have name : Query.TextWriting Query.reservedInValue "é&=".toList "%c3%A9%26=".toList :=
    ⟨_,.cons (.escaped 0xc3 'c' '3' (.inr (by decide)) (.inl (by decide)))
      (.cons (.escaped 0xa9 'A' '9' (.inl (by decide)) (.inl (by decide)))
        (.cons (.escaped 0x26 '2' '6' (.inl (by decide)) (.inl (by decide)))
          (.cons (.itself 0x3d (by decide)) .nil))),by decide +kernel⟩
  exact .cons ⟨"Tag".toList,"a+b".toList,by decide +kernel,Query.textWriting_plain _ _ (by decide +kernel),tag⟩
    (.cons ⟨"name".toList,"%c3%A9%26=".toList,by decide +kernel,Query.textWriting_plain _ _ (by decide +kernel),
      name⟩ .nil)

private theorem swappedQuery_writing : Query.Writing tagPairs.reverse swappedQuery := by
  refine ⟨[[], "name=é%26%3d".toList, [], "Tag=a b".toList],by decide +kernel,?_⟩
  change List.Forall₂ Query.ItemWriting tagPairs.reverse ["name=é%26%3d".toList, "Tag=a b".toList]
  have name : Query.TextWriting Query.reservedInValue "é&=".toList "é%26%3d".toList :=
    ⟨_,.cons (.itself 0xc3 (by decide)) (.cons (.itself 0xa9 (by decide))
      (.cons (.escaped 0x26 '2' '6' (.inl (by decide)) (.inl (by decide)))
        (.cons (.escaped 0x3d '3' 'd' (.inl (by decide)) (.inr (by decide))) .nil))),by decide +kernel⟩
  exact .cons ⟨"name".toList,"é%26%3d".toList,by decide +kernel,Query.textWriting_plain _ _ (by decide +kernel),
      name⟩
    (.cons ⟨"Tag".toList,"a b".toList,by decide +kernel,Query.textWriting_plain _ _ (by decide +kernel),
      Query.textWriting_plain _ _ (by decide +kernel)⟩ .nil)

theorem captures_of_writing_tags :
    Query.Writing tagPairs tagQuery ∧ Query.Writing tagPairs.reverse swappedQuery ∧
      tagPairs.reverse.Perm tagPairs ∧ (tagPairs.map fun pair => Text.lower pair.1).Nodup ∧
      (Query.parse tagQuery).get? "tag".toList = some "a b".toList ∧
      Strategy.structural.captures? tagRoute ⟨"GET".toList, "/tags".toList, tagQuery⟩ =
        Strategy.structural.captures? tagRoute ⟨"GET".toList, "/tags".toList, swappedQuery⟩ := by
  obtain ⟨last,same⟩ := captures_of_writing tagPairs tagQuery tagQuery_writing
  have permuted : tagPairs.reverse.Perm tagPairs := List.reverse_perm tagPairs
  have distinct : (tagPairs.map fun pair => Text.lower pair.1).Nodup := by decide +kernel
  refine ⟨tagQuery_writing,swappedQuery_writing,permuted,distinct,?_,?_⟩
  · rw [last]
    decide +kernel
  · exact same _ _ swappedQuery_writing (.inr ⟨permuted,distinct⟩) tagRoute _ _ rfl rfl rfl

end Tags

end CannedHttp.Matching
