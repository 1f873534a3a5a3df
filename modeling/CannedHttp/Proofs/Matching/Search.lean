import CannedHttp.Matching

/-!
The search for a route. Its outcome is the usable route of least index, with the first strategy that accepts
and what that strategy captured. Routes that are not usable, and routes after the one found, have no part in
it.
-/
namespace CannedHttp.Matching

/-- What a route gives for a request when its turn comes. -/
def turn (ss : List Strategy) (r : Route) (q : Request) : Option (Strategy × Captures) :=
  if eligible r q then firstAccepting r q ss else none

def Match.found (m : Match) : Nat × Strategy × Captures :=
  (m.index, m.strategy, m.captures)

def Match.served (m : Match) : Route × Strategy × Captures :=
  (m.route, m.strategy, m.captures)

/-- A route that can answer the request: its URL is valid, its method is that of the request, and some strategy
accepts. -/
structure Usable (ss : List Strategy) (r : Route) (q : Request) : Prop where
  valid : r.valid = true
  method : r.method = q.method
  accepted : ∃ s ∈ ss, ∃ captures, s.captures? r q = some captures

/-- The first strategy in the list that accepts, with what it captured. -/
structure FirstAccepted (ss : List Strategy) (r : Route) (q : Request) (s : Strategy) (captures : Captures) :
    Prop where
  accepts : s.captures? r q = some captures
  first : ∃ before after, ss = before ++ s :: after ∧ ∀ t ∈ before, t.captures? r q = none

/-- The route at the least index at which there is a usable one, matched by the first strategy that accepts. -/
structure Wins (ss : List Strategy) (routes : List Route) (q : Request) (m : Match) : Prop where
  route : routes[m.index]? = some m.route
  valid : m.route.valid = true
  method : m.route.method = q.method
  strategy : FirstAccepted ss m.route q m.strategy m.captures
  least : ∀ i < m.index, ∀ r, routes[i]? = some r → ¬ Usable ss r q

theorem Wins.strategy_mem {ss : List Strategy} {routes : List Route} {q : Request} {m : Match}
    (wins : Wins ss routes q m) : m.strategy ∈ ss := by
  obtain ⟨before,after,split,_⟩ := wins.strategy.first
  rw [split]
  exact List.mem_append_right before List.mem_cons_self

section Turns
variable (ss : List Strategy) (r : Route) (q : Request)

private theorem firstAccepting_eq : firstAccepting r q ss = ss.findSome? fun s => (s.captures? r q).map (s, ·) := by
  induction ss with
  | nil => rfl
  | cons s ss ih =>
    rw [firstAccepting,List.findSome?_cons]
    cases s.captures? r q with
    | none => exact ih
    | some captures => rfl

theorem firstAccepting_eq_none_iff : firstAccepting r q ss = none ↔ ∀ s ∈ ss, s.captures? r q = none := by
  rw [firstAccepting_eq,List.findSome?_eq_none_iff]
  simp

theorem firstAccepting_eq_some_iff (s : Strategy) (captures : Captures) :
    firstAccepting r q ss = some (s, captures) ↔ FirstAccepted ss r q s captures := by
  rw [firstAccepting_eq,List.findSome?_eq_some_iff]
  constructor
  · rintro ⟨before,t,after,split,accepted,earlier⟩
    obtain ⟨given,accepts,same⟩ := Option.map_eq_some_iff.mp accepted
    obtain ⟨rfl,rfl⟩ := Prod.mk.inj same
    exact ⟨accepts,before,after,split,fun u member => Option.map_eq_none_iff.mp (earlier u member)⟩
  · intro ⟨accepts,before,after,split,earlier⟩
    exact ⟨before,s,after,split,by simp [accepts],fun u member => by simp [earlier u member]⟩

theorem eligible_iff : eligible r q = true ↔ r.valid = true ∧ r.method = q.method := by
  simp [eligible]

private theorem turn_eq_none_iff : turn ss r q = none ↔ ¬ Usable ss r q := by
  unfold turn
  split
  next chosen =>
    obtain ⟨valid,method⟩ := (eligible_iff r q).mp chosen
    rw [firstAccepting_eq_none_iff]
    constructor
    · intro refused usable
      obtain ⟨s,member,captures,accepted⟩ := usable.accepted
      rw [refused s member] at accepted
      contradiction
    · intro unusable s member
      apply Option.eq_none_iff_forall_not_mem.mpr
      intro captures accepted
      exact unusable ⟨valid,method,s,member,captures,accepted⟩
  next refused =>
    have unusable : ¬ Usable ss r q := fun usable =>
      refused ((eligible_iff r q).mpr ⟨usable.valid,usable.method⟩)
    simp [unusable]

private theorem turn_eq_some_iff (s : Strategy) (captures : Captures) : turn ss r q = some (s, captures) ↔
    r.valid = true ∧ r.method = q.method ∧ FirstAccepted ss r q s captures := by
  unfold turn
  rw [Option.ite_none_right_eq_some,eligible_iff,firstAccepting_eq_some_iff,and_assoc]

end Turns

section Search
variable (ss : List Strategy) (q : Request)

private theorem findFrom_cons_none (i : Nat) (r : Route) (routes : List Route) (passed : turn ss r q = none) :
    findFrom ss q i (r :: routes) = findFrom ss q (i + 1) routes := by
  unfold turn at passed
  rw [findFrom,passed]

private theorem findFrom_cons_some (i : Nat) (r : Route) (routes : List Route) (a : Strategy × Captures)
    (taken : turn ss r q = some a) : findFrom ss q i (r :: routes) = some ⟨i, r, a.1, a.2⟩ := by
  unfold turn at taken
  rw [findFrom,taken]

/-- The index counts the routes that were passed, from `i` on. -/
theorem findFrom_eq_some_iff (i : Nat) (routes : List Route) (m : Match) :
    findFrom ss q i routes = some m ↔
      ∃ k, m.index = i + k ∧ routes[k]? = some m.route ∧ turn ss m.route q = some (m.strategy, m.captures) ∧
        ∀ j < k, ∀ r, routes[j]? = some r → turn ss r q = none := by
  induction routes generalizing i with
  | nil => simp [findFrom]
  | cons r routes ih =>
    cases here : turn ss r q with
    | some a =>
      rw [findFrom_cons_some ss q i r routes a here]
      constructor
      · intro found
        obtain rfl := Option.some.inj found
        exact ⟨0,rfl,rfl,here,by simp⟩
      · rintro ⟨k,index,route,taken,passed⟩
        have first : k = 0 := Nat.eq_zero_of_not_pos fun later => by
          have refused := passed 0 later r rfl
          rw [here] at refused
          contradiction
        subst first
        obtain rfl : r = m.route := Option.some.inj route
        rw [here] at taken
        obtain rfl := Option.some.inj taken
        obtain rfl : i = m.index := by omega
        rfl
    | none =>
      rw [findFrom_cons_none ss q i r routes here,ih]
      constructor
      · rintro ⟨k,index,route,taken,passed⟩
        refine ⟨k + 1,by omega,route,taken,?_⟩
        intro j before s found
        cases j with
        | zero =>
          obtain rfl : r = s := Option.some.inj found
          exact here
        | succ j => exact passed j (by omega) s found
      · rintro ⟨k,index,route,taken,passed⟩
        cases k with
        | zero =>
          obtain rfl : r = m.route := Option.some.inj route
          rw [here] at taken
          contradiction
        | succ k =>
          exact ⟨k,by omega,route,taken,fun j before s found => passed (j + 1) (by omega) s found⟩

theorem find_eq_some_iff (routes : List Route) (m : Match) :
    find? ss routes q = some m ↔ Wins ss routes q m := by
  simp only [find?,findFrom_eq_some_iff,turn_eq_none_iff,turn_eq_some_iff]
  constructor
  · rintro ⟨k,index,route,⟨valid,method,strategy⟩,passed⟩
    obtain rfl : m.index = k := by omega
    exact ⟨route,valid,method,strategy,passed⟩
  · intro wins
    exact ⟨m.index,by omega,wins.route,⟨wins.valid,wins.method,wins.strategy⟩,wins.least⟩

private theorem served_findFrom (i : Nat) (routes : List Route) :
    (findFrom ss q i routes).map Match.served = routes.findSome? fun r => (turn ss r q).map (r, ·) := by
  induction routes generalizing i with
  | nil => rfl
  | cons r routes ih =>
    cases here : turn ss r q with
    | some a => simp [findFrom_cons_some ss q i r routes a here,here,Match.served]
    | none => simp [findFrom_cons_none ss q i r routes here,here,ih]

theorem find_eq_none_iff (routes : List Route) :
    find? ss routes q = none ↔ ∀ r ∈ routes, ¬ Usable ss r q := by
  rw [← Option.map_eq_none_iff,find?,served_findFrom,List.findSome?_eq_none_iff]
  simp [turn_eq_none_iff]

private theorem served_without (before after : List Route) (r : Route) (unusable : ¬ Usable ss r q) :
    (find? ss (before ++ after) q).map Match.served = (find? ss (before ++ r :: after) q).map Match.served := by
  have passed := (turn_eq_none_iff ss r q).mpr unusable
  simp [find?,served_findFrom,List.findSome?_append,passed]

private theorem wins_of_same_start (routes others : List Route) (m : Match) (wins : Wins ss routes q m)
    (same : others.take (m.index + 1) = routes.take (m.index + 1)) : Wins ss others q m := by
  have agree (i : Nat) (within : i < m.index + 1) : others[i]? = routes[i]? := by
    rw [← List.getElem?_take_of_lt within,same,List.getElem?_take_of_lt within]
  refine ⟨?_,wins.valid,wins.method,wins.strategy,?_⟩
  · rw [agree m.index (by omega)]
    exact wins.route
  · intro i before r found
    rw [agree i (by omega)] at found
    exact wins.least i before r found

end Search

/-- The usable route of least index is found, with the first strategy that accepts. Taking out a route that is not
usable changes neither route nor strategy nor captures, and whatever comes after the route found changes
nothing. -/
theorem find_first_usable (ss : List Strategy) (routes : List Route) (q : Request) :
    (∀ m, find? ss routes q = some m ↔ Wins ss routes q m) ∧
    (find? ss routes q = none ↔ ∀ r ∈ routes, ¬ Usable ss r q) ∧
    (∀ before r after, routes = before ++ r :: after → ¬ Usable ss r q →
      (find? ss (before ++ after) q).map Match.served = (find? ss routes q).map Match.served) ∧
    ∀ m others, find? ss routes q = some m → others.take (m.index + 1) = routes.take (m.index + 1) →
      find? ss others q = some m := by
  refine ⟨find_eq_some_iff ss q routes,find_eq_none_iff ss q routes,?_,?_⟩
  · rintro before r after rfl unusable
    exact served_without ss q before after r unusable
  · intro m others found same
    have wins := (find_eq_some_iff ss q routes m).mp found
    exact (find_eq_some_iff ss q others m).mpr (wins_of_same_start ss q routes others m wins same)

section Cats

def postCat : Route :=
  .make "cats.http".toList "POST".toList "/cats/7".toList

/-- A route with a malformed URL, one with another method, and two that accept. -/
def catRoutes : List Route :=
  [.make "cats.http".toList "GET".toList "ftp://cats".toList, postCat,
   .make "cats.http".toList "GET".toList "/cats/\x7b\x7bid\x7d\x7d".toList,
   .make "cats.http".toList "GET".toList "/cats/7".toList]

def catRequest : Request :=
  .make "GET".toList "/cats/7".toList []

theorem find_first_usable_cats :
    catRoutes = catRoutes.take 1 ++ postCat :: catRoutes.drop 2 ∧ ¬ Usable defaultStrategies postCat catRequest ∧
      ∃ m, find? defaultStrategies catRoutes catRequest = some m ∧ m.index = 2 ∧
        (find? defaultStrategies (catRoutes.take 1 ++ catRoutes.drop 2) catRequest).map Match.served =
          some m.served ∧
        find? defaultStrategies (catRoutes.take 3) catRequest = some m := by
  obtain ⟨_,_,removed,replaced⟩ := find_first_usable defaultStrategies catRoutes catRequest
  have unusable : ¬ Usable defaultStrategies postCat catRequest := by
    intro usable
    exact absurd usable.method (by decide)
  have index : (find? defaultStrategies catRoutes catRequest).map Match.index = some 2 := by decide +kernel
  obtain ⟨m,found,second⟩ := Option.map_eq_some_iff.mp index
  refine ⟨rfl,unusable,m,found,second,?_,replaced m _ found ?_⟩
  · rw [removed (catRoutes.take 1) postCat (catRoutes.drop 2) rfl unusable,found,Option.map_some]
  · rw [second]
    rfl

end Cats

end CannedHttp.Matching
