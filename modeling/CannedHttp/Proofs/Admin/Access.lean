import CannedHttp.Admin.Client
import CannedHttp.Config.Validation
import CannedHttp.Proofs.Http.Token
import CannedHttp.Proofs.Server.Requests
import CannedHttp.Proofs.Text.Numbers

/-!
Who reaches the endpoints. Only the key opens them: any other request is refused with an answer that tells
nothing of the store, and changes nothing that lasts. A key that is not visible ASCII opens them to nobody,
since a header value with other bytes is not read.
-/
namespace CannedHttp

namespace Admin
open Http (Request Response)

section Keys
variable (c : Config) (r : Request)

/-- The first value of the header is the scheme and the key. -/
def Keyed : Prop :=
  r.headers.get? authorizationName = some (Utf8.encode ("Bearer ".toList ++ c.admin.apiKey))

private theorem isReadableValue_bearer (key : Text) : Http.isReadableValue (Utf8.encode ("Bearer ".toList ++ key)) =
    Http.isReadableValue (Utf8.encode key) := by
  have scheme : Http.isReadableValue (Utf8.encode "Bearer ".toList) = true := by decide
  unfold Http.isReadableValue at scheme ⊢
  rw [Utf8.encode_append,List.all_append,scheme,Bool.true_and]

theorem isAuthorized_iff : isAuthorized c.admin r = true ↔
    Keyed c r ∧ Http.isReadableValue (Utf8.encode c.admin.apiKey) = true := by
  unfold isAuthorized Keyed token?
  rw [beq_iff_eq,Option.bind_eq_some_iff]
  constructor
  · rintro ⟨text,read,token⟩
    obtain ⟨value,first,readable⟩ := Option.bind_eq_some_iff.mp read
    obtain ⟨rfl,readable⟩ := (Http.readableText_eq_some_iff value text).mp readable
    obtain rfl := (Text.dropStart_eq_some_iff _ _ _).mp token
    rw [isReadableValue_bearer] at readable
    exact ⟨first,readable⟩
  · rintro ⟨first,readable⟩
    refine ⟨_,?_,(Text.dropStart_eq_some_iff _ _ _).mpr rfl⟩
    rw [first,Option.bind_some,Http.readableText_eq_some_iff,isReadableValue_bearer]
    exact ⟨rfl,readable⟩

end Keys

section Status
variable (directory : Path)

private theorem text_status : ∃ before : Text, ∀ routes?, (statusJson directory routes?).text =
    before ++ ((Json.ofOption .num routes?).text ++ ['}']) := by
  refine ⟨'{' :: (Text.join [','] (Json.memberTexts [
    ("version".toList,.str version),("status".toList,.str "operational".toList),
    ("directory".toList,.str directory.display)]) ++ ',' :: Text.Quoted.compact "routes".toList ++ [':']),
    fun routes? => ?_⟩
  simp [statusJson,Json.text,Json.memberTexts,Text.join,List.intercalate]

/-- The status tells whether there is a snapshot. -/
private theorem text_status_none (routes? : Option Nat) :
    (statusJson directory routes?).text = (statusJson directory none).text ↔ routes? = none := by
  obtain ⟨before,text⟩ := text_status directory
  rw [text,text]
  constructor
  · intro same
    have value := List.append_cancel_right (List.append_cancel_left same)
    cases routes? with
    | none => rfl
    | some n =>
      have letter : 'n' ∈ Text.ofNat n := by
        change 'n' ∈ (Json.ofOption .num (some n)).text
        rw [value]
        exact List.mem_cons_self
      have digit := Text.isDigit_of_mem_ofNat n 'n' letter
      contradiction
  · rintro rfl
    rfl

end Status

private theorem head_of_ofPath (path : Text) (e : Endpoint) (found : Endpoint.ofPath? path = some e) :
    path.head? = some '/' := by
  unfold Endpoint.ofPath? at found
  split at found
  next same =>
    rw [same]
    rfl
  next =>
    split at found
    next same =>
      rw [same]
      rfl
    next =>
      split at found
      next same =>
        rw [same]
        rfl
      next => contradiction

end Admin

namespace Server
open Http (Request Response)
open Script

section Answers
variable (c : Config) (r : Request) (a : Response)

private theorem propagate_keeps : (propagate r a).status = a.status ∧ (propagate r a).body = a.body := by
  unfold propagate
  split
  next =>
    split
    next => exact ⟨rfl,rfl⟩
    next => exact ⟨rfl,rfl⟩
  next => exact ⟨rfl,rfl⟩

private theorem announce_keeps : (announce c r a).status = a.status ∧ (announce c r a).body = a.body := by
  unfold announce
  split
  next =>
    split
    next => exact ⟨rfl,rfl⟩
    next => exact ⟨rfl,rfl⟩
  next => exact ⟨rfl,rfl⟩

end Answers

section Endpoints
variable {σ : Type} [FileReader σ] (c : Config) (e : Admin.Endpoint) (r : Request) (w : World σ)

/-- The answer has the status and the body of this one, and the world is this one afterwards. -/
structure Yields (result : Response × World σ) : Prop where
  status : ((handle c r).run w).1.status = result.1.status
  body : ((handle c r).run w).1.body = result.1.body
  world : ((handle c r).run w).2 = result.2

private theorem served_issued : Store.served c.routes (issued w r) = Store.served c.routes w := by
  unfold issued
  split <;> rfl

private theorem run_handle_endpoint (found : endpoint? c r.target.path = some e) :
    (handle c r).run w = (announce c (identified w r) (propagate (identified w r)
      ((Admin.handle c e (identified w r)).run (issued w r)).1),
        ((Admin.handle c e (identified w r)).run (issued w r)).2) := by
  have dispatched : dispatch c (identified w r) = Admin.handle c e (identified w r) := by
    unfold dispatch
    rw [(identified_request w r).2.1,found]
  rw [run_handle,dispatched]

theorem yields_endpoint (found : endpoint? c r.target.path = some e) :
    Yields c r w ((Admin.handle c e (identified w r)).run (issued w r)) := by
  have run := run_handle_endpoint c e r w found
  refine ⟨?_,?_,?_⟩
  · rw [run]
    exact (announce_keeps c _ _).1.trans (propagate_keeps _ _).1
  · rw [run]
    exact (announce_keeps c _ _).2.trans (propagate_keeps _ _).2
  · rw [run]

private theorem yields_answer (found : endpoint? c r.target.path = some e)
    (authorized : Admin.isAuthorized c.admin r = true) (allowed : e.allows r.method = true) :
    Yields c r w ((e.answer c.routes).run (issued w r)) := by
  have yields := yields_endpoint c e r w found
  rw [← isAuthorized_identified w r c] at authorized
  rw [← (identified_request w r).1] at allowed
  rw [Admin.handle_answer c e _ authorized allowed] at yields
  exact yields

private theorem run_handle_mock (plain : endpoint? c r.target.path = none) (rooted : r.target.path.head? = some '/') :
    (handle c r).run w = (propagate (identified w r) ((mock c (identified w r)).run (issued w r)).1,
      ((mock c (identified w r)).run (issued w r)).2) := by
  have target := (identified_request w r).2.1
  have dispatched : dispatch c (identified w r) = mock c (identified w r) := by
    unfold dispatch
    rw [target,plain]
    exact if_pos rooted
  rw [run_handle,dispatched]
  unfold announce
  rw [target,plain]

end Endpoints

section Access
variable {σ : Type} [FileReader σ] (c : Config) (r : Request) (w : World σ)

/-- An empty refusal, the same whatever the store and the files, after which they are what they were. -/
structure Refused : Prop where
  status : ((handle c r).run w).1.status = 401
  body : ((handle c r).run w).1.body = []
  blind : ∀ v : World σ, v.identifiers = w.identifiers → ((handle c r).run v).1 = ((handle c r).run w).1
  idle : ((handle c r).run w).2.lasting = w.lasting

/-- The state is told, with a number of routes exactly if there is a snapshot, and stays what it is. -/
structure Told : Prop where
  status : ((handle c r).run w).1.status = 200
  body : ((handle c r).run w).1.body =
    (Admin.statusJson c.routes.directory (w.snapshot?.map (·.routes.length))).text
  absent : ((handle c r).run w).1.body = (Admin.statusJson c.routes.directory none).text ↔ w.snapshot? = none
  idle : ((handle c r).run w).2.lasting = w.lasting

/-- The routes of the snapshot are listed in order, or why there is none. -/
structure Listed : Prop where
  served : ∀ routes, Store.served c.routes w = .ok routes → ((handle c r).run w).1.status = 200 ∧
    ((handle c r).run w).1.body = (Json.arr (routes.map Route.toJson)).text ∧
    ((handle c r).run w).2.snapshot?.map (·.routes) = some routes
  unserved : ∀ e, Store.served c.routes w = .error e → ((handle c r).run w).1.status = 500 ∧
    ((handle c r).run w).1.body = e.message ∧ ((handle c r).run w).2.snapshot? = none

theorem refused (e : Admin.Endpoint) (found : endpoint? c r.target.path = some e)
    (unauthorized : Admin.isAuthorized c.admin r = false) : Refused c r w := by
  have refusal (v : World σ) : (Admin.handle c e (identified v r)).run (issued v r) =
      (⟨401,.empty,[]⟩,((issued v r).perform (.report (.adminRejected (identified v r).target.path))).2) :=
    Admin.run_unauthorized c e _ _ (isAuthorized_identified v r c ▸ unauthorized)
  have yields := yields_endpoint c e r w found
  rw [refusal] at yields
  refine ⟨yields.status,yields.body,fun v same => ?_,?_⟩
  · have identified_eq : identified v r = identified w r := by
      unfold identified
      rw [same]
    rw [run_handle_endpoint c e r v found,run_handle_endpoint c e r w found,refusal,refusal,identified_eq]
  · rw [yields.world]
    exact lasting_issued w r

private theorem told (found : endpoint? c r.target.path = some .status)
    (authorized : Admin.isAuthorized c.admin r = true) (allowed : Admin.Endpoint.allows .status r.method = true) :
    Told c r w := by
  have yields := yields_answer c .status r w found authorized allowed
  rw [Admin.Endpoint.answer,Admin.run_status,snapshot_issued] at yields
  refine ⟨yields.status,yields.body,?_,?_⟩
  · rw [yields.body]
    exact (Admin.text_status_none _ _).trans Option.map_eq_none_iff
  · rw [yields.world]
    exact lasting_issued w r

private theorem listed (found : endpoint? c r.target.path = some .routes)
    (authorized : Admin.isAuthorized c.admin r = true) (allowed : Admin.Endpoint.allows .routes r.method = true) :
    Listed c r w := by
  have yields := yields_answer c .routes r w found authorized allowed
  refine ⟨fun routes served => ?_,fun e unserved => ?_⟩
  · rw [← served_issued c r w] at served
    obtain ⟨answer,published⟩ := Admin.run_routes_served c.routes (issued w r) routes served
    rw [yields.status,yields.body,yields.world]
    rw [Admin.Endpoint.answer,answer]
    exact ⟨rfl,rfl,published⟩
  · rw [← served_issued c r w] at unserved
    obtain ⟨answer,absent⟩ := Admin.run_routes_unserved c.routes (issued w r) e unserved
    rw [yields.status,yields.body,yields.world]
    rw [Admin.Endpoint.answer,answer]
    exact ⟨rfl,rfl,absent⟩

private theorem replaced (s : Snapshot) (published : w.snapshot? = some s)
    (changed : ((handle c r).run w).2.snapshot? ≠ some s) :
    endpoint? c r.target.path = some .reload ∧ Admin.Keyed c r ∧ r.method = "POST".toList := by
  rcases keeps_or_reloads_handle c r w s published with kept | ⟨reloads,_⟩
  · exact absurd kept.1 changed
  · exact ⟨reloads.endpoint,((Admin.isAuthorized_iff c r).mp reloads.authorized).1,reloads.method⟩

/-- With the interface enabled, only the key opens the endpoints, if it is one that can be read, and only a
reload replaces a snapshot; with the interface disabled the routes answer in their place. -/
theorem access_by_key :
    (c.admin.enabled = true → ∀ e, Admin.Endpoint.ofPath? r.target.path = some e →
      (¬Admin.Keyed c r → Refused c r w) ∧
      (Http.isReadableValue (Utf8.encode c.admin.apiKey) = false → Refused c r w) ∧
      (Admin.Keyed c r → Http.isReadableValue (Utf8.encode c.admin.apiKey) = true → e.allows r.method = true →
        (e = .status → Told c r w) ∧ (e = .routes → Listed c r w))) ∧
    (∀ s, w.snapshot? = some s → ((handle c r).run w).2.snapshot? ≠ some s →
      endpoint? c r.target.path = some .reload ∧ Admin.Keyed c r ∧ r.method = "POST".toList) ∧
    (c.admin.enabled = false → ∀ e, Admin.Endpoint.ofPath? r.target.path = some e →
      (handle c r).run w = (propagate (identified w r) ((mock c (identified w r)).run (issued w r)).1,
        ((mock c (identified w r)).run (issued w r)).2)) := by
  have authorized := Admin.isAuthorized_iff c r
  refine ⟨fun enabled e path => ?_,replaced c r w,fun disabled e path => ?_⟩
  · have found : endpoint? c r.target.path = some e := by
      unfold endpoint?
      rw [enabled,path]
      rfl
    refine ⟨fun unkeyed => ?_,fun unreadable => ?_,fun keyed readable allowed => ⟨?_,?_⟩⟩
    · apply refused c r w e found
      rw [← Bool.not_eq_true,authorized]
      exact fun both => unkeyed both.1
    · apply refused c r w e found
      rw [← Bool.not_eq_true,authorized,unreadable]
      exact fun both => nomatch both.2
    · rintro rfl
      exact told c r w found (authorized.mpr ⟨keyed,readable⟩) allowed
    · rintro rfl
      exact listed c r w found (authorized.mpr ⟨keyed,readable⟩) allowed
  · have plain : endpoint? c r.target.path = none := by
      unfold endpoint?
      rw [disabled]
      rfl
    exact run_handle_mock c r w plain (Admin.head_of_ofPath _ e path)

end Access

def adminRequest (e : Admin.Endpoint) (authorization : Bytes) : Request :=
  ⟨Admin.Client.method e,⟨none,[],Admin.Client.path e,none⟩,
    .ofList [(Admin.authorizationName,authorization)],[]⟩

def closedPets : Config :=
  { petServer with admin := { petServer.admin with enabled := false } }

def accentedPets : Config :=
  { petServer with admin := { petServer.admin with apiKey := "é".toList } }

theorem access_by_key_pets :
    ¬Admin.Keyed petServer (adminRequest .reload (bearer "KEY")) ∧
    Refused petServer (adminRequest .reload (bearer "KEY")) petWorld ∧
    Refused petServer (adminRequest .reload (bearer "key" ++ [0xff])) petWorld ∧
    Refused accentedPets (adminRequest .reload (bearer "é")) petWorld ∧
    Admin.Keyed petServer (adminRequest .status (bearer "key")) ∧
    Told petServer (adminRequest .status (bearer "key")) petWorld ∧
    Listed petServer (adminRequest .routes (bearer "key")) petWorld ∧
    (∃ s, petWorld.snapshot? = some s ∧
      ((handle petServer (adminRequest .reload (bearer "key"))).run petWorld).2.snapshot? ≠ some s ∧
      Admin.Keyed petServer (adminRequest .reload (bearer "key"))) ∧
    ((handle closedPets (adminRequest .status (bearer "key"))).run petWorld).1.body =
      "No matching route found".toList := by
  have other : ¬Admin.Keyed petServer (adminRequest .reload (bearer "KEY")) := by
    unfold Admin.Keyed
    decide
  have more : ¬Admin.Keyed petServer (adminRequest .reload (bearer "key" ++ [0xff])) := by
    unfold Admin.Keyed
    decide
  have keyed (e : Admin.Endpoint) : Admin.Keyed petServer (adminRequest e (bearer "key")) := by
    unfold Admin.Keyed
    cases e <;> decide
  have published : petWorld.snapshot?.map (·.version) = some 0 := by decide +kernel
  have reloaded : ((handle petServer (adminRequest .reload (bearer "key"))).run petWorld).2.snapshot?.map
      (·.version) = some 1 := by
    decide +kernel
  obtain ⟨s,snapshot,version⟩ := Option.map_eq_some_iff.mp published
  have changed : ((handle petServer (adminRequest .reload (bearer "key"))).run petWorld).2.snapshot? ≠ some s := by
    intro same
    rw [same,Option.map_some,version] at reloaded
    exact absurd reloaded (by decide)
  have access (r : Request) := access_by_key petServer r petWorld
  have status := ((access (adminRequest .status (bearer "key"))).1 rfl .status rfl).2.2 (keyed _) rfl rfl
  have routes := ((access (adminRequest .routes (bearer "key"))).1 rfl .routes rfl).2.2 (keyed _) rfl rfl
  have reload := (access (adminRequest .reload (bearer "key"))).2.1 s snapshot changed
  have disabled := (access_by_key closedPets (adminRequest .status (bearer "key")) petWorld).2.2 rfl .status rfl
  refine ⟨other,?_,?_,?_,keyed _,status.1 rfl,routes.2 rfl,⟨s,snapshot,changed,reload.2.1⟩,?_⟩
  · exact ((access _).1 rfl .reload rfl).1 other
  · exact ((access _).1 rfl .reload rfl).1 more
  · exact ((access_by_key accentedPets _ petWorld).1 rfl .reload rfl).2.1 (by decide)
  · rw [disabled]
    decide +kernel

/-- A key with an accent is valid, but a request that has it is refused the state. -/
theorem accented_key_refused : accentedPets.violations = [] ∧
    Admin.Keyed accentedPets (adminRequest .status (bearer "é")) ∧
    ¬Told accentedPets (adminRequest .status (bearer "é")) petWorld := by
  have keyed : Admin.Keyed accentedPets (adminRequest .status (bearer "é")) := by
    unfold Admin.Keyed
    decide
  have refusal : ((handle accentedPets (adminRequest .status (bearer "é"))).run petWorld).1.status = 401 := by
    decide +kernel
  refine ⟨by decide +kernel,keyed,fun told => ?_⟩
  exact absurd (refusal.symm.trans told.status) (by decide)

end Server
end CannedHttp
