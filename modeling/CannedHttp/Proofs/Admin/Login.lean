import CannedHttp.Config.Load
import CannedHttp.Proofs.Admin.Access
import CannedHttp.Proofs.Http.Response

/-!
Logging in from the command line. The client can send every key that is legal in a header, and the server reads
back only what is ASCII, so the legal keys that open the endpoints are those.
-/
namespace CannedHttp

namespace Admin
open Http (Request Response)

private theorem authorization_eq_some_iff (k : Client) (value : Bytes) : k.authorization? = some value ↔
    Http.Legal k.key ∧ value = Utf8.encode ("Bearer ".toList ++ k.key) := by
  have scheme : Http.Legal "Bearer ".toList := by decide
  have legal : Http.Legal ("Bearer ".toList ++ k.key) ↔ Http.Legal k.key := by
    rw [Http.Legal,List.forall_mem_append]
    exact and_iff_right scheme
  unfold Client.authorization?
  rw [Option.ite_none_right_eq_some,Http.isHeaderValue_encode,legal,Option.some_inj,eq_comm (b := value)]

/-- All characters are ASCII. -/
def Ascii (t : Text) : Prop :=
  ∀ char ∈ t, char.toNat < 0x80

instance : DecidablePred Ascii := fun _ => List.decidableBAll _ _

/-- What becomes of a request that is let in. -/
def Endpoint.serve (c : Config.Routes) (e : Endpoint) (r : Request) : Script Response :=
  if e.allows r.method then e.answer c else pure ⟨405,.empty,[]⟩

private theorem handle_serve (c : Config) (e : Endpoint) (r : Request) (authorized : isAuthorized c.admin r = true) :
    handle c e r = e.serve c.routes r := by
  unfold handle
  rw [if_pos authorized]
  rfl

section Login
variable (c : Config) (k : Client) (r : Request)

private theorem isAuthorized_of_sent (same : k.key = c.admin.apiKey) (value : Bytes)
    (built : k.authorization? = some value)
    (sent : r.headers.get? authorizationName = some value) : isAuthorized c.admin r = true ↔ Ascii k.key := by
  obtain ⟨legal,rfl⟩ := (authorization_eq_some_iff k value).mp built
  have keyed : Keyed c r := by rw [Keyed,sent,same]
  rw [isAuthorized_iff,← same,Http.isReadableValue_encode]
  exact ⟨fun both => both.2.2,fun ascii => ⟨keyed,legal,ascii⟩⟩

end Login
end Admin

namespace Server
open Http (Request Response)
open Script

section Login
variable {σ : Type} [FileReader σ] (c : Config) (k : Admin.Client) (r : Request) (w : World σ)

/-- A request with the header that the client builds from the key of the server is let in and passed on to its
endpoint exactly if the key is ASCII, and is refused otherwise. -/
theorem login_iff_ascii (enabled : c.admin.enabled = true) (same : k.key = c.admin.apiKey) (value : Bytes)
    (built : k.authorization? = some value) (sent : r.headers.get? Admin.authorizationName = some value)
    (e : Admin.Endpoint) (path : Admin.Endpoint.ofPath? r.target.path = some e) :
    (Admin.isAuthorized c.admin r = true ↔ Admin.Ascii k.key) ∧
    (Admin.Ascii k.key → Admin.handle c e r = e.serve c.routes r ∧
      Yields c r w ((e.serve c.routes (identified w r)).run (issued w r))) ∧
    (¬Admin.Ascii k.key → Refused c r w) := by
  have authorized := Admin.isAuthorized_of_sent c k r same value built sent
  have found : endpoint? c r.target.path = some e := by
    unfold endpoint?
    rw [enabled,path]
    rfl
  refine ⟨authorized,fun ascii => ⟨?_,?_⟩,fun other => ?_⟩
  · exact Admin.handle_serve c e r (authorized.mpr ascii)
  · have admitted : Admin.isAuthorized c.admin (identified w r) = true := by
      rw [isAuthorized_identified]
      exact authorized.mpr ascii
    rw [← Admin.handle_serve c e _ admitted]
    exact yields_endpoint c e r w found
  · exact refused c r w e found (eq_false_of_ne_true fun admitted => other (authorized.mp admitted))

end Login

def cyrillicPets : Config :=
  { petServer with admin := { petServer.admin with apiKey := "ключ".toList } }

def clientOf (c : Config) (e : Admin.Endpoint) : Admin.Client :=
  ⟨Admin.Client.defaultUrl,c.admin.apiKey,e⟩

theorem login_iff_ascii_pets :
    (clientOf petServer .reload).authorization? = some (bearer "key") ∧
    Admin.isAuthorized petServer.admin (adminRequest .reload (bearer "key")) = true ∧
    Admin.handle petServer .reload (adminRequest .reload (bearer "key")) = Admin.reload petServer.routes ∧
    Refused cyrillicPets (adminRequest .reload (bearer "ключ")) petWorld := by
  have ascii : Admin.Ascii (clientOf petServer .reload).key := by decide
  have other : ¬Admin.Ascii (clientOf cyrillicPets .reload).key := by decide
  have login := login_iff_ascii petServer (clientOf petServer .reload) (adminRequest .reload (bearer "key")) petWorld
    rfl rfl (bearer "key") (by decide) (by decide) .reload rfl
  have refusal := login_iff_ascii cyrillicPets (clientOf cyrillicPets .reload)
    (adminRequest .reload (bearer "ключ")) petWorld rfl rfl (bearer "ключ") (by decide) (by decide) .reload rfl
  exact ⟨by decide,login.1.mpr ascii,(login.2.1 ascii).1,refusal.2.2 other⟩

/-- The client sends a key that the configuration may have, and the server does not know it again. -/
theorem cyrillic_key_refused : cyrillicPets.validate = .ok cyrillicPets ∧ cyrillicPets.admin.enabled = true ∧
    ∃ value, (clientOf cyrillicPets .routes).authorization? = some value ∧
      (adminRequest .routes (bearer "ключ")).headers.get? Admin.authorizationName = some value ∧
      Admin.isAuthorized cyrillicPets.admin (adminRequest .routes (bearer "ключ")) = false :=
  ⟨rfl,rfl,bearer "ключ",by decide,by decide,by decide⟩

end Server
end CannedHttp
