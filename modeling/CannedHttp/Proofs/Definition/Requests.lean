import CannedHttp.Definition
import CannedHttp.Proofs.Definition.Grammar
import CannedHttp.Proofs.Outcome
import CannedHttp.Proofs.Route

/-!
What a request line starts. A line of the right shape whose URL can be read gives a route that is yet without
headers and body; any other gives an error that names the file, the line and what was found there.
-/
namespace CannedHttp.Definition

/-- Why a line, trimmed, cannot begin a definition. -/
inductive Refused (line : Text) : Cause → Prop
  | shape (other : ∀ method url, ¬ IsRequest line method url) : Refused line (.badRequestLine line)
  | url (method url : Text) (request : IsRequest line method url) (unread : Url.parse? url = none) :
      Refused line (.invalidUrl url)

variable (file : Text) (request : Line)

theorem startRoute_of_request (method url : Text) (is_request : IsRequest (Text.trim request.text) method url) :
    startRoute file request =
      if (Url.parse? url).isSome then .ok (Route.make file method url)
      else .error ⟨file,request.number,.invalidUrl url⟩ := by
  unfold startRoute
  dsimp only
  rw [(requestLine_eq_some_iff _ method url).mpr is_request]
  rfl

theorem startRoute_of_other (other : ∀ method url, ¬ IsRequest (Text.trim request.text) method url) :
    startRoute file request = .error ⟨file,request.number,.badRequestLine (Text.trim request.text)⟩ := by
  have unread : requestLine? (Text.trim request.text) = none := by
    rw [Option.eq_none_iff_forall_ne_some]
    exact fun (method,url) read => other method url ((requestLine_eq_some_iff _ method url).mp read)
  unfold startRoute
  dsimp only
  rw [unread]

theorem startRoute_ok_iff (r : Route) : startRoute file request = .ok r ↔
    ∃ method url, IsRequest (Text.trim request.text) method url ∧ (Url.parse? url).isSome = true ∧
      r = Route.make file method url := by
  constructor
  · intro ok
    by_cases found : ∃ method url, IsRequest (Text.trim request.text) method url
    · obtain ⟨method,url,is_request⟩ := found
      rw [startRoute_of_request file request method url is_request] at ok
      split at ok
      next valid => exact ⟨method,url,is_request,valid,(Except.ok.inj ok).symm⟩
      next => contradiction
    · rw [startRoute_of_other file request (by simpa using found)] at ok
      contradiction
  · rintro ⟨method,url,is_request,valid,rfl⟩
    rw [startRoute_of_request file request method url is_request,if_pos valid]

theorem startRoute_error_iff (e : Error) : startRoute file request = .error e ↔
    e.file = file ∧ e.line = request.number ∧ Refused (Text.trim request.text) e.cause := by
  constructor
  · intro failed
    by_cases found : ∃ method url, IsRequest (Text.trim request.text) method url
    · obtain ⟨method,url,is_request⟩ := found
      rw [startRoute_of_request file request method url is_request] at failed
      split at failed
      next => contradiction
      next invalid =>
        obtain rfl := Except.error.inj failed
        exact ⟨rfl,rfl,.url method url is_request (by simpa using invalid)⟩
    · have other : ∀ method url, ¬ IsRequest (Text.trim request.text) method url := by simpa using found
      rw [startRoute_of_other file request other] at failed
      obtain rfl := Except.error.inj failed
      exact ⟨rfl,rfl,.shape other⟩
  · obtain ⟨named,number,cause⟩ := e
    rintro ⟨rfl,rfl,refused⟩
    cases refused with
    | shape other => exact startRoute_of_other named request other
    | url method url is_request unread =>
      rw [startRoute_of_request named request method url is_request,unread]
      rfl

theorem route_ok (d : Definition) (r : Route) (ok : route file d = .ok r) :
    ∃ start, startRoute file d.request = .ok start ∧
      ∃ head, head = (d.head.map fun l => HeadLine.ofText l.text).foldl applyHeadLine start ∧
        r = head.answering head.status head.headers (bodyText d.body) := by
  obtain ⟨start,started,rfl⟩ := Outcome.map_ok _ _ _ ok
  exact ⟨start,started,_,rfl,rfl⟩

theorem route_error_iff (d : Definition) (e : Error) :
    route file d = .error e ↔ startRoute file d.request = .error e :=
  Outcome.map_error_iff _ _ e

/-- An error names the file that was read. -/
theorem routes_file (content : Text) (e : Error) (failed : routes file content = .error e) : e.file = file := by
  unfold routes at failed
  split at failed
  next =>
    obtain rfl := Except.error.inj failed
    rfl
  next =>
    obtain ⟨d,_,failed⟩ := Outcome.mapM_error_mem _ _ e failed
    exact ((startRoute_error_iff file d.request e).mp ((route_error_iff file d e).mp failed)).1

end CannedHttp.Definition
