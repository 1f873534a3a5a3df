import CannedHttp.Proofs.Script
import CannedHttp.Startup

/-!
The start taken apart at its pre-warm. Before and after it nothing is published, and where the directory is
there, it is watched by the time that the start succeeds.
-/
namespace CannedHttp.Startup
open Script

/-- What is left to do once the routes are loaded. -/
def ready (c : Config) : Except Store.Error Snapshot → Script (Except Error Started)
  | .error e => pure (.error (.routes e))
  | .ok s => do
    report (.prewarmed s.routes.length)
    let watching ← startWatching c.routes
    match ← bindListener c.listener.address with
    | .error e => pure (.error (.bind c.listener.address e))
    | .ok address => do
      report (.listening address.text)
      pure (.ok ⟨address,watching⟩)

/-- What is left to do once the metrics endpoint is there. -/
def measured (c : Config) : Except Error Unit → Script (Except Error Started)
  | .error e => pure (.error e)
  | .ok () => Store.getRoutes c.routes >>= ready c

theorem start_eq (c : Config) (prewarmed : c.routes.prewarm = true) :
    start c = startMetrics c.observability >>= measured c := by
  unfold start
  refine congrArg (_ >>= ·) (funext fun result => ?_)
  cases result with
  | error e => rfl
  | ok _ =>
    unfold prewarm
    rw [if_pos prewarmed]
    dsimp only [measured]
    rw [bind_assoc]
    refine congrArg (_ >>= ·) (funext fun result => ?_)
    cases result with
    | error e => rfl
    | ok s => rfl

def watches : Action → Bool
  | .watch _ => true
  | _ => false

/-- A directory that was asked for was there. -/
def there : Exchange → Bool
  | ⟨.directoryExists _,found⟩ => found
  | _ => true

/-- No other directory is asked for than that of the routes. -/
def Asks (c : Config) (action : Action) : Prop :=
  ∀ directory, action = .directoryExists directory → directory = c.routes.directory

/-- Nothing is published, and no other directory is asked for or watched than that of the routes. -/
def Plain (c : Config) (action : Action) : Prop :=
  Asks c action ∧ (∀ routes, action ≠ .publish routes) ∧
    ∀ directory, action = .watch directory → directory = c.routes.directory

/-- Where the directory is there, it is watched by the time that the start succeeds. -/
def Watches : Script (Except Error Started) → Bool → Prop
  | .done (.ok _), watched => watched = true
  | .done (.error _), _ => True
  | .step action next, watched =>
    ∀ reply, there ⟨action,reply⟩ = true → Watches (next reply) (watched || watches action)

section Scripts
variable (c : Config)

theorem plain_startMetrics (o : Config.Observability) : (startMetrics o).Uses (Plain c) := by
  unfold startMetrics
  split
  next =>
    split
    next => exact ⟨⟨nofun,nofun,nofun⟩,fun _ => trivial⟩
    next address _ =>
      refine ⟨⟨nofun,nofun,nofun⟩,fun bound => ?_⟩
      cases bound with
      | error e => trivial
      | ok a => exact ⟨⟨nofun,nofun,nofun⟩,fun _ => trivial⟩
  next => trivial

private theorem plain_startWatching : (startWatching c.routes).Uses (Plain c) := by
  unfold startWatching
  split
  next =>
    apply uses_bind
    · refine ⟨⟨?_,nofun,nofun⟩,fun found => ?_⟩
      · rintro directory ⟨⟩
        rfl
      cases found with
      | true => trivial
      | false => exact ⟨⟨nofun,nofun,nofun⟩,fun _ => trivial⟩
    · intro exists'
      cases exists' with
      | true =>
        refine ⟨⟨nofun,nofun,?_⟩,fun _ => ⟨⟨nofun,nofun,nofun⟩,fun _ => trivial⟩⟩
        rintro directory ⟨⟩
        rfl
      | false => exact ⟨⟨nofun,nofun,nofun⟩,fun _ => trivial⟩
  next => trivial

theorem plain_ready (result : Except Store.Error Snapshot) : (ready c result).Uses (Plain c) := by
  cases result with
  | error e => trivial
  | ok s =>
    have prewarmed : (report (.prewarmed s.routes.length)).Uses (Plain c) := ⟨⟨nofun,nofun,nofun⟩,fun _ => trivial⟩
    apply uses_bind _ _ _ prewarmed
    intro _
    apply uses_bind _ _ _ (plain_startWatching c)
    intro watching
    refine ⟨⟨nofun,nofun,nofun⟩,fun bound => ?_⟩
    cases bound with
    | error e => trivial
    | ok address => exact ⟨⟨nofun,nofun,nofun⟩,fun _ => trivial⟩

theorem watches_ready (watch : c.routes.watch = true) (result : Except Store.Error Snapshot) (watched : Bool) :
    Watches (ready c result) watched := by
  cases result with
  | error e => trivial
  | ok s =>
    intro _ _
    change Watches (startWatching c.routes >>= _) (watched || false)
    unfold startWatching
    rw [if_pos watch]
    intro found exists'
    obtain rfl : found = true := exists'
    intro _ _ _ _ bound _
    cases bound with
    | error e => trivial
    | ok address =>
      intro _ _
      change (watched || false || false || true || false || false || false) = true
      simp

end Scripts

end CannedHttp.Startup
