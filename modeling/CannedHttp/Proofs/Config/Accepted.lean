import CannedHttp.Proofs.Config.Rules
import CannedHttp.Proofs.Http.Response
import CannedHttp.Proofs.Outcome
import CannedHttp.Proofs.Store.Locking
import CannedHttp.Startup

/-!
What an accepted configuration rules out for good. The store never finds its pattern malformed, whatever files
it reads and whoever calls it, the fallback answer has the configured status, and the start never reports a
metrics address that it cannot read. No rule is about the content type of the fallback answer, which is served
only if it is a legal header value.
-/
namespace CannedHttp
open Script

/-- The action does not report a metrics address that cannot be read. -/
def Action.Clean (action : Action) : Prop :=
  ∀ address, action ≠ .report (.badMetricsAddress address)

namespace Definition

private theorem headNotices_clean (file : Text) (status : Nat) (ls : List Line) :
    ∀ e ∈ headNotices file status ls, ∀ address, e ≠ .badMetricsAddress address := by
  induction ls generalizing status with
  | nil => exact nofun
  | cons l ls ih =>
    unfold headNotices
    cases HeadLine.ofText l.text with
    | status code => exact ih code
    | unknownStatus value => exact List.forall_mem_cons.mpr ⟨nofun,ih status⟩
    | malformed => exact List.forall_mem_cons.mpr ⟨nofun,ih status⟩
    | comment => exact ih status
    | header name value => exact ih status

private theorem notices_clean (file content : Text) :
    ∀ e ∈ notices file content, ∀ address, e ≠ .badMetricsAddress address := by
  have all (ds : List Definition) (count : Nat) :
      ∀ e ∈ noticesOf file count ds, ∀ address, e ≠ .badMetricsAddress address := by
    induction ds generalizing count with
    | nil => exact List.forall_mem_singleton.mpr nofun
    | cons d ds ih =>
      unfold noticesOf
      cases startRoute file d.request with
      | error e => exact nofun
      | ok r =>
        intro e member
        rcases List.mem_append.mp member with first | later
        · exact headNotices_clean file r.status d.head e first
        · exact ih (count + 1) e later
  unfold notices
  split
  next => exact nofun
  next => exact all _ 0

end Definition

namespace Store

/-- The outcome is not that the pattern is malformed. -/
def Matchable {α : Type} (outcome : Except Error α) : Prop :=
  ∀ text e, outcome ≠ .error (.pattern text e)

private theorem loadFile_within (path : Path) : (loadFile path).Within Action.Clean Matchable := by
  refine ⟨nofun,fun content => ?_⟩
  cases content with
  | error e => exact nofun
  | ok content =>
    have noted := reportAll_within Action.Clean (Definition.notices path.label content) fun e member address same =>
      Definition.notices_clean path.label content e member address (Action.report.inj same)
    refine within_bind _ _ _ (reportAll (Definition.notices path.label content)) _ noted fun _ _ => ?_
    intro text e same
    cases parsed : Definition.routes path.label content with
    | error malformed =>
      rw [parsed] at same
      cases Except.error.inj same
    | ok routes =>
      rw [parsed] at same
      contradiction

private theorem loadFiles_within (skip : Bool) (paths : List Path) :
    (loadFiles skip paths).Within Action.Clean Matchable := by
  induction paths with
  | nil => exact nofun
  | cons path paths ih =>
    refine within_bind _ _ _ _ _ (loadFile_within path) fun loaded matchable => ?_
    cases loaded with
    | ok routes =>
      refine within_bind _ _ _ _ _ ih fun rest matchable => ?_
      intro text e same
      exact matchable text e ((Outcome.map_error_iff _ _ _).mp same)
    | error e =>
      cases e with
      | format e =>
        cases skip with
        | true => exact ⟨nofun,fun _ => ih⟩
        | false => exact nofun
      | pattern text e => exact absurd rfl (matchable text e)
      | io path e => exact nofun

private theorem finish_within (call : Call) (outcome : Except Error (List Route)) (matchable : Matchable outcome) :
    (call.finish outcome).Within Action.Clean Matchable := by
  cases outcome with
  | error e =>
    have same : Matchable (.error e : Except Error Snapshot) :=
      fun text e' same => matchable text e' (congrArg _ (Except.error.inj same))
    cases call with
    | get => exact ⟨nofun,fun _ => same⟩
    | reload => exact ⟨nofun,fun _ => ⟨nofun,fun _ => same⟩⟩
  | ok routes =>
    cases call with
    | get => exact ⟨nofun,fun _ => ⟨nofun,fun _ => nofun⟩⟩
    | reload => exact ⟨nofun,fun _ => ⟨nofun,fun _ => ⟨nofun,fun _ => nofun⟩⟩⟩

section Pattern
variable (c : Config.Routes) (pattern : Glob) (compiled : Glob.compile c.filePattern = .ok pattern)
include compiled

private theorem populate_within : (populate c).Within Action.Clean Matchable := by
  have sought : (directoryExists c.directory).Within Action.Clean fun _ => True := ⟨nofun,fun _ => trivial⟩
  unfold populate
  refine within_bind _ _ _ _ _ sought fun present _ => ?_
  cases present with
  | false => exact ⟨nofun,fun _ => ⟨nofun,fun _ => nofun⟩⟩
  | true =>
    rw [if_pos rfl,compiled]
    refine ⟨nofun,fun listed => ?_⟩
    cases listed with
    | error e => exact nofun
    | ok files =>
      refine within_bind _ _ _ (loadFiles c.skipInvalidFiles files) _ (loadFiles_within _ _) fun loaded matchable => ?_
      cases loaded with
      | error e => exact fun text e' same => matchable text e' (congrArg _ (Except.error.inj same))
      | ok routes => exact ⟨nofun,fun _ => ⟨nofun,fun _ => nofun⟩⟩

/-- Whatever it is answered, a call of the store does not find the pattern malformed. -/
theorem script_within (call : Call) : (call.script c).Within Action.Clean Matchable := by
  have populating (call : Call) : (populate c >>= call.finish).Within Action.Clean Matchable :=
    within_bind _ _ _ _ _ (populate_within c pattern compiled) (finish_within call)
  cases call with
  | get =>
    rw [Call.script_get,Call.getRoutes_eq]
    refine ⟨nofun,fun found => ?_⟩
    cases found with
    | some s => exact nofun
    | none =>
      refine ⟨nofun,fun _ => ⟨nofun,fun found => ?_⟩⟩
      cases found with
      | some s => exact ⟨nofun,fun _ => nofun⟩
      | none => exact populating .get
  | reload =>
    rw [Call.script_reload,Call.reload_eq]
    exact ⟨nofun,fun _ => populating .reload⟩

end Pattern
end Store

namespace Startup

private theorem startMetrics_within (o : Config.Observability)
    (parsed : o.metricsEnabled = true → SocketAddress.parse? o.metricsAddress ≠ none) :
    (startMetrics o).Within Action.Clean fun _ => True := by
  unfold startMetrics
  split
  next enabled =>
    split
    next unparsed => exact absurd unparsed (parsed enabled)
    next =>
      refine ⟨nofun,fun bound => ?_⟩
      cases bound with
      | error e => trivial
      | ok a => exact ⟨nofun,fun _ => trivial⟩
  next => trivial

private theorem prewarm_within (c : Config.Routes) (pattern : Glob)
    (compiled : Glob.compile c.filePattern = .ok pattern) :
    (prewarm c).Within Action.Clean fun _ => True := by
  unfold prewarm
  split
  next =>
    refine within_bind _ _ _ (Store.getRoutes c) _ (Store.script_within c pattern compiled .get) fun loaded _ => ?_
    cases loaded with
    | error e => trivial
    | ok s => exact ⟨nofun,fun _ => trivial⟩
  next => trivial

private theorem startWatching_within (c : Config.Routes) : (startWatching c).Within Action.Clean fun _ => True := by
  unfold startWatching
  split
  next =>
    have sought : (Store.pathExists c.directory).Within Action.Clean fun _ => True := by
      refine ⟨nofun,fun found => ?_⟩
      cases found with
      | true => trivial
      | false => exact ⟨nofun,fun _ => trivial⟩
    refine within_bind _ _ _ _ _ sought fun found _ => ?_
    cases found with
    | true => exact ⟨nofun,fun _ => ⟨nofun,fun _ => trivial⟩⟩
    | false => exact ⟨nofun,fun _ => trivial⟩
  next => trivial

end Startup

namespace Config
variable (c : Config)

/-- What an accepted configuration can be relied on for. -/
structure Reliable : Prop where
  store : ∀ {σ ι : Type} [FileReader σ] [DecidableEq ι] (calls : ι → Store.Call) (files : σ)
    (m : Store.Callers σ ι), Store.Callers.Run (.start c.routes calls files) m →
      ∀ i text e, (m.caller i).rest ≠ .done (.error (.pattern text e))
  fallback : (Http.Response.fallback c.fallback).status = c.fallback.status
  metrics : ∀ t s, Follows (Startup.start c) t s → ∀ address, ⟨.report (.badMetricsAddress address),()⟩ ∉ t

section Kept
variable (kept : ∀ rule, ¬Rule.Broken c rule)
include kept

private theorem compiles_of_kept : ∃ pattern, Glob.compile c.routes.filePattern = .ok pattern := by
  have pattern : ¬(_ ∨ _ ∨ _ ∨ _) := kept .filePattern
  cases compiled : Glob.compile c.routes.filePattern with
  | ok pattern => exact ⟨pattern,rfl⟩
  | error e =>
    rw [compiled] at pattern
    exact absurd (.inr (.inr (.inr rfl))) pattern

theorem start_within : (Startup.start c).Within Action.Clean fun _ => True := by
  obtain ⟨pattern,compiled⟩ := compiles_of_kept c kept
  have metrics := Startup.startMetrics_within c.observability fun enabled unparsed =>
    kept .metricsAddress ⟨enabled,unparsed⟩
  refine within_bind _ _ _ _ _ metrics fun measured _ => ?_
  cases measured with
  | error e => trivial
  | ok _ =>
    refine within_bind _ _ _ _ _ (Startup.prewarm_within c.routes pattern compiled) fun warmed _ => ?_
    cases warmed with
    | error e => trivial
    | ok _ =>
      refine within_bind _ _ _ _ _ (Startup.startWatching_within c.routes) fun watching _ => ?_
      refine ⟨nofun,fun bound => ?_⟩
      cases bound with
      | error e => trivial
      | ok address => exact ⟨nofun,fun _ => trivial⟩

private theorem isStatus_of_kept : Http.isStatus c.fallback.status = true :=
  (isStatus_iff c.fallback.status).mpr (kept .fallbackStatus)

private theorem reliable_of_kept : Reliable c where
  store calls files m run i text e returned := by
    obtain ⟨pattern,compiled⟩ := compiles_of_kept c kept
    have follows := (Store.Callers.locked_run c.routes calls m files run).follows i
    have within := follows.within _ _ _ _ _ (Store.script_within c.routes pattern compiled (calls i))
    rw [returned] at within
    exact within.2 text e rfl
  fallback := by
    rw [Http.fallback_eq]
    exact if_pos (isStatus_of_kept c kept)
  metrics t s follows address member :=
    (follows.within _ _ _ _ _ (start_within c kept)).1 _ member address rfl

end Kept

/-- A configuration is accepted exactly if it breaks no rule, and is refused otherwise with the violations of
the rules that it breaks, each once and in the order of the rules. Mending the fields of one rule takes away
its violation alone, and an accepted configuration can be relied on. -/
theorem validate_exact :
    (c.validate = .ok c ↔ ∀ rule, ¬Rule.Broken c rule) ∧
    ((∃ rule, Rule.Broken c rule) → c.validate = .error c.violations) ∧
    c.violations = (Rule.all.filter (Rule.Broken c ·)).map (Rule.violation c) ∧ c.violations.Nodup ∧
    (∀ rule : Rule, rule.violation c ∈ c.violations ↔ rule.Broken c) ∧
    (∀ (rule : Rule) (d : Config), rule.Amended c d → ¬rule.Broken d →
      d.violations = c.violations.erase (rule.violation c)) ∧
    (c.validate = .ok c → Reliable c) := by
  rw [violations_eq_told]
  refine ⟨validate_eq_ok_iff c,?_,rfl,nodup_told c,mem_told_iff c,fun rule d amended mended => ?_,fun ok => ?_⟩
  · rintro ⟨rule,broken⟩
    rw [validate_eq]
    exact if_neg fun none => (told_eq_nil_iff c).mp none rule broken
  · rw [violations_eq_told]
    exact told_amended c d rule amended mended
  · exact reliable_of_kept c ((validate_eq_ok_iff c).mp ok)

def faulty : Config :=
  { Config.default with
    routes.filePattern := "sub/*.http".toList, fallback.status := 42
    observability.metricsEnabled := true, observability.metricsAddress := "localhost".toList
    admin := ⟨true," ".toList⟩ }

/-- Four of the six rules are broken, and then three. -/
theorem validate_exact_faulty :
    faulty.violations = [.filePattern "sub/*.http".toList,.fallbackStatus 42,
      .address "observability.metrics_address".toList "localhost".toList,.emptyApiKey] ∧
    { faulty with fallback.status := 404 }.violations = [.filePattern "sub/*.http".toList,
      .address "observability.metrics_address".toList "localhost".toList,.emptyApiKey] ∧
    faulty.validate = .error faulty.violations ∧ Reliable Config.default := by
  obtain ⟨_,refused,told,_,_,amended,_⟩ := validate_exact faulty
  have first : faulty.violations = [.filePattern "sub/*.http".toList,.fallbackStatus 42,
      .address "observability.metrics_address".toList "localhost".toList,.emptyApiKey] :=
    told.trans (by decide +kernel)
  have mended : ¬Rule.Broken { faulty with fallback.status := 404 } .fallbackStatus := by decide
  refine ⟨first,?_,refused ⟨.fallbackStatus,by decide⟩,?_⟩
  · rw [amended .fallbackStatus _ ⟨404,rfl⟩ mended,first]
    decide
  · exact (validate_exact Config.default).2.2.2.2.2.2 (by decide +kernel)

/-- The fallback answer of an accepted configuration has the configured status and body and one header. It is the
configured content type exactly if that is a legal value, which no rule asks for. -/
theorem fallback_of_accepted (accepted : c.validate = .ok c) :
    (Http.Response.fallback c.fallback).status = c.fallback.status ∧
    (Http.Response.fallback c.fallback).body = c.fallback.body ∧
    ((Http.Response.fallback c.fallback).headers.entries =
        [(Http.contentTypeName,Utf8.encode c.fallback.contentType)] ↔ Http.Legal c.fallback.contentType) ∧
    (¬Http.Legal c.fallback.contentType → (Http.Response.fallback c.fallback).headers.entries =
      [(Http.contentTypeName,Utf8.encode "text/plain; charset=utf-8".toList)]) := by
  have status := isStatus_of_kept c ((validate_eq_ok_iff c).mp accepted)
  rw [Http.fallback_eq]
  refine ⟨if_pos status,rfl,?_,fun illegal => ?_⟩
  · by_cases legal : Http.Legal c.fallback.contentType
    · simp [legal]
    · -- the content type that stands in its place is a legal value, so it is not the configured one
      refine ⟨fun same => ?_,fun present => absurd present legal⟩
      rw [if_neg legal] at same
      have value : "text/plain; charset=utf-8".toList = c.fallback.contentType :=
        (Utf8.encode_inj _ _).mp (congrArg Prod.snd (List.singleton_inj.mp same))
      rw [← value] at legal
      exact absurd (by decide) legal
  · rw [if_neg illegal]

def unusual : Config :=
  { Config.default with fallback := ⟨999,"gone".toList,"text/é;\tx".toList⟩ }

def unsendable : Config :=
  { Config.default with fallback.contentType := "text/html\n".toList }

theorem fallback_of_accepted_unusual :
    unusual.validate = .ok unusual ∧ (Http.Response.fallback unusual.fallback).status = 999 ∧
    (Http.Response.fallback unusual.fallback).headers.entries =
      [(Http.contentTypeName,Utf8.encode "text/é;\tx".toList)] ∧
    unsendable.validate = .ok unsendable ∧ (Http.Response.fallback unsendable.fallback).headers.entries =
      [(Http.contentTypeName,Utf8.encode "text/plain; charset=utf-8".toList)] := by
  have accepted : unusual.validate = .ok unusual := by rfl
  have accepted' : unsendable.validate = .ok unsendable := by rfl
  have legal : Http.Legal unusual.fallback.contentType := by decide
  have illegal : ¬Http.Legal unsendable.fallback.contentType := by decide
  obtain ⟨status,_,contentType,_⟩ := fallback_of_accepted unusual accepted
  exact ⟨accepted,status,contentType.mpr legal,accepted',
    (fallback_of_accepted unsendable accepted').2.2.2 illegal⟩

/-- A content type with a line feed is accepted and not served. -/
theorem unsendable_contentType : unsendable.validate = .ok unsendable ∧
    (Http.Response.fallback unsendable.fallback).headers.entries ≠
      [(Http.contentTypeName,Utf8.encode unsendable.fallback.contentType)] :=
  ⟨rfl,by decide⟩

end Config
end CannedHttp
