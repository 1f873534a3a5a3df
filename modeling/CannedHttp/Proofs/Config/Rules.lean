import CannedHttp.Config.Load
import Mathlib.Data.List.Nodup

/-!
The rules for configurations, one by one. A configuration is accepted exactly if it breaks none of them, and is
refused otherwise with the violations of those that it breaks, in the order of the rules. What a rule says
depends on its own fields alone, so mending these takes away one violation and leaves the others as they were.
-/
namespace CannedHttp.Config

inductive Rule where
  | bindAddress
  | filePattern
  | requestTimeout
  | fallbackStatus
  | metricsAddress
  | apiKey
  deriving DecidableEq

namespace Rule

/-- The rules in the order in which their violations are told. -/
def all : List Rule :=
  [.bindAddress,.filePattern,.requestTimeout,.fallbackStatus,.metricsAddress,.apiKey]

/-- What is wrong with a configuration that breaks the rule. -/
def Broken (c : Config) : Rule → Prop
  | .bindAddress => SocketAddress.parse? c.listener.address = none
  | .filePattern => c.routes.filePattern = [] ∨ '/' ∈ c.routes.filePattern ∨ '\\' ∈ c.routes.filePattern ∨
      (Glob.compile c.routes.filePattern).toOption = none
  | .requestTimeout => c.timeouts.requestSeconds = 0
  | .fallbackStatus => c.fallback.status < 100 ∨ 999 < c.fallback.status
  | .metricsAddress => c.observability.metricsEnabled = true ∧
      SocketAddress.parse? c.observability.metricsAddress = none
  | .apiKey => c.admin.enabled = true ∧ ∀ char ∈ c.admin.apiKey, Text.isBlank char = true

def violation (c : Config) : Rule → Violation
  | .bindAddress => .address "listener.bind_address".toList c.listener.address
  | .filePattern => .filePattern c.routes.filePattern
  | .requestTimeout => .zeroTimeout
  | .fallbackStatus => .fallbackStatus c.fallback.status
  | .metricsAddress => .address "observability.metrics_address".toList c.observability.metricsAddress
  | .apiKey => .emptyApiKey

/-- The second configuration has other values at most in the fields of the rule. -/
def Amended (c d : Config) : Rule → Prop
  | .bindAddress => ∃ address, d = { c with listener.address := address }
  | .filePattern => ∃ pattern, d = { c with routes.filePattern := pattern }
  | .requestTimeout => ∃ seconds, d = { c with timeouts.requestSeconds := seconds }
  | .fallbackStatus => ∃ status, d = { c with fallback.status := status }
  | .metricsAddress => ∃ enabled address,
      d = { c with observability.metricsEnabled := enabled, observability.metricsAddress := address }
  | .apiKey => ∃ enabled key, d = { c with admin.enabled := enabled, admin.apiKey := key }

instance (c : Config) : DecidablePred (Broken c)
  | .bindAddress => inferInstanceAs (Decidable (_ = none))
  | .filePattern => inferInstanceAs (Decidable (_ ∨ _ ∨ _ ∨ _ = none))
  | .requestTimeout => inferInstanceAs (Decidable (_ = 0))
  | .fallbackStatus => inferInstanceAs (Decidable (_ ∨ _))
  | .metricsAddress => inferInstanceAs (Decidable (_ ∧ _ = none))
  | .apiKey => @instDecidableAnd _ _ _ (List.decidableBAll _ _)

private theorem mem_all (rule : Rule) : rule ∈ all := by
  cases rule <;> decide

section Violations
variable (c d : Config) (rule other : Rule)

private theorem violation_injective (same : rule.violation c = other.violation c) : rule = other := by
  cases rule <;> cases other <;> first | rfl | (simp [violation] at same)

/-- Other rules do not see the change. -/
private theorem kept_of_amended (amended : rule.Amended c d) (apart : other ≠ rule) :
    (other.Broken d ↔ other.Broken c) ∧ other.violation d = other.violation c := by
  cases rule with
  | metricsAddress | apiKey =>
    obtain ⟨_,_,rfl⟩ := amended
    cases other <;> first | contradiction | exact ⟨Iff.rfl,rfl⟩
  | _ =>
    obtain ⟨_,rfl⟩ := amended
    cases other <;> first | contradiction | exact ⟨Iff.rfl,rfl⟩

end Violations
end Rule

/-- The violations of the broken rules. -/
def told (c : Config) : List Violation :=
  (Rule.all.filter (Rule.Broken c ·)).map (Rule.violation c)

section Checks
variable (t : Text)

theorem isAddress_iff : isAddress t = true ↔ SocketAddress.parse? t ≠ none :=
  Option.isSome_iff_ne_none

theorem isFilePattern_iff : isFilePattern t = true ↔
    ¬(t = [] ∨ '/' ∈ t ∨ '\\' ∈ t ∨ (Glob.compile t).toOption = none) := by
  have compiles : (Glob.compile t).toBool = true ↔ (Glob.compile t).toOption ≠ none := by
    cases Glob.compile t <;> simp [Except.toBool,Except.toOption]
  simp [isFilePattern,compiles,and_assoc]

theorem isStatus_iff (code : Nat) : Http.isStatus code = true ↔ ¬(code < 100 ∨ 999 < code) := by
  simp [Http.isStatus]

private theorem allBlank_iff : Text.allBlank t = true ↔ ∀ char ∈ t, Text.isBlank char = true :=
  List.all_eq_true

end Checks

section Telling
variable (c d : Config) (rule : Rule)

private theorem told_from (rules : List Rule) : ((rule :: rules).filter (Rule.Broken c ·)).map (Rule.violation c) =
    (if rule.Broken c then [rule.violation c] else []) ++
      (rules.filter (Rule.Broken c ·)).map (Rule.violation c) := by
  by_cases broken : rule.Broken c <;> simp [broken]

/-- One check of the six: it tells nothing if it succeeds, and the violation of its rule if it fails. -/
private theorem check_eq (passes : Bool) (holds : passes = true ↔ ¬rule.Broken c) :
    (if passes = true then [] else [rule.violation c]) = if rule.Broken c then [rule.violation c] else [] := by
  rw [if_congr holds rfl rfl,ite_not]

theorem violations_eq_told : c.violations = told c := by
  have address := check_eq c .bindAddress _ (isAddress_iff c.listener.address)
  have pattern := check_eq c .filePattern _ (isFilePattern_iff c.routes.filePattern)
  have status := check_eq c .fallbackStatus _ (isStatus_iff c.fallback.status)
  have metrics : (c.observability.metricsEnabled && !isAddress c.observability.metricsAddress) = true ↔
      Rule.Broken c .metricsAddress := by
    rw [Bool.and_eq_true,Bool.not_eq_true',← Bool.not_eq_true,isAddress_iff,not_not]
    rfl
  have key : (c.admin.enabled && Text.allBlank c.admin.apiKey) = true ↔ Rule.Broken c .apiKey := by
    rw [Bool.and_eq_true,allBlank_iff]
    rfl
  unfold told Rule.all violations
  rw [told_from,told_from,told_from,told_from,told_from,told_from,← address,← pattern,← status,
    ← if_congr metrics rfl rfl,← if_congr key rfl rfl]
  simp only [List.append_assoc,List.filter_nil,List.map_nil,List.append_nil]
  rfl

theorem told_eq_nil_iff : told c = [] ↔ ∀ rule, ¬Rule.Broken c rule := by
  rw [told,List.map_eq_nil_iff,List.filter_eq_nil_iff]
  exact ⟨fun none rule => of_decide_eq_false (eq_false_of_ne_true (none rule rule.mem_all)),
    fun none rule _ => ne_true_of_eq_false (decide_eq_false (none rule))⟩

theorem mem_told_iff : rule.violation c ∈ told c ↔ rule.Broken c := by
  rw [told,List.mem_map]
  constructor
  · rintro ⟨other,member,same⟩
    obtain rfl := Rule.violation_injective c other rule same
    exact of_decide_eq_true (List.mem_filter.mp member).2
  · intro broken
    exact ⟨rule,List.mem_filter.mpr ⟨rule.mem_all,decide_eq_true broken⟩,rfl⟩

theorem nodup_told : (told c).Nodup :=
  ((by decide : Rule.all.Nodup).filter _).map fun rule other => Rule.violation_injective c rule other

/-- Mending the fields of a rule takes its violation away and no other. -/
theorem told_amended (amended : rule.Amended c d) (mended : ¬rule.Broken d) :
    told d = (told c).erase (rule.violation c) := by
  have broken (other : Rule) : decide (other.Broken d) = (decide (other ≠ rule) && decide (other.Broken c)) := by
    rw [← Bool.decide_and,decide_eq_decide]
    by_cases same : other = rule
    · subst same
      exact ⟨fun broken => absurd broken mended,fun both => absurd rfl both.1⟩
    · rw [(Rule.kept_of_amended c d rule other amended same).1]
      exact ⟨fun broken => ⟨same,broken⟩,And.right⟩
  have others : Rule.all.filter (Rule.Broken d ·) = (Rule.all.filter (Rule.Broken c ·)).filter (· ≠ rule) := by
    rw [List.filter_filter]
    exact List.filter_congr fun other _ => broken other
  have same : told d = ((Rule.all.filter (Rule.Broken c ·)).filter (· ≠ rule)).map (Rule.violation c) := by
    rw [told,others]
    refine List.map_congr_left fun other member => ?_
    exact (Rule.kept_of_amended c d rule other amended (of_decide_eq_true (List.mem_filter.mp member).2)).2
  rw [same,(nodup_told c).erase_eq_filter,told,List.filter_map]
  refine congrArg (List.map _) (List.filter_congr fun other _ => ?_)
  rw [Function.comp_apply,Bool.eq_iff_iff,decide_eq_true_iff,bne_iff_ne]
  exact not_congr ⟨congrArg _,Rule.violation_injective c other rule⟩

theorem validate_eq : c.validate = if told c = [] then .ok c else .error (told c) := by
  unfold validate
  rw [violations_eq_told]
  cases told c <;> rfl

theorem validate_eq_ok_iff : c.validate = .ok c ↔ ∀ rule, ¬Rule.Broken c rule := by
  rw [validate_eq,← told_eq_nil_iff]
  by_cases none : told c = [] <;> simp [none]

end Telling
end CannedHttp.Config
