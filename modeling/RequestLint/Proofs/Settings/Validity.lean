import RequestLint.Proofs.Rule.Independence
import RequestLint.Proofs.Text.Part
import RequestLint.Settings.Session

/-! Which environments hold valid settings. The list of rules is read as the stretches
between its commas, of which those that are all white space say nothing. -/
namespace RequestLint

namespace Settings

variable {environment : Environment}

/-- Every stretch of the list of rules, without the white space around it, is empty or
the identifier of a rule. -/
def RulesValid (environment : Environment) : Prop :=
  ∀ part, Text.IsStretch (· = ',') ((environment.get? "FETCHLINT_RULES").getD "").toList part →
    Text.trim (.ofList part) = "" ∨ ∃ rule : Rule, rule.id = Text.trim (.ofList part)

/-- The flag, without the white space around it and in lower case, is one of the words
for true and false. One that is not set counts as true. -/
def FlagValid (environment : Environment) : Prop :=
  Text.lower (Text.trim ((environment.get? "FETCHLINT_REQUIRE_QUERY_BUILDER").getD "true")) ∈
    trueWords ++ falseWords

theorem isKnown_iff {id : String} : Rule.isKnown id = true ↔ ∃ rule : Rule, rule.id = id := by
  rw [Rule.isKnown, List.any_eq_true]
  constructor
  · rintro ⟨rule, _, same⟩
    exact ⟨rule, of_decide_eq_true same⟩
  · rintro ⟨rule, same⟩
    refine ⟨rule, ?_, decide_eq_true same⟩
    cases rule <;> decide

theorem mem_readRules_iff {id : String} : id ∈ (readRules environment).getD [] ↔
    id ≠ "" ∧ ∃ part, Text.IsStretch (· = ',')
      ((environment.get? "FETCHLINT_RULES").getD "").toList part ∧ Text.trim (.ofList part) = id := by
  have read : (readRules environment).getD [] =
      ((Text.split (· = ',') ((environment.get? "FETCHLINT_RULES").getD "").toList).map fun item =>
        Text.trim (.ofList item)).filter (· ≠ "") := by
    rw [readRules]
    split
    next empty => rw [empty, Option.getD_none]
    next => rfl
  rw [read, List.mem_filter, List.mem_map, decide_eq_true_iff, and_comm]
  simp only [Text.mem_split_iff]

theorem rulesValid_iff : RulesValid environment ↔
    ∀ id ∈ (readRules environment).getD [], Rule.isKnown id = true := by
  simp only [mem_readRules_iff, isKnown_iff]
  constructor
  · rintro valid id ⟨shown, part, stretch, rfl⟩
    exact (valid part stretch).resolve_left shown
  · intro known part stretch
    by_cases blank : Text.trim (.ofList part) = ""
    · exact .inl blank
    · exact .inr (known _ ⟨blank, part, stretch, rfl⟩)

theorem flagValid_iff : FlagValid environment ↔ ∃ flag, readFlag environment = .ok flag := by
  rw [FlagValid, readFlag, List.mem_append]
  split
  next true_ => exact ⟨fun _ => ⟨true, rfl⟩, fun _ => .inl true_⟩
  next not_true =>
    split
    next false_ => exact ⟨fun _ => ⟨false, rfl⟩, fun _ => .inr false_⟩
    next not_false => exact ⟨fun word => absurd word (not_or.2 ⟨not_true, not_false⟩), nofun⟩

theorem validate_eq_ok_iff : validate environment = .ok () ↔
    RulesValid environment ∧ FlagValid environment := by
  have all_known : RulesValid environment ↔
      ((readRules environment).getD []).filter (!Rule.isKnown ·) = [] := by
    rw [rulesValid_iff, List.filter_eq_nil_iff]
    simp
  rw [all_known, flagValid_iff, validate]
  split
  next none_unknown =>
    cases readFlag environment with
    | ok flag => exact ⟨fun _ => ⟨none_unknown, flag, rfl⟩, fun _ => rfl⟩
    | error cause => exact ⟨nofun, nofun⟩
  next unknown some_unknown =>
    exact ⟨nofun, fun valid => absurd valid.1 some_unknown⟩

end Settings
end RequestLint
