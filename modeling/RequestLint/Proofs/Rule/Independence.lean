import RequestLint.Analysis
import RequestLint.Proofs.Sink.Collection
import RequestLint.Proofs.Syntax.Regular

/-! Rules do not disturb one another. All enabled rules act on one sink, and their
actions come interleaved; but every action speaks of a subject of its own rule,
and the sink keeps subjects apart. What one rule finds is therefore what it would
find alone. -/
namespace RequestLint

/-- The diagnostic that points at a whole node and has no fix. -/
def Diagnostic.about (rule messageId message : String) (source : Bytes) (file? : Option String)
    (node : Node) : Diagnostic where
  rule := rule
  messageId := messageId
  message := message
  position := .ofOffset source .characters node.start
  start := node.start
  stop := node.stop
  fix? := none
  file? := file?

/-- The subject that an action is about. -/
def Action.subject : Action → Subject
  | report finding => finding.subject
  | defer finding => finding.subject
  | satisfy rule site => ⟨rule, site.key⟩

namespace Action

variable (keep : Subject → Bool) (actions : List Action)

/-- What is read off the actions that are kept is what is read off all of them
and kept, as long as it is about the subject of its action. -/
theorem filterMap_filter_subject {β : Type} (read? : Action → Option β) (about : β → Subject)
    (agrees : ∀ action found, read? action = some found → about found = action.subject) :
    (actions.filter (keep ·.subject)).filterMap read? =
      (actions.filterMap read?).filter (keep <| about ·) := by
  induction actions with
  | nil => rfl
  | cons action rest ih =>
    rw [List.filter_cons, List.filterMap_cons]
    cases found : read? action with
    | none =>
      split
      · rw [List.filterMap_cons, found, ih]
      · exact ih
    | some value =>
      rw [List.filter_cons, agrees action value found]
      split
      · rw [List.filterMap_cons, found, ih]
      · exact ih

theorem reports_filter :
    reports (actions.filter (keep ·.subject)) = (reports actions).filter (keep ·.subject) := by
  apply filterMap_filter_subject
  rintro ⟨⟩ _ ⟨⟩
  rfl

theorem deferrals_filter :
    deferrals (actions.filter (keep ·.subject)) = (deferrals actions).filter (keep ·.subject) := by
  apply filterMap_filter_subject
  rintro ⟨⟩ _ ⟨⟩
  rfl

theorem satisfactions_filter :
    satisfactions (actions.filter (keep ·.subject)) = (satisfactions actions).filter keep := by
  apply filterMap_filter_subject keep actions satisfied? (·)
  rintro ⟨⟩ _ ⟨⟩
  rfl

theorem settles_filter {subject : Subject} (kept : keep subject = true) :
    Settles (actions.filter (keep ·.subject)) subject ↔ Settles actions subject := by
  rw [Settles, Settles, reports_filter, satisfactions_filter, List.mem_filter]
  simp only [kept, and_true, List.mem_map, List.mem_filter]
  constructor
  · rintro (⟨finding, ⟨reported, _⟩, same⟩ | satisfied)
    · exact Or.inl ⟨finding, reported, same⟩
    · exact Or.inr satisfied
  · rintro (⟨finding, reported, rfl⟩ | satisfied)
    · exact Or.inl ⟨finding, ⟨reported, kept⟩, rfl⟩
    · exact Or.inr satisfied

theorem unmet_filter :
    unmet (actions.filter (keep ·.subject)) = (unmet actions).filter (keep ·.subject) := by
  rw [unmet, unmet, deferrals_filter, Finding.firsts_filter, List.filter_filter, List.filter_filter]
  apply List.filter_congr
  intro finding _
  cases kept : keep finding.subject with
  | true => simp only [settles_filter keep actions kept, Bool.and_true, Bool.true_and]
  | false => simp only [Bool.and_false, Bool.false_and]

end Action

/-- The diagnostics of one rule come from the actions of that rule. -/
theorem Sink.diagnostics_flush_filter (source : Bytes) (unit : ColumnUnit) (file? : Option String)
    (actions : List Action) (id : String) :
    ((actions.filter (·.subject.rule = id)).foldl apply
        (fresh source unit file?)).flush.diagnostics =
      (actions.foldl apply (fresh source unit file?)).flush.diagnostics.filter (·.rule = id) := by
  have reports := Action.reports_filter (·.rule = id) actions
  have unmet := Action.unmet_filter (·.rule = id) actions
  have firsts := Finding.firsts_filter (·.rule = id) (Action.reports actions)
  rw [diagnostics_flush_foldl, diagnostics_flush_foldl, reports, unmet, firsts, List.filter_append,
    List.filter_map, List.filter_map]
  rfl

namespace Rule

theorem subject_onTarget {rule : Rule} {options : Options} {verdict? : Node → Option Verdict}
    {call : Node} {action : Action} (acts : action ∈ rule.onTarget options verdict? call) :
    action.subject.rule = rule.id := by
  unfold onTarget at acts
  split at acts
  · obtain ⟨verdict, _, rfl⟩ := Option.map_eq_some_iff.1 (Option.mem_toList.1 acts)
    rfl
  · cases acts

theorem subject_onCall {rule : Rule} {options : Options} {past : List Observation} {scopes : Scopes}
    {call : Node} {action : Action} (acts : action ∈ rule.onCall options past scopes call) :
    action.subject.rule = rule.id := by
  cases rule with
  | errorHandling =>
    simp only [onCall, ErrorHandling.onCall] at acts
    split at acts
    · split at acts
      · cases acts
      · rw [List.mem_singleton.1 acts]
        rfl
    · split at acts
      · obtain ⟨anchor, _, rfl⟩ := Option.map_eq_some_iff.1 (Option.mem_toList.1 acts)
        rfl
      · cases acts
  | statusCheck => cases acts
  | jsonContentType => exact subject_onTarget acts
  | jsonResponseCheck =>
    simp only [onCall, JsonResponseCheck.onCall] at acts
    split at acts
    · split at acts
      · cases acts
      · split at acts
        · cases acts
        · rw [List.mem_singleton.1 acts]
          rfl
    · cases acts
  | timeout => exact subject_onTarget acts
  | asyncAwait =>
    obtain ⟨anchor, _, rfl⟩ := Option.map_eq_some_iff.1 (Option.mem_toList.1 acts)
    rfl
  | jsonInGet => exact subject_onTarget acts
  | encodedQuery => exact subject_onTarget acts

/-- A rule speaks of its own subjects only. -/
theorem subject_react {rule : Rule} {options : Options} {past : List Observation}
    {seen : Observation} {action : Action} (acts : action ∈ rule.react options past seen) :
    action.subject.rule = rule.id := by
  cases seen with
  | bound binding =>
    simp only [react] at acts
    split at acts
    next own =>
      subst own
      simp only [StatusCheck.onBound] at acts
      split at acts
      · cases acts
      · split at acts
        · rw [List.mem_singleton.1 acts]
          rfl
        · rw [List.mem_singleton.1 acts]
          rfl
    next => cases acts
  | entered node scopes =>
    simp only [react] at acts
    split at acts
    · exact subject_onCall acts
    · split at acts
      next own =>
        subst own
        simp only [StatusCheck.onMember] at acts
        split at acts
        · split at acts
          · obtain ⟨site, _, rfl⟩ := Option.map_eq_some_iff.1 (Option.mem_toList.1 acts)
            rfl
          · cases acts
        · cases acts
      next => cases acts

/-- The reactions to one observation, of one rule among several. -/
theorem flatMap_react_filter (options : Options) (past : List Observation) (seen : Observation)
    (rules : List Rule) (id : String) :
    (rules.flatMap fun rule => rule.react options past seen).filter (·.subject.rule = id) =
      (rules.filter (·.id = id)).flatMap fun rule => rule.react options past seen := by
  induction rules with
  | nil => rfl
  | cons rule rest ih =>
    rw [List.flatMap_cons, List.filter_append, ih, List.filter_cons]
    by_cases own : rule.id = id
    · have kept : (rule.react options past seen).filter (·.subject.rule = id) =
          rule.react options past seen := by
        apply List.filter_eq_self.2
        intro action acts
        exact decide_eq_true ((subject_react acts).trans own)
      rw [kept, if_pos (decide_eq_true own), List.flatMap_cons]
    · have dropped : (rule.react options past seen).filter (·.subject.rule = id) = [] := by
        apply List.filter_eq_nil_iff.2
        intro action acts same
        exact own ((subject_react acts).symm.trans (of_decide_eq_true same))
      rw [dropped, List.nil_append, if_neg (by simpa using own)]

theorem select_of_known {ids : List String} (known : ∀ id ∈ ids, isKnown id = true) :
    select (some ids) = .ok (all.filter (·.id ∈ ids)) := by
  have none_unknown : ids.filter (!isKnown ·) = [] := by
    apply List.filter_eq_nil_iff.2
    intro id member
    simp [known id member]
  simp [select, unknownIds, none_unknown]

end Rule

namespace Analysis

/-- Of the actions of several rules, one rule's own are those it would take if
the others were not enabled. -/
theorem actions_filter (options : Options) (rules : List Rule) (id : String)
    (history : List Observation) :
    (actions ⟨options, rules⟩ history).filter (·.subject.rule = id) =
      actions ⟨options, rules.filter (·.id = id)⟩ history := by
  induction history with
  | nil => rfl
  | cons seen past ih =>
    rw [actions, actions, List.filter_append, ih, Rule.flatMap_react_filter]

theorem actions_of_no_rules (options : Options) (history : List Observation) :
    actions ⟨options, []⟩ history = [] := by
  induction history with
  | nil => rfl
  | cons seen past ih => rw [actions, ih, List.flatMap_nil, List.append_nil]

theorem diagnose_filter (options : Options) (rules : List Rule) (id : String) (root : Node)
    (source : Bytes) (file? : Option String) :
    (diagnose ⟨options, rules⟩ root source file?).filter (·.rule = id) =
      diagnose ⟨options, rules.filter (·.id = id)⟩ root source file? := by
  have history := actions_filter options rules id (Tracker.walk options.target root).history
  have sink := Sink.diagnostics_flush_filter source .characters file?
    (actions ⟨options, rules⟩ (Tracker.walk options.target root).history) id
  rw [history] at sink
  exact sink.symm

theorem ofIds_of_known (options : Options) {ids : List String}
    (known : ∀ id ∈ ids, Rule.isKnown id = true) :
    ofIds options (some ids) = .ok ⟨options, Rule.all.filter (·.id ∈ ids)⟩ := by
  rw [ofIds, Rule.select_of_known known]

theorem ofIds_of_rule (options : Options) (rule : Rule) :
    ofIds options (some [rule.id]) = .ok ⟨options, [rule]⟩ := by
  have known : ∀ id ∈ [rule.id], Rule.isKnown id = true := by
    cases rule <;> decide +kernel
  have chosen : Rule.all.filter (·.id ∈ [rule.id]) = [rule] := by
    cases rule <;> decide +kernel
  rw [ofIds_of_known options known, chosen]

/-- Enabling, disabling or reordering other rules leaves the findings of a rule
as they are: an analysis by known rules is accepted, gives for each of them what
the analysis by that rule alone gives, gives nothing else, and is the same for
every list of the same rules. -/
theorem diagnose_by_rule_alone (options : Options) (tree : Tree) (source : Bytes)
    (file? : Option String) (ids : List String) (known : ∀ id ∈ ids, Rule.isKnown id = true) :
    ∃ analysis, ofIds options (some ids) = .ok analysis ∧
      (∀ id ∈ ids, ∃ alone, ofIds options (some [id]) = .ok alone ∧
        (analysis.diagnose (.root tree) source file?).filter (·.rule = id) =
          alone.diagnose (.root tree) source file?) ∧
      (∀ diagnostic ∈ analysis.diagnose (.root tree) source file?, diagnostic.rule ∈ ids) ∧
      (∀ others : List String, (∀ id, id ∈ others ↔ id ∈ ids) →
        ofIds options (some others) = .ok analysis) := by
  refine ⟨_, ofIds_of_known options known, ?_, ?_, ?_⟩
  · intro id member
    have single : ∀ other ∈ [id], Rule.isKnown other = true := by
      intro other same
      rw [List.mem_singleton.1 same]
      exact known id member
    refine ⟨_, ofIds_of_known options single, ?_⟩
    rw [diagnose_filter, List.filter_filter]
    congr 2
    apply List.filter_congr
    intro rule _
    by_cases own : rule.id = id
    · simp [own, member]
    · simp [own]
  · intro diagnostic given
    by_contra outside
    have mine := diagnose_filter options (Rule.all.filter (·.id ∈ ids)) diagnostic.rule (.root tree)
      source file?
    have nobody : (Rule.all.filter (·.id ∈ ids)).filter (·.id = diagnostic.rule) = [] := by
      apply List.filter_eq_nil_iff.2
      intro rule chosen same
      have inside := of_decide_eq_true (List.mem_filter.1 chosen).2
      exact outside (of_decide_eq_true same ▸ inside)
    have empty : diagnose ⟨options, []⟩ (.root tree) source file? = [] := by
      rw [diagnose, actions_of_no_rules]
      rfl
    rw [nobody, empty] at mine
    exact (List.filter_eq_nil_iff.1 mine) diagnostic given (decide_eq_true rfl)
  · intro others same
    rw [ofIds_of_known options fun id member => known id ((same id).1 member)]
    simp only [same]

theorem diagnose_by_rule_alone_twoRequests :
    ∃ analysis alone,
      ofIds {} (some ["require-timeout", "require-error-handling", "require-timeout"]) =
        .ok analysis ∧
      ofIds {} (some ["require-error-handling", "require-timeout"]) = .ok analysis ∧
      ofIds {} (some ["require-timeout"]) = .ok alone ∧
      (analysis.diagnose (.root twoRequests) twoRequests.source none).filter
          (·.rule = "require-timeout") =
        alone.diagnose (.root twoRequests) twoRequests.source none ∧
      (alone.diagnose (.root twoRequests) twoRequests.source none).length = 2 := by
  obtain ⟨analysis, accepted, each, _, same⟩ := diagnose_by_rule_alone {} twoRequests
    twoRequests.source none ["require-timeout", "require-error-handling", "require-timeout"]
    (by decide +kernel)
  obtain ⟨alone, single, equal⟩ := each "require-timeout" (by decide)
  have reordered := same ["require-error-handling", "require-timeout"] (by simp)
  refine ⟨analysis, alone, accepted, reordered, single, equal, ?_⟩
  cases single.symm.trans (ofIds_of_rule {} .timeout)
  decide +kernel

end Analysis
end RequestLint
