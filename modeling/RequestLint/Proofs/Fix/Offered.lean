import RequestLint.Proofs.Rule.JsonContentType
import RequestLint.Proofs.Rule.Locality

/-! The fixes that one analysis offers. Only a missing content type is offered a
fix; each request is offered one at most, and those of different requests go into
different literals. So the fixes of one analysis never overlap, and applying them
leaves none out. -/
namespace RequestLint

theorem Timeout.fix?_of_verdict? {call : Node} {verdict : Verdict}
    (judged : Timeout.verdict? call = some verdict) : verdict.fix? = none := by
  unfold Timeout.verdict? at judged
  split at judged
  · cases judged
  · split at judged
    · cases judged
      rfl
    · obtain ⟨options, _, judged⟩ := Option.bind_eq_some_iff.1 judged
      split at judged
      · split at judged
        · cases judged
        · cases judged
          rfl
      · split at judged
        · cases judged
        · cases judged
          rfl

theorem JsonInGet.fix?_of_verdict? {call : Node} {verdict : Verdict}
    (judged : JsonInGet.verdict? call = some verdict) : verdict.fix? = none := by
  obtain ⟨options, _, judged⟩ := Option.bind_eq_some_iff.1 judged
  obtain ⟨method, _, judged⟩ := Option.bind_eq_some_iff.1 judged
  split at judged
  · cases judged
    rfl
  · cases judged

theorem EncodedQuery.fix?_of_verdict? {strict : Bool} {call : Node} {verdict : Verdict}
    (judged : EncodedQuery.verdict? strict call = some verdict) : verdict.fix? = none := by
  obtain ⟨url, _, judged⟩ := Option.bind_eq_some_iff.1 judged
  split at judged
  · cases judged
  · split at judged
    · split at judged
      · cases judged
        rfl
      · cases judged
    · split at judged
      · cases judged
      · cases judged
        rfl

namespace Rule

variable {rule : Rule} {options : Options} {past : List Observation} {scopes : Scopes} {call : Node}
  {finding : Finding}

theorem verdict_of_onTarget {verdict? : Node → Option Verdict}
    (acts : .report finding ∈ rule.onTarget options verdict? call) :
    call.isTargetCall options.target = true ∧
      ∃ verdict, verdict? call = some verdict ∧ finding = verdict.finding rule options call := by
  unfold onTarget at acts
  split at acts
  next targets =>
    obtain ⟨verdict, judged, same⟩ := Option.map_eq_some_iff.1 (Option.mem_toList.1 acts)
    cases same
    exact ⟨targets, verdict, judged, rfl⟩
  next => cases acts

/-- A call that a fix is offered for, with what the rule found at it. -/
structure Offers (options : Options) (call : Node) (verdict : Verdict) (fix : Fix) : Prop where
  targets : call.isTargetCall options.target = true
  judged : JsonContentType.verdict? call = some verdict
  offered : verdict.fix? = some fix

theorem offers_of_onCall {fix : Fix} (acts : .report finding ∈ rule.onCall options past scopes call)
    (offered : finding.fix? = some fix) :
    ∃ verdict, Offers options call verdict fix ∧
      finding = verdict.finding .jsonContentType options call := by
  have none_of_onTarget {verdict? : Node → Option Verdict}
      (plain : ∀ verdict, verdict? call = some verdict → verdict.fix? = none)
      (acts : .report finding ∈ rule.onTarget options verdict? call) : False := by
    obtain ⟨_, verdict, judged, rfl⟩ := verdict_of_onTarget acts
    cases (plain verdict judged).symm.trans offered
  cases rule with
  | errorHandling =>
    simp only [onCall, ErrorHandling.onCall] at acts
    split at acts
    · split at acts
      · cases acts
      · cases List.mem_singleton.1 acts
    · split at acts
      · obtain ⟨anchor, _, same⟩ := Option.map_eq_some_iff.1 (Option.mem_toList.1 acts)
        cases same
      · cases acts
  | statusCheck => cases acts
  | jsonContentType =>
    obtain ⟨targets, verdict, judged, rfl⟩ := verdict_of_onTarget acts
    exact ⟨verdict, ⟨targets, judged, offered⟩, rfl⟩
  | jsonResponseCheck =>
    simp only [onCall, JsonResponseCheck.onCall] at acts
    split at acts
    · split at acts
      · cases acts
      · split at acts
        · cases acts
        · cases List.mem_singleton.1 acts
          cases offered
    · cases acts
  | timeout => exact (none_of_onTarget (fun _ => Timeout.fix?_of_verdict?) acts).elim
  | asyncAwait =>
    obtain ⟨anchor, _, same⟩ := Option.map_eq_some_iff.1 (Option.mem_toList.1 acts)
    cases same
    cases offered
  | jsonInGet => exact (none_of_onTarget (fun _ => JsonInGet.fix?_of_verdict?) acts).elim
  | encodedQuery => exact (none_of_onTarget (fun _ => EncodedQuery.fix?_of_verdict?) acts).elim

/-- Of all reports, those about a missing content type alone offer a fix. -/
theorem offers_of_react {seen : Observation} {fix : Fix}
    (acts : .report finding ∈ rule.react options past seen) (offered : finding.fix? = some fix) :
    ∃ call ∈ seen.entered?, ∃ verdict, Offers options call verdict fix ∧
      finding = verdict.finding .jsonContentType options call := by
  cases seen with
  | bound binding =>
    simp only [react] at acts
    split at acts
    · simp only [StatusCheck.onBound] at acts
      split at acts
      · cases acts
      · split at acts
        · cases List.mem_singleton.1 acts
        · cases List.mem_singleton.1 acts
    · cases acts
  | entered node scopes =>
    simp only [react] at acts
    split at acts
    · obtain ⟨verdict, offers, same⟩ := offers_of_onCall acts offered
      exact ⟨node, rfl, verdict, offers, same⟩
    · split at acts
      · simp only [StatusCheck.onMember] at acts
        split at acts
        · split at acts
          · obtain ⟨site, _, same⟩ := Option.map_eq_some_iff.1 (Option.mem_toList.1 acts)
            cases same
          · cases acts
        · cases acts
      · cases acts

end Rule

namespace Analysis

variable {analysis : Analysis} {tree : Tree} {source : Bytes} {file? : Option String}

theorem react_of_mem_reports {history : List Observation} {finding : Finding}
    (reported : finding ∈ Action.reports (analysis.actions history)) :
    ∃ rule past, ∃ seen ∈ history,
      .report finding ∈ Rule.react rule analysis.options past seen := by
  obtain ⟨seen, past, suffix, rule, _, acts⟩ :=
    mem_actions_iff.1 (Action.mem_reports_iff.1 reported)
  exact ⟨rule, past, seen, suffix.subset List.mem_cons_self, acts⟩

/-- What one analysis reports at once, the first finding of each subject. -/
def reported (analysis : Analysis) (tree : Tree) : List Finding :=
  Finding.firsts (Action.reports
    (analysis.actions (Tracker.walk analysis.options.target (.root tree)).history))

/-- The fixes are those of the reports; what waited to the end offers none. -/
theorem fixes_diagnose : (analysis.diagnose (.root tree) source file?).filterMap Diagnostic.fix? =
    (analysis.reported tree).filterMap Finding.fix? := by
  have collected := Sink.diagnostics_flush_foldl source .characters file?
    (analysis.actions (Tracker.walk analysis.options.target (.root tree)).history)
  have waiting (findings : List Finding) (sink : Sink) :
      (findings.map (sink.diagnose · none)).filterMap Diagnostic.fix? = [] := by
    rw [List.filterMap_map, List.filterMap_eq_nil_iff]
    exact fun _ _ => rfl
  rw [diagnose]
  refine (congrArg _ collected).trans ?_
  rw [List.filterMap_append, waiting, List.append_nil, List.filterMap_map]
  rfl

theorem offers_of_mem_reported {finding : Finding} {fix : Fix}
    (member : finding ∈ analysis.reported tree) (offered : finding.fix? = some fix) :
    ∃ call ∈ (Node.root tree).preorder, ∃ verdict, Rule.Offers analysis.options call verdict fix ∧
      finding = verdict.finding .jsonContentType analysis.options call := by
  obtain ⟨rule, past, seen, observed, acts⟩ := react_of_mem_reports
    ((Finding.firsts_sublist _).subset member)
  obtain ⟨call, entered, verdict, offers, same⟩ := Rule.offers_of_react acts offered
  have listed : call ∈ (Tracker.walk analysis.options.target (.root tree)).entered :=
    List.mem_filterMap.2 ⟨seen, List.mem_reverse.2 observed, entered⟩
  rw [Tracker.entered_walk] at listed
  exact ⟨call, listed, verdict, offers, same⟩

/-- A fix that an analysis offers goes into a literal of the tree, of one request. -/
theorem extendsAt_of_mem_reported {finding : Finding} {fix : Fix}
    (member : finding ∈ analysis.reported tree) (offered : finding.fix? = some fix) :
    ∃ call object entry, JsonContentType.Supplies call object entry ∧
      object ∈ (Node.root tree).preorder ∧ object.hasError = false ∧ Fix.ExtendsAt object fix ∧
      finding = (JsonContentType.missing object entry).finding .jsonContentType analysis.options
        call := by
  obtain ⟨call, listed, verdict, offers, same⟩ := offers_of_mem_reported member offered
  obtain ⟨object, entry, supplies, rfl, made⟩ :=
    JsonContentType.supplies_of_verdict? offers.judged offers.offered
  obtain ⟨clean, extends_⟩ := Fix.hasError_of_insertEntry supplies.kind made
  exact ⟨call, object, entry, supplies,
    Node.mem_preorder_of_mem_ancestors supplies.mem_ancestors listed, clean, extends_, same⟩

theorem inside_of_mem_fixes (fits : tree.Fits source) {fix : Fix}
    (member : fix ∈ (analysis.diagnose (.root tree) source file?).filterMap Diagnostic.fix?) :
    fix.Inside source.length := by
  rw [fixes_diagnose] at member
  obtain ⟨finding, reported, offered⟩ := List.mem_filterMap.1 member
  obtain ⟨_, object, _, _, listed, _, extends_, _⟩ := extendsAt_of_mem_reported reported offered
  exact extends_.inside fits listed

/-- The fixes of one analysis do not overlap. The sink takes one finding for each
request, so two of them are about two requests, and these share no literal. -/
theorem pairwise_fixes (fits : tree.Fits source) :
    ((analysis.diagnose (.root tree) source file?).filterMap Diagnostic.fix?).Pairwise
      fun a b => ¬ a.Overlaps b := by
  rw [fixes_diagnose, List.pairwise_filterMap]
  have distinct : (analysis.reported tree).Pairwise fun a b => a.subject ≠ b.subject :=
    List.pairwise_map.1 (Finding.nodup_subjects_firsts _)
  refine distinct.imp_of_mem ?_
  intro finding finding' member member' differ fix offered fix' offered'
  obtain ⟨call, object, entry, supplies, listed, _, extends_, rfl⟩ :=
    extendsAt_of_mem_reported member offered
  obtain ⟨call', object', entry', supplies', listed', _, extends', rfl⟩ :=
    extendsAt_of_mem_reported member' offered'
  have apart : object ≠ object' := by
    rintro rfl
    exact differ (supplies.unique supplies' ▸ rfl)
  exact extends_.not_overlaps fits listed listed' apart (supplies.parent?_ne supplies'.kind)
    (supplies'.parent?_ne supplies.kind) extends'

/-- What a diagnostic with a fix says. -/
theorem extendsAt_of_diagnose {diagnostic : Diagnostic} {fix : Fix}
    (given : diagnostic ∈ analysis.diagnose (.root tree) source file?)
    (offered : diagnostic.fix? = some fix) :
    diagnostic.rule = "require-json-content-type" ∧ diagnostic.messageId = "missingContentType" ∧
      ∃ object ∈ (Node.root tree).preorder, object.kind = "object" ∧ object.hasError = false ∧
        diagnostic.start = object.start ∧ diagnostic.stop = object.stop ∧
        Fix.ExtendsAt object fix := by
  have collected := Sink.diagnostics_flush_foldl source .characters file?
    (analysis.actions (Tracker.walk analysis.options.target (.root tree)).history)
  have given : diagnostic ∈ ((analysis.actions (Tracker.walk analysis.options.target
      (.root tree)).history).foldl Sink.apply
        (Sink.fresh source .characters file?)).flush.diagnostics := given
  rw [collected, List.mem_append] at given
  rcases given with reported | waited
  · obtain ⟨finding, member, rfl⟩ := List.mem_map.1 reported
    obtain ⟨call, object, entry, supplies, listed, clean, extends_, rfl⟩ :=
      extendsAt_of_mem_reported member offered
    exact ⟨rfl, rfl, object, listed, supplies.kind, clean, rfl, rfl, extends_⟩
  · obtain ⟨finding, member, rfl⟩ := List.mem_map.1 waited
    cases offered

end Analysis
end RequestLint
