import RequestLint.Analysis
import RequestLint.Proofs.Sink.Collection
import RequestLint.Proofs.Syntax.Chain
import RequestLint.Proofs.Syntax.Traversal

/-! Rules that look at one call at a time. What such a rule asks of the sink does
not depend on the history of the walk, so its diagnostics come from the nodes of
the tree in pre-order. -/
namespace RequestLint

/-- Different calls make different subjects. -/
theorem Subject.nodup_of_calls {tree : Tree} (distinct : tree.DistinctCalls) {calls : List Node}
    (listed : calls.Sublist (Node.root tree).preorder)
    (call : ∀ node ∈ calls, node.kind = "call_expression") (rule : String) :
    (calls.map fun node => Subject.mk rule node.key).Nodup := by
  apply ((Node.nodup_preorder _).sublist listed).map_on
  intro first one second other same
  rw [Subject.mk.injEq] at same
  exact Node.eq_of_key distinct (listed.subset one) (listed.subset other) (call first one) same.2

/-- Findings of one rule about different calls have different subjects. -/
theorem Finding.nodup_subjects_of_calls {tree : Tree} (distinct : tree.DistinctCalls)
    {calls : List Node} (listed : calls.Sublist (Node.root tree).preorder)
    (call : ∀ node ∈ calls, node.kind = "call_expression") {rule : String} (find : Node → Finding)
    (about : ∀ node, (find node).subject = ⟨rule, node.key⟩) :
    ((calls.map find).map Finding.subject).Nodup := by
  have subjects : (calls.map find).map Finding.subject =
      calls.map fun node => Subject.mk rule node.key := by
    rw [List.map_map]
    exact List.map_congr_left fun node _ => about node
  rw [subjects]
  exact Subject.nodup_of_calls distinct listed call rule

variable {rule : Rule} {options : Options} {judge : Node → List Action}

namespace Rule

/-- The rule does what `judge` says of each node entered, and nothing else. -/
def ActsBy (rule : Rule) (options : Options) (judge : Node → List Action) : Prop :=
  ∀ past seen, rule.react options past seen = seen.entered?.elim [] judge

theorem actsBy_of_onCall (other : rule ≠ .statusCheck)
    (calls : ∀ past scopes call, rule.onCall options past scopes call = judge call)
    (silent : ∀ node : Node, node.kind ≠ "call_expression" → judge node = []) :
    rule.ActsBy options judge := by
  intro past seen
  cases seen with
  | bound binding => rw [react, if_neg other, Observation.entered?, Option.elim_none]
  | entered node scopes =>
    rw [react, Observation.entered?, Option.elim_some]
    by_cases isCall : node.kind = "call_expression"
    · rw [if_pos isCall, calls]
    · rw [if_neg isCall, if_neg other, silent node isCall]

/-- A rule that judges calls of the target one by one. -/
theorem actsBy_onTarget {verdict? : Node → Option Verdict} (other : rule ≠ .statusCheck)
    (judges : ∀ past scopes call, rule.onCall options past scopes call =
      rule.onTarget options verdict? call) :
    rule.ActsBy options (rule.onTarget options verdict?) := by
  refine actsBy_of_onCall other judges fun node plain => if_neg ?_
  exact mt Node.kind_of_isTargetCall plain

/-- What is asked of the sink about the target's calls is to report what is held
against them. -/
theorem reads_onTarget (verdict? : Node → Option Verdict) (nodes : List Node) :
    Action.reports (nodes.flatMap (rule.onTarget options verdict?)) =
        (nodes.filter (Node.isTargetCall options.target)).filterMap (fun call =>
          (verdict? call).map (·.finding rule options call)) ∧
      Action.deferrals (nodes.flatMap (rule.onTarget options verdict?)) = [] := by
  induction nodes with
  | nil => exact ⟨rfl, rfl⟩
  | cons node rest ih =>
    obtain ⟨reports, deferrals⟩ := ih
    rw [List.flatMap_cons, Action.reports_append, Action.deferrals_append, reports, deferrals,
      onTarget, List.filter_cons]
    split
    · rw [List.filterMap_cons]
      cases verdict? node with
      | none => exact ⟨rfl, rfl⟩
      | some verdict => exact ⟨rfl, rfl⟩
    · exact ⟨rfl, rfl⟩

theorem subjects_sublist (rule : Rule) (options : Options) (verdict? : Node → Option Verdict)
    (calls : List Node) :
    ((calls.filterMap fun call => (verdict? call).map (·.finding rule options call)).map
      Finding.subject).Sublist (calls.map fun call => Subject.mk rule.id call.key) := by
  induction calls with
  | nil => exact .slnil
  | cons call rest ih =>
    rw [List.filterMap_cons, List.map_cons]
    cases verdict? call with
    | none => exact ih.cons _
    | some verdict => exact ih.cons_cons _

end Rule

namespace Analysis

/-- Each action is the reaction of a rule to an observation, in the light of those
before it. -/
theorem mem_actions_iff {analysis : Analysis} {history : List Observation} {action : Action} :
    action ∈ analysis.actions history ↔ ∃ seen past, seen :: past <:+ history ∧
      ∃ rule ∈ analysis.rules, action ∈ rule.react analysis.options past seen := by
  induction history with
  | nil =>
    constructor
    · intro acts
      cases acts
    · rintro ⟨seen, past, suffix, _⟩
      cases List.suffix_nil.1 suffix
  | cons last earlier ih =>
    rw [actions, List.mem_append, ih, List.mem_flatMap]
    constructor
    · rintro (⟨seen, past, suffix, acts⟩ | acts)
      · exact ⟨seen, past, suffix.trans (List.suffix_cons last earlier), acts⟩
      · exact ⟨last, earlier, List.suffix_refl _, acts⟩
    · rintro ⟨seen, past, suffix, acts⟩
      rcases List.suffix_cons_iff.1 suffix with same | suffix
      · cases same
        exact Or.inr acts
      · exact Or.inl ⟨seen, past, suffix, acts⟩

theorem actions_of_actsBy (acts : rule.ActsBy options judge) (history : List Observation) :
    actions ⟨options, [rule]⟩ history =
      (history.reverse.filterMap Observation.entered?).flatMap judge := by
  induction history with
  | nil => rfl
  | cons seen past ih =>
    rw [actions, ih, List.flatMap_singleton, acts, List.reverse_cons, List.filterMap_append,
      List.flatMap_append]
    congr 1
    cases seen with
    | bound binding => rfl
    | entered node scopes => exact (List.flatMap_singleton judge node).symm

theorem diagnose_of_actsBy (acts : rule.ActsBy options judge) (root : Node) (source : Bytes)
    (file? : Option String) :
    diagnose ⟨options, [rule]⟩ root source file? =
      ((root.preorder.flatMap judge).foldl Sink.apply
        (Sink.fresh source .characters file?)).flush.diagnostics := by
  have entered := Tracker.entered_walk options.target root
  rw [Tracker.entered] at entered
  rw [diagnose, actions_of_actsBy acts, entered]
  rfl

/-- What a rule that judges single calls of the target says about one of them. -/
def report? (rule : Rule) (options : Options) (verdict? : Node → Option Verdict) (source : Bytes)
    (file? : Option String) (call : Node) : Option Diagnostic :=
  (verdict? call).map fun verdict =>
    (Sink.fresh source .characters file?).diagnose (verdict.finding rule options call) verdict.fix?

/-- Calls differ in their keys, so none of their reports is dropped. -/
theorem firsts_reports_onTarget {tree : Tree} (distinct : tree.DistinctCalls)
    (verdict? : Node → Option Verdict) :
    Finding.firsts (Action.reports
        ((Node.root tree).preorder.flatMap (rule.onTarget options verdict?))) =
      ((Node.root tree).preorder.filter (Node.isTargetCall options.target)).filterMap fun call =>
        (verdict? call).map (·.finding rule options call) := by
  have calls : ∀ node ∈ (Node.root tree).preorder.filter (Node.isTargetCall options.target),
      node.kind = "call_expression" := fun node member =>
    Node.kind_of_isTargetCall (List.mem_filter.1 member).2
  have subjects := (Subject.nodup_of_calls distinct List.filter_sublist calls rule.id).sublist
    (rule.subjects_sublist options verdict? _)
  rw [(rule.reads_onTarget verdict? _).1, Finding.firsts_eq_self subjects]

/-- Each call is reported as it is judged. -/
theorem diagnose_of_onTarget {tree : Tree} {verdict? : Node → Option Verdict}
    (distinct : tree.DistinctCalls) (acts : rule.ActsBy options (rule.onTarget options verdict?))
    (source : Bytes) (file? : Option String) :
    diagnose ⟨options, [rule]⟩ (.root tree) source file? =
      ((Node.root tree).preorder.filter (Node.isTargetCall options.target)).filterMap
        (report? rule options verdict? source file?) := by
  have none_waits : Action.unmet
      ((Node.root tree).preorder.flatMap (rule.onTarget options verdict?)) = [] := by
    rw [Action.unmet, (rule.reads_onTarget verdict? _).2]
    rfl
  rw [diagnose_of_actsBy acts, Sink.diagnostics_flush_foldl, firsts_reports_onTarget distinct,
    none_waits, List.map_nil, List.append_nil, List.map_filterMap]
  refine List.filterMap_congr fun call _ => ?_
  rw [report?, Option.map_map]
  rfl

end Analysis
end RequestLint
