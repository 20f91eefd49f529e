import RequestLint.Proofs.Rule.Independence
import RequestLint.Proofs.Rule.Locality
import RequestLint.Proofs.Syntax.Chain
import RequestLint.Proofs.Syntax.Enclosing

/-! Which requests are reported as unable to fail visibly. The rule decides at
the handler, going down to the request that it belongs to, and holds its findings
back until the end; the statement here looks up from the request, at what it
stands in, at the `try` blocks around it and at the links of its chain. -/
namespace RequestLint.ErrorHandling
open Node

variable {tree : Tree} {options : Options} {source : Bytes} {file? : Option String} {site : Node}

def IsVoid (node : Node) : Prop :=
  node.kind = "unary_expression" ∧ ∃ operator ∈ node.child? "operator", operator.kind = "void"

/-- The call is the expression of a statement, bare or under one `void`. -/
def Discarded (site : Node) : Prop :=
  ∃ statement, statement.kind = "expression_statement" ∧
    (StandsIn site statement ∨ ∃ outer, StandsIn site outer ∧ IsVoid outer ∧ StandsIn outer statement)

theorem isDiscarded_iff : isDiscarded site = true ↔ Discarded site := by
  simp only [isDiscarded, Option.any_eq_true, context?_eq_some_iff]
  constructor
  · rintro ⟨outer, around, decided⟩
    split at decided
    next unary =>
      simp only [Bool.and_eq_true, Option.any_eq_true, context?_eq_some_iff,
        decide_eq_true_eq] at decided
      obtain ⟨voids, statement, above, kind⟩ := decided
      exact ⟨statement, kind, Or.inr ⟨outer, around, ⟨unary, voids⟩, above⟩⟩
    next => exact ⟨outer, of_decide_eq_true decided, Or.inl around⟩
  · rintro ⟨statement, kind, above | ⟨outer, around, ⟨unary, voids⟩, above⟩⟩
    · exact ⟨statement, above, by simp [kind]⟩
    · refine ⟨outer, around, ?_⟩
      simp only [unary, if_true, Bool.and_eq_true, Option.any_eq_true, context?_eq_some_iff,
        decide_eq_true_eq]
      exact ⟨voids, statement, above, kind⟩

instance (site : Node) : Decidable (Discarded site) := decidable_of_iff _ isDiscarded_iff

/-- A request that nothing lets fail visibly. -/
def Unhandled (target : String) (site : Node) : Prop :=
  site.isTargetCall target = true ∧ ¬ Discarded site ∧ ¬ site.InTryBody ∧ ¬ site.RejectionHandled

instance (target : String) (site : Node) : Decidable (Unhandled target site) :=
  inferInstanceAs (Decidable (_ ∧ _))

/-- The diagnostic about a request. -/
def missing (options : Options) : Bytes → Option String → Node → Diagnostic :=
  .about "require-error-handling" "missingErrorHandling"
    (Message.missingErrorHandling.fill options.target)

def finding (options : Options) (site : Node) : Finding :=
  Message.missingErrorHandling.finding .errorHandling options site site

/-- A request that waits for a handler. -/
def waits (options : Options) (site : Node) : Bool :=
  site.isTargetCall options.target && !isDiscarded site && !site.isProtected false

theorem actsBy : Rule.errorHandling.ActsBy options (onCall options) := by
  apply @Rule.actsBy_of_onCall .errorHandling options (onCall options) (by decide)
  · intro past scopes call
    rfl
  · intro node plain
    have other : ¬ node.isTargetCall options.target = true := mt kind_of_isTargetCall plain
    have silent : ¬ node.handlesRejectionLast = true := fun last =>
      plain (kind_of_handlesRejection (handlesRejectionLast_iff.1 last).1)
    rw [onCall, if_neg other, if_neg silent]

/-- No node is both a request and a link of a chain, so the two kinds of action
are decided apart. -/
theorem onCall_eq (node : Node) : onCall options node =
    (if waits options node then [.defer (finding options node)] else []) ++
      if node.handlesRejectionLast then
        ((node.anchor? options.target).map (.satisfy Rule.errorHandling.id)).toList
      else [] := by
  unfold onCall waits
  cases targets : node.isTargetCall options.target with
  | true =>
    have unchained : node.anchor? options.target = none := by
      rw [anchor?, if_neg]
      intro continues
      rw [isTargetCall_of_isContinuation continues] at targets
      cases targets
    rw [unchained, Option.map_none, Option.toList_none, ite_self, List.append_nil]
    cases isDiscarded node with
    | true => rfl
    | false =>
      cases node.isProtected false with
      | true => rfl
      | false => rfl
  | false => rfl

theorem reads_onCall (node : Node) :
    Action.reports (onCall options node) = [] ∧
      Action.deferrals (onCall options node) =
        (if waits options node then [finding options node] else []) ∧
      Action.satisfactions (onCall options node) =
        if node.handlesRejectionLast then
          ((node.anchor? options.target).map fun anchor =>
            ⟨Rule.errorHandling.id, anchor.key⟩).toList
        else [] := by
  rw [onCall_eq]
  cases node.anchor? options.target with
  | none => split <;> split <;> exact ⟨rfl, rfl, rfl⟩
  | some anchor => split <;> split <;> exact ⟨rfl, rfl, rfl⟩

theorem reports_flatMap (nodes : List Node) :
    Action.reports (nodes.flatMap (onCall options)) = [] := by
  induction nodes with
  | nil => rfl
  | cons node rest ih =>
    rw [List.flatMap_cons, Action.reports_append, (reads_onCall node).1, ih, List.append_nil]

theorem deferrals_flatMap (nodes : List Node) :
    Action.deferrals (nodes.flatMap (onCall options)) =
      (nodes.filter (waits options)).map (finding options) := by
  induction nodes with
  | nil => rfl
  | cons node rest ih =>
    rw [List.flatMap_cons, Action.deferrals_append, (reads_onCall node).2.1, ih, List.filter_cons]
    split
    · rfl
    · rfl

theorem mem_satisfactions_flatMap {nodes : List Node} {subject : Subject} :
    subject ∈ Action.satisfactions (nodes.flatMap (onCall options)) ↔
      ∃ call ∈ nodes, call.handlesRejectionLast = true ∧
        ∃ anchor, call.anchor? options.target = some anchor ∧
          ⟨Rule.errorHandling.id, anchor.key⟩ = subject := by
  have each (node : Node) : (onCall options node).filterMap Action.satisfied? = _ :=
    (reads_onCall node).2.2
  rw [Action.satisfactions, List.filterMap_flatMap, List.mem_flatMap]
  simp only [each, List.mem_ite_nil_right, Option.mem_toList, Option.map_eq_some_iff]

/-- The contract of a request is met exactly when its chain handles rejections. A
handler anywhere in the tree goes down to the request that it stands above. -/
theorem settles_iff (regular : tree.Regular) (distinct : tree.DistinctCalls)
    (listed : site ∈ (root tree).preorder) (targets : site.isTargetCall options.target = true) :
    Action.Settles ((root tree).preorder.flatMap (onCall options)) (finding options site).subject ↔
      site.RejectionHandled := by
  rw [Action.Settles, reports_flatMap, mem_satisfactions_flatMap, rejectionHandled_iff]
  constructor
  · rintro (reported | ⟨call, member, last, anchor, anchored, same⟩)
    · cases reported
    · obtain ⟨anchorTargets, linked⟩ := mem_links_of_anchor? anchored
      have above := mem_ancestors_of_mem_links linked
      have anchorListed := mem_preorder_of_mem_ancestors above member
      obtain rfl : anchor = site := eq_of_key distinct anchorListed listed
        (kind_of_isTargetCall anchorTargets) (congrArg Subject.site same)
      exact ⟨call, linked, last⟩
  · rintro ⟨handler, linked, last⟩
    have member := ancestor_mem_preorder_root listed (mem_ancestors_of_mem_links linked)
    have anchored := anchor?_of_mem_links regular listed targets linked
    exact Or.inr ⟨handler, member, last, site, anchored, rfl⟩

theorem waits_iff (regular : tree.Regular) (listed : site ∈ (root tree).preorder) :
    waits options site = true ↔
      site.isTargetCall options.target = true ∧ ¬ Discarded site ∧ ¬ site.InTryBody := by
  simp only [waits, Bool.and_eq_true, Bool.not_eq_true', ← Bool.not_eq_true, isDiscarded_iff,
    isProtected_iff regular listed, and_assoc]

/-- Calls differ in their keys, so no deferral is lost to an earlier one. -/
theorem unmet_flatMap (regular : tree.Regular) (distinct : tree.DistinctCalls) :
    Action.unmet ((root tree).preorder.flatMap (onCall options)) =
      ((root tree).preorder.filter (Unhandled options.target ·)).map (finding options) := by
  have calls : ∀ node ∈ (root tree).preorder.filter (waits options),
      node.kind = "call_expression" := by
    intro node member
    obtain ⟨listed, waiting⟩ := List.mem_filter.1 member
    exact kind_of_isTargetCall ((waits_iff regular listed).1 waiting).1
  have subjects := Finding.nodup_subjects_of_calls distinct List.filter_sublist calls
    (finding options) (fun node => rfl)
  rw [Action.unmet, deferrals_flatMap, Finding.firsts_eq_self subjects, List.filter_map,
    List.filter_filter]
  congr 1
  apply List.filter_congr
  intro node listed
  apply Bool.eq_iff_iff.2
  simp only [Function.comp_apply, Bool.and_eq_true, decide_eq_true_eq, waits_iff regular listed]
  constructor
  · rintro ⟨unsettled, targets, used, exposed⟩
    exact ⟨targets, used, exposed, mt (settles_iff regular distinct listed targets).2 unsettled⟩
  · rintro ⟨targets, used, exposed, unhandled⟩
    exact ⟨mt (settles_iff regular distinct listed targets).1 unhandled, targets, used, exposed⟩

theorem diagnose_eq (regular : tree.Regular) (distinct : tree.DistinctCalls) :
    Analysis.diagnose ⟨options, [.errorHandling]⟩ (root tree) source file? =
      ((root tree).preorder.filter (Unhandled options.target ·)).map
        (missing options source file?) := by
  rw [Analysis.diagnose_of_actsBy actsBy, Sink.diagnostics_flush_foldl, reports_flatMap,
    unmet_flatMap regular distinct, List.map_map]
  rfl

/-- The rule alone reports, in pre-order, every request that is not discarded, does
not lie in the body of a `try` and whose chain does not end in a rejection
handler, and nothing else. A chain of any length that ends in `.catch(…)`, with
nothing but `.finally(…)` after it, is thus never reported. -/
theorem reports_exactly_unhandled (options : Options) (tree : Tree) (source : Bytes)
    (file? : Option String) (regular : tree.Regular) (distinct : tree.DistinctCalls) :
    ∃ analysis, Analysis.ofIds options (some ["require-error-handling"]) = .ok analysis ∧
      analysis.diagnose (root tree) source file? =
        ((root tree).preorder.filter (Unhandled options.target ·)).map
          (missing options source file?) ∧
      ∀ site ∈ (root tree).preorder, site.isTargetCall options.target = true →
        ∀ before handler after, site.links = before ++ handler :: after →
          handler.methodName? = some "catch" →
          (∀ call ∈ after, call.methodName? = some "finally") →
          ∀ diagnostic ∈ analysis.diagnose (root tree) source file?,
            ¬ (diagnostic.start = site.start ∧ diagnostic.stop = site.stop) := by
  have diagnosed := @diagnose_eq tree options source file? regular distinct
  refine ⟨_, Analysis.ofIds_of_rule options .errorHandling, diagnosed, ?_⟩
  rintro site listed targets before handler after chain caught finals diagnostic given ⟨start, stop⟩
  rw [diagnosed] at given
  obtain ⟨reported, member, rfl⟩ := List.mem_map.1 given
  obtain ⟨reportedListed, unhandled⟩ := List.mem_filter.1 member
  obtain ⟨reportedTargets, _, _, unhandled⟩ := of_decide_eq_true unhandled
  obtain rfl : reported = site := distinct reported reportedListed
    (kind_of_isTargetCall reportedTargets) site listed (kind_of_isTargetCall targets) start stop
  exact unhandled (rejectionHandled_of_catch chain caught finals)

theorem reports_exactly_unhandled_twoRequests :
    ∃ analysis, Analysis.ofIds {} (some ["require-error-handling"]) = .ok analysis ∧
      (analysis.diagnose (root twoRequests) twoRequests.source none).map Diagnostic.start = [34] ∧
      ∃ site ∈ (root twoRequests).preorder, site.isTargetCall "fetch" = true ∧
        site.links.length = 2 ∧
        ∀ diagnostic ∈ analysis.diagnose (root twoRequests) twoRequests.source none,
          ¬ (diagnostic.start = site.start ∧ diagnostic.stop = site.stop) := by
  obtain ⟨analysis, accepted, diagnosed, never⟩ := reports_exactly_unhandled {} twoRequests
    twoRequests.source none twoRequests_regular twoRequests_distinctCalls
  have caught : ∃ site ∈ (root twoRequests).preorder, site.isTargetCall "fetch" = true ∧
      site.links.length = 2 ∧
      ∃ handler ∈ site.links.getLast?, handler.methodName? = some "catch" := by decide +kernel
  obtain ⟨site, listed, targets, count, handler, last, caught⟩ := caught
  have chain := List.dropLast_append_getLast? handler last
  refine ⟨analysis, accepted, ?_, site, listed, targets, count, ?_⟩
  · rw [diagnosed, List.map_map]
    decide +kernel
  · exact never site listed targets _ handler [] chain.symm caught (by simp)

end RequestLint.ErrorHandling
