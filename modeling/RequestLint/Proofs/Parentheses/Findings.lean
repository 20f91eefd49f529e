import RequestLint.Proofs.Parentheses.Rules
import RequestLint.Proofs.Sink.Collection

/-! Parentheses around an expression change no finding. The two walks make the same
actions, one by one, about the same requests; and as requests are told apart by
their spans as before, the sink keeps the same ones. -/
namespace RequestLint
open Node

/-- The findings that become diagnostics, in their order. -/
def Analysis.findings (analysis : Analysis) (root : Node) : List Finding :=
  let actions := analysis.actions (Tracker.walk analysis.options.target root).history
  Finding.firsts (Action.reports actions) ++ Action.unmet actions

/-- A diagnostic says what was found and points at its place. -/
theorem Analysis.diagnose_findings (analysis : Analysis) (root : Node) (source : Bytes)
    (file? : Option String) :
    (analysis.diagnose root source file?).map
        (fun diagnostic => (diagnostic.rule, diagnostic.messageId, diagnostic.start,
          diagnostic.stop)) =
      (analysis.findings root).map fun finding =>
        (finding.rule, finding.messageId, finding.place.start, finding.place.stop) := by
  have diagnosed := Sink.diagnostics_flush_foldl source .characters file?
    (analysis.actions (Tracker.walk analysis.options.target root).history)
  rw [Sink.fresh] at diagnosed
  rw [diagnose, diagnosed, findings, List.map_append, List.map_append, List.map_map, List.map_map]
  rfl

namespace Edit.Parenthesises

variable {edit : Edit} (wraps : edit.Parenthesises) {site site' other other' : Node}
  {finding finding' : Finding} {findings findings' : List Finding} {actions actions' : List Action}
include wraps

theorem subject_iff (one : edit.Request site site') (second : edit.Request other other')
    (rule rule' : String) :
    (⟨rule, site'.key⟩ : Subject) = ⟨rule', other'.key⟩ ↔
      (⟨rule, site.key⟩ : Subject) = ⟨rule', other.key⟩ := by
  rw [Subject.mk.injEq, Subject.mk.injEq,
    wraps.calls _ _ _ _ one.copied second.copied one.call second.call]

theorem subject_of_found (one : edit.Found finding finding') {second second' : Finding}
    (other : edit.Found second second') :
    finding'.subject = second'.subject ↔ finding.subject = second.subject := by
  rw [Finding.subject, Finding.subject, Finding.subject, Finding.subject, one.rule, other.rule]
  exact wraps.subject_iff one.site other.site _ _

theorem firsts (both : List.Forall₂ edit.Found findings findings') :
    List.Forall₂ edit.Found (Finding.firsts findings) (Finding.firsts findings') := by
  induction both with
  | nil => exact .nil
  | cons found _ ih =>
    refine .cons found (forall₂_filter ih fun one one' found' => ?_)
    exact decide_eq_decide.2 (not_congr (wraps.subject_of_found found' found))

omit wraps in
theorem reports (both : List.Forall₂ edit.Acted actions actions') :
    List.Forall₂ edit.Found (Action.reports actions) (Action.reports actions') := by
  induction both with
  | nil => exact .nil
  | cons acted _ ih =>
    cases acted with
    | report found => exact .cons found ih
    | defer => exact ih
    | satisfy => exact ih

omit wraps in
theorem deferrals (both : List.Forall₂ edit.Acted actions actions') :
    List.Forall₂ edit.Found (Action.deferrals actions) (Action.deferrals actions') := by
  induction both with
  | nil => exact .nil
  | cons acted _ ih =>
    cases acted with
    | report => exact ih
    | defer found => exact .cons found ih
    | satisfy => exact ih

theorem settles (both : List.Forall₂ edit.Acted actions actions')
    (found : edit.Found finding finding') :
    Action.Settles actions' finding'.subject ↔ Action.Settles actions finding.subject := by
  induction both with
  | nil => simp [Action.Settles, Action.reports, Action.satisfactions]
  | @cons action action' rest rest' acted _ ih =>
    have first := Action.settles_append [action] rest finding.subject
    have first' := Action.settles_append [action'] rest' finding'.subject
    rw [List.singleton_append] at first first'
    rw [first, first', ih]
    refine or_congr_left ?_
    cases acted with
    | report found' =>
      rw [Action.settles_report, Action.settles_report]
      exact wraps.subject_of_found found found'
    | defer => simp only [Action.not_settles_defer]
    | satisfy request =>
      rw [Action.settles_satisfy, Action.settles_satisfy, Finding.subject, Finding.subject,
        found.rule]
      exact wraps.subject_iff found.site request _ _

theorem unmet (both : List.Forall₂ edit.Acted actions actions') :
    List.Forall₂ edit.Found (Action.unmet actions) (Action.unmet actions') := by
  refine forall₂_filter (wraps.firsts (deferrals both)) fun one one' found => ?_
  simp only [wraps.settles both found]

omit wraps in
theorem map_of_found (both : List.Forall₂ edit.Found findings findings') :
    findings'.map (fun finding => (finding.rule, finding.messageId)) =
      findings.map fun finding => (finding.rule, finding.messageId) := by
  induction both with
  | nil => rfl
  | cons found _ ih => rw [List.map_cons, List.map_cons, ih, found.rule, found.messageId]

theorem found (analysis : Analysis) :
    List.Forall₂ edit.Found (analysis.findings (root edit.old))
      (analysis.findings (root edit.new)) := by
  have acted := wraps.actions analysis (wraps.walk analysis.options.target).history
  exact List.rel_append (wraps.firsts (reports acted)) (wraps.unmet acted)

end Edit.Parenthesises

/-- With an expression in parentheses, an analysis finds the same as without them:
diagnostics of the same rules with the same messages, in the same order, and each of
them is about what became of the same request. -/
theorem Analysis.findings_of_parenthesises (edit : Edit) (wraps : edit.Parenthesises)
    (analysis : Analysis) :
    (∀ source source' file? file?',
        (analysis.diagnose (root edit.new) source' file?').map
            (fun diagnostic => (diagnostic.rule, diagnostic.messageId)) =
          (analysis.diagnose (root edit.old) source file?).map
            fun diagnostic => (diagnostic.rule, diagnostic.messageId)) ∧
      (∀ tree source file?,
        (analysis.diagnose (root tree) source file?).map
            (fun diagnostic => (diagnostic.rule, diagnostic.messageId, diagnostic.start,
              diagnostic.stop)) =
          (analysis.findings (root tree)).map fun finding =>
            (finding.rule, finding.messageId, finding.place.start, finding.place.stop)) ∧
      List.Forall₂ edit.Found (analysis.findings (root edit.old))
        (analysis.findings (root edit.new)) := by
  have found := wraps.found analysis
  refine ⟨?_, fun tree source file? => diagnose_findings analysis (root tree) source file?, found⟩
  intro source source' file? file?'
  have told (root : Node) (source : Bytes) (file? : Option String) :
      (analysis.diagnose root source file?).map
          (fun diagnostic => (diagnostic.rule, diagnostic.messageId)) =
        (analysis.findings root).map fun finding => (finding.rule, finding.messageId) := by
    have diagnosed := congrArg (List.map fun (rule, messageId, _, _) => (rule, messageId))
      (diagnose_findings analysis root source file?)
    rw [List.map_map, List.map_map] at diagnosed
    exact diagnosed
  rw [told, told, Edit.Parenthesises.map_of_found found]

/-- A chain of promises whose request is then put in parentheses. -/
def chainedRequest.source : Bytes := Utf8.encode "fetch(u).then(f);"

def chainedRequest : Tree :=
  (Tree.ofOutline? chainedRequest.source
    [⟨"program", true, false, "", 0, 17, 1⟩,
      ⟨"expression_statement", true, false, "", 0, 17, 2⟩,
      ⟨"call_expression", true, false, "", 0, 16, 2⟩,
      ⟨"member_expression", true, false, "function", 0, 13, 3⟩,
      ⟨"call_expression", true, false, "object", 0, 8, 2⟩,
      ⟨"identifier", true, false, "function", 0, 5, 0⟩,
      ⟨"arguments", true, false, "arguments", 5, 8, 3⟩,
      ⟨"(", false, false, "", 5, 6, 0⟩,
      ⟨"identifier", true, false, "", 6, 7, 0⟩,
      ⟨")", false, false, "", 7, 8, 0⟩,
      ⟨".", false, false, "", 8, 9, 0⟩,
      ⟨"property_identifier", true, false, "property", 9, 13, 0⟩,
      ⟨"arguments", true, false, "arguments", 13, 16, 3⟩,
      ⟨"(", false, false, "", 13, 14, 0⟩,
      ⟨"identifier", true, false, "", 14, 15, 0⟩,
      ⟨")", false, false, "", 15, 16, 0⟩,
      ⟨";", false, false, "", 16, 17, 0⟩]).getD (Tree.blank chainedRequest.source)

def wrappedRequest.source : Bytes := Utf8.encode "(fetch(u)).then(f);"

def wrappedRequest : Tree :=
  (Tree.ofOutline? wrappedRequest.source
    [⟨"program", true, false, "", 0, 19, 1⟩,
      ⟨"expression_statement", true, false, "", 0, 19, 2⟩,
      ⟨"call_expression", true, false, "", 0, 18, 2⟩,
      ⟨"member_expression", true, false, "function", 0, 15, 3⟩,
      ⟨"parenthesized_expression", true, false, "object", 0, 10, 3⟩,
      ⟨"(", false, false, "", 0, 1, 0⟩,
      ⟨"call_expression", true, false, "", 1, 9, 2⟩,
      ⟨"identifier", true, false, "function", 1, 6, 0⟩,
      ⟨"arguments", true, false, "arguments", 6, 9, 3⟩,
      ⟨"(", false, false, "", 6, 7, 0⟩,
      ⟨"identifier", true, false, "", 7, 8, 0⟩,
      ⟨")", false, false, "", 8, 9, 0⟩,
      ⟨")", false, false, "", 9, 10, 0⟩,
      ⟨".", false, false, "", 10, 11, 0⟩,
      ⟨"property_identifier", true, false, "property", 11, 15, 0⟩,
      ⟨"arguments", true, false, "arguments", 15, 18, 3⟩,
      ⟨"(", false, false, "", 15, 16, 0⟩,
      ⟨"identifier", true, false, "", 16, 17, 0⟩,
      ⟨")", false, false, "", 17, 18, 0⟩,
      ⟨";", false, false, "", 18, 19, 0⟩]).getD (Tree.blank wrappedRequest.source)

/-- The edit that puts the request in parentheses. -/
def requestEdit : Edit where
  old := chainedRequest
  new := wrappedRequest
  expr := ((root chainedRequest).preorder.find? (isTargetCall "fetch")).getD (root chainedRequest)

theorem requestEdit_parenthesises : requestEdit.Parenthesises where
  listed := by decide +kernel
  named := by decide +kernel
  expression := by decide +kernel
  noParameter := by
    have outside : ∀ outer ∈ requestEdit.expr.ancestors, outer.isFunctionLike = false := by
      decide +kernel
    intro function kind member
    rw [outside function (mem_ancestors_of_parameters member)] at kind
    cases kind
  held := by
    have chained : ∃ outer ∈ requestEdit.expr.parent?,
        outer.member? = some (requestEdit.expr, "then") := by
      decide +kernel
    obtain ⟨outer, found, accessed⟩ := chained
    exact ⟨outer, found, .response accessed (by decide)⟩
  parentheses := by
    have checked : ∀ place ∈ requestEdit.place? requestEdit.expr, Edit.IsParentheses place := by
      decide +kernel
    intro place stands
    exact checked place (Edit.place?_of_stands stands)
  field := by
    have checked : ∀ node ∈ (root chainedRequest).preorder, ∀ place ∈ requestEdit.place? node,
        place.field = node.field := by
      decide +kernel
    intro node place stands
    exact checked node (Edit.listed_of_stands stands) place (Edit.place?_of_stands stands)
  akin := by
    have checked : ∀ node ∈ (root chainedRequest).preorder, ∀ copy ∈ requestEdit.copy? node,
        Edit.Akin node copy := by
      decide +kernel
    intro node copy copied
    obtain ⟨listed, found⟩ := Edit.copy?_of_copied copied
    exact checked node listed copy found
  near := by
    have checked : ∀ first ∈ (root chainedRequest).preorder,
        ∀ second ∈ (root chainedRequest).preorder, Edit.Near first second →
        ∀ first' ∈ requestEdit.place? first, ∀ second' ∈ requestEdit.place? second,
          first'.sameSite second' = first.sameSite second := by
      decide +kernel
    intro first first' second second' one other near
    exact checked first (Edit.listed_of_stands one) second (Edit.listed_of_stands other) near
      first' (Edit.place?_of_stands one) second' (Edit.place?_of_stands other)
  calls := by
    have checked : ∀ first ∈ (root chainedRequest).preorder, first.kind = "call_expression" →
        ∀ second ∈ (root chainedRequest).preorder, second.kind = "call_expression" →
        ∀ first' ∈ requestEdit.copy? first, ∀ second' ∈ requestEdit.copy? second,
          (first'.key = second'.key ↔ first.key = second.key) := by
      decide +kernel
    intro first first' second second' one other call call'
    obtain ⟨listed, found⟩ := Edit.copy?_of_copied one
    obtain ⟨listed', found'⟩ := Edit.copy?_of_copied other
    exact checked first listed call second listed' call' first' found second' found'

theorem Analysis.findings_of_parenthesises_requestEdit :
    (diagnose {} (root chainedRequest) chainedRequest.source none).map
        (fun diagnostic => (diagnostic.rule, diagnostic.messageId)) =
      [("prefer-async-await", "preferAsyncAwait"), ("require-timeout", "missingTimeout"),
        ("require-error-handling", "missingErrorHandling")] ∧
    (diagnose {} (root wrappedRequest) wrappedRequest.source none).map
        (fun diagnostic => (diagnostic.rule, diagnostic.messageId)) =
      [("prefer-async-await", "preferAsyncAwait"), ("require-timeout", "missingTimeout"),
        ("require-error-handling", "missingErrorHandling")] := by
  obtain ⟨same, _, _⟩ := findings_of_parenthesises requestEdit requestEdit_parenthesises {}
  have bare : (diagnose {} (root chainedRequest) chainedRequest.source none).map
      (fun diagnostic => (diagnostic.rule, diagnostic.messageId)) =
      [("prefer-async-await", "preferAsyncAwait"), ("require-timeout", "missingTimeout"),
        ("require-error-handling", "missingErrorHandling")] := by
    decide +kernel
  exact ⟨bare, (same chainedRequest.source wrappedRequest.source none none).trans bare⟩

end RequestLint
