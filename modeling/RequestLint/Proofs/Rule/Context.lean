import RequestLint.Proofs.Rule.DynamicEntries
import RequestLint.Proofs.Syntax.Displacement

/-! Rules that judge a request by what stands in it. Four rules look at a call of the
target and at nothing around it. What they find about a call is therefore the same in
every program that holds the call, with the span of the finding and its fix moved along
with the call. -/
namespace RequestLint
open Node

/-- The same replacement, `distance` bytes further on. -/
def Fix.moved (distance : Int) (fix : Fix) : Fix :=
  ⟨fix.start + distance, fix.stop + distance, fix.text⟩

structure Verdict.Moved (distance : Int) (verdict verdict' : Verdict) : Prop where
  message : verdict'.message = verdict.message
  place : verdict.place.tree.Moved distance verdict'.place.tree
  fix : verdict'.fix? = verdict.fix?.map (Fix.moved distance)

/-- The same finding, with its span and its fix `distance` bytes further on. -/
structure Finding.Moved (distance : Int) (finding finding' : Finding) : Prop where
  rule : finding'.rule = finding.rule
  messageId : finding'.messageId = finding.messageId
  message : finding'.message = finding.message
  start : finding'.place.start = finding.place.start + distance
  stop : finding'.place.stop = finding.place.stop + distance
  fix : finding'.fix? = finding.fix?.map (Fix.moved distance)

variable {distance : Int} {call call' node node' : Node} {options : Options} {rule : Rule}

theorem Verdict.Moved.finding {verdict verdict' : Verdict}
    (moved : Verdict.Moved distance verdict verdict') :
    Finding.Moved distance (verdict.finding rule options call)
      (verdict'.finding rule options call') where
  rule := rfl
  messageId := congrArg Message.id moved.message
  message := congrArg (Message.fill · options.target) moved.message
  start := moved.place.label.start
  stop := moved.place.label.stop
  fix := moved.fix

namespace Node.Moved

theorem insertEntry (moved : Moved distance node node') (entry : String) :
    (Fix.insertEntry node' entry).toOption =
      (Fix.insertEntry node entry).toOption.map (Fix.moved distance) := by
  have opens : Option.Rel (Moved distance) ((some node).bind Node.unwrap)
      ((some node').bind Node.unwrap) := moved.unwrap
  rw [Fix.insertEntry, Fix.insertEntry]
  revert opens
  generalize (some node).bind Node.unwrap = first, (some node').bind Node.unwrap = second
  intro opens
  cases opens with
  | none => rfl
  | @some object object' moved =>
    have errors : object'.hasError = object.hasError := moved.tree.label.hasError
    have last := rel_getLast? moved.entries
    simp only [moved.kind, errors]
    revert last
    generalize object.entries.getLast? = first, object'.entries.getLast? = second
    intro last
    split
    · rfl
    · split
      · rfl
      · cases last with
        | none =>
          have start : (object'.start : Int) = object.start + distance := moved.tree.label.start
          have stop : (object'.stop : Int) = object.stop + distance := moved.tree.label.stop
          simp [Except.toOption, Fix.moved, start, stop]
        | @some entry entry' moved =>
          have stop : (entry'.stop : Int) = entry.stop + distance := moved.tree.label.stop
          simp [Except.toOption, Fix.moved, stop]

theorem missing (moved : Moved distance node node') (entry : String) :
    Verdict.Moved distance (JsonContentType.missing node entry)
      (JsonContentType.missing node' entry) :=
  ⟨rfl, moved.tree, moved.insertEntry entry⟩

/-- The same serialised body. -/
theorem serialises (moved : Moved distance node node') :
    (node'.value? "body").any isJsonSerialization = (node.value? "body").any isJsonSerialization :=
  any_of_rel (moved.value? "body") fun _ _ moved => moved.copied.isMemberCall _ _

/-- The same string in an entry. -/
theorem stringEntry (moved : Moved distance node node') :
    node'.entryValue?.bind stringValue? = node.entryValue?.bind stringValue? :=
  bind_of_rel moved.entryValue? fun _ _ moved => moved.copied.stringValue?

theorem method? (moved : Moved distance node node') :
    JsonInGet.method? node' = JsonInGet.method? node := by
  have entry := moved.lookup? "method"
  rw [JsonInGet.method?, JsonInGet.method?, moved.hasDynamicEntry]
  revert entry
  generalize node.lookup? "method" = first, node'.lookup? "method" = second
  intro entry
  cases entry with
  | none => rfl
  | some moved => exact moved.stringEntry

theorem headersVerdict? (moved : Moved distance node node') :
    Option.Rel (Verdict.Moved distance) (JsonContentType.headersVerdict? node)
      (JsonContentType.headersVerdict? node') := by
  have entry := moved.lookup? "content-type"
  rw [JsonContentType.headersVerdict?, JsonContentType.headersVerdict?, moved.hasDynamicEntry]
  revert entry
  generalize node.lookup? "content-type" = first, node'.lookup? "content-type" = second
  intro entry
  cases entry with
  | none =>
    dsimp only
    split
    · exact .none
    · exact .some (moved.missing _)
  | @some entry entry' found =>
    simp only [found.stringEntry, Option.bind_eq_bind]
    cases entry.entryValue?.bind stringValue? with
    | none => exact .none
    | some value =>
      rw [Option.bind_some, Option.bind_some]
      split
      · exact .none
      · exact .some ⟨rfl, moved.tree, rfl⟩

theorem optionsVerdict? (moved : Moved distance node node') :
    Option.Rel (Verdict.Moved distance) (JsonContentType.optionsVerdict? node)
      (JsonContentType.optionsVerdict? node') := by
  have entry := moved.lookup? "headers"
  rw [JsonContentType.optionsVerdict?, JsonContentType.optionsVerdict?, moved.serialises,
    moved.hasDynamicEntry]
  revert entry
  generalize node.lookup? "headers" = first, node'.lookup? "headers" = second
  intro entry
  split
  · cases entry with
    | none =>
      dsimp only
      split
      · exact .none
      · exact .some (moved.missing _)
    | some found =>
      have headers := rel_bind found.entryValue? fun _ _ _ moved => moved.objectLiteral?
      exact rel_bind headers fun _ _ _ moved => moved.headersVerdict?
  · exact .none

theorem isQueryBuilder (moved : Moved distance node node') :
    EncodedQuery.isQueryBuilder node' = EncodedQuery.isQueryBuilder node := by
  rw [EncodedQuery.isQueryBuilder, EncodedQuery.isQueryBuilder, moved.isConstruction,
    moved.methodName?]

end Node.Moved

namespace Tree.Moved

theorem options? (moved : call.tree.Moved distance call'.tree) :
    Option.Rel (Node.Moved distance) ((call.argument? 1).bind objectLiteral?)
      ((call'.argument? 1).bind objectLiteral?) :=
  rel_bind (moved.argument? 1) fun _ _ _ moved => moved.objectLiteral?

theorem jsonContentType (moved : call.tree.Moved distance call'.tree) :
    Option.Rel (Verdict.Moved distance) (JsonContentType.verdict? call)
      (JsonContentType.verdict? call') :=
  rel_bind moved.options? fun _ _ _ moved => moved.optionsVerdict?

theorem timeout (moved : call.tree.Moved distance call'.tree) :
    Option.Rel (Verdict.Moved distance) (Timeout.verdict? call) (Timeout.verdict? call') := by
  have second := rel_getElem? moved.arguments 1
  have missing : Option.Rel (Verdict.Moved distance) (some ⟨.missingTimeout, call, none⟩)
      (some ⟨.missingTimeout, call', none⟩) := .some ⟨rfl, moved, rfl⟩
  rw [Timeout.verdict?, Timeout.verdict?, moved.spreads]
  revert second
  generalize call.arguments[1]? = first, call'.arguments[1]? = second
  intro second
  split
  · exact .none
  · cases second with
    | none => exact missing
    | some argument =>
      refine rel_bind argument.objectLiteral? fun object _ object' literal => ?_
      have signal := literal.value? "signal"
      revert signal
      generalize object.value? "signal" = first, object'.value? "signal" = second
      intro signal
      cases signal with
      | none =>
        simp only [literal.hasDynamicEntry]
        split
        · exact .none
        · exact missing
      | some signal =>
        simp only [Timeout.isTimeoutSignal_of_copied signal.copied]
        split
        · exact .none
        · exact missing

theorem jsonInGet (moved : call.tree.Moved distance call'.tree) :
    Option.Rel (Verdict.Moved distance) (JsonInGet.verdict? call) (JsonInGet.verdict? call') := by
  refine rel_bind moved.options? fun object _ object' literal => ?_
  rw [literal.method?]
  cases JsonInGet.method? object with
  | none => exact .none
  | some method =>
    simp only [Option.bind_eq_bind, Option.bind_some, literal.serialises]
    split
    · exact .some ⟨rfl, moved, rfl⟩
    · exact .none

/-- The searches of the address skip nothing, so they differ in their tests only. -/
theorem encodedQuery (moved : call.tree.Moved distance call'.tree) (requireQueryBuilder : Bool) :
    Option.Rel (Verdict.Moved distance) (EncodedQuery.verdict? requireQueryBuilder call)
      (EncodedQuery.verdict? requireQueryBuilder call') := by
  have address := rel_bind (moved.argument? 0) fun _ _ _ moved => moved.unwrap
  refine rel_bind address fun url _ url' moved => ?_
  have found {test : Node → Bool}
      (tests : ∀ node node', Node.Moved distance node node' → test node' = test node) :
      url'.holds {} test = url.holds {} test :=
    moved.holds (fun _ _ _ => rfl) tests
  have builders : url'.holds {} EncodedQuery.isQueryBuilder =
      url.holds {} EncodedQuery.isQueryBuilder := found fun _ _ moved => moved.isQueryBuilder
  have encodings : url'.holds {} EncodedQuery.isEncodingCall =
      url.holds {} EncodedQuery.isEncodingCall := found fun _ _ moved => moved.tree.isTargetCall _
  have constructions : url'.holds {} EncodedQuery.isUrlConstruction =
      url.holds {} EncodedQuery.isUrlConstruction := found fun _ _ moved => moved.isConstruction _
  rw [moved.isDynamicText, builders, encodings, constructions]
  split
  · exact .none
  · split
    · split
      · exact .some ⟨rfl, moved.tree, rfl⟩
      · exact .none
    · split
      · exact .none
      · exact .some ⟨rfl, moved.tree, rfl⟩

end Tree.Moved

/-- The rules that judge every call of the target by itself. -/
def callRules : List Rule := [.jsonContentType, .timeout, .jsonInGet, .encodedQuery]

/-- The judgement by which such a rule acts. -/
theorem judgement_of_mem (options : Options) (member : rule ∈ callRules) :
    ∃ verdict?, rule.ActsBy options (rule.onTarget options verdict?) ∧
      ∀ distance call call', call.tree.Moved distance call'.tree →
        Option.Rel (Verdict.Moved distance) (verdict? call) (verdict? call') := by
  simp only [callRules, List.mem_cons, List.not_mem_nil, or_false] at member
  rcases member with rfl | rfl | rfl | rfl
  · exact ⟨JsonContentType.verdict?, Rule.actsBy_onTarget (by decide) fun _ _ _ => rfl,
      fun _ _ _ moved => moved.jsonContentType⟩
  · exact ⟨Timeout.verdict?, Rule.actsBy_onTarget (by decide) fun _ _ _ => rfl,
      fun _ _ _ moved => moved.timeout⟩
  · exact ⟨JsonInGet.verdict?, Rule.actsBy_onTarget (by decide) fun _ _ _ => rfl,
      fun _ _ _ moved => moved.jsonInGet⟩
  · exact ⟨EncodedQuery.verdict? options.requireQueryBuilder,
      Rule.actsBy_onTarget (by decide) fun _ _ _ => rfl,
      fun _ _ _ moved => moved.encodedQuery options.requireQueryBuilder⟩

namespace Analysis

variable {tree tree' : Tree} {verdict? : Node → Option Verdict}

/-- What an analysis of the tree reports about a call. -/
def finding? (analysis : Analysis) (tree : Tree) (call : Node) : Option Finding :=
  (analysis.reported tree).find? (·.site = call)

/-- Findings about different calls are told apart by their sites. -/
theorem find?_filterMap_of_site {find? : Node → Option Finding}
    (about : ∀ node finding, find? node = some finding → finding.site = node) (nodes : List Node)
    (call : Node) :
    (nodes.filterMap find?).find? (·.site = call) = if call ∈ nodes then find? call else none := by
  induction nodes with
  | nil => rfl
  | cons node rest ih =>
    rw [List.filterMap_cons]
    by_cases same : call = node
    · subst same
      rw [if_pos List.mem_cons_self]
      cases found : find? call with
      | none =>
        rw [found] at ih
        simpa using ih
      | some finding => simp [about call finding found]
    · have listed : call ∈ node :: rest ↔ call ∈ rest := by simp [same]
      simp only [listed, ← ih]
      cases found : find? node with
      | none => rfl
      | some finding => simp [about node finding found, Ne.symm same]

theorem finding?_of_onTarget (distinct : tree.DistinctCalls)
    (acts : rule.ActsBy options (rule.onTarget options verdict?))
    (listed : call ∈ (root tree).preorder) :
    finding? ⟨options, [rule]⟩ tree call =
      if call.isTargetCall options.target then (verdict? call).map (·.finding rule options call)
      else none := by
  have entered := Tracker.entered_walk options.target (root tree)
  rw [Tracker.entered] at entered
  rw [finding?, reported, actions_of_actsBy acts, entered, firsts_reports_onTarget distinct,
    find?_filterMap_of_site]
  · simp only [List.mem_filter, listed, true_and]
  · intro node finding found
    obtain ⟨verdict, _, rfl⟩ := Option.map_eq_some_iff.1 found
    rfl

/-- The diagnostics come from the calls in pre-order, at most one from each. -/
theorem diagnose_eq_findings (distinct : tree.DistinctCalls)
    (acts : rule.ActsBy options (rule.onTarget options verdict?)) (source : Bytes)
    (file? : Option String) :
    diagnose ⟨options, [rule]⟩ (root tree) source file? =
      ((root tree).preorder.filter (·.kind = "call_expression")).filterMap fun call =>
        (finding? ⟨options, [rule]⟩ tree call).map fun finding =>
          (Sink.fresh source .characters file?).diagnose finding finding.fix? := by
  rw [diagnose_of_onTarget distinct acts, List.filterMap_filter, List.filterMap_filter]
  refine List.filterMap_congr fun call listed => ?_
  rw [finding?_of_onTarget distinct acts listed]
  by_cases targets : call.isTargetCall options.target = true
  · have isCall : call.kind = "call_expression" := kind_of_isTargetCall targets
    rw [if_pos targets, if_pos (decide_eq_true isCall), if_pos targets, report?, Option.map_map]
    rfl
  · rw [if_neg targets, if_neg targets, Option.map_none, ite_self]

/-- A call and the same call elsewhere give the same finding or none. -/
theorem rel_finding? (distinct : tree.DistinctCalls) (distinct' : tree'.DistinctCalls)
    (acts : rule.ActsBy options (rule.onTarget options verdict?))
    (listed : call ∈ (root tree).preorder) (listed' : call' ∈ (root tree').preorder)
    (moved : call.tree.Moved distance call'.tree)
    (judged : Option.Rel (Verdict.Moved distance) (verdict? call) (verdict? call')) :
    Option.Rel (Finding.Moved distance) (finding? ⟨options, [rule]⟩ tree call)
      (finding? ⟨options, [rule]⟩ tree' call') := by
  rw [finding?_of_onTarget distinct acts listed, finding?_of_onTarget distinct' acts listed',
    moved.isTargetCall]
  revert judged
  generalize verdict? call = first, verdict? call' = second
  intro judged
  split
  · cases judged with
    | none => exact .none
    | some judged => exact .some judged.finding
  · exact .none

/-- What the four rules report about a call depends on the call alone. Each of them is
accepted as the only rule. Its diagnostics are those of the calls of the tree, in
pre-order and at most one for each. Wherever the same call stands in another tree,
with whatever else around it, both are reported with the same message and with spans
and fixes that differ by the distance between the two, or neither is reported. -/
theorem findings_depend_on_call_alone (options : Options) (member : rule ∈ callRules) :
    ∃ analysis, ofIds options (some [rule.id]) = .ok analysis ∧
      (∀ (tree : Tree) (source : Bytes) (file? : Option String), tree.DistinctCalls →
        analysis.diagnose (root tree) source file? =
          ((root tree).preorder.filter (·.kind = "call_expression")).filterMap fun call =>
            (analysis.finding? tree call).map fun finding =>
              (Sink.fresh source .characters file?).diagnose finding finding.fix?) ∧
      ∀ tree tree' : Tree, tree.DistinctCalls → tree'.DistinctCalls →
        ∀ call ∈ (root tree).preorder, ∀ call' ∈ (root tree').preorder, ∀ distance,
          call.tree.Moved distance call'.tree →
            Option.Rel (Finding.Moved distance) (analysis.finding? tree call)
              (analysis.finding? tree' call') := by
  obtain ⟨verdict?, acts, judged⟩ := judgement_of_mem options member
  refine ⟨_, ofIds_of_rule options rule, ?_, ?_⟩
  · intro tree source file? distinct
    exact diagnose_eq_findings distinct acts source file?
  · intro tree tree' distinct distinct' call listed call' listed' distance moved
    exact rel_finding? distinct distinct' acts listed listed' moved (judged _ _ _ moved)

/-- A request with bare headers as the start of a chain, where errors are caught. -/
def guardedHeaders.source : Bytes :=
  Utf8.encode ("try \x7b fetch(u, \x7b body: JSON.stringify(d), headers: \x7b\x7d \x7d).then(f); \x7d " ++
    "catch (e) \x7b\x7d")

def guardedHeaders : Tree :=
  (Tree.ofOutline? guardedHeaders.source
    [⟨"program", true, false, "", 0, 80, 1⟩,
      ⟨"try_statement", true, false, "", 0, 80, 3⟩,
      ⟨"try", false, false, "", 0, 3, 0⟩,
      ⟨"statement_block", true, false, "body", 4, 67, 3⟩,
      ⟨"\x7b", false, false, "", 4, 5, 0⟩,
      ⟨"expression_statement", true, false, "", 6, 65, 2⟩,
      ⟨"call_expression", true, false, "", 6, 64, 2⟩,
      ⟨"member_expression", true, false, "function", 6, 61, 3⟩,
      ⟨"call_expression", true, false, "object", 6, 56, 2⟩,
      ⟨"identifier", true, false, "function", 6, 11, 0⟩,
      ⟨"arguments", true, false, "arguments", 11, 56, 5⟩,
      ⟨"(", false, false, "", 11, 12, 0⟩,
      ⟨"identifier", true, false, "", 12, 13, 0⟩,
      ⟨",", false, false, "", 13, 14, 0⟩,
      ⟨"object", true, false, "", 15, 55, 5⟩,
      ⟨"\x7b", false, false, "", 15, 16, 0⟩,
      ⟨"pair", true, false, "", 17, 40, 3⟩,
      ⟨"property_identifier", true, false, "key", 17, 21, 0⟩,
      ⟨":", false, false, "", 21, 22, 0⟩,
      ⟨"call_expression", true, false, "value", 23, 40, 2⟩,
      ⟨"member_expression", true, false, "function", 23, 37, 3⟩,
      ⟨"identifier", true, false, "object", 23, 27, 0⟩,
      ⟨".", false, false, "", 27, 28, 0⟩,
      ⟨"property_identifier", true, false, "property", 28, 37, 0⟩,
      ⟨"arguments", true, false, "arguments", 37, 40, 3⟩,
      ⟨"(", false, false, "", 37, 38, 0⟩,
      ⟨"identifier", true, false, "", 38, 39, 0⟩,
      ⟨")", false, false, "", 39, 40, 0⟩,
      ⟨",", false, false, "", 40, 41, 0⟩,
      ⟨"pair", true, false, "", 42, 53, 3⟩,
      ⟨"property_identifier", true, false, "key", 42, 49, 0⟩,
      ⟨":", false, false, "", 49, 50, 0⟩,
      ⟨"object", true, false, "value", 51, 53, 2⟩,
      ⟨"\x7b", false, false, "", 51, 52, 0⟩,
      ⟨"\x7d", false, false, "", 52, 53, 0⟩,
      ⟨"\x7d", false, false, "", 54, 55, 0⟩,
      ⟨")", false, false, "", 55, 56, 0⟩,
      ⟨".", false, false, "", 56, 57, 0⟩,
      ⟨"property_identifier", true, false, "property", 57, 61, 0⟩,
      ⟨"arguments", true, false, "arguments", 61, 64, 3⟩,
      ⟨"(", false, false, "", 61, 62, 0⟩,
      ⟨"identifier", true, false, "", 62, 63, 0⟩,
      ⟨")", false, false, "", 63, 64, 0⟩,
      ⟨";", false, false, "", 64, 65, 0⟩,
      ⟨"\x7d", false, false, "", 66, 67, 0⟩,
      ⟨"catch_clause", true, false, "handler", 68, 80, 5⟩,
      ⟨"catch", false, false, "", 68, 73, 0⟩,
      ⟨"(", false, false, "", 74, 75, 0⟩,
      ⟨"identifier", true, false, "parameter", 75, 76, 0⟩,
      ⟨")", false, false, "", 76, 77, 0⟩,
      ⟨"statement_block", true, false, "body", 78, 80, 2⟩,
      ⟨"\x7b", false, false, "", 78, 79, 0⟩,
      ⟨"\x7d", false, false, "", 79, 80, 0⟩]).getD (Tree.blank guardedHeaders.source)

theorem findings_depend_on_call_alone_guardedHeaders :
    bareHeaders.DistinctCalls ∧ guardedHeaders.DistinctCalls ∧
    bareHeaders.request.tree.Moved 6 guardedHeaders.request.tree ∧
    bareHeaders.request.field ≠ guardedHeaders.request.field ∧
    ∃ analysis, ofIds {} (some ["require-json-content-type"]) = .ok analysis ∧
      ((analysis.diagnose (root bareHeaders) bareHeaders.source none).map fun diagnostic =>
        (diagnostic.messageId, diagnostic.start, diagnostic.stop)) =
          [("missingContentType", 45, 47)] ∧
      ((analysis.diagnose (root guardedHeaders) guardedHeaders.source none).map fun diagnostic =>
        (diagnostic.messageId, diagnostic.start, diagnostic.stop)) =
          [("missingContentType", 51, 53)] ∧
      Option.Rel (Finding.Moved 6) (analysis.finding? bareHeaders bareHeaders.request)
        (analysis.finding? guardedHeaders guardedHeaders.request) := by
  have distinct : bareHeaders.DistinctCalls := Tree.distinctCalls_of_nodup (by decide +kernel)
  have distinct' : guardedHeaders.DistinctCalls := Tree.distinctCalls_of_nodup (by decide +kernel)
  have moved : bareHeaders.request.tree.Moved 6 guardedHeaders.request.tree := by decide +kernel
  obtain ⟨analysis, accepted, _, same⟩ :=
    findings_depend_on_call_alone {} (show Rule.jsonContentType ∈ callRules by decide)
  have found := same bareHeaders guardedHeaders distinct distinct' bareHeaders.request
    (by decide +kernel) guardedHeaders.request (by decide +kernel) 6 moved
  refine ⟨distinct, distinct', moved, by decide +kernel, analysis, accepted, ?_, ?_, found⟩
  · cases accepted.symm.trans (ofIds_of_rule {} .jsonContentType)
    decide +kernel
  · cases accepted.symm.trans (ofIds_of_rule {} .jsonContentType)
    decide +kernel

end Analysis
end RequestLint
