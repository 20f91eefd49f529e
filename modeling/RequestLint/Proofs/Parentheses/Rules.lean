import RequestLint.Analysis
import RequestLint.Proofs.Parentheses.Scopes

/-! What the rules make of two walks side by side. Every judgement of a call is the
same for what became of it, and points at what became of the same node. What was
observed aside gives no rule anything to do. -/
namespace RequestLint
open Node

namespace Edit

variable (edit : Edit)

structure Judged (verdict verdict' : Verdict) : Prop where
  message : verdict'.message = verdict.message
  place : edit.Copied verdict.place verdict'.place

/-- The same finding about the same request. Its fix may be spelled otherwise. -/
structure Found (finding finding' : Finding) : Prop where
  rule : finding'.rule = finding.rule
  messageId : finding'.messageId = finding.messageId
  message : finding'.message = finding.message
  site : edit.Request finding.site finding'.site
  place : edit.Copied finding.place finding'.place

inductive Acted : Action → Action → Prop
  | report {finding finding' : Finding} : edit.Found finding finding' →
      Acted (.report finding) (.report finding')
  | defer {finding finding' : Finding} : edit.Found finding finding' →
      Acted (.defer finding) (.defer finding')
  | satisfy {rule : String} {site site' : Node} : edit.Request site site' →
      Acted (.satisfy rule site) (.satisfy rule site')

variable {edit} {options : Options} {scopes scopes' : Scopes} {past past' : List Observation}

theorem Judged.found {verdict verdict' : Verdict} {site site' : Node}
    (judged : edit.Judged verdict verdict') (request : edit.Request site site') (rule : Rule) :
    edit.Found (verdict.finding rule options site) (verdict'.finding rule options site') := by
  refine ⟨rfl, ?_, ?_, request, judged.place⟩
  · simp [Verdict.finding, judged.message]
  · simp [Verdict.finding, judged.message]

/-- A finding that points at the request itself. -/
theorem Request.found {site site' : Node} (request : edit.Request site site') (message : Message)
    (rule : Rule) :
    edit.Found (Verdict.finding ⟨message, site, none⟩ rule options site)
      (Verdict.finding ⟨message, site', none⟩ rule options site') := by
  have judged : edit.Judged ⟨message, site, none⟩ ⟨message, site', none⟩ := ⟨rfl, request.copied⟩
  exact judged.found request rule

theorem forall₂_map_toList {f g : Node → Action} {first second : Option Node}
    (both : Option.Rel edit.Request first second)
    (acts : ∀ site site', edit.Request site site' → edit.Acted (f site) (g site')) :
    List.Forall₂ edit.Acted (first.map f).toList (second.map g).toList := by
  cases both with
  | none => exact .nil
  | some request => exact .cons (acts _ _ request) .nil

namespace Parenthesises

variable (wraps : edit.Parenthesises) {node node' copy : Node}
include wraps

theorem isTimeoutSignal (reads : edit.Reads node node') :
    Timeout.isTimeoutSignal node' = Timeout.isTimeoutSignal node := by
  refine any_of_rel reads fun inner inner' copied => ?_
  have signal : inner'.member?.any (·.2 = "signal") = inner.member?.any (·.2 = "signal") :=
    any_of_rel (wraps.member? copied) fun _ _ accessed => by rw [accessed.property]
  rw [wraps.isMemberCall (wraps.reads_of_copied copied) "AbortSignal" (by decide), signal]

theorem timeout (copied : edit.Copied node copy) :
    Option.Rel edit.Judged (Timeout.verdict? node) (Timeout.verdict? copy) := by
  have given := wraps.arguments copied
  have spread := any_of_forall₂ (List.forall₂_take 2 given) fun _ _ stands => wraps.isSpread stands
  have second := rel_getElem? given 1
  have missing : Option.Rel edit.Judged (some ⟨.missingTimeout, node, none⟩)
      (some ⟨.missingTimeout, copy, none⟩) := .some ⟨rfl, copied⟩
  rw [Timeout.verdict?, Timeout.verdict?, spread]
  revert second
  generalize node.arguments[1]? = first, copy.arguments[1]? = second
  intro second
  split
  · exact .none
  · cases second with
    | none => exact missing
    | some stands =>
      have literal := wraps.objectLiteral? (wraps.reads_of_stands stands)
      refine rel_bind literal fun object _ object' copied => ?_
      have reads := wraps.reads_of_copied copied
      have signal := wraps.value? reads "signal"
      revert signal
      generalize object.value? "signal" = first, object'.value? "signal" = second
      intro signal
      cases signal with
      | none =>
        simp only [wraps.hasDynamicEntry reads]
        split
        · exact .none
        · exact missing
      | some reads =>
        simp only [wraps.isTimeoutSignal reads]
        split
        · exact .none
        · exact missing

/-- The same serialised body. -/
theorem serialises (reads : edit.Reads node node') :
    (node'.value? "body").any Node.isJsonSerialization =
      (node.value? "body").any Node.isJsonSerialization :=
  any_of_rel (wraps.value? reads "body") fun _ _ reads => wraps.isJsonSerialization reads

theorem options? (copied : edit.Copied node copy) :
    Option.Rel edit.Copied ((node.argument? 1).bind Node.objectLiteral?)
      ((copy.argument? 1).bind Node.objectLiteral?) :=
  rel_bind (wraps.argument? copied 1) fun _ _ _ stands =>
    wraps.objectLiteral? (wraps.reads_of_stands stands)

theorem method? (reads : edit.Reads node node') :
    JsonInGet.method? node' = JsonInGet.method? node := by
  have entry := wraps.lookup? reads "method"
  rw [JsonInGet.method?, JsonInGet.method?, wraps.hasDynamicEntry reads]
  revert entry
  generalize node.lookup? "method" = first, node'.lookup? "method" = second
  intro entry
  cases entry with
  | none => rfl
  | some copied =>
    exact bind_of_rel (wraps.entryValue? copied) fun _ _ reads => wraps.stringValue? reads

theorem jsonInGet (copied : edit.Copied node copy) :
    Option.Rel edit.Judged (JsonInGet.verdict? node) (JsonInGet.verdict? copy) := by
  refine rel_bind (wraps.options? copied) fun object _ object' literal => ?_
  have reads := wraps.reads_of_copied literal
  rw [wraps.method? reads]
  cases JsonInGet.method? object with
  | none => exact .none
  | some method =>
    simp only [Option.bind_eq_bind, Option.bind_some, wraps.serialises reads]
    split
    · exact .some ⟨rfl, copied⟩
    · exact .none

theorem headersVerdict? (copied : edit.Copied node copy) :
    Option.Rel edit.Judged (JsonContentType.headersVerdict? node)
      (JsonContentType.headersVerdict? copy) := by
  have reads := wraps.reads_of_copied copied
  have entry := wraps.lookup? reads "content-type"
  rw [JsonContentType.headersVerdict?, JsonContentType.headersVerdict?, wraps.hasDynamicEntry reads]
  revert entry
  generalize node.lookup? "content-type" = first, copy.lookup? "content-type" = second
  intro entry
  cases entry with
  | none =>
    dsimp only
    split
    · exact .none
    · exact .some ⟨rfl, copied⟩
  | @some entry entry' found =>
    have value := bind_of_rel (wraps.entryValue? found) fun _ _ reads => wraps.stringValue? reads
    simp only [value, Option.bind_eq_bind]
    cases entry.entryValue?.bind Node.stringValue? with
    | none => exact .none
    | some value =>
      rw [Option.bind_some, Option.bind_some]
      split
      · exact .none
      · exact .some ⟨rfl, copied⟩

theorem jsonContentType (copied : edit.Copied node copy) :
    Option.Rel edit.Judged (JsonContentType.verdict? node) (JsonContentType.verdict? copy) := by
  refine rel_bind (wraps.options? copied) fun object _ object' literal => ?_
  have reads := wraps.reads_of_copied literal
  have entry := wraps.lookup? reads "headers"
  rw [JsonContentType.optionsVerdict?, JsonContentType.optionsVerdict?, wraps.serialises reads,
    wraps.hasDynamicEntry reads]
  revert entry
  generalize object.lookup? "headers" = first, object'.lookup? "headers" = second
  intro entry
  split
  · cases entry with
    | none =>
      dsimp only
      split
      · exact .none
      · exact .some ⟨rfl, literal⟩
    | some found =>
      have headers := rel_bind (wraps.entryValue? found) fun _ _ _ reads =>
        wraps.objectLiteral? reads
      exact rel_bind headers fun _ _ _ copied => wraps.headersVerdict? copied
  · exact .none

theorem isQueryBuilder (copied : edit.Copied node copy) :
    EncodedQuery.isQueryBuilder copy = EncodedQuery.isQueryBuilder node := by
  rw [EncodedQuery.isQueryBuilder, EncodedQuery.isQueryBuilder, wraps.isConstruction copied,
    wraps.methodName? copied]

theorem encodedQuery (copied : edit.Copied node copy) (requireQueryBuilder : Bool) :
    Option.Rel edit.Judged (EncodedQuery.verdict? requireQueryBuilder node)
      (EncodedQuery.verdict? requireQueryBuilder copy) := by
  have url := rel_bind (wraps.argument? copied 0) fun _ _ _ stands => wraps.reads_of_stands stands
  refine rel_bind url fun url _ url' copied => ?_
  have found {test : Node → Bool}
      (tests : ∀ node copy, edit.Copied node copy → test copy = test node)
      (passes : ∀ place, place.kind = "parenthesized_expression" → test place = false) :
      url'.holds {} test = url.holds {} test :=
    wraps.holds_of_copied (fun _ _ _ => rfl) tests (fun place kind => ⟨rfl, passes place kind⟩)
      copied
  have builders : url'.holds {} EncodedQuery.isQueryBuilder =
      url.holds {} EncodedQuery.isQueryBuilder := by
    refine found (fun _ _ copied => wraps.isQueryBuilder copied) fun place kind => ?_
    simp [EncodedQuery.isQueryBuilder, Node.isConstruction, Node.methodName?, kind]
  have encodings : url'.holds {} EncodedQuery.isEncodingCall =
      url.holds {} EncodedQuery.isEncodingCall := by
    refine found (fun _ _ copied => wraps.isTargetCall copied _) fun place kind => ?_
    simp [EncodedQuery.isEncodingCall, Node.isTargetCall, kind]
  have constructions : url'.holds {} EncodedQuery.isUrlConstruction =
      url.holds {} EncodedQuery.isUrlConstruction := by
    refine found (fun _ _ copied => wraps.isConstruction copied _) fun place kind => ?_
    simp [EncodedQuery.isUrlConstruction, Node.isConstruction, kind]
  rw [wraps.isDynamicText (wraps.reads_of_copied copied), builders, encodings, constructions]
  split
  · exact .none
  · split
    · split
      · exact .some ⟨rfl, copied⟩
      · exact .none
    · split
      · exact .none
      · exact .some ⟨rfl, copied⟩

theorem onTarget {verdict? : Node → Option Verdict} (rule : Rule) (copied : edit.Copied node copy)
    (judged : Option.Rel edit.Judged (verdict? node) (verdict? copy)) :
    List.Forall₂ edit.Acted (rule.onTarget options verdict? node)
      (rule.onTarget options verdict? copy) := by
  rw [Rule.onTarget, Rule.onTarget, wraps.isTargetCall copied]
  revert judged
  generalize verdict? node = first, verdict? copy = second
  intro judged
  split
  next targets =>
    cases judged with
    | none => exact .nil
    | some judged =>
      exact .cons (.report (judged.found ⟨copied, kind_of_isTargetCall targets⟩ rule)) .nil
  next => exact .nil

theorem isDiscarded (copied : edit.Copied node copy) :
    ErrorHandling.isDiscarded copy = ErrorHandling.isDiscarded node := by
  refine any_of_rel (wraps.context? copied) fun outer outer' copied => ?_
  rw [wraps.kind_of_copied copied]
  split
  next kind =>
    have operator : (outer'.child? "operator").any (·.kind = "void") =
        (outer.child? "operator").any (·.kind = "void") :=
      any_of_rel (wraps.closedChild? copied kind (by decide)) fun _ _ copied => by
        rw [wraps.kind_of_copied copied]
    have statement : outer'.context?.any (·.kind = "expression_statement") =
        outer.context?.any (·.kind = "expression_statement") :=
      any_of_rel (wraps.context? copied) fun _ _ copied => by rw [wraps.kind_of_copied copied]
    rw [operator, statement]
  next => rfl

theorem errorHandling (copied : edit.Copied node copy) :
    List.Forall₂ edit.Acted (ErrorHandling.onCall options node)
      (ErrorHandling.onCall options copy) := by
  rw [ErrorHandling.onCall, ErrorHandling.onCall, wraps.isTargetCall copied,
    wraps.isDiscarded copied, wraps.isProtected copied, wraps.handlesRejectionLast copied]
  split
  next targets =>
    have request : edit.Request node copy := ⟨copied, kind_of_isTargetCall targets⟩
    split
    · exact .nil
    · exact .cons (.defer (request.found _ _)) .nil
  next =>
    split
    · exact forall₂_map_toList (wraps.request_of_anchor? copied) fun _ _ request =>
        .satisfy request
    · exact .nil

theorem asyncAwait (copied : edit.Copied node copy) :
    List.Forall₂ edit.Acted (AsyncAwait.onCall options node) (AsyncAwait.onCall options copy) :=
  forall₂_map_toList (wraps.request_of_anchor? copied) fun _ _ request =>
    .report (request.found _ _)

omit wraps in
theorem headerOwner?_of_other (other : node.kind ≠ "call_expression") :
    JsonResponseCheck.headerOwner? node = none := by
  simp [JsonResponseCheck.headerOwner?, other]

theorem headerOwner? (copied : edit.Copied node copy) :
    Option.Rel edit.Copied (JsonResponseCheck.headerOwner? node)
      (JsonResponseCheck.headerOwner? copy) := by
  by_cases call : node.kind = "call_expression"
  · have name : copy.arguments.head?.bind Node.stringValue? =
        node.arguments.head?.bind Node.stringValue? :=
      bind_of_rel (rel_head? (wraps.arguments copied)) fun _ _ stands =>
        wraps.stringValue? (wraps.reads_of_stands stands)
    refine rel_bind (wraps.calledMember? copied call) ?_
    rintro ⟨getter, method⟩ _ ⟨getter', method'⟩ ⟨object, rfl, _⟩
    have member := rel_bind (wraps.reads_of_stands object) fun _ _ _ copied => wraps.member? copied
    refine rel_bind member ?_
    rintro ⟨owner, property⟩ _ ⟨owner', property'⟩ ⟨object', rfl, _⟩
    rw [name, wraps.kind_of_copied copied]
    cases node.arguments.head?.bind Node.stringValue? with
    | none => exact .none
    | some name =>
      simp only [Option.bind_eq_bind, Option.bind_some]
      split
      · exact wraps.reads_of_stands object'
      · exact .none
  · have other : copy.kind ≠ "call_expression" := by rwa [wraps.kind_of_copied copied]
    rw [headerOwner?_of_other call, headerOwner?_of_other other]
    exact .none

theorem checkedSite? {seen seen' : Observation} (target : String) (same : edit.Seen seen seen') :
    Option.Rel edit.Request (JsonResponseCheck.checkedSite? target seen)
      (JsonResponseCheck.checkedSite? target seen') := by
  cases same with
  | bound => exact .none
  | entered copied agree =>
    exact rel_bind (wraps.headerOwner? copied) fun _ _ _ copied =>
      wraps.resolve? agree (wraps.reads_of_copied copied)

omit wraps in
theorem other_of_isAside (aside : isAside node = true) :
    node.kind ≠ "call_expression" ∧ node.kind ≠ "member_expression" := by
  have each : ∀ kind ∈ ["parenthesized_expression", "(", ")"],
      kind ≠ "call_expression" ∧ kind ≠ "member_expression" := by decide
  exact each _ (of_decide_eq_true aside)

theorem sameSite {site site' : Node} (one : edit.Request node node')
    (other : edit.Request site site') : node'.sameSite site' = node.sameSite site := by
  have keys := wraps.calls _ _ _ _ one.copied other.copied one.call other.call
  rw [Node.sameSite, Node.sameSite, beq_eq_decide, beq_eq_decide]
  exact decide_eq_decide.2 keys

/-- The content type was looked at before in the one walk if it was in the other. -/
theorem checkedBefore {site site' : Node} (target : String) (told : edit.Told past past')
    (request : edit.Request site site') :
    past'.any (fun seen => (JsonResponseCheck.checkedSite? target seen).any (·.sameSite site')) =
      past.any fun seen => (JsonResponseCheck.checkedSite? target seen).any (·.sameSite site) := by
  induction told with
  | nil => rfl
  | both same _ ih =>
    rw [List.any_cons, List.any_cons, ih,
      any_of_rel (wraps.checkedSite? target same) fun _ _ found => wraps.sameSite found request]
  | aside aside _ ih =>
    rw [List.any_cons, ih, JsonResponseCheck.checkedSite?,
      headerOwner?_of_other (other_of_isAside aside).1]
    rfl

theorem namesJsonFile (copied : edit.Copied node copy) :
    JsonResponseCheck.namesJsonFile copy = JsonResponseCheck.namesJsonFile node := by
  have url := rel_bind (wraps.argument? copied 0) fun _ _ _ stands => wraps.reads_of_stands stands
  exact any_of_rel url fun _ _ copied => by
    rw [wraps.kind_of_copied copied, wraps.stringValue? (wraps.reads_of_copied copied)]

theorem jsonResponseCheck (told : edit.Told past past') (agree : edit.Agree scopes scopes')
    (copied : edit.Copied node copy) :
    List.Forall₂ edit.Acted (JsonResponseCheck.onCall options past scopes node)
      (JsonResponseCheck.onCall options past' scopes' copy) := by
  have owner : (JsonResponseCheck.headerOwner? copy).isNone =
      (JsonResponseCheck.headerOwner? node).isNone := by
    have both := wraps.headerOwner? copied
    revert both
    generalize JsonResponseCheck.headerOwner? node = first,
      JsonResponseCheck.headerOwner? copy = second
    intro both
    cases both with
    | none => rfl
    | some => rfl
  have bare : copy.arguments.isEmpty = node.arguments.isEmpty := by
    have both := wraps.arguments copied
    revert both
    generalize node.arguments = first, copy.arguments = second
    intro both
    cases both with
    | nil => rfl
    | cons => rfl
  rw [JsonResponseCheck.onCall, JsonResponseCheck.onCall, owner, bare, wraps.methodName? copied,
    wraps.isProtected copied]
  split
  next reads =>
    simp only [Bool.and_eq_true, decide_eq_true_eq] at reads
    have call := (methodName?_eq_some_iff.1 reads.1.2).1
    have site : Option.Rel edit.Request (node.receiver?.bind (scopes.resolve? options.target))
        (copy.receiver?.bind (scopes'.resolve? options.target)) :=
      rel_bind (wraps.receiver? copied call) fun _ _ _ copied =>
        wraps.resolve? agree (wraps.reads_of_copied copied)
    revert site
    generalize node.receiver?.bind (scopes.resolve? options.target) = first,
      copy.receiver?.bind (scopes'.resolve? options.target) = second
    intro site
    cases site with
    | none => exact .nil
    | some request =>
      simp only [wraps.namesJsonFile request.copied,
        wraps.checkedBefore options.target told request]
      split
      · exact .nil
      · have judged : edit.Judged ⟨.missingContentTypeCheck, node, none⟩
            ⟨.missingContentTypeCheck, copy, none⟩ := ⟨rfl, copied⟩
        exact .cons (.report (judged.found request _)) .nil
  next => exact .nil

theorem onBound {binding binding' : Binding} (same : edit.Bound binding binding') :
    List.Forall₂ edit.Acted (StatusCheck.onBound options binding)
      (StatusCheck.onBound options binding') := by
  rw [StatusCheck.onBound, StatusCheck.onBound, same.kind, same.name, wraps.readAfter same.origin]
  split
  · exact .nil
  · split
    · exact .cons (.satisfy same.site) .nil
    · exact .cons (.defer (same.site.found _ _)) .nil

theorem onMember (agree : edit.Agree scopes scopes') (copied : edit.Copied node copy) :
    List.Forall₂ edit.Acted (StatusCheck.onMember options scopes node)
      (StatusCheck.onMember options scopes' copy) := by
  have member := wraps.member? copied
  rw [StatusCheck.onMember, StatusCheck.onMember]
  revert member
  generalize node.member? = first, copy.member? = second
  intro member
  cases member with
  | none => exact .nil
  | @some found found' accessed =>
    obtain ⟨object, property⟩ := found
    obtain ⟨object', property'⟩ := found'
    obtain rfl : property' = property := accessed.property
    dsimp only
    split
    · exact forall₂_map_toList (wraps.resolve? agree (wraps.reads_of_stands accessed.object))
        fun _ _ request => .satisfy request
    · exact .nil

theorem react {seen seen' : Observation} (rule : Rule) (told : edit.Told past past')
    (same : edit.Seen seen seen') :
    List.Forall₂ edit.Acted (rule.react options past seen) (rule.react options past' seen') := by
  cases same with
  | bound same =>
    rw [Rule.react, Rule.react]
    split
    · exact wraps.onBound same
    · exact .nil
  | entered copied agree =>
    rw [Rule.react, Rule.react, wraps.kind_of_copied copied]
    split
    · cases rule with
      | errorHandling => exact wraps.errorHandling copied
      | statusCheck => exact .nil
      | jsonContentType => exact wraps.onTarget _ copied (wraps.jsonContentType copied)
      | jsonResponseCheck => exact wraps.jsonResponseCheck told agree copied
      | timeout => exact wraps.onTarget _ copied (wraps.timeout copied)
      | asyncAwait => exact wraps.asyncAwait copied
      | jsonInGet => exact wraps.onTarget _ copied (wraps.jsonInGet copied)
      | encodedQuery => exact wraps.onTarget _ copied (wraps.encodedQuery copied _)
    · split
      · exact wraps.onMember agree copied
      · exact .nil

omit wraps in
theorem react_of_isAside (rule : Rule) (aside : isAside node = true) :
    rule.react options past (.entered node scopes) = [] := by
  obtain ⟨call, access⟩ := other_of_isAside aside
  rw [Rule.react, if_neg call, StatusCheck.onMember, Node.member?, if_neg access]
  exact ite_self _

theorem reactions {seen seen' : Observation} (rules : List Rule) (told : edit.Told past past')
    (same : edit.Seen seen seen') :
    List.Forall₂ edit.Acted (rules.flatMap fun rule => rule.react options past seen)
      (rules.flatMap fun rule => rule.react options past' seen') := by
  induction rules with
  | nil => exact .nil
  | cons rule rules ih =>
    rw [List.flatMap_cons, List.flatMap_cons]
    exact List.rel_append (wraps.react rule told same) ih

theorem actions (analysis : Analysis) (told : edit.Told past past') :
    List.Forall₂ edit.Acted (analysis.actions past) (analysis.actions past') := by
  induction told with
  | nil => exact .nil
  | both same told ih => exact List.rel_append ih (wraps.reactions analysis.rules told same)
  | @aside node scopes past past' aside _ ih =>
    have idle : (analysis.rules.flatMap fun rule =>
        rule.react analysis.options past' (.entered node scopes)) = [] :=
      List.flatMap_eq_nil_iff.2 fun rule _ => react_of_isAside rule aside
    rw [Analysis.actions, idle, List.append_nil]
    exact ih

end Parenthesises
end Edit
end RequestLint
