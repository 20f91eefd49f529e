import RequestLint.Proofs.Rule.Independence
import RequestLint.Proofs.Rule.Sites
import RequestLint.Proofs.Syntax.Enclosing

/-! Which responses are parsed without a look at their content type. What an
expression stands for depends on the scopes at the moment when it is entered, and a
look counts only for what is entered after it. A response is reported once, at the
first call that parses it although nothing guards that call. -/
namespace RequestLint

namespace Node

variable {tree : Tree} {node : Node}

/-- The nodes that a walk through the tree enters before the node. -/
def earlier (tree : Tree) (node : Node) : List Node := (root tree).preorder.takeWhile (· ≠ node)

theorem earlier_of_split {before after : List Node}
    (split : (root tree).preorder = before ++ node :: after) : earlier tree node = before := by
  have distinct := nodup_preorder (root tree)
  rw [split, List.nodup_append] at distinct
  have apart : ∀ other ∈ before, decide (other ≠ node) = true := by
    intro other member
    exact decide_eq_true (distinct.2.2 other member node List.mem_cons_self)
  rw [earlier, split, List.takeWhile_append_of_pos apart]
  simp

theorem listed_of_mem_earlier {other : Node} (before : other ∈ earlier tree node) :
    other ∈ (root tree).preorder := (List.takeWhile_sublist _).subset before

/-- The node lies in the body of a `try` around it, which is recognised, as all nodes
are, by kind and span. -/
def UnderTry (node : Node) : Prop :=
  ∃ inner outer, (inner, outer) ∈ node.lineage ∧ outer.kind = "try_statement" ∧
    ∃ body ∈ outer.child? "body", body.sameSite inner = true

theorem stringValue?_of_string (plain : node.kind = "string") :
    node.stringValue? = some node.unquoted := by
  have bare : node.isWrapper = false := by simp [isWrapper, plain, wrapperKinds]
  simp [stringValue?, unwrap_of_not_wrapper bare, plain]

end Node

namespace Tracker
open Node

variable {target : String} {tree : Tree} {node inner site : Node} {scopes : Scopes}

/-- The scopes at the moment when a walk enters the node. -/
def scopesAt (target : String) (node : Node) : Scopes :=
  ((reached target node.prior).step (.enter node)).scopes

theorem scopes_of_entered (seen : .entered node scopes ∈ (walk target (root tree)).history) :
    scopes = scopesAt target node := (observed seen).2

theorem callBelow_of_scopesAt (listed : node ∈ (root tree).preorder)
    (below : inner ∈ (root tree).preorder)
    (resolved : (scopesAt target node).resolve? target inner = some site) :
    CallBelow target (root tree) site := by
  obtain ⟨scopes, seen⟩ := @exists_entered target node (root tree) listed
  rw [← scopes_of_entered seen] at resolved
  exact ((traced_walk target tree).observing seen).callBelow_of_resolve? below resolved

/-- What was entered before a node, as the history has it. -/
theorem entered_of_suffix {past : List Observation}
    (suffix : .entered node scopes :: past <:+ (walk target (root tree)).history) :
    past.reverse.filterMap Observation.entered? = earlier tree node := by
  obtain ⟨later, split⟩ := suffix
  have listing := entered_walk target (root tree)
  rw [entered, ← split, List.reverse_append, List.reverse_cons, List.append_assoc,
    List.filterMap_append] at listing
  exact (earlier_of_split listing.symm).symm

end Tracker

namespace JsonResponseCheck
open Node Tracker

variable {tree : Tree} {options : Options} {source : Bytes} {file? : Option String}
  {site call look owner : Node}

/-- The call reads `owner.headers.get(name)`, and the name is that of the content type
in any letter case. -/
def LooksAt (look owner : Node) : Prop :=
  look.kind = "call_expression" ∧ ∃ getter headers object argument name,
    look.calledMember? = some (getter, "get") ∧ getter.unwrap = some headers ∧
    headers.member? = some (object, "headers") ∧ object.unwrap = some owner ∧
    look.arguments.head? = some argument ∧ argument.stringValue? = some name ∧
    Text.lower name = "content-type"

/-- The address of the request is a plain string that ends in `.json`. -/
def NamesJson (site : Node) : Prop :=
  ∃ argument url stem, site.argument? 0 = some argument ∧ argument.unwrap = some url ∧
    url.kind = "string" ∧ url.unquoted.toList = stem ++ ".json".toList

/-- The call parses the response of the site, unprotected, and no look at the content
type of that response was entered before it. -/
structure Unguarded (options : Options) (tree : Tree) (site call : Node) : Prop where
  listed : call ∈ (root tree).preorder
  parses : call.methodName? = some "json" ∧ call.arguments = []
  about : ∃ object, call.receiver? = some object ∧
    (scopesAt options.target call).resolve? options.target object = some site
  exposed : ¬ call.UnderTry
  unnamed : ¬ NamesJson site
  unseen : ∀ look ∈ earlier tree call, ∀ owner, LooksAt look owner →
    (scopesAt options.target look).resolve? options.target owner ≠ some site

/-- The diagnostic about a call that parses a response. -/
def missing (options : Options) : Bytes → Option String → Node → Diagnostic :=
  .about "require-json-response-check" "missingContentTypeCheck"
    (Message.missingContentTypeCheck.fill options.target)

theorem headerOwner?_eq_some_iff : headerOwner? look = some owner ↔ LooksAt look owner := by
  simp only [headerOwner?, Option.bind_eq_bind, Option.bind_eq_some_iff, Prod.exists,
    Option.ite_none_right_eq_some]
  constructor
  · rintro ⟨getter, _, called, object, _, ⟨headers, opened, accessed⟩, name,
      ⟨argument, first, valued⟩, ⟨kind, rfl, rfl, named⟩, unwrapped⟩
    exact ⟨kind, getter, headers, object, argument, name, called, opened, accessed, unwrapped,
      first, valued, named⟩
  · rintro ⟨kind, getter, headers, object, argument, name, called, opened, accessed, unwrapped,
      first, valued, named⟩
    exact ⟨getter, "get", called, object, "headers", ⟨headers, opened, accessed⟩, name,
      ⟨argument, first, valued⟩, ⟨kind, rfl, rfl, named⟩, unwrapped⟩

theorem listed_of_looksAt (listed : look ∈ (root tree).preorder) (looks : LooksAt look owner) :
    owner ∈ (root tree).preorder := by
  obtain ⟨_, getter, headers, object, _, _, called, opened, accessed, unwrapped, _⟩ := looks
  obtain ⟨access, callee, accessing⟩ := Option.bind_eq_some_iff.1 called
  have accessListed := mem_preorder_of_child? listed callee
  have getterListed := mem_preorder_of_child? accessListed (member?_eq_some_iff.1 accessing).2.1
  have headersListed := mem_preorder_of_unwrap getterListed opened
  have objectListed := mem_preorder_of_child? headersListed (member?_eq_some_iff.1 accessed).2.1
  exact mem_preorder_of_unwrap objectListed unwrapped

theorem namesJsonFile_iff : namesJsonFile site = true ↔ NamesJson site := by
  simp only [namesJsonFile, Option.any_eq_true, Option.bind_eq_some_iff, Bool.and_eq_true,
    decide_eq_true_eq, Text.endsIn, List.isSuffixOf_iff_suffix]
  constructor
  · rintro ⟨url, ⟨argument, given, opened⟩, plain, text, valued, stem, same⟩
    rw [stringValue?_of_string plain] at valued
    cases valued
    exact ⟨argument, url, stem, given, opened, plain, same.symm⟩
  · rintro ⟨argument, url, stem, given, opened, plain, same⟩
    exact ⟨url, ⟨argument, given, opened⟩, plain, _, stringValue?_of_string plain, stem,
      same.symm⟩

/-- Parsing is not looking. -/
theorem headerOwner?_of_json (json : call.methodName? = some "json") : headerOwner? call = none := by
  rw [Option.eq_none_iff_forall_ne_some]
  intro owner found
  obtain ⟨kind, getter, _, _, _, _, called, _⟩ := headerOwner?_eq_some_iff.1 found
  simp [methodName?, kind, called] at json

def finding (options : Options) (site call : Node) : Finding :=
  Message.missingContentTypeCheck.finding .jsonResponseCheck options site call

/-- The call whose content type a node looks at. -/
def seenSite? (options : Options) (look : Node) : Option Node :=
  (headerOwner? look).bind ((scopesAt options.target look).resolve? options.target)

/-- The call whose response a node parses unguarded. -/
def offence? (options : Options) (tree : Tree) (call : Node) : Option Node :=
  if call.methodName? = some "json" ∧ call.arguments = [] then
    (call.receiver?.bind ((scopesAt options.target call).resolve? options.target)).filter fun site =>
      !(call.isProtected false || namesJsonFile site ||
        (earlier tree call).any fun look => (seenSite? options look).any (·.sameSite site))
  else none

theorem callBelow_of_seenSite? (listed : look ∈ (root tree).preorder)
    (seen : seenSite? options look = some site) : CallBelow options.target (root tree) site := by
  obtain ⟨owner, looks, resolved⟩ := Option.bind_eq_some_iff.1 seen
  have below := listed_of_looksAt listed (headerOwner?_eq_some_iff.1 looks)
  exact callBelow_of_scopesAt listed below resolved

theorem callBelow_of_receiver? {object : Node} (listed : call ∈ (root tree).preorder)
    (received : call.receiver? = some object)
    (resolved : (scopesAt options.target call).resolve? options.target object = some site) :
    CallBelow options.target (root tree) site :=
  callBelow_of_scopesAt listed (mem_preorder_trans (mem_preorder_of_receiver? received) listed)
    resolved

theorem Unguarded.callBelow (unguarded : Unguarded options tree site call) :
    CallBelow options.target (root tree) site := by
  obtain ⟨object, received, resolved⟩ := unguarded.about
  exact callBelow_of_receiver? unguarded.listed received resolved

/-- Calls differ in their keys, so a look is at the very call that is parsed. -/
theorem seen_iff (distinct : tree.DistinctCalls)
    (target : CallBelow options.target (root tree) site) :
    ((earlier tree call).any fun look => (seenSite? options look).any (·.sameSite site)) = true ↔
      ∃ look ∈ earlier tree call, ∃ owner, LooksAt look owner ∧
        (scopesAt options.target look).resolve? options.target owner = some site := by
  simp only [List.any_eq_true, Option.any_eq_true]
  refine exists_congr fun look => and_congr_right fun before => ?_
  have listed := listed_of_mem_earlier before
  constructor
  · rintro ⟨other, seen, same⟩
    have below := callBelow_of_seenSite? listed seen
    obtain rfl := eq_of_key distinct below.2 target.2 (kind_of_isTargetCall below.1)
      (eq_of_beq same)
    obtain ⟨owner, looks, resolved⟩ := Option.bind_eq_some_iff.1 seen
    exact ⟨owner, headerOwner?_eq_some_iff.1 looks, resolved⟩
  · rintro ⟨owner, looks, resolved⟩
    refine ⟨site, ?_, sameSite_self site⟩
    exact Option.bind_eq_some_iff.2 ⟨owner, headerOwner?_eq_some_iff.2 looks, resolved⟩

theorem offence?_eq_some_iff (distinct : tree.DistinctCalls) (listed : call ∈ (root tree).preorder) :
    offence? options tree call = some site ↔ Unguarded options tree site call := by
  simp only [offence?, Option.ite_none_right_eq_some, Option.filter_eq_some_iff,
    Option.bind_eq_some_iff, Bool.not_eq_true', Bool.or_eq_false_iff]
  constructor
  · rintro ⟨parses, ⟨object, received, resolved⟩, ⟨exposed, unnamed⟩, unseen⟩
    have target := callBelow_of_receiver? listed received resolved
    refine ⟨listed, parses, ⟨object, received, resolved⟩, ?_, ?_, ?_⟩
    · intro under
      rw [isProtected_iff_lineage.2 under] at exposed
      cases exposed
    · intro named
      rw [namesJsonFile_iff.2 named] at unnamed
      cases unnamed
    · intro look before owner looks same
      rw [(seen_iff distinct target).2 ⟨look, before, owner, looks, same⟩] at unseen
      cases unseen
  · intro unguarded
    have target := unguarded.callBelow
    refine ⟨unguarded.parses, unguarded.about, ⟨?_, ?_⟩, ?_⟩
    · exact Bool.eq_false_iff.2 fun under => unguarded.exposed (isProtected_iff_lineage.1 under)
    · exact Bool.eq_false_iff.2 fun named => unguarded.unnamed (namesJsonFile_iff.1 named)
    · refine Bool.eq_false_iff.2 fun seen => ?_
      obtain ⟨look, before, owner, looks, resolved⟩ := (seen_iff distinct target).1 seen
      exact unguarded.unseen look before owner looks resolved

def walked (options : Options) (tree : Tree) : Tracker := Tracker.walk options.target (root tree)

def acted (options : Options) (tree : Tree) : List Action :=
  Analysis.actions ⟨options, [.jsonResponseCheck]⟩ (walked options tree).history

theorem checkedSite?_entered {scopes : Scopes}
    (seen : .entered look scopes ∈ (walked options tree).history) :
    checkedSite? options.target (.entered look scopes) = seenSite? options look := by
  rw [checkedSite?, seenSite?, scopes_of_entered seen]

/-- The looks in the history before a call are those at the nodes entered before it. -/
theorem any_checkedSite? {scopes : Scopes} {past : List Observation}
    (suffix : .entered call scopes :: past <:+ (walked options tree).history) (site : Node) :
    (past.any fun seen => (checkedSite? options.target seen).any (·.sameSite site)) =
      (earlier tree call).any fun look => (seenSite? options look).any (·.sameSite site) := by
  have known (seen : Observation) (member : seen ∈ past) : seen ∈ (walked options tree).history :=
    suffix.subset (List.mem_cons_of_mem _ member)
  rw [← entered_of_suffix suffix, Bool.eq_iff_iff, List.any_eq_true, List.any_eq_true]
  simp only [List.mem_filterMap, List.mem_reverse]
  constructor
  · rintro ⟨seen, member, checks⟩
    cases seen with
    | bound binding => cases checks
    | entered look scopes =>
      rw [checkedSite?_entered (known _ member)] at checks
      exact ⟨look, ⟨_, member, rfl⟩, checks⟩
  · rintro ⟨look, ⟨seen, member, same⟩, checks⟩
    cases seen with
    | bound binding => cases same
    | entered other scopes =>
      cases same
      refine ⟨_, member, ?_⟩
      rw [checkedSite?_entered (known _ member)]
      exact checks

theorem react_entered {scopes : Scopes} {past : List Observation}
    (suffix : .entered call scopes :: past <:+ (walked options tree).history) :
    Rule.jsonResponseCheck.react options past (.entered call scopes) =
      ((offence? options tree call).map fun site => .report (finding options site call)).toList := by
  by_cases parses : call.methodName? = some "json" ∧ call.arguments = []
  · have kind : call.kind = "call_expression" := (methodName?_eq_some_iff.1 parses.1).1
    have guard : ((headerOwner? call).isNone && call.methodName? = some "json" &&
        call.arguments.isEmpty) = true := by
      simp [headerOwner?_of_json parses.1, parses]
    rw [Rule.react, if_pos kind, Rule.onCall, onCall, if_pos guard, offence?, if_pos parses,
      ← scopes_of_entered (suffix.subset List.mem_cons_self)]
    cases call.receiver?.bind (scopes.resolve? options.target) with
    | none => rfl
    | some site =>
      dsimp only
      rw [any_checkedSite? suffix]
      split
      next guarded => simp [Option.filter, guarded]
      next free =>
        simp only [Option.filter, free, Bool.not_false, if_true]
        rfl
  · have silent : ¬ ((headerOwner? call).isNone && call.methodName? = some "json" &&
        call.arguments.isEmpty) = true := by
      intro guard
      simp only [Bool.and_eq_true, decide_eq_true_eq, List.isEmpty_iff] at guard
      exact parses ⟨guard.1.2, guard.2⟩
    rw [Rule.react, Rule.onCall, onCall, if_neg silent, offence?, if_neg parses]
    split
    · rfl
    · rfl

theorem actions_of_suffix {history : List Observation}
    (suffix : history <:+ (walked options tree).history) :
    Analysis.actions ⟨options, [.jsonResponseCheck]⟩ history =
      (history.reverse.filterMap Observation.entered?).filterMap fun call =>
        (offence? options tree call).map fun site => .report (finding options site call) := by
  induction history with
  | nil => rfl
  | cons seen past ih =>
    rw [Analysis.actions, ih ((List.suffix_cons seen past).trans suffix), List.flatMap_singleton,
      List.reverse_cons, List.filterMap_append, List.filterMap_append]
    congr 1
    cases seen with
    | bound binding => rfl
    | entered call scopes =>
      rw [react_entered suffix]
      cases found : offence? options tree call with
      | none => simp [Observation.entered?, found]
      | some site => simp [Observation.entered?, found]

theorem acted_eq : acted options tree = (root tree).preorder.filterMap fun call =>
    (offence? options tree call).map fun site => .report (finding options site call) := by
  rw [acted, actions_of_suffix (List.suffix_refl _)]
  exact congrArg _ (entered_walk options.target (root tree))

/-- The calls that a node parses the response of unguarded, unless a node before it did. -/
def chosen? (options : Options) (tree : Tree) (call : Node) : Option (Node × Node) :=
  (offence? options tree call).bind fun site =>
    if ∃ before ∈ earlier tree call, offence? options tree before = some site then none
    else some (site, call)

/-- The calls that are reported, in pre-order, each with the request whose response it
parses. -/
def reported (options : Options) (tree : Tree) : List (Node × Node) :=
  (root tree).preorder.filterMap (chosen? options tree)

/-- What is held against calls, before any finding is dropped. -/
def findings (options : Options) (tree : Tree) (calls : List Node) : List Finding :=
  calls.filterMap fun call =>
    (offence? options tree call).map fun site => finding options site call

theorem mem_subjects_findings (distinct : tree.DistinctCalls) {calls : List Node}
    (listed : ∀ call ∈ calls, call ∈ (root tree).preorder)
    (target : CallBelow options.target (root tree) site) :
    ⟨Rule.jsonResponseCheck.id, site.key⟩ ∈ (findings options tree calls).map Finding.subject ↔
      ∃ call ∈ calls, offence? options tree call = some site := by
  simp only [findings, List.mem_map, List.mem_filterMap, Option.map_eq_some_iff]
  constructor
  · rintro ⟨_, ⟨call, member, other, offends, rfl⟩, same⟩
    have below := ((offence?_eq_some_iff distinct (listed call member)).1 offends).callBelow
    obtain rfl := eq_of_key distinct below.2 target.2 (kind_of_isTargetCall below.1)
      (congrArg Subject.site same)
    exact ⟨call, member, offends⟩
  · rintro ⟨call, member, offends⟩
    exact ⟨_, ⟨call, member, site, offends, rfl⟩, rfl⟩

/-- A finding is the first of its subject when no call before it parses the same
response unguarded. -/
theorem firsts_findings (distinct : tree.DistinctCalls) {calls : List Node}
    (start : calls <+: (root tree).preorder) :
    Finding.firsts (findings options tree calls) =
      (calls.filterMap (chosen? options tree)).map fun entry =>
        finding options entry.1 entry.2 := by
  induction calls using List.reverseRecOn with
  | nil => rfl
  | append_singleton calls call ih =>
    obtain ⟨after, split⟩ := start
    rw [List.append_assoc, List.singleton_append] at split
    have before := earlier_of_split split.symm
    have listed : ∀ other ∈ calls, other ∈ (root tree).preorder := by
      intro other member
      rw [← split]
      exact List.mem_append_left _ member
    have callListed : call ∈ (root tree).preorder := by
      rw [← split]
      exact List.mem_append_right _ List.mem_cons_self
    have ih := ih ⟨call :: after, split⟩
    rw [findings] at ih ⊢
    rw [List.filterMap_append, List.filterMap_append, List.map_append, ← ih]
    cases offends : offence? options tree call with
    | none => simp [chosen?, offends]
    | some site =>
      have target := ((offence?_eq_some_iff distinct callListed).1 offends).callBelow
      have again := mem_subjects_findings distinct listed target
      rw [findings] at again
      simp only [List.filterMap_cons, offends, Option.map_some, List.filterMap_nil,
        Finding.firsts_concat, chosen?, Option.bind_some, before]
      rw [List.append_cancel_left_eq, Finding.subject]
      split
      next seen =>
        have parsed := again.1 seen
        simp [parsed]
      next fresh =>
        have unparsed := mt again.2 fresh
        simp [unparsed]

theorem reports_acted : Action.reports (acted options tree) =
    findings options tree (root tree).preorder := by
  rw [acted_eq, Action.reports, List.filterMap_filterMap, findings]
  refine List.filterMap_congr fun call _ => ?_
  cases offence? options tree call with
  | none => rfl
  | some site => rfl

theorem unmet_acted : Action.unmet (acted options tree) = [] := by
  have none_waits : Action.deferrals (acted options tree) = [] := by
    rw [acted_eq, Action.deferrals, List.filterMap_filterMap, List.filterMap_eq_nil_iff]
    intro call _
    cases offence? options tree call with
    | none => rfl
    | some site => rfl
  rw [Action.unmet, none_waits]
  rfl

theorem firsts_reports (distinct : tree.DistinctCalls) :
    Finding.firsts (Action.reports (acted options tree)) =
      (reported options tree).map fun entry => finding options entry.1 entry.2 := by
  rw [reports_acted]
  exact firsts_findings distinct (List.prefix_refl _)

theorem diagnose_eq (distinct : tree.DistinctCalls) :
    Analysis.diagnose ⟨options, [.jsonResponseCheck]⟩ (root tree) source file? =
      (reported options tree).map fun entry => missing options source file? entry.2 := by
  have diagnosed := Sink.diagnostics_flush_foldl source .characters file? (acted options tree)
  rw [firsts_reports distinct, unmet_acted, List.map_nil, List.append_nil, List.map_map] at diagnosed
  exact diagnosed

theorem mem_reported_iff (distinct : tree.DistinctCalls) :
    (site, call) ∈ reported options tree ↔ Unguarded options tree site call ∧
      ∀ before ∈ earlier tree call, ¬ Unguarded options tree site before := by
  have unguarded {other : Node} (listed : other ∈ (root tree).preorder) :=
    @offence?_eq_some_iff tree options site other distinct listed
  simp only [reported, List.mem_filterMap, chosen?, Option.bind_eq_some_iff,
    Option.ite_none_left_eq_some, Option.some.injEq, Prod.mk.injEq, not_exists, not_and]
  constructor
  · rintro ⟨_, listed, _, offends, first, rfl, rfl⟩
    refine ⟨(unguarded listed).1 offends, fun before member again => ?_⟩
    exact first before member ((unguarded (listed_of_mem_earlier member)).2 again)
  · rintro ⟨offends, first⟩
    refine ⟨call, offends.listed, site, (unguarded offends.listed).2 offends, ?_, rfl, rfl⟩
    intro before member again
    exact first before member ((unguarded (listed_of_mem_earlier member)).1 again)

theorem mem_sites_iff (distinct : tree.DistinctCalls) :
    site ∈ (reported options tree).map Prod.fst ↔ ∃ call, Unguarded options tree site call := by
  constructor
  · intro given
    obtain ⟨⟨_, call⟩, member, rfl⟩ := List.mem_map.1 given
    exact ⟨call, ((mem_reported_iff distinct).1 member).1⟩
  · rintro ⟨call, unguarded⟩
    have target := unguarded.callBelow
    have offends := (offence?_eq_some_iff distinct unguarded.listed).2 unguarded
    have found := (mem_subjects_findings distinct (fun _ listed => listed) target).2
      ⟨call, unguarded.listed, offends⟩
    rw [← Finding.mem_subjects_firsts, ← reports_acted, firsts_reports distinct, List.map_map,
      List.mem_map] at found
    obtain ⟨⟨other, first⟩, member, same⟩ := found
    have below := ((mem_reported_iff distinct).1 member).1.callBelow
    obtain rfl := eq_of_key distinct below.2 target.2 (kind_of_isTargetCall below.1)
      (congrArg Subject.site same)
    exact List.mem_map.2 ⟨_, member, rfl⟩

theorem nodup_sites (distinct : tree.DistinctCalls) :
    ((reported options tree).map Prod.fst).Nodup := by
  have subjects := Finding.nodup_subjects_firsts (Action.reports (acted options tree))
  rw [firsts_reports distinct, List.map_map] at subjects
  refine List.Nodup.of_map (fun site => Subject.mk Rule.jsonResponseCheck.id site.key) ?_
  rw [List.map_map]
  exact subjects

theorem map_snd_reported : (reported options tree).map Prod.snd =
    (root tree).preorder.filter fun call => (chosen? options tree call).isSome := by
  rw [reported, List.map_filterMap, ← List.filterMap_eq_filter]
  refine List.filterMap_congr fun call _ => ?_
  rw [Option.guard, chosen?]
  cases offence? options tree call with
  | none => rfl
  | some site =>
    rw [Option.bind_some]
    split
    · rfl
    · rfl

/-- The sink has taken a report about a request exactly when its response is somewhere
parsed unguarded. -/
theorem mem_reported_acted (distinct : tree.DistinctCalls)
    (target : CallBelow options.target (root tree) site) :
    ⟨Rule.jsonResponseCheck.id, site.key⟩ ∈
        ((acted options tree).foldl Sink.apply (Sink.fresh source .characters file?)).reported ↔
      ∃ call, Unguarded options tree site call := by
  have collected := Sink.collected_foldl source .characters file? (acted options tree)
  rw [collected.reported, reports_acted,
    mem_subjects_findings distinct (fun _ listed => listed) target]
  constructor
  · rintro ⟨call, listed, offends⟩
    exact ⟨call, (offence?_eq_some_iff distinct listed).1 offends⟩
  · rintro ⟨call, unguarded⟩
    exact ⟨call, unguarded.listed, (offence?_eq_some_iff distinct unguarded.listed).2 unguarded⟩

/-- The rule alone reports the requests whose responses are parsed unguarded, each
once, with a diagnostic at the first call that does so; the diagnostics come in the
order in which these calls are entered. All of the requests are calls of the target.
Where siblings differ in kind or span, a node that is under a `try` is one that lies
anywhere in its body. -/
theorem reports_exactly_unguarded (options : Options) (tree : Tree) (source : Bytes)
    (file? : Option String) (distinct : tree.DistinctCalls) :
    ∃ analysis, Analysis.ofIds options (some ["require-json-response-check"]) = .ok analysis ∧
      analysis.diagnose (root tree) source file? =
        (reported options tree).map (fun entry => missing options source file? entry.2) ∧
      (∀ site, CallBelow options.target (root tree) site →
        (⟨Rule.jsonResponseCheck.id, site.key⟩ ∈
          ((analysis.actions (walked options tree).history).foldl Sink.apply
            (Sink.fresh source .characters file?)).reported ↔
          ∃ call, Unguarded options tree site call)) ∧
      ((reported options tree).map Prod.fst).Nodup ∧
      (∀ site, site ∈ (reported options tree).map Prod.fst ↔
        CallBelow options.target (root tree) site ∧ ∃ call, Unguarded options tree site call) ∧
      (∀ site call, (site, call) ∈ reported options tree ↔ Unguarded options tree site call ∧
        ∀ before ∈ earlier tree call, ¬ Unguarded options tree site before) ∧
      ((reported options tree).map Prod.snd).Sublist (root tree).preorder ∧
      (tree.Regular → ∀ node ∈ (root tree).preorder, node.UnderTry ↔ node.InTryBody) := by
  refine ⟨_, Analysis.ofIds_of_rule options .jsonResponseCheck, diagnose_eq distinct,
    fun site target => mem_reported_acted distinct target, nodup_sites distinct, ?_,
    fun site call => mem_reported_iff distinct, ?_, ?_⟩
  · intro site
    rw [mem_sites_iff distinct]
    constructor
    · rintro ⟨call, unguarded⟩
      exact ⟨unguarded.callBelow, call, unguarded⟩
    · rintro ⟨_, parsed⟩
      exact parsed
  · rw [map_snd_reported]
    exact List.filter_sublist
  · intro regular node listed
    rw [UnderTry, ← isProtected_iff_lineage, isProtected_iff regular listed]

end JsonResponseCheck

/-- Two responses are parsed: the first after a look at its content type, the second
without one and twice. -/
def parsedTwice.source : Bytes :=
  Utf8.encode ("const a = fetch();\na.headers.get('Content-Type');\na.json();\n" ++
    "const b = fetch();\nb.json();\nb.json();")

def parsedTwice : Tree :=
  (Tree.ofOutline? parsedTwice.source
    [⟨"program", true, false, "", 0, 98, 6⟩,
      ⟨"lexical_declaration", true, false, "", 0, 18, 3⟩,
      ⟨"const", false, false, "kind", 0, 5, 0⟩,
      ⟨"variable_declarator", true, false, "", 6, 17, 3⟩,
      ⟨"identifier", true, false, "name", 6, 7, 0⟩,
      ⟨"=", false, false, "", 8, 9, 0⟩,
      ⟨"call_expression", true, false, "value", 10, 17, 2⟩,
      ⟨"identifier", true, false, "function", 10, 15, 0⟩,
      ⟨"arguments", true, false, "arguments", 15, 17, 2⟩,
      ⟨"(", false, false, "", 15, 16, 0⟩,
      ⟨")", false, false, "", 16, 17, 0⟩,
      ⟨";", false, false, "", 17, 18, 0⟩,
      ⟨"expression_statement", true, false, "", 19, 49, 2⟩,
      ⟨"call_expression", true, false, "", 19, 48, 2⟩,
      ⟨"member_expression", true, false, "function", 19, 32, 3⟩,
      ⟨"member_expression", true, false, "object", 19, 28, 3⟩,
      ⟨"identifier", true, false, "object", 19, 20, 0⟩,
      ⟨".", false, false, "", 20, 21, 0⟩,
      ⟨"property_identifier", true, false, "property", 21, 28, 0⟩,
      ⟨".", false, false, "", 28, 29, 0⟩,
      ⟨"property_identifier", true, false, "property", 29, 32, 0⟩,
      ⟨"arguments", true, false, "arguments", 32, 48, 3⟩,
      ⟨"(", false, false, "", 32, 33, 0⟩,
      ⟨"string", true, false, "", 33, 47, 3⟩,
      ⟨"'", false, false, "", 33, 34, 0⟩,
      ⟨"string_fragment", true, false, "", 34, 46, 0⟩,
      ⟨"'", false, false, "", 46, 47, 0⟩,
      ⟨")", false, false, "", 47, 48, 0⟩,
      ⟨";", false, false, "", 48, 49, 0⟩,
      ⟨"expression_statement", true, false, "", 50, 59, 2⟩,
      ⟨"call_expression", true, false, "", 50, 58, 2⟩,
      ⟨"member_expression", true, false, "function", 50, 56, 3⟩,
      ⟨"identifier", true, false, "object", 50, 51, 0⟩,
      ⟨".", false, false, "", 51, 52, 0⟩,
      ⟨"property_identifier", true, false, "property", 52, 56, 0⟩,
      ⟨"arguments", true, false, "arguments", 56, 58, 2⟩,
      ⟨"(", false, false, "", 56, 57, 0⟩,
      ⟨")", false, false, "", 57, 58, 0⟩,
      ⟨";", false, false, "", 58, 59, 0⟩,
      ⟨"lexical_declaration", true, false, "", 60, 78, 3⟩,
      ⟨"const", false, false, "kind", 60, 65, 0⟩,
      ⟨"variable_declarator", true, false, "", 66, 77, 3⟩,
      ⟨"identifier", true, false, "name", 66, 67, 0⟩,
      ⟨"=", false, false, "", 68, 69, 0⟩,
      ⟨"call_expression", true, false, "value", 70, 77, 2⟩,
      ⟨"identifier", true, false, "function", 70, 75, 0⟩,
      ⟨"arguments", true, false, "arguments", 75, 77, 2⟩,
      ⟨"(", false, false, "", 75, 76, 0⟩,
      ⟨")", false, false, "", 76, 77, 0⟩,
      ⟨";", false, false, "", 77, 78, 0⟩,
      ⟨"expression_statement", true, false, "", 79, 88, 2⟩,
      ⟨"call_expression", true, false, "", 79, 87, 2⟩,
      ⟨"member_expression", true, false, "function", 79, 85, 3⟩,
      ⟨"identifier", true, false, "object", 79, 80, 0⟩,
      ⟨".", false, false, "", 80, 81, 0⟩,
      ⟨"property_identifier", true, false, "property", 81, 85, 0⟩,
      ⟨"arguments", true, false, "arguments", 85, 87, 2⟩,
      ⟨"(", false, false, "", 85, 86, 0⟩,
      ⟨")", false, false, "", 86, 87, 0⟩,
      ⟨";", false, false, "", 87, 88, 0⟩,
      ⟨"expression_statement", true, false, "", 89, 98, 2⟩,
      ⟨"call_expression", true, false, "", 89, 97, 2⟩,
      ⟨"member_expression", true, false, "function", 89, 95, 3⟩,
      ⟨"identifier", true, false, "object", 89, 90, 0⟩,
      ⟨".", false, false, "", 90, 91, 0⟩,
      ⟨"property_identifier", true, false, "property", 91, 95, 0⟩,
      ⟨"arguments", true, false, "arguments", 95, 97, 2⟩,
      ⟨"(", false, false, "", 95, 96, 0⟩,
      ⟨")", false, false, "", 96, 97, 0⟩,
      ⟨";", false, false, "", 97, 98, 0⟩]).getD (Tree.blank parsedTwice.source)

namespace JsonResponseCheck
open Node Tracker

theorem reports_exactly_unguarded_parsedTwice :
    ∃ analysis, Analysis.ofIds {} (some ["require-json-response-check"]) = .ok analysis ∧
      (reported {} parsedTwice).map (fun entry => (entry.1.start, entry.2.start)) = [(70, 79)] ∧
      (analysis.diagnose (root parsedTwice) parsedTwice.source none).map Diagnostic.start = [79] := by
  have distinct : parsedTwice.DistinctCalls := by
    unfold Tree.DistinctCalls
    decide +kernel
  have found : (reported {} parsedTwice).map (fun entry => (entry.1.start, entry.2.start)) =
      [(70, 79)] := by
    decide +kernel
  obtain ⟨analysis, accepted, diagnosed, _⟩ := reports_exactly_unguarded {} parsedTwice
    parsedTwice.source none distinct
  refine ⟨analysis, accepted, found, ?_⟩
  have starts := congrArg (List.map Prod.snd) found
  rw [diagnosed, List.map_map]
  rw [List.map_map] at starts
  exact starts

end JsonResponseCheck
end RequestLint
