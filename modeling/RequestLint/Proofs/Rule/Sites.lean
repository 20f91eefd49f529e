import RequestLint.Proofs.Rule.Locality
import RequestLint.Proofs.Scope.Nesting

/-! What findings are about. From a node that is entered, a rule comes to the node
itself, to the start of the chain that it ends, or to what a name below it stands
for; from a binding, to the call that was bound. Names stand only for calls that
were traced to them, so all of these are calls of the target in the tree, and where
there is no such call there is nothing to report. -/
namespace RequestLint

/-- The call that an action is about. -/
def Action.site : Action → Node
  | report finding => finding.site
  | defer finding => finding.site
  | satisfy _ site => site

namespace Node

variable {target : String} {top call object site : Node}

theorem mem_preorder_of_receiver? (received : call.receiver? = some object) :
    object ∈ call.preorder := by
  obtain ⟨access, held, property, callee, accessed, opened⟩ := receiver?_eq_some_iff.1 received
  have accessListed := mem_preorder_of_child? (self_mem_preorder call) callee
  have heldListed := mem_preorder_of_child? accessListed (member?_eq_some_iff.1 accessed).2.1
  exact mem_preorder_of_unwrap heldListed opened

theorem callBelow_of_anchor? (listed : call ∈ top.preorder)
    (anchored : call.anchor? target = some site) : CallBelow target top site := by
  obtain ⟨targets, linked⟩ := mem_links_of_anchor? anchored
  exact ⟨targets, mem_preorder_of_mem_ancestors (mem_ancestors_of_mem_links linked) listed⟩

end Node

namespace Rule
open Node

variable {rule : Rule} {options : Options} {past : List Observation} {scopes : Scopes}
  {node : Node} {action : Action}

/-- The ways from an entered node to the calls that rules speak of. -/
inductive Leads (target : String) (scopes : Scopes) (node : Node) : Node → Prop
  | self : node.isTargetCall target = true → Leads target scopes node node
  | anchor {site : Node} : node.anchor? target = some site → Leads target scopes node site
  | resolved {inner site : Node} : inner ∈ node.preorder →
      scopes.resolve? target inner = some site → Leads target scopes node site

theorem leads_of_onTarget {verdict? : Node → Option Verdict}
    (acts : action ∈ rule.onTarget options verdict? node) :
    Leads options.target scopes node action.site := by
  rw [onTarget] at acts
  split at acts
  next targets =>
    obtain ⟨verdict, _, rfl⟩ := Option.map_eq_some_iff.1 (Option.mem_toList.1 acts)
    exact .self targets
  next => cases acts

theorem leads_of_errorHandling (acts : action ∈ ErrorHandling.onCall options node) :
    Leads options.target scopes node action.site := by
  rw [ErrorHandling.onCall] at acts
  split at acts
  next targets =>
    split at acts
    · cases acts
    · cases List.mem_singleton.1 acts
      exact .self targets
  next =>
    split at acts
    · obtain ⟨anchor, anchored, rfl⟩ := Option.map_eq_some_iff.1 (Option.mem_toList.1 acts)
      exact .anchor anchored
    · cases acts

theorem leads_of_asyncAwait (acts : action ∈ AsyncAwait.onCall options node) :
    Leads options.target scopes node action.site := by
  obtain ⟨anchor, anchored, rfl⟩ := Option.map_eq_some_iff.1 (Option.mem_toList.1 acts)
  exact .anchor anchored

theorem leads_of_jsonResponseCheck
    (acts : action ∈ JsonResponseCheck.onCall options past scopes node) :
    Leads options.target scopes node action.site := by
  rw [JsonResponseCheck.onCall] at acts
  split at acts
  · split at acts
    · cases acts
    next site found =>
      obtain ⟨object, received, resolved⟩ := Option.bind_eq_some_iff.1 found
      split at acts
      · cases acts
      · cases List.mem_singleton.1 acts
        exact .resolved (mem_preorder_of_receiver? received) resolved
  · cases acts

theorem leads_of_statusCheck (acts : action ∈ StatusCheck.onMember options scopes node) :
    Leads options.target scopes node action.site := by
  rw [StatusCheck.onMember] at acts
  split at acts
  next object property accessed =>
    split at acts
    · obtain ⟨site, resolved, rfl⟩ := Option.map_eq_some_iff.1 (Option.mem_toList.1 acts)
      have held := (member?_eq_some_iff.1 accessed).2.1
      exact .resolved (mem_preorder_of_child? (self_mem_preorder node) held) resolved
    · cases acts
  next => cases acts

theorem leads_of_react (acts : action ∈ rule.react options past (.entered node scopes)) :
    Leads options.target scopes node action.site := by
  rw [react] at acts
  split at acts
  · cases rule with
    | errorHandling => exact leads_of_errorHandling acts
    | statusCheck => cases acts
    | jsonContentType => exact leads_of_onTarget acts
    | jsonResponseCheck => exact leads_of_jsonResponseCheck acts
    | timeout => exact leads_of_onTarget acts
    | asyncAwait => exact leads_of_asyncAwait acts
    | jsonInGet => exact leads_of_onTarget acts
    | encodedQuery => exact leads_of_onTarget acts
  · split at acts
    · exact leads_of_statusCheck acts
    · cases acts

/-- What is done about a binding is about the call that was bound. -/
theorem site_of_react_bound {binding : Binding}
    (acts : action ∈ rule.react options past (.bound binding)) : action.site = binding.site := by
  rw [react] at acts
  split at acts
  · rw [StatusCheck.onBound] at acts
    split at acts
    · cases acts
    · split at acts
      · cases List.mem_singleton.1 acts
        rfl
      · cases List.mem_singleton.1 acts
        rfl
  · cases acts

end Rule

namespace Tracker
open Node

variable {target : String} {tree : Tree} {tracker : Tracker} {node site : Node} {scopes : Scopes}

/-- The scopes that were observed know no more than what is on record. -/
theorem Traced.observing (traced : Traced target tree tracker)
    (seen : .entered node scopes ∈ tracker.history) :
    Traced target tree { tracker with scopes := scopes } :=
  { traced with known := traced.observed node scopes seen }

theorem Traced.callBelow_of_leads (traced : Traced target tree tracker)
    (seen : .entered node scopes ∈ tracker.history) (listed : node ∈ (root tree).preorder)
    (leads : Rule.Leads target scopes node site) : CallBelow target (root tree) site := by
  cases leads with
  | self targets => exact ⟨targets, listed⟩
  | anchor anchored => exact callBelow_of_anchor? listed anchored
  | resolved below resolved =>
    exact (traced.observing seen).callBelow_of_resolve? (mem_preorder_trans below listed) resolved

theorem Traced.callBelow_of_layer (traced : Traced target tree tracker) {layer : Entries}
    {name : String} {binding : Binding} (member : layer ∈ tracker.scopes.layers)
    (stored : layer.get? name = some (some binding)) :
    CallBelow target (root tree) binding.site := by
  have known : some (some binding) ∈ tracker.scopes.view name :=
    List.mem_map.2 ⟨layer, member, stored⟩
  exact (traced.made binding (traced.known name binding known).2).1

end Tracker

namespace Analysis
open Node Tracker

variable {analysis : Analysis} {tree : Tree} {action : Action}

theorem callBelow_of_mem_actions
    (acts : action ∈ analysis.actions (walk analysis.options.target (root tree)).history) :
    CallBelow analysis.options.target (root tree) action.site := by
  have traced := traced_walk analysis.options.target tree
  obtain ⟨seen, past, suffix, rule, _, acts⟩ := mem_actions_iff.1 acts
  have member := suffix.subset List.mem_cons_self
  cases seen with
  | bound binding =>
    rw [Rule.site_of_react_bound acts]
    exact (traced.made binding member).1
  | entered node scopes =>
    exact traced.callBelow_of_leads member (observed member).1 (Rule.leads_of_react acts)

theorem diagnose_of_no_calls
    (absent : ∀ node ∈ (root tree).preorder, node.isTargetCall analysis.options.target = false)
    (source : Bytes) (file? : Option String) :
    analysis.diagnose (root tree) source file? = [] := by
  have idle : analysis.actions (walk analysis.options.target (root tree)).history = [] := by
    refine List.eq_nil_iff_forall_not_mem.2 fun action acts => ?_
    obtain ⟨targets, listed⟩ := callBelow_of_mem_actions acts
    rw [absent _ listed] at targets
    cases targets
  simp only [diagnose, idle]
  rfl

/-- Whatever a rule reports, defers or takes as satisfied in a walk is about a call
of the target in the tree. So is every binding that is made, every binding that some
scope holds before, between and after visits, and whatever an expression of the
tree is resolved to at such a moment. In a tree without calls of the bare target,
nothing is found. -/
theorem findings_about_target_calls (analysis : Analysis) (tree : Tree) :
    (∀ action ∈ analysis.actions (walk analysis.options.target (root tree)).history,
        CallBelow analysis.options.target (root tree) action.site) ∧
      (∀ binding ∈ (walk analysis.options.target (root tree)).bindings,
        CallBelow analysis.options.target (root tree) binding.site) ∧
      (∀ before after, (root tree).visits = before ++ after →
        (∀ layer ∈ (reached analysis.options.target before).scopes.layers, ∀ name binding,
          layer.get? name = some (some binding) →
          CallBelow analysis.options.target (root tree) binding.site) ∧
        ∀ node ∈ (root tree).preorder, ∀ site,
          (reached analysis.options.target before).scopes.resolve? analysis.options.target node =
            some site →
          CallBelow analysis.options.target (root tree) site) ∧
      ((∀ node ∈ (root tree).preorder, node.isTargetCall analysis.options.target = false) →
        ∀ source file?, analysis.diagnose (root tree) source file? = []) := by
  refine ⟨fun action => callBelow_of_mem_actions, ?_, ?_, diagnose_of_no_calls⟩
  · intro binding made
    exact ((traced_walk _ tree).made binding (mem_bindings_iff.1 made)).1
  · intro before after split
    have traced := traced_reached analysis.options.target split
    constructor
    · intro layer member name binding stored
      exact traced.callBelow_of_layer member stored
    · intro node listed site resolved
      exact traced.callBelow_of_resolve? listed resolved

/-- The only request is made through a qualified name. -/
def qualifiedRequest.source : Bytes := Utf8.encode "window.fetch(u);"

def qualifiedRequest : Tree :=
  (Tree.ofOutline? qualifiedRequest.source
    [⟨"program", true, false, "", 0, 16, 1⟩,
      ⟨"expression_statement", true, false, "", 0, 16, 2⟩,
      ⟨"call_expression", true, false, "", 0, 15, 2⟩,
      ⟨"member_expression", true, false, "function", 0, 12, 3⟩,
      ⟨"identifier", true, false, "object", 0, 6, 0⟩,
      ⟨".", false, false, "", 6, 7, 0⟩,
      ⟨"property_identifier", true, false, "property", 7, 12, 0⟩,
      ⟨"arguments", true, false, "arguments", 12, 15, 3⟩,
      ⟨"(", false, false, "", 12, 13, 0⟩,
      ⟨"identifier", true, false, "", 13, 14, 0⟩,
      ⟨")", false, false, "", 14, 15, 0⟩,
      ⟨";", false, false, "", 15, 16, 0⟩]).getD (Tree.blank qualifiedRequest.source)

theorem findings_about_target_calls_qualifiedRequest :
    (root qualifiedRequest).preorder.length = 12 ∧
      (∀ node ∈ (root qualifiedRequest).preorder, node.isTargetCall "fetch" = false) ∧
      diagnose {} (root qualifiedRequest) qualifiedRequest.source none = [] := by
  have absent : ∀ node ∈ (root qualifiedRequest).preorder, node.isTargetCall "fetch" = false := by
    decide +kernel
  obtain ⟨_, _, _, silent⟩ := findings_about_target_calls {} qualifiedRequest
  exact ⟨by decide +kernel, absent, silent absent qualifiedRequest.source none⟩

end Analysis
end RequestLint
