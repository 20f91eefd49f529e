import RequestLint.Proofs.Rule.Independence
import RequestLint.Proofs.Rule.Locality
import RequestLint.Proofs.Syntax.Chain

/-! Which requests are reported as better awaited. The rule acts at every link of a
chain and leaves it to the sink to keep one report for each request. The outermost
link is entered before all others, so its report is the one that is kept: requests
that have a chain are reported once each, in the order of the ends of their chains. -/
namespace RequestLint

namespace Node

variable {call next site : Node}

theorem links_eq_nil_iff : call.links = [] ↔ call.nextLink? = none := by
  cases linked : call.nextLink? with
  | none => simp [links_of_last linked]
  | some next => simp [links_of_nextLink? linked]

theorem chainEnd_of_last (last : call.nextLink? = none) : call.chainEnd = call := by
  rw [chainEnd, links_of_last last]
  rfl

theorem nextLink?_chainEnd (call : Node) : call.chainEnd.nextLink? = none := by
  induction call using along_links with
  | last call missing => rw [chainEnd_of_last missing, missing]
  | step call next linked ih =>
    rwa [← chainEnd_of_mem_links (mem_links_of_nextLink? (Or.inl rfl) linked)]

theorem chainEnd_mem_links (linked : call.nextLink? ≠ none) : call.chainEnd ∈ call.links := by
  rw [chainEnd]
  cases last : call.links.getLast? with
  | none => exact absurd (links_eq_nil_iff.1 (List.getLast?_eq_none_iff.1 last)) linked
  | some outermost => exact List.mem_of_getLast? last

end Node

namespace AsyncAwait
open Node

variable {tree : Tree} {options : Options} {source : Bytes} {file? : Option String}
  {target : String} {site call : Node}

theorem listed_of_anchor? (listed : call ∈ (root tree).preorder)
    (anchored : call.anchor? target = some site) : site ∈ (root tree).preorder :=
  mem_preorder_of_mem_ancestors (mem_ancestors_of_mem_links (mem_links_of_anchor? anchored).2) listed

/-- A link is the first one to lead to its request exactly when it is the outermost.
The links around it are entered before it, and those within after it. -/
theorem last_iff_first (regular : tree.Regular) {before after : List Node}
    (split : (root tree).preorder = before ++ call :: after)
    (anchored : call.anchor? target = some site) :
    call.nextLink? = none ↔ site ∉ before.filterMap (anchor? target) := by
  have listed : call ∈ (root tree).preorder := by
    rw [split]
    exact List.mem_append_right _ List.mem_cons_self
  obtain ⟨targets, member⟩ := mem_links_of_anchor? anchored
  constructor
  · intro last seen
    obtain ⟨other, earlier, anchored'⟩ := List.mem_filterMap.1 seen
    have member' := (mem_links_of_anchor? anchored').2
    have outermost : other.chainEnd = call := by
      rw [chainEnd_of_mem_links member', ← chainEnd_of_mem_links member, chainEnd_of_last last]
    have order := pairwise_preorder (root tree)
    have distinct := nodup_preorder (root tree)
    rw [split] at order distinct
    by_cases ends : other.nextLink? = none
    · rw [chainEnd_of_last ends] at outermost
      exact (List.nodup_append.1 distinct).2.2 other earlier call List.mem_cons_self outermost
    · have around := mem_ancestors_of_mem_links (chainEnd_mem_links ends)
      rw [outermost] at around
      exact (List.pairwise_append.1 order).2.2 other earlier call List.mem_cons_self around
  · intro first
    cases linked : call.nextLink? with
    | none => rfl
    | some next =>
      have around := mem_ancestors_of_nextLink? linked
      have earlier := mem_of_preorder_split split around (ancestor_mem_preorder_root listed around)
      have anchored' := anchor?_of_mem_links regular (listed_of_anchor? listed anchored) targets
        (mem_links_of_nextLink? (Or.inr member) linked)
      exact absurd (List.mem_filterMap.2 ⟨next, earlier, anchored'⟩) first

theorem eraseDups_concat (values : List Node) (last : Node) :
    (values ++ [last]).eraseDups = values.eraseDups ++ if last ∈ values then [] else [last] := by
  rw [List.eraseDups_append]
  by_cases seen : last ∈ values
  · simp [List.removeAll, seen]
  · simp [List.removeAll, seen, List.eraseDups_cons]

/-- Of the values that the members of a list lead to, each is kept where it comes
first. -/
theorem eraseDups_filterMap {lead? : Node → Option Node} {first : Node → Bool}
    {nodes : List Node}
    (leads : ∀ before node after value, nodes = before ++ node :: after →
      lead? node = some value → (first node = true ↔ value ∉ before.filterMap lead?)) :
    (nodes.filterMap lead?).eraseDups = (nodes.filter first).filterMap lead? := by
  induction nodes using List.reverseRecOn with
  | nil => rfl
  | append_singleton nodes node ih =>
    have above := ih fun before inner after value split =>
      leads before inner (after ++ [node]) value (by rw [split, List.append_assoc]; rfl)
    rw [List.filterMap_append, List.filter_append, List.filterMap_append, ← above]
    cases led : lead? node with
    | none =>
      cases first node with
      | true => simp [led]
      | false => simp [led]
    | some value =>
      have value_eq : [node].filterMap lead? = [value] := by simp [led]
      have new := leads nodes node [] value rfl led
      rw [value_eq, eraseDups_concat]
      by_cases seen : value ∈ nodes.filterMap lead?
      · have later : first node = false := Bool.eq_false_iff.2 fun is => new.1 is seen
        simp [seen, later]
      · simp [seen, new.2 seen, led]

/-- The diagnostic about a request. -/
def preferred (options : Options) : Bytes → Option String → Node → Diagnostic :=
  .about "prefer-async-await" "preferAsyncAwait" (Message.preferAsyncAwait.fill options.target)

def finding (options : Options) (site : Node) : Finding :=
  Message.preferAsyncAwait.finding .asyncAwait options site site

/-- The requests that have a chain, in the order of the ends of their chains. -/
def chained (target : String) (tree : Tree) : List Node :=
  ((root tree).preorder.filter fun call => call.nextLink?.isNone).filterMap (anchor? target)

theorem actsBy : Rule.asyncAwait.ActsBy options (onCall options) := by
  apply @Rule.actsBy_of_onCall .asyncAwait options (onCall options) (by decide)
  · intro past scopes call
    rfl
  · intro node plain
    have alone : ¬ node.isContinuation = true := mt kind_of_isContinuation plain
    rw [onCall, anchor?, if_neg alone]
    rfl

theorem reads_flatMap (nodes : List Node) :
    Action.reports (nodes.flatMap (onCall options)) =
        (nodes.filterMap (anchor? options.target)).map (finding options) ∧
      Action.deferrals (nodes.flatMap (onCall options)) = [] := by
  induction nodes with
  | nil => exact ⟨rfl, rfl⟩
  | cons node rest ih =>
    obtain ⟨reports, deferrals⟩ := ih
    rw [List.flatMap_cons, Action.reports_append, Action.deferrals_append, reports, deferrals,
      onCall, List.filterMap_cons]
    cases node.anchor? options.target with
    | none => exact ⟨rfl, rfl⟩
    | some anchor => exact ⟨rfl, rfl⟩

/-- Of the reports about a request the one at the end of its chain is kept. -/
theorem firsts_reports (regular : tree.Regular) (distinct : tree.DistinctCalls) :
    Finding.firsts (Action.reports ((root tree).preorder.flatMap (onCall options))) =
      (chained options.target tree).map (finding options) := by
  have apart : ∀ one ∈ (root tree).preorder.filterMap (anchor? options.target),
      ∀ other ∈ (root tree).preorder.filterMap (anchor? options.target),
        (finding options one).subject = (finding options other).subject → one = other := by
    intro one member other member' same
    obtain ⟨call, listed, anchored⟩ := List.mem_filterMap.1 member
    obtain ⟨call', listed', anchored'⟩ := List.mem_filterMap.1 member'
    exact eq_of_key distinct (listed_of_anchor? listed anchored)
      (listed_of_anchor? listed' anchored')
      (kind_of_isTargetCall (mem_links_of_anchor? anchored).1) (congrArg Subject.site same)
  rw [(reads_flatMap _).1, Finding.firsts_map _ _ apart, chained, eraseDups_filterMap]
  intro before call after site split anchored
  rw [Option.isNone_iff_eq_none]
  exact last_iff_first regular split anchored

theorem diagnose_eq (regular : tree.Regular) (distinct : tree.DistinctCalls) :
    Analysis.diagnose ⟨options, [.asyncAwait]⟩ (root tree) source file? =
      (chained options.target tree).map (preferred options source file?) := by
  have none_waits : Action.unmet ((root tree).preorder.flatMap (onCall options)) = [] := by
    rw [Action.unmet, (reads_flatMap _).2]
    rfl
  rw [Analysis.diagnose_of_actsBy actsBy, Sink.diagnostics_flush_foldl,
    firsts_reports regular distinct, none_waits, List.map_nil, List.append_nil, List.map_map]
  rfl

theorem mem_chained_iff (regular : tree.Regular) : site ∈ chained target tree ↔
    site ∈ (root tree).preorder ∧ site.isTargetCall target = true ∧ site.nextLink? ≠ none := by
  rw [chained, List.mem_filterMap]
  constructor
  · rintro ⟨call, member, anchored⟩
    obtain ⟨targets, linked⟩ := mem_links_of_anchor? anchored
    refine ⟨listed_of_anchor? (List.mem_filter.1 member).1 anchored, targets, fun last => ?_⟩
    rw [links_of_last last] at linked
    cases linked
  · rintro ⟨listed, targets, linked⟩
    have member := chainEnd_mem_links linked
    have outermost := ancestor_mem_preorder_root listed (mem_ancestors_of_mem_links member)
    refine ⟨site.chainEnd, List.mem_filter.2 ⟨outermost, ?_⟩,
      anchor?_of_mem_links regular listed targets member⟩
    rw [Option.isNone_iff_eq_none, nextLink?_chainEnd]

theorem map_filterMap_sublist {lead? : Node → Option Node} {back : Node → Node}
    {nodes : List Node}
    (returns : ∀ node ∈ nodes, ∀ value, lead? node = some value → back value = node) :
    ((nodes.filterMap lead?).map back).Sublist nodes := by
  induction nodes with
  | nil => exact .slnil
  | cons node rest ih =>
    have below := ih fun other member => returns other (List.mem_cons_of_mem _ member)
    rw [List.filterMap_cons]
    cases led : lead? node with
    | none => exact below.cons node
    | some value =>
      rw [List.map_cons, returns node List.mem_cons_self value led]
      exact below.cons_cons node

/-- The ends of the chains come in the order of the walk. -/
theorem map_chainEnd_chained (target : String) (tree : Tree) :
    ((chained target tree).map chainEnd).Sublist (root tree).preorder := by
  have back := @map_filterMap_sublist (anchor? target) chainEnd
    ((root tree).preorder.filter fun call => call.nextLink?.isNone) (by
      intro call member site anchored
      have last := Option.isNone_iff_eq_none.1 (List.mem_filter.1 member).2
      rw [← chainEnd_of_mem_links (mem_links_of_anchor? anchored).2, chainEnd_of_last last])
  exact back.trans List.filter_sublist

/-- The rule alone reports every request that has a chain, and nothing else. However
long the chain is, its request is reported once, with the span of the request. The
reports come in the order in which a walk enters the outermost calls of the chains. -/
theorem reports_chained_once (options : Options) (tree : Tree) (source : Bytes)
    (file? : Option String) (regular : tree.Regular) (distinct : tree.DistinctCalls) :
    ∃ analysis, Analysis.ofIds options (some ["prefer-async-await"]) = .ok analysis ∧
      ∃ sites : List Node,
        analysis.diagnose (root tree) source file? = sites.map (preferred options source file?) ∧
        sites.Nodup ∧
        (∀ site, site ∈ sites ↔ site ∈ (root tree).preorder ∧
          site.isTargetCall options.target = true ∧ site.nextLink? ≠ none) ∧
        (sites.map chainEnd).Sublist (root tree).preorder := by
  have order := map_chainEnd_chained options.target tree
  have once := ((nodup_preorder (root tree)).sublist order).of_map
  exact ⟨_, Analysis.ofIds_of_rule options .asyncAwait, chained options.target tree,
    diagnose_eq regular distinct, once, fun site => mem_chained_iff regular, order⟩

end AsyncAwait

/-- A chain with another in a callback, whose request is wrapped. -/
def nestedChains.source : Bytes :=
  Utf8.encode "fetch(a).then(r=>(fetch(b)).then(f)).catch(g);"

def nestedChains : Tree :=
  (Tree.ofOutline? nestedChains.source
    [⟨"program", true, false, "", 0, 46, 1⟩,
      ⟨"expression_statement", true, false, "", 0, 46, 2⟩,
      ⟨"call_expression", true, false, "", 0, 45, 2⟩,
      ⟨"member_expression", true, false, "function", 0, 42, 3⟩,
      ⟨"call_expression", true, false, "object", 0, 36, 2⟩,
      ⟨"member_expression", true, false, "function", 0, 13, 3⟩,
      ⟨"call_expression", true, false, "object", 0, 8, 2⟩,
      ⟨"identifier", true, false, "function", 0, 5, 0⟩,
      ⟨"arguments", true, false, "arguments", 5, 8, 3⟩,
      ⟨"(", false, false, "", 5, 6, 0⟩,
      ⟨"identifier", true, false, "", 6, 7, 0⟩,
      ⟨")", false, false, "", 7, 8, 0⟩,
      ⟨".", false, false, "", 8, 9, 0⟩,
      ⟨"property_identifier", true, false, "property", 9, 13, 0⟩,
      ⟨"arguments", true, false, "arguments", 13, 36, 3⟩,
      ⟨"(", false, false, "", 13, 14, 0⟩,
      ⟨"arrow_function", true, false, "", 14, 35, 3⟩,
      ⟨"identifier", true, false, "parameter", 14, 15, 0⟩,
      ⟨"=>", false, false, "", 15, 17, 0⟩,
      ⟨"call_expression", true, false, "body", 17, 35, 2⟩,
      ⟨"member_expression", true, false, "function", 17, 32, 3⟩,
      ⟨"parenthesized_expression", true, false, "object", 17, 27, 3⟩,
      ⟨"(", false, false, "", 17, 18, 0⟩,
      ⟨"call_expression", true, false, "", 18, 26, 2⟩,
      ⟨"identifier", true, false, "function", 18, 23, 0⟩,
      ⟨"arguments", true, false, "arguments", 23, 26, 3⟩,
      ⟨"(", false, false, "", 23, 24, 0⟩,
      ⟨"identifier", true, false, "", 24, 25, 0⟩,
      ⟨")", false, false, "", 25, 26, 0⟩,
      ⟨")", false, false, "", 26, 27, 0⟩,
      ⟨".", false, false, "", 27, 28, 0⟩,
      ⟨"property_identifier", true, false, "property", 28, 32, 0⟩,
      ⟨"arguments", true, false, "arguments", 32, 35, 3⟩,
      ⟨"(", false, false, "", 32, 33, 0⟩,
      ⟨"identifier", true, false, "", 33, 34, 0⟩,
      ⟨")", false, false, "", 34, 35, 0⟩,
      ⟨")", false, false, "", 35, 36, 0⟩,
      ⟨".", false, false, "", 36, 37, 0⟩,
      ⟨"property_identifier", true, false, "property", 37, 42, 0⟩,
      ⟨"arguments", true, false, "arguments", 42, 45, 3⟩,
      ⟨"(", false, false, "", 42, 43, 0⟩,
      ⟨"identifier", true, false, "", 43, 44, 0⟩,
      ⟨")", false, false, "", 44, 45, 0⟩,
      ⟨";", false, false, "", 45, 46, 0⟩]).getD (Tree.blank nestedChains.source)

namespace AsyncAwait
open Node

theorem reports_chained_once_nestedChains :
    nestedChains.Regular ∧ nestedChains.DistinctCalls ∧
    ∃ analysis, Analysis.ofIds {} (some ["prefer-async-await"]) = .ok analysis ∧
      (analysis.diagnose (root nestedChains) nestedChains.source none).map Diagnostic.start =
        [0, 18] ∧
      ∃ sites : List Node,
        analysis.diagnose (root nestedChains) nestedChains.source none =
          sites.map (preferred {} nestedChains.source none) ∧
        (sites.map chainEnd).Sublist (root nestedChains).preorder := by
  have regular : nestedChains.Regular := ⟨by decide +kernel, by decide +kernel⟩
  have distinct : nestedChains.DistinctCalls := Tree.distinctCalls_of_nodup (by decide +kernel)
  obtain ⟨analysis, accepted, sites, diagnosed, _, _, order⟩ :=
    reports_chained_once {} nestedChains nestedChains.source none regular distinct
  refine ⟨regular, distinct, analysis, accepted, ?_, sites, diagnosed, order⟩
  cases accepted.symm.trans (Analysis.ofIds_of_rule {} .asyncAwait)
  decide +kernel

end AsyncAwait
end RequestLint
