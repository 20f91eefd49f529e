import RequestLint.Proofs.Rule.StatusCheck

/-! Which responses the rule reports. A response is unchecked when it was given a
name, no read of its status follows where that happened, and no read is entered
whose object stands for it at that moment. None of this depends on which came
first. Every unchecked response is reported once, and they come in the order in
which they were first named. -/
namespace RequestLint

namespace StatusCheck
open Node

variable {tree : Tree} {options : Options} {source : Bytes} {file? : Option String}
  {site : Node} {binding : Binding} {seen : Observation}

/-- The bindings that give a response a name, in the order in which they are made. -/
def namings (options : Options) (tree : Tree) : List Binding :=
  (walked options tree).bindings.filter (·.kind ≠ .callback)

/-- The call whose status is read by the node that is entered. -/
def readSite? (target : String) : Observation → Option Node
  | .entered read scopes => do
    let (object, property) ← read.member?
    if property ∈ properties then scopes.resolve? target object else none
  | .bound _ => none

structure Unchecked (options : Options) (tree : Tree) (site : Node) : Prop where
  named : ∃ binding ∈ namings options tree, binding.site = site
  notFollowed : ∀ binding ∈ namings options tree, binding.site = site →
    binding.origin.readAfter binding.name properties = false
  notResolved : ∀ seen ∈ (walked options tree).history, readSite? options.target seen ≠ some site

instance (options : Options) (tree : Tree) (site : Node) :
    Decidable (Unchecked options tree site) :=
  decidable_of_iff
    ((∃ binding ∈ namings options tree, binding.site = site) ∧
      (∀ binding ∈ namings options tree, binding.site = site →
        binding.origin.readAfter binding.name properties = false) ∧
      ∀ seen ∈ (walked options tree).history, readSite? options.target seen ≠ some site)
    ⟨fun ⟨named, notFollowed, notResolved⟩ => ⟨named, notFollowed, notResolved⟩,
      fun ⟨named, notFollowed, notResolved⟩ => ⟨named, notFollowed, notResolved⟩⟩

/-- Unchecked responses, each once, in the order in which they were first named. -/
def unchecked (options : Options) (tree : Tree) : List Node :=
  (((namings options tree).map Binding.site).filter (Unchecked options tree ·)).eraseDups

theorem mem_namings_iff : binding ∈ namings options tree ↔
    binding ∈ (walked options tree).bindings ∧ binding.kind ≠ .callback := by
  simp only [namings, List.mem_filter, decide_eq_true_eq]

theorem readSite?_eq_some_iff {target : String} : readSite? target seen = some site ↔
    ∃ read scopes object property, seen = .entered read scopes ∧
      read.member? = some (object, property) ∧ property ∈ properties ∧
      scopes.resolve? target object = some site := by
  cases seen with
  | bound binding => simp [readSite?]
  | entered read scopes =>
    simp only [readSite?, Option.bind_eq_bind, Option.bind_eq_some_iff, Prod.exists,
      Option.ite_none_right_eq_some]
    constructor
    · rintro ⟨object, property, accessed, status, resolved⟩
      exact ⟨read, scopes, object, property, rfl, accessed, status, resolved⟩
    · rintro ⟨_, _, object, property, same, accessed, status, resolved⟩
      cases same
      exact ⟨object, property, accessed, status, resolved⟩

theorem satisfy_mem_acted_iff : .satisfy Rule.statusCheck.id site ∈ acted options tree ↔
    (∃ binding ∈ namings options tree, binding.site = site ∧
        binding.origin.readAfter binding.name properties = true) ∨
      ∃ seen ∈ (walked options tree).history, readSite? options.target seen = some site := by
  constructor
  · intro satisfied
    obtain ⟨_, seen, member, acts⟩ := react_of_mem_acted satisfied
    obtain ⟨binding, rfl, ⟨kind, follows, same⟩ | same⟩ |
      ⟨read, scopes, object, property, other, rfl, accessed, status, resolved, same⟩ :=
      react_cases acts
    · cases same
      have bound := Tracker.mem_bindings_iff.2 member
      exact Or.inl ⟨binding, mem_namings_iff.2 ⟨bound, kind⟩, rfl, follows⟩
    · cases same
    · cases same
      have read := readSite?_eq_some_iff.2
        ⟨read, scopes, object, property, rfl, accessed, status, resolved⟩
      exact Or.inr ⟨_, member, read⟩
  · rintro (⟨binding, named, rfl, follows⟩ | ⟨seen, member, resolved⟩)
    · obtain ⟨bound, kind⟩ := mem_namings_iff.1 named
      exact satisfy_of_readAfter bound kind follows
    · obtain ⟨read, scopes, object, property, rfl, accessed, status, resolved⟩ :=
        readSite?_eq_some_iff.1 resolved
      exact satisfy_of_resolve? member accessed status resolved

/-- What is held back does not depend on what was observed before. -/
theorem deferrals_react (past : List Observation) (seen : Observation) :
    Action.deferrals (Rule.statusCheck.react options past seen) =
      ((seen.bound?.toList.filter fun binding => binding.kind ≠ .callback ∧
          binding.origin.readAfter binding.name properties = false).map
        fun binding => finding options binding.site) := by
  cases seen with
  | bound binding =>
    rw [Rule.react, if_pos rfl, onBound]
    by_cases callback : binding.kind = .callback
    · simp [Action.deferrals, Observation.bound?, callback]
    · cases follows : binding.origin.readAfter binding.name properties with
      | true => simp [Action.deferrals, Action.deferred?, Observation.bound?, callback, follows]
      | false =>
        simp [Action.deferrals, Action.deferred?, Observation.bound?, callback, follows, finding]
  | entered read scopes =>
    have none_held (action : Action)
        (acts : action ∈ Rule.statusCheck.react options past (.entered read scopes)) :
        action.deferred? = none := by
      obtain ⟨_, impossible, _⟩ | ⟨_, _, _, _, _, _, _, _, _, rfl⟩ := react_cases acts
      · cases impossible
      · rfl
    rw [Action.deferrals, List.filterMap_eq_nil_iff.2 none_held]
    rfl

theorem deferrals_actions (history : List Observation) :
    Action.deferrals (Analysis.actions ⟨options, [.statusCheck]⟩ history) =
      ((history.reverse.filterMap Observation.bound?).filter fun binding =>
          binding.kind ≠ .callback ∧
            binding.origin.readAfter binding.name properties = false).map
        fun binding => finding options binding.site := by
  induction history with
  | nil => rfl
  | cons seen past ih =>
    rw [Analysis.actions, Action.deferrals_append, ih, List.flatMap_singleton, deferrals_react,
      List.reverse_cons, List.filterMap_append, List.filter_append, List.map_append]
    cases seen with
    | bound binding => rfl
    | entered node scopes => rfl

theorem deferrals_acted : Action.deferrals (acted options tree) =
    (((namings options tree).filter fun binding =>
      binding.origin.readAfter binding.name properties = false).map Binding.site).map
        (finding options) := by
  rw [acted, deferrals_actions, namings, List.filter_filter, List.map_map, Tracker.bindings]
  simp only [Bool.decide_and, Bool.and_comm]
  rfl

theorem reports_acted : Action.reports (acted options tree) = [] := by
  refine List.filterMap_eq_nil_iff.2 fun action acts => ?_
  obtain ⟨_, seen, member, acts⟩ := react_of_mem_acted acts
  obtain ⟨_, _, ⟨_, _, rfl⟩ | rfl⟩ | ⟨_, _, _, _, _, _, _, _, _, rfl⟩ := react_cases acts
  · rfl
  · rfl
  · rfl

/-- The contract of a call is decided by what is satisfied about that very call. -/
theorem settles_iff (distinct : tree.DistinctCalls)
    (call : CallBelow options.target (root tree) site) :
    Action.Settles (acted options tree) (finding options site).subject ↔
      .satisfy Rule.statusCheck.id site ∈ acted options tree := by
  rw [Action.Settles, reports_acted, Action.satisfactions, List.mem_filterMap]
  constructor
  · rintro (reported | ⟨action, acts, same⟩)
    · cases reported
    · cases action with
      | report other => cases same
      | defer other => cases same
      | satisfy rule other =>
        have subject := Option.some.inj same
        have named : rule = Rule.statusCheck.id := congrArg Subject.rule subject
        obtain rfl := eq_of_callBelow distinct (callBelow_of_satisfy acts) call
          (congrArg Subject.site subject)
        exact named ▸ acts
  · intro satisfied
    exact Or.inr ⟨_, satisfied, rfl⟩

theorem callBelow_of_mem_namings (named : binding ∈ namings options tree) :
    CallBelow options.target (root tree) binding.site :=
  (made (mem_namings_iff.1 named).1).1

theorem unchecked_iff (distinct : tree.DistinctCalls) (named : binding ∈ namings options tree) :
    Unchecked options tree binding.site ↔
      binding.origin.readAfter binding.name properties = false ∧
        ¬ Action.Settles (acted options tree) (finding options binding.site).subject := by
  rw [settles_iff distinct (callBelow_of_mem_namings named), satisfy_mem_acted_iff]
  constructor
  · intro unchecked
    refine ⟨unchecked.notFollowed binding named rfl, ?_⟩
    rintro (⟨other, otherNamed, same, follows⟩ | ⟨seen, member, resolved⟩)
    · rw [unchecked.notFollowed other otherNamed same] at follows
      cases follows
    · exact unchecked.notResolved seen member resolved
  · rintro ⟨_, unsatisfied⟩
    refine ⟨⟨binding, named, rfl⟩, ?_, ?_⟩
    · intro other otherNamed same
      by_contra follows
      exact unsatisfied (Or.inl ⟨other, otherNamed, same, by simpa using follows⟩)
    · intro seen member resolved
      exact unsatisfied (Or.inr ⟨seen, member, resolved⟩)

theorem mem_unchecked_iff : site ∈ unchecked options tree ↔
    CallBelow options.target (root tree) site ∧ Unchecked options tree site := by
  simp only [unchecked, List.mem_eraseDups, List.mem_filter, List.mem_map, decide_eq_true_eq]
  constructor
  · rintro ⟨⟨binding, named, rfl⟩, unchecked⟩
    exact ⟨callBelow_of_mem_namings named, unchecked⟩
  · rintro ⟨_, unchecked⟩
    exact ⟨unchecked.named, unchecked⟩

/-- Calls differ in their keys, so the first finding about a key is the first about its
call. -/
theorem firsts_unchecked (distinct : tree.DistinctCalls) :
    Finding.firsts ((((namings options tree).map Binding.site).filter
        (Unchecked options tree ·)).map (finding options)) =
      (unchecked options tree).map (finding options) := by
  apply Finding.firsts_map
  intro one first other second same
  have call {site : Node} (member : site ∈ ((namings options tree).map Binding.site).filter
      (Unchecked options tree ·)) : CallBelow options.target (root tree) site :=
    (mem_unchecked_iff.1 (List.mem_eraseDups.2 member)).1
  exact eq_of_callBelow distinct (call first) (call second) (congrArg Subject.site same)

theorem nodup_unchecked (distinct : tree.DistinctCalls) : (unchecked options tree).Nodup := by
  have subjects := Finding.nodup_subjects_firsts
    ((((namings options tree).map Binding.site).filter (Unchecked options tree ·)).map
      (finding options))
  rw [firsts_unchecked distinct, List.map_map] at subjects
  exact subjects.of_map _

theorem unmet_acted (distinct : tree.DistinctCalls) :
    Action.unmet (acted options tree) = (unchecked options tree).map (finding options) := by
  have choice := Finding.firsts_filter
    (fun subject => ¬ Action.Settles (acted options tree) subject)
    (Action.deferrals (acted options tree))
  rw [Action.unmet, ← choice, ← firsts_unchecked distinct, deferrals_acted, List.filter_map,
    List.filter_map, List.filter_map, List.filter_filter]
  congr 3
  apply List.filter_congr
  intro binding named
  apply Bool.eq_iff_iff.2
  simp only [Function.comp_apply, Bool.and_eq_true, decide_eq_true_eq,
    unchecked_iff distinct named]
  exact and_comm

theorem diagnose_eq (distinct : tree.DistinctCalls) :
    Analysis.diagnose ⟨options, [.statusCheck]⟩ (root tree) source file? =
      (unchecked options tree).map (missing options source file?) := by
  have diagnosed := Sink.diagnostics_flush_foldl source .characters file? (acted options tree)
  rw [reports_acted, unmet_acted distinct, List.map_map] at diagnosed
  exact diagnosed

/-- As long as deferrals keep their order, it does not matter how the actions are
arranged: a satisfaction may come before or after what it is about. -/
theorem diagnose_of_perm {arranged : List Action} (permuted : arranged.Perm (acted options tree))
    (deferred : Action.deferrals arranged = Action.deferrals (acted options tree)) :
    (arranged.foldl Sink.apply (Sink.fresh source .characters file?)).flush.diagnostics =
      Analysis.diagnose ⟨options, [.statusCheck]⟩ (root tree) source file? := by
  have reported : Action.reports arranged = Action.reports (acted options tree) := by
    rw [reports_acted]
    refine List.Perm.eq_nil ?_
    rw [← @reports_acted tree options]
    exact permuted.filterMap _
  exact Sink.diagnostics_flush_congr source .characters file? reported deferred
    fun subject => (permuted.filterMap _).mem_iff

/-- The rule alone reports the unchecked responses and nothing else, each once and in
the order in which they were first named. The arrangement of satisfactions among
the actions does not matter, and what is only handed to callbacks is not reported. -/
theorem reports_exactly_unchecked (options : Options) (tree : Tree) (source : Bytes)
    (file? : Option String) (distinct : tree.DistinctCalls) :
    ∃ analysis, Analysis.ofIds options (some ["require-status-check"]) = .ok analysis ∧
      analysis.diagnose (root tree) source file? =
        (unchecked options tree).map (missing options source file?) ∧
      (unchecked options tree).Nodup ∧
      (∀ site, site ∈ unchecked options tree ↔
        CallBelow options.target (root tree) site ∧ Unchecked options tree site) ∧
      (∀ arranged : List Action, arranged.Perm (acted options tree) →
        Action.deferrals arranged = Action.deferrals (acted options tree) →
        (arranged.foldl Sink.apply (Sink.fresh source .characters file?)).flush.diagnostics =
          analysis.diagnose (root tree) source file?) ∧
      ∀ site, CallBelow options.target (root tree) site →
        (∀ binding ∈ (walked options tree).bindings, binding.site = site →
          binding.kind = .callback) →
        ∀ diagnostic ∈ analysis.diagnose (root tree) source file?,
          ¬ (diagnostic.start = site.start ∧ diagnostic.stop = site.stop) := by
  have diagnosed := @diagnose_eq tree options source file? distinct
  refine ⟨_, Analysis.ofIds_of_rule options .statusCheck, diagnosed, nodup_unchecked distinct,
    fun site => mem_unchecked_iff, fun arranged => diagnose_of_perm, ?_⟩
  rintro site call callbacks diagnostic given ⟨start, stop⟩
  rw [diagnosed] at given
  obtain ⟨reported, member, rfl⟩ := List.mem_map.1 given
  obtain ⟨reportedCall, unchecked⟩ := mem_unchecked_iff.1 member
  obtain ⟨binding, named, about⟩ := unchecked.named
  obtain rfl : reported = site := distinct reported reportedCall.2
    (kind_of_isTargetCall reportedCall.1) site call.2 (kind_of_isTargetCall call.1) start stop
  obtain ⟨bound, kind⟩ := mem_namings_iff.1 named
  exact kind (callbacks binding bound about)

end StatusCheck

/-- Two responses are given a name, and one of them is read. -/
def secondRead.source : Bytes := Utf8.encode "const a = fetch();\nconst b = fetch();\nb.ok;"

def secondRead : Tree :=
  (Tree.ofOutline? secondRead.source
    [⟨"program", true, false, "", 0, 43, 3⟩,
      ⟨"lexical_declaration", true, false, "", 0, 18, 3⟩,
      ⟨"const", false, false, "kind", 0, 5, 0⟩,
      ⟨"variable_declarator", true, false, "", 6, 17, 3⟩,
      ⟨"identifier", true, false, "name", 6, 7, 0⟩,
      ⟨"=", false, false, "", 8, 9, 0⟩,
      ⟨"call_expression", true, false, "value", 10, 17, 2⟩,
      ⟨"identifier", true, false, "function", 10, 15, 0⟩,
      ⟨"arguments", true, false, "arguments", 15, 17, 2⟩,
      ⟨"(", false, false, "", 15, 16, 0⟩,
      ⟨")", false, false, "", 16, 17, 0⟩,
      ⟨";", false, false, "", 17, 18, 0⟩,
      ⟨"lexical_declaration", true, false, "", 19, 37, 3⟩,
      ⟨"const", false, false, "kind", 19, 24, 0⟩,
      ⟨"variable_declarator", true, false, "", 25, 36, 3⟩,
      ⟨"identifier", true, false, "name", 25, 26, 0⟩,
      ⟨"=", false, false, "", 27, 28, 0⟩,
      ⟨"call_expression", true, false, "value", 29, 36, 2⟩,
      ⟨"identifier", true, false, "function", 29, 34, 0⟩,
      ⟨"arguments", true, false, "arguments", 34, 36, 2⟩,
      ⟨"(", false, false, "", 34, 35, 0⟩,
      ⟨")", false, false, "", 35, 36, 0⟩,
      ⟨";", false, false, "", 36, 37, 0⟩,
      ⟨"expression_statement", true, false, "", 38, 43, 2⟩,
      ⟨"member_expression", true, false, "", 38, 42, 3⟩,
      ⟨"identifier", true, false, "object", 38, 39, 0⟩,
      ⟨".", false, false, "", 39, 40, 0⟩,
      ⟨"property_identifier", true, false, "property", 40, 42, 0⟩,
      ⟨";", false, false, "", 42, 43, 0⟩]).getD (Tree.blank secondRead.source)

namespace StatusCheck
open Node

theorem reports_exactly_unchecked_secondRead :
    ∃ analysis, Analysis.ofIds {} (some ["require-status-check"]) = .ok analysis ∧
      (namings {} secondRead).map (·.site.start) = [10, 29] ∧
      (analysis.diagnose (root secondRead) secondRead.source none).map Diagnostic.start = [10] := by
  have distinct : secondRead.DistinctCalls := by
    unfold Tree.DistinctCalls
    decide +kernel
  obtain ⟨analysis, accepted, diagnosed, _⟩ := reports_exactly_unchecked {} secondRead
    secondRead.source none distinct
  refine ⟨analysis, accepted, ?_, ?_⟩
  · decide +kernel
  · rw [diagnosed, List.map_map]
    decide +kernel

end StatusCheck
end RequestLint
