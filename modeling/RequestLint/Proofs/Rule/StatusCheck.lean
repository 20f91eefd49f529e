import RequestLint.Proofs.Rule.Independence
import RequestLint.Proofs.Rule.Locality
import RequestLint.Proofs.Scope.Shadowing

/-! Which reads of a status count, and for which responses. A name may be declared
anew between a response and a read, and such a read says nothing about the
response. The search after a declaration leaves out whatever declares the name
anew. The scopes of a walk belong to functions, and there a `let` or `const` of an
inner block counts once it is over. -/
namespace RequestLint

namespace StatusCheck
open Node

variable {tree : Tree} {options : Options} {source : Bytes} {file? : Option String}
  {site read : Node} {name : String} {action : Action} {past : List Observation}
  {seen : Observation}

/-- What the status is read of, without its wrappers and one `await`. -/
def statusOf? (read : Node) : Option Node := do
  let (object, property) ← read.member?
  if property ∈ properties then object.unwrapAwait else none

/-- The status of what `name` stands for is read. -/
def Reads (read : Node) (name : String) : Prop := ∃ value ∈ statusOf? read, value.isName name = true

instance (read : Node) (name : String) : Decidable (Reads read name) :=
  inferInstanceAs (Decidable (∃ value ∈ statusOf? read, value.isName name = true))

/-- The diagnostic about a request. -/
def missing (options : Options) : Bytes → Option String → Node → Diagnostic :=
  .about "require-status-check" "missingStatusCheck" (Message.missingStatusCheck.fill options.target)

theorem statusOf?_eq_some_iff {value : Node} : statusOf? read = some value ↔
    ∃ object property, read.member? = some (object, property) ∧ property ∈ properties ∧
      object.unwrapAwait = some value := by
  simp only [statusOf?, Option.bind_eq_bind, Option.bind_eq_some_iff, Prod.exists,
    Option.ite_none_right_eq_some]

theorem reads_of_readsProperty (reads : read.readsProperty name properties = true) :
    Reads read name := by
  obtain ⟨⟨object, property⟩, accessed, reads⟩ := (Option.any_eq_true _ _).1 reads
  rw [Bool.and_eq_true, decide_eq_true_eq] at reads
  obtain ⟨status, opened⟩ := reads
  obtain ⟨value, opened, named⟩ := (Option.any_eq_true _ _).1 opened
  have plain : value.kind = "identifier" := by
    simp only [isName, Bool.and_eq_true, decide_eq_true_eq] at named
    exact named.1
  have awaited : object.unwrapAwait = some value := by
    rw [unwrapAwait, opened]
    simp [plain]
  exact ⟨value, statusOf?_eq_some_iff.2 ⟨object, property, accessed, status, awaited⟩, named⟩

def finding (options : Options) (site : Node) : Finding :=
  Message.missingStatusCheck.finding .statusCheck options site site

/-- A binding defers or, followed by a read, satisfies; a read satisfies. -/
theorem react_cases (acts : action ∈ Rule.statusCheck.react options past seen) :
    (∃ binding, seen = .bound binding ∧
      (binding.kind ≠ .callback ∧ binding.origin.readAfter binding.name properties = true ∧
          action = .satisfy Rule.statusCheck.id binding.site ∨
        action = .defer (finding options binding.site))) ∨
      ∃ read scopes object property site, seen = .entered read scopes ∧
        read.member? = some (object, property) ∧ property ∈ properties ∧
        scopes.resolve? options.target object = some site ∧
        action = .satisfy Rule.statusCheck.id site := by
  cases seen with
  | bound binding =>
    refine Or.inl ⟨binding, rfl, ?_⟩
    rw [Rule.react, if_pos rfl, onBound] at acts
    split at acts
    · cases acts
    next named =>
      split at acts
      next follows => exact Or.inl ⟨named, follows, List.mem_singleton.1 acts⟩
      next => exact Or.inr (List.mem_singleton.1 acts)
  | entered read scopes =>
    rw [Rule.react] at acts
    split at acts
    · cases acts
    · rw [if_pos rfl, onMember] at acts
      split at acts
      next object property accessed =>
        split at acts
        next status =>
          obtain ⟨site, resolved, same⟩ := Option.map_eq_some_iff.1 (Option.mem_toList.1 acts)
          exact Or.inr ⟨read, scopes, object, property, site, rfl, accessed, status, resolved,
            same.symm⟩
        next => cases acts
      next => cases acts

def walked (options : Options) (tree : Tree) : Tracker := Tracker.walk options.target (root tree)

def acted (options : Options) (tree : Tree) : List Action :=
  Analysis.actions ⟨options, [.statusCheck]⟩ (walked options tree).history

theorem react_of_mem_acted (acts : action ∈ acted options tree) :
    ∃ past, ∃ seen ∈ (walked options tree).history,
      action ∈ Rule.statusCheck.react options past seen := by
  obtain ⟨seen, past, suffix, rule, member, acts⟩ := Analysis.mem_actions_iff.1 acts
  cases List.mem_singleton.1 member
  exact ⟨past, seen, suffix.subset List.mem_cons_self, acts⟩

theorem mem_acted_of_react (member : seen ∈ (walked options tree).history)
    (acts : ∀ past, action ∈ Rule.statusCheck.react options past seen) :
    action ∈ acted options tree := by
  obtain ⟨later, past, split⟩ := List.append_of_mem member
  exact Analysis.mem_actions_iff.2
    ⟨seen, past, ⟨later, split.symm⟩, .statusCheck, List.mem_singleton.2 rfl, acts past⟩

def resolves (read : Node) (binding : Binding) : Observation → Bool
  | .entered node scopes => node = read && (statusOf? read).any fun value =>
      value.kind = "identifier" && scopes.lookup value.text = some binding
  | .bound _ => false

/-- When the walk enters the read, its name stands for the response of the binding. -/
def Resolves (options : Options) (tree : Tree) (read : Node) (binding : Binding) : Prop :=
  (walked options tree).history.any (resolves read binding) = true

instance (options : Options) (tree : Tree) (read : Node) (binding : Binding) :
    Decidable (Resolves options tree read binding) :=
  inferInstanceAs (Decidable (_ = true))

/-- Wherever the status of the response would be read, a block between has declared
the name anew. -/
structure OnlyShadowedReads (options : Options) (tree : Tree) (site : Node) : Prop where
  direct : ∀ read ∈ (root tree).preorder, statusOf? read ≠ some site
  named : ∀ binding ∈ (walked options tree).bindings, binding.site = site →
    ∀ read ∈ (root tree).preorder, Reads read binding.name →
      ShadowedBefore binding.name read binding.origin

variable {binding : Binding}

theorem resolves_iff : Resolves options tree read binding ↔
    ∃ scopes value, .entered read scopes ∈ (walked options tree).history ∧
      statusOf? read = some value ∧ value.kind = "identifier" ∧
      scopes.lookup value.text = some binding := by
  rw [Resolves, List.any_eq_true]
  constructor
  · rintro ⟨seen, member, agrees⟩
    cases seen with
    | bound other => cases agrees
    | entered node scopes =>
      rw [resolves, Bool.and_eq_true, decide_eq_true_eq, Option.any_eq_true] at agrees
      obtain ⟨rfl, value, opened, agrees⟩ := agrees
      rw [Bool.and_eq_true, decide_eq_true_eq, decide_eq_true_eq] at agrees
      exact ⟨scopes, value, member, opened, agrees⟩
  · rintro ⟨scopes, value, member, opened, plain, found⟩
    refine ⟨.entered read scopes, member, ?_⟩
    simp [resolves, opened, plain, found]

theorem made (bound : binding ∈ (walked options tree).bindings) :
    CallBelow options.target (root tree) binding.site ∧ binding.origin ∈ (root tree).preorder :=
  (Tracker.traced_walk options.target tree).made binding (Tracker.mem_bindings_iff.1 bound)

/-- A name that stands for a response was bound to it, and it is the name read. -/
theorem bound_of_resolves (resolves : Resolves options tree read binding) :
    binding ∈ (walked options tree).bindings ∧ read ∈ (root tree).preorder ∧
      Reads read binding.name := by
  obtain ⟨scopes, value, entered, opened, plain, found⟩ := resolves_iff.1 resolves
  obtain ⟨named, bound⟩ := (Tracker.traced_walk options.target tree).observed read scopes entered
    value.text binding (Scopes.mem_view_of_lookup found)
  refine ⟨Tracker.mem_bindings_iff.2 bound, (Tracker.observed entered).1, value, opened, ?_⟩
  simp [isName, plain, named]

theorem not_shadowedBefore_of_resolves (resolves : Resolves options tree read binding) :
    ¬ ShadowedBefore binding.name read binding.origin := by
  obtain ⟨scopes, value, entered, opened, plain, found⟩ := resolves_iff.1 resolves
  obtain ⟨other, same, named⟩ := (bound_of_resolves resolves).2.2
  cases opened.symm.trans same
  simp only [isName, plain, decide_true, Bool.true_and, decide_eq_true_eq] at named
  exact Tracker.not_shadowedBefore_of_lookup entered (named ▸ found)

/-- The contract of a call is met in one of three ways. -/
theorem cause_of_satisfy {rule : String} (satisfied : .satisfy rule site ∈ acted options tree) :
    (∃ binding ∈ (walked options tree).bindings, binding.kind ≠ .callback ∧ binding.site = site ∧
        binding.origin.readAfter binding.name properties = true) ∨
      (∃ read ∈ (root tree).preorder, statusOf? read = some site ∧
        site.isTargetCall options.target = true) ∨
      ∃ read binding, Resolves options tree read binding ∧ binding.site = site := by
  obtain ⟨_, seen, member, acts⟩ := react_of_mem_acted satisfied
  obtain ⟨binding, rfl, ⟨kind, follows, same⟩ | same⟩ |
    ⟨read, scopes, object, property, other, rfl, accessed, status, resolved, same⟩ :=
    react_cases acts
  · cases same
    exact Or.inl ⟨binding, Tracker.mem_bindings_iff.2 member, kind, rfl, follows⟩
  · cases same
  · cases same
    obtain ⟨value, opened, cause⟩ := Scopes.resolve?_eq_some_iff.1 resolved
    have readOf := statusOf?_eq_some_iff.2 ⟨object, property, accessed, status, opened⟩
    rcases cause with ⟨targets, rfl⟩ | ⟨plain, binding, found, about⟩
    · exact Or.inr (Or.inl ⟨read, (Tracker.observed member).1, readOf, targets⟩)
    · have resolves := resolves_iff.2 ⟨scopes, value, member, readOf, plain, found⟩
      exact Or.inr (Or.inr ⟨read, binding, resolves, about⟩)

theorem satisfy_of_readAfter (bound : binding ∈ (walked options tree).bindings)
    (kind : binding.kind ≠ .callback)
    (follows : binding.origin.readAfter binding.name properties = true) :
    .satisfy Rule.statusCheck.id binding.site ∈ acted options tree := by
  refine mem_acted_of_react (Tracker.mem_bindings_iff.1 bound) fun past => ?_
  rw [Rule.react, if_pos rfl, onBound, if_neg kind, if_pos follows]
  exact List.mem_singleton.2 rfl

theorem satisfy_of_resolve? {scopes : Scopes} {object : Node} {property : String}
    (entered : .entered read scopes ∈ (walked options tree).history)
    (accessed : read.member? = some (object, property)) (status : property ∈ properties)
    (resolved : scopes.resolve? options.target object = some site) :
    .satisfy Rule.statusCheck.id site ∈ acted options tree := by
  have other : ¬ read.kind = "call_expression" := by
    rw [(member?_eq_some_iff.1 accessed).1]
    decide
  refine mem_acted_of_react entered fun past => ?_
  rw [Rule.react, if_neg other, if_pos rfl, onMember, accessed]
  simp only [status, if_true, resolved, Option.map_some, Option.toList_some, List.mem_singleton]

/-- There are three ways to meet the contract of a call: a read that follows its
binding, a read without a name, and a read of a name that stands for it. -/
theorem satisfied_iff : .satisfy Rule.statusCheck.id site ∈ acted options tree ↔
    (∃ binding ∈ (walked options tree).bindings, binding.kind ≠ .callback ∧ binding.site = site ∧
        ∃ read, Follows binding.name binding.origin read ∧
          read.readsProperty binding.name properties = true) ∨
      (∃ read ∈ (root tree).preorder, statusOf? read = some site ∧
        site.isTargetCall options.target = true) ∨
      ∃ read binding, Resolves options tree read binding ∧ binding.site = site := by
  constructor
  · simp only [← readAfter_iff]
    exact cause_of_satisfy
  · rintro (⟨binding, bound, kind, rfl, follows⟩ | ⟨read, listed, opened, targets⟩ |
      ⟨read, binding, resolves, rfl⟩)
    · exact satisfy_of_readAfter bound kind (readAfter_iff.2 follows)
    · obtain ⟨object, property, accessed, status, opened⟩ := statusOf?_eq_some_iff.1 opened
      obtain ⟨scopes, entered⟩ := @Tracker.exists_entered options.target read (root tree) listed
      exact satisfy_of_resolve? entered accessed status
        (Scopes.resolve?_eq_some_iff.2 ⟨site, opened, Or.inl ⟨targets, rfl⟩⟩)
    · obtain ⟨scopes, value, entered, opened, plain, found⟩ := resolves_iff.1 resolves
      obtain ⟨object, property, accessed, status, opened⟩ := statusOf?_eq_some_iff.1 opened
      exact satisfy_of_resolve? entered accessed status
        (Scopes.resolve?_eq_some_iff.2 ⟨value, opened, Or.inr ⟨plain, binding, found, rfl⟩⟩)

theorem listed_of_statusOf? (listed : read ∈ (root tree).preorder)
    (opened : statusOf? read = some site) : site ∈ (root tree).preorder := by
  obtain ⟨object, property, accessed, _, opened⟩ := statusOf?_eq_some_iff.1 opened
  have held := mem_preorder_of_child? listed (member?_eq_some_iff.1 accessed).2.1
  exact mem_preorder_of_unwrapAwait held opened

theorem not_readAfter (shadowed : OnlyShadowedReads options tree binding.site)
    (bound : binding ∈ (walked options tree).bindings) :
    ¬ binding.origin.readAfter binding.name properties = true := by
  intro found
  obtain ⟨read, follows, reads⟩ := readAfter_iff.1 found
  have before := shadowed.named binding bound rfl read (follows.listed (made bound).2)
    (reads_of_readsProperty reads)
  exact follows.not_shadowed before.shadowed

/-- Where a response has only shadowed reads, its contract is never met. -/
theorem not_satisfy {rule : String} (shadowed : OnlyShadowedReads options tree site) :
    .satisfy rule site ∉ acted options tree := by
  intro satisfied
  rcases cause_of_satisfy satisfied with
    ⟨binding, bound, _, rfl, follows⟩ | ⟨read, listed, opened, _⟩ |
    ⟨read, binding, resolves, about⟩
  · exact not_readAfter shadowed bound follows
  · exact shadowed.direct read listed opened
  · obtain ⟨bound, listed, reads⟩ := bound_of_resolves resolves
    exact not_shadowedBefore_of_resolves resolves
      (shadowed.named binding bound about read listed reads)

theorem callBelow_of_satisfy {rule : String} (satisfied : .satisfy rule site ∈ acted options tree) :
    CallBelow options.target (root tree) site := by
  rcases cause_of_satisfy satisfied with
    ⟨binding, bound, _, rfl, _⟩ | ⟨read, listed, opened, targets⟩ | ⟨read, binding, resolves, rfl⟩
  · exact (made bound).1
  · exact ⟨targets, listed_of_statusOf? listed opened⟩
  · exact (made (bound_of_resolves resolves).1).1

theorem eq_of_callBelow (distinct : tree.DistinctCalls) {first second : Node}
    (one : CallBelow options.target (root tree) first)
    (other : CallBelow options.target (root tree) second) (same : first.key = second.key) :
    first = second := eq_of_key distinct one.2 other.2 (kind_of_isTargetCall one.1) same

/-- The rule reports nothing at once, so only a read could settle a call. -/
theorem not_settles (distinct : tree.DistinctCalls)
    (call : CallBelow options.target (root tree) site)
    (shadowed : OnlyShadowedReads options tree site) :
    ¬ Action.Settles (acted options tree) (finding options site).subject := by
  rintro (reported | satisfied)
  · obtain ⟨found, reported, _⟩ := List.mem_map.1 reported
    obtain ⟨action, acts, same⟩ := List.mem_filterMap.1 reported
    obtain ⟨_, seen, member, acts⟩ := react_of_mem_acted acts
    obtain ⟨_, _, ⟨_, _, rfl⟩ | rfl⟩ | ⟨_, _, _, _, _, _, _, _, _, rfl⟩ := react_cases acts
    · cases same
    · cases same
    · cases same
  · obtain ⟨action, acts, same⟩ := List.mem_filterMap.1 satisfied
    cases action with
    | report other => cases same
    | defer other => cases same
    | satisfy rule other =>
      have key : other.key = site.key := congrArg Subject.site (Option.some.inj same)
      obtain rfl := eq_of_callBelow distinct (callBelow_of_satisfy acts) call key
      exact not_satisfy shadowed acts

theorem bound_of_deferred {found : Finding}
    (waits : found ∈ Action.deferrals (acted options tree)) :
    ∃ binding ∈ (walked options tree).bindings, found = finding options binding.site := by
  obtain ⟨action, acts, same⟩ := List.mem_filterMap.1 waits
  obtain ⟨_, seen, member, acts⟩ := react_of_mem_acted acts
  obtain ⟨binding, rfl, ⟨_, _, rfl⟩ | rfl⟩ | ⟨_, _, _, _, _, _, _, _, _, rfl⟩ := react_cases acts
  · cases same
  · cases same
    exact ⟨binding, Tracker.mem_bindings_iff.2 member, rfl⟩
  · cases same

theorem deferred_of_bound (bound : binding ∈ (walked options tree).bindings)
    (kind : binding.kind ≠ .callback)
    (shadowed : OnlyShadowedReads options tree binding.site) :
    finding options binding.site ∈ Action.deferrals (acted options tree) := by
  refine List.mem_filterMap.2 ⟨.defer (finding options binding.site), ?_, rfl⟩
  refine mem_acted_of_react (Tracker.mem_bindings_iff.1 bound) fun past => ?_
  rw [Rule.react, if_pos rfl, onBound, if_neg kind, if_neg (not_readAfter shadowed bound)]
  exact List.mem_singleton.2 rfl

/-- Of the deferrals about one call the first stays, and it says what the others say. -/
theorem missing_mem_diagnose (distinct : tree.DistinctCalls)
    (bound : binding ∈ (walked options tree).bindings) (kind : binding.kind ≠ .callback)
    (shadowed : OnlyShadowedReads options tree binding.site) :
    missing options source file? binding.site ∈
      Analysis.diagnose ⟨options, [.statusCheck]⟩ (root tree) source file? := by
  have call := (made bound).1
  have unmet := Action.mem_subjects_unmet.2
    ⟨List.mem_map_of_mem (deferred_of_bound bound kind shadowed),
      not_settles distinct call shadowed⟩
  obtain ⟨first, member, same⟩ := List.mem_map.1 unmet
  have waits := (Finding.firsts_sublist _).subset (List.mem_filter.1 member).1
  obtain ⟨other, otherBound, rfl⟩ := bound_of_deferred waits
  have about := eq_of_callBelow distinct (made otherBound).1 call (congrArg Subject.site same)
  rw [about] at member
  have diagnosed := Sink.diagnostics_flush_foldl source .characters file? (acted options tree)
  change _ ∈ ((acted options tree).foldl Sink.apply
    (Sink.fresh source .characters file?)).flush.diagnostics
  rw [diagnosed]
  exact List.mem_append_right _ (List.mem_map.2 ⟨_, member, rfl⟩)

/-- A call is satisfied by a read that follows its binding, by a read without a name,
or by a read of a name that stands for it. No read follows a binding from which it
is shadowed. No name stands, where it is read, for a response that was bound outside
of a block which has declared the name before. A response that is given a name but
has only such reads is reported. -/
theorem only_unshadowed_reads_count (options : Options) (tree : Tree) (source : Bytes)
    (file? : Option String) :
    (∀ site, .satisfy Rule.statusCheck.id site ∈ acted options tree ↔
        (∃ binding ∈ (walked options tree).bindings, binding.kind ≠ .callback ∧
          binding.site = site ∧ ∃ read, Follows binding.name binding.origin read ∧
            read.readsProperty binding.name properties = true) ∨
        (∃ read ∈ (root tree).preorder, statusOf? read = some site ∧
          site.isTargetCall options.target = true) ∨
        ∃ read binding, Resolves options tree read binding ∧ binding.site = site) ∧
      (∀ name origin read, Follows name origin read → ¬ Shadowed name read origin) ∧
      (∀ read binding, Resolves options tree read binding →
        ¬ ShadowedBefore binding.name read binding.origin) ∧
      (tree.DistinctCalls →
        ∃ analysis, Analysis.ofIds options (some ["require-status-check"]) = .ok analysis ∧
          ∀ binding ∈ (walked options tree).bindings, binding.kind ≠ .callback →
            OnlyShadowedReads options tree binding.site →
            missing options source file? binding.site ∈
              analysis.diagnose (root tree) source file?) := by
  refine ⟨fun site => satisfied_iff, fun name origin read => Follows.not_shadowed,
    fun read binding => not_shadowedBefore_of_resolves, ?_⟩
  intro distinct
  refine ⟨_, Analysis.ofIds_of_rule options .statusCheck, ?_⟩
  intro binding bound kind shadowed
  exact missing_mem_diagnose distinct bound kind shadowed

end StatusCheck

/-- A response with a namesake in a block that is declared before it is read. -/
def blockNamesake.source : Bytes :=
  Utf8.encode "const r = fetch();\n\x7b const r = 1; r.ok; \x7d"

def blockNamesake : Tree :=
  (Tree.ofOutline? blockNamesake.source
    [⟨"program", true, false, "", 0, 41, 2⟩,
      ⟨"lexical_declaration", true, false, "", 0, 18, 3⟩,
      ⟨"const", false, false, "kind", 0, 5, 0⟩,
      ⟨"variable_declarator", true, false, "", 6, 17, 3⟩,
      ⟨"identifier", true, false, "name", 6, 7, 0⟩,
      ⟨"=", false, false, "", 8, 9, 0⟩,
      ⟨"call_expression", true, false, "value", 10, 17, 2⟩,
      ⟨"identifier", true, false, "function", 10, 15, 0⟩,
      ⟨"arguments", true, false, "arguments", 15, 17, 2⟩,
      ⟨"(", false, false, "", 15, 16, 0⟩,
      ⟨")", false, false, "", 16, 17, 0⟩,
      ⟨";", false, false, "", 17, 18, 0⟩,
      ⟨"statement_block", true, false, "", 19, 41, 4⟩,
      ⟨"\x7b", false, false, "", 19, 20, 0⟩,
      ⟨"lexical_declaration", true, false, "", 21, 33, 3⟩,
      ⟨"const", false, false, "kind", 21, 26, 0⟩,
      ⟨"variable_declarator", true, false, "", 27, 32, 3⟩,
      ⟨"identifier", true, false, "name", 27, 28, 0⟩,
      ⟨"=", false, false, "", 29, 30, 0⟩,
      ⟨"number", true, false, "value", 31, 32, 0⟩,
      ⟨";", false, false, "", 32, 33, 0⟩,
      ⟨"expression_statement", true, false, "", 34, 39, 2⟩,
      ⟨"member_expression", true, false, "", 34, 38, 3⟩,
      ⟨"identifier", true, false, "object", 34, 35, 0⟩,
      ⟨".", false, false, "", 35, 36, 0⟩,
      ⟨"property_identifier", true, false, "property", 36, 38, 0⟩,
      ⟨";", false, false, "", 38, 39, 0⟩,
      ⟨"\x7d", false, false, "", 40, 41, 0⟩]).getD (Tree.blank blockNamesake.source)

namespace StatusCheck
open Node

theorem only_unshadowed_reads_count_blockNamesake :
    ∃ analysis, Analysis.ofIds {} (some ["require-status-check"]) = .ok analysis ∧
      ∃ diagnostic ∈ analysis.diagnose (root blockNamesake) blockNamesake.source none,
        diagnostic.start = 10 ∧ diagnostic.stop = 17 := by
  have distinct : blockNamesake.DistinctCalls := by
    unfold Tree.DistinctCalls
    decide +kernel
  obtain ⟨_, _, _, reports⟩ := only_unshadowed_reads_count {} blockNamesake
    blockNamesake.source none
  obtain ⟨analysis, accepted, reports⟩ := reports distinct
  have given : ∃ binding ∈ (walked {} blockNamesake).bindings, binding.kind ≠ .callback ∧
      binding.site.start = 10 ∧ binding.site.stop = 17 ∧
      (∀ read ∈ (root blockNamesake).preorder, statusOf? read ≠ some binding.site) ∧
      ∀ other ∈ (walked {} blockNamesake).bindings, other.site = binding.site →
        ∀ read ∈ (root blockNamesake).preorder, Reads read other.name →
          ShadowedBefore other.name read other.origin := by
    decide +kernel
  obtain ⟨binding, bound, kind, start, stop, direct, named⟩ := given
  exact ⟨analysis, accepted, _, reports binding bound kind ⟨direct, named⟩, start, stop⟩

end StatusCheck

/-- A response with namesakes of other kinds: a `catch` parameter, the variable of a
loop, a class and a function. -/
def otherNamesakes.source : Bytes :=
  Utf8.encode ("const r = fetch();\ntry \x7b\x7d catch (r) \x7b r.ok; \x7d\n" ++
    "for (const r of x) r.ok;\n\x7b class r \x7b\x7d r.ok; \x7d\n" ++
    "\x7b function r() \x7b\x7d r.ok; \x7d")

def otherNamesakes : Tree :=
  (Tree.ofOutline? otherNamesakes.source
    [⟨"program", true, false, "", 0, 117, 5⟩,
      ⟨"lexical_declaration", true, false, "", 0, 18, 3⟩,
      ⟨"const", false, false, "kind", 0, 5, 0⟩,
      ⟨"variable_declarator", true, false, "", 6, 17, 3⟩,
      ⟨"identifier", true, false, "name", 6, 7, 0⟩,
      ⟨"=", false, false, "", 8, 9, 0⟩,
      ⟨"call_expression", true, false, "value", 10, 17, 2⟩,
      ⟨"identifier", true, false, "function", 10, 15, 0⟩,
      ⟨"arguments", true, false, "arguments", 15, 17, 2⟩,
      ⟨"(", false, false, "", 15, 16, 0⟩,
      ⟨")", false, false, "", 16, 17, 0⟩,
      ⟨";", false, false, "", 17, 18, 0⟩,
      ⟨"try_statement", true, false, "", 19, 45, 3⟩,
      ⟨"try", false, false, "", 19, 22, 0⟩,
      ⟨"statement_block", true, false, "body", 23, 25, 2⟩,
      ⟨"\x7b", false, false, "", 23, 24, 0⟩,
      ⟨"\x7d", false, false, "", 24, 25, 0⟩,
      ⟨"catch_clause", true, false, "handler", 26, 45, 5⟩,
      ⟨"catch", false, false, "", 26, 31, 0⟩,
      ⟨"(", false, false, "", 32, 33, 0⟩,
      ⟨"identifier", true, false, "parameter", 33, 34, 0⟩,
      ⟨")", false, false, "", 34, 35, 0⟩,
      ⟨"statement_block", true, false, "body", 36, 45, 3⟩,
      ⟨"\x7b", false, false, "", 36, 37, 0⟩,
      ⟨"expression_statement", true, false, "", 38, 43, 2⟩,
      ⟨"member_expression", true, false, "", 38, 42, 3⟩,
      ⟨"identifier", true, false, "object", 38, 39, 0⟩,
      ⟨".", false, false, "", 39, 40, 0⟩,
      ⟨"property_identifier", true, false, "property", 40, 42, 0⟩,
      ⟨";", false, false, "", 42, 43, 0⟩,
      ⟨"\x7d", false, false, "", 44, 45, 0⟩,
      ⟨"for_in_statement", true, false, "", 46, 70, 8⟩,
      ⟨"for", false, false, "", 46, 49, 0⟩,
      ⟨"(", false, false, "", 50, 51, 0⟩,
      ⟨"const", false, false, "kind", 51, 56, 0⟩,
      ⟨"identifier", true, false, "left", 57, 58, 0⟩,
      ⟨"of", false, false, "operator", 59, 61, 0⟩,
      ⟨"identifier", true, false, "right", 62, 63, 0⟩,
      ⟨")", false, false, "", 63, 64, 0⟩,
      ⟨"expression_statement", true, false, "body", 65, 70, 2⟩,
      ⟨"member_expression", true, false, "", 65, 69, 3⟩,
      ⟨"identifier", true, false, "object", 65, 66, 0⟩,
      ⟨".", false, false, "", 66, 67, 0⟩,
      ⟨"property_identifier", true, false, "property", 67, 69, 0⟩,
      ⟨";", false, false, "", 69, 70, 0⟩,
      ⟨"statement_block", true, false, "", 71, 91, 4⟩,
      ⟨"\x7b", false, false, "", 71, 72, 0⟩,
      ⟨"class_declaration", true, false, "", 73, 83, 3⟩,
      ⟨"class", false, false, "", 73, 78, 0⟩,
      ⟨"identifier", true, false, "name", 79, 80, 0⟩,
      ⟨"class_body", true, false, "body", 81, 83, 2⟩,
      ⟨"\x7b", false, false, "", 81, 82, 0⟩,
      ⟨"\x7d", false, false, "", 82, 83, 0⟩,
      ⟨"expression_statement", true, false, "", 84, 89, 2⟩,
      ⟨"member_expression", true, false, "", 84, 88, 3⟩,
      ⟨"identifier", true, false, "object", 84, 85, 0⟩,
      ⟨".", false, false, "", 85, 86, 0⟩,
      ⟨"property_identifier", true, false, "property", 86, 88, 0⟩,
      ⟨";", false, false, "", 88, 89, 0⟩,
      ⟨"\x7d", false, false, "", 90, 91, 0⟩,
      ⟨"statement_block", true, false, "", 92, 117, 4⟩,
      ⟨"\x7b", false, false, "", 92, 93, 0⟩,
      ⟨"function_declaration", true, false, "", 94, 109, 4⟩,
      ⟨"function", false, false, "", 94, 102, 0⟩,
      ⟨"identifier", true, false, "name", 103, 104, 0⟩,
      ⟨"formal_parameters", true, false, "parameters", 104, 106, 2⟩,
      ⟨"(", false, false, "", 104, 105, 0⟩,
      ⟨")", false, false, "", 105, 106, 0⟩,
      ⟨"statement_block", true, false, "body", 107, 109, 2⟩,
      ⟨"\x7b", false, false, "", 107, 108, 0⟩,
      ⟨"\x7d", false, false, "", 108, 109, 0⟩,
      ⟨"expression_statement", true, false, "", 110, 115, 2⟩,
      ⟨"member_expression", true, false, "", 110, 114, 3⟩,
      ⟨"identifier", true, false, "object", 110, 111, 0⟩,
      ⟨".", false, false, "", 111, 112, 0⟩,
      ⟨"property_identifier", true, false, "property", 112, 114, 0⟩,
      ⟨";", false, false, "", 114, 115, 0⟩,
      ⟨"\x7d", false, false, "", 116, 117, 0⟩]).getD (Tree.blank otherNamesakes.source)

namespace StatusCheck
open Node

/-- Every read is one of a namesake that is declared before it; the walk takes each of
them for a read of the response, which is not reported. -/
theorem otherNamesakes_count :
    ∃ binding ∈ (walked {} otherNamesakes).bindings, binding.kind = .declaration ∧
      ((root otherNamesakes).preorder.filter fun read => (statusOf? read).isSome).length = 4 ∧
      (∀ read ∈ (root otherNamesakes).preorder, (statusOf? read).isSome →
        Reads read binding.name ∧ Shadowed binding.name read binding.origin ∧
          Resolves {} otherNamesakes read binding) ∧
      Analysis.diagnose ⟨{}, [.statusCheck]⟩ (root otherNamesakes) otherNamesakes.source none =
        [] := by
  decide +kernel

end StatusCheck
end RequestLint
