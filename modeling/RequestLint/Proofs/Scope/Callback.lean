import RequestLint.Proofs.Scope.Parameters

/-! Responses that are handed to a callback. The function in `call.then(function)` is
handed what `call` stands for, and its first parameter is bound to that, if it is a
bare name: a parameter that the grammar wraps into a node of its own, as that of a
typed language, is declared and not bound. Each visit makes bindings of its own
origins only, so a parameter is bound by the function it belongs to and never again. -/
namespace RequestLint

namespace Node

variable {function node : Node}

theorem wrappedIn_outermost (node : Node) : WrappedIn node node.outermost := by
  induction node using upward with
  | root node top =>
    rw [outermost, ancestors_of_root top]
    exact .refl
  | step node parent found ih =>
    rw [outermost_of_parent? found]
    split
    next wraps => exact .head ⟨found, wraps⟩ ih
    next => exact .refl

/-- A plain name as a parameter, bare or in a node of its own. -/
def IsPlainParameter (parameter : Node) (name : String) : Prop :=
  parameter.isName name = true ∨
    parameter.kind = "required_parameter" ∧
      (parameter.child? "pattern").any (·.isName name) = true

theorem boundNames_of_isPlainParameter {parameter : Node} {name : String}
    (plain : parameter.IsPlainParameter name) : parameter.boundNames = [name] := by
  have ofName {node : Node} (named : node.isName name = true) : node.boundNames = [name] := by
    rw [isName, Bool.and_eq_true, decide_eq_true_eq, decide_eq_true_eq] at named
    rw [boundNames_of_identifier named.1, named.2]
  rcases plain with bare | ⟨kind, pattern⟩
  · exact ofName bare
  · obtain ⟨inner, found, named⟩ := (Option.any_eq_true _ _).1 pattern
    rw [boundNames_eq_flatMap, bindingParts_of_field (by rw [kind]; decide) (by rw [kind]; rfl),
      found, kind, if_neg (by decide), if_neg (by decide)]
    exact (List.flatMap_singleton _ _).trans (ofName named)

/-- The function stands among the arguments of a call. -/
def IsArgument (function : Node) : Prop :=
  function.isFunctionLike = true ∧ ∃ list, StandsIn function list ∧ list.kind = "arguments"

theorem not_isArgument_of_parent? {outer : Node} (above : function.parent? = some outer)
    (inside : outer.isFunctionLike = true) : ¬ function.IsArgument := by
  rintro ⟨_, list, stands, kind⟩
  have plain : outer.isWrapper = false := by
    have disjoint : ∀ kind ∈ functionKinds, kind ∉ wrapperKinds := by decide
    exact decide_eq_false (disjoint _ (of_decide_eq_true inside))
  have same := stands.unique ⟨function, .refl, above, plain⟩
  rw [← same, isFunctionLike, kind] at inside
  exact absurd inside (by decide)

/-- A parameter belongs to one function only, of those that are arguments. -/
theorem eq_of_parameters {other parameter : Node} (one : parameter ∈ function.parameters)
    (argument : function.IsArgument) (second : parameter ∈ other.parameters)
    (argument' : other.IsArgument) : other = function := by
  rcases parent?_of_parameters one with above | ⟨list, above, higher⟩
  · rcases parent?_of_parameters second with above' | ⟨list', above', higher'⟩
    · exact Option.some.inj (above'.symm.trans above)
    · obtain rfl := Option.some.inj (above.symm.trans above')
      exact absurd argument (not_isArgument_of_parent? higher' argument'.1)
  · rcases parent?_of_parameters second with above' | ⟨list', above', higher'⟩
    · obtain rfl := Option.some.inj (above'.symm.trans above)
      exact absurd argument' (not_isArgument_of_parent? higher argument.1)
    · obtain rfl := Option.some.inj (above.symm.trans above')
      exact Option.some.inj (higher'.symm.trans higher)

end Node

namespace Tracker
open Node

variable {tree : Tree} {tracker : Tracker} {function call site first origin : Node}
  {rest : List Node} {visit : Visit}

/-- The response that reaches a function through `call.then(function)` is what the call
in front stands for. -/
theorem callbackSite?_of_argument (continues : call.methodName? = some "then")
    (handed : call.argument? 0 = some function.outermost) :
    tracker.callbackSite? function =
      call.receiver?.bind (tracker.scopes.resolve? tracker.target) := by
  obtain ⟨list, held, kind, part⟩ := mem_parts_of_argument? handed
  have around : function.context? = some list :=
    (climbs_iff.2 ⟨wrappedIn_outermost function, parent?_of_mem_parts part,
      isWrapper_of_kind kind (by decide)⟩).2
  simp [callbackSite?, around, parent?_of_child? held, handed, kind, continues, sameSite_self]

theorem isArgument_of_callbackSite? (kind : function.isFunctionLike = true)
    (calls : tracker.callbackSite? function = some site) : function.IsArgument := by
  obtain ⟨list, around, calls⟩ := Option.bind_eq_some_iff.1 calls
  obtain ⟨call, above, calls⟩ := Option.bind_eq_some_iff.1 calls
  obtain ⟨_, _, calls⟩ := Option.bind_eq_some_iff.1 calls
  split at calls
  next given => exact ⟨kind, list, context?_eq_some_iff.1 around, given.1⟩
  next => cases calls

/-- The visit can bind a name at this origin: a parameter of the function that is
entered, or the declarator or assignment that is left. -/
def Makes : Visit → Node → Prop
  | .enter function, origin => function.IsArgument ∧ origin ∈ function.parameters
  | .leave node, origin =>
    origin = node ∧ node.kind ∈ ["variable_declarator", "assignment_expression"]

theorem bindings_bind (tracker : Tracker) (binding : Binding) :
    (tracker.bind binding).bindings = tracker.bindings ++ [binding] := by
  simp [bind, bindings, Observation.bound?]

theorem bindings_rebind (tracker : Tracker) (binding : Binding) :
    (tracker.rebind binding).bindings = tracker.bindings ++ [binding] := by
  simp [rebind, bindings, Observation.bound?]

theorem bindings_step_enter (tracker : Tracker) (node : Node) :
    (tracker.step (.enter node)).bindings =
      (if node.isFunctionLike then tracker.enterFunction node else tracker).bindings := by
  simp [step, bindings, Observation.bound?]

theorem bindings_step (tracker : Tracker) (visit : Visit) :
    ∃ made, (tracker.step visit).bindings = tracker.bindings ++ made ∧
      ∀ binding ∈ made, Makes visit binding.origin := by
  have unchanged {after : Tracker} (same : after.bindings = tracker.bindings) :
      ∃ made, after.bindings = tracker.bindings ++ made ∧
        ∀ binding ∈ made, Makes visit binding.origin :=
    ⟨[], by rw [same, List.append_nil], nofun⟩
  have one {binding : Binding} (makes : Makes visit binding.origin) :
      ∃ made, tracker.bindings ++ [binding] = tracker.bindings ++ made ∧
        ∀ binding ∈ made, Makes visit binding.origin :=
    ⟨[binding], rfl, fun _ member => List.mem_singleton.1 member ▸ makes⟩
  cases visit with
  | enter node =>
    rw [bindings_step_enter]
    split
    next kind =>
      rcases enterFunction_cases tracker node with same | ⟨first, member, _, site, calls, same⟩
      · rw [same]
        exact unchanged rfl
      · rw [same, bindings_bind]
        exact one ⟨isArgument_of_callbackSite? kind calls, member⟩
    next => exact unchanged rfl
  | leave node =>
    rw [step]
    split
    · exact unchanged rfl
    split
    next declarator =>
      rcases leaveDeclarator_cases tracker node with same | ⟨_, _, _, _, _, _, same⟩
      · rw [same]
        exact unchanged rfl
      · rw [same, bindings_bind]
        exact one ⟨rfl, by simp [declarator]⟩
    split
    next assignment =>
      rcases leaveAssignment_cases tracker node with same | ⟨_, same⟩ | ⟨_, _, _, _, _, same⟩
      · exact unchanged (by rw [same])
      · rw [same]
        exact unchanged rfl
      · rw [same, bindings_rebind]
        exact one ⟨rfl, by simp [assignment]⟩
    · exact unchanged rfl

/-- The bindings made at one place. -/
def boundAt (tracker : Tracker) (origin : Node) : List Binding :=
  tracker.bindings.filter (·.origin = origin)

theorem boundAt_step (idle : ¬ Makes visit origin) :
    (tracker.step visit).boundAt origin = tracker.boundAt origin := by
  obtain ⟨made, grown, makes⟩ := bindings_step tracker visit
  have elsewhere : made.filter (·.origin = origin) = [] := by
    refine List.filter_eq_nil_iff.2 fun binding member same => ?_
    exact idle (of_decide_eq_true same ▸ makes binding member)
  rw [boundAt, grown, List.filter_append, elsewhere, List.append_nil]
  rfl

theorem boundAt_foldl {visits : List Visit} (idle : ∀ visit ∈ visits, ¬ Makes visit origin) :
    (visits.foldl step tracker).boundAt origin = tracker.boundAt origin := by
  induction visits generalizing tracker with
  | nil => rfl
  | cons visit visits ih =>
    rw [List.foldl_cons, ih fun later member => idle later (List.mem_cons_of_mem _ member)]
    exact boundAt_step (idle visit List.mem_cons_self)

/-- Nothing but entering its function binds a parameter. -/
theorem not_makes (argument : function.IsArgument) (member : first ∈ function.parameters)
    (other : visit ≠ .enter function)
    (parameter : first.kind ∉ ["variable_declarator", "assignment_expression"]) :
    ¬ Makes visit first := by
  intro makes
  cases visit with
  | enter second => exact other (by rw [eq_of_parameters member argument makes.2 makes.1])
  | leave node => exact parameter (makes.1 ▸ makes.2)

/-- In a whole walk, a parameter is bound as often as on entering its function. -/
theorem boundAt_walk (target : String) {before after : List Visit}
    (split : (root tree).visits = before ++ .enter function :: after)
    (argument : function.IsArgument) (member : first ∈ function.parameters)
    (parameter : first.kind ∉ ["variable_declarator", "assignment_expression"]) :
    (reached target before).boundAt first = [] ∧
      (walk target (root tree)).boundAt first =
        (reached target (before ++ [.enter function])).boundAt first := by
  have distinct := nodup_visits (root tree)
  rw [split, List.nodup_append, List.nodup_cons] at distinct
  obtain ⟨_, ⟨later, _⟩, apart⟩ := distinct
  constructor
  · refine boundAt_foldl fun visit earlier => not_makes argument member ?_ parameter
    exact apart visit earlier _ List.mem_cons_self
  · rw [walk_eq_reached, split, List.append_cons, reached_append]
    refine boundAt_foldl fun visit again => not_makes argument member ?_ parameter
    exact fun same => later (same ▸ again)

/-- What is bound on entering a function is all that is bound there. -/
theorem boundAt_walk_of_made (target : String) {before after : List Visit} {made : List Binding}
    (split : (root tree).visits = before ++ .enter function :: after)
    (argument : function.IsArgument) (member : first ∈ function.parameters)
    (parameter : first.kind ∉ ["variable_declarator", "assignment_expression"])
    (grown : (reached target (before ++ [.enter function])).bindings =
      (reached target before).bindings ++ made)
    (origin : ∀ binding ∈ made, binding.origin = first) :
    (walk target (root tree)).boundAt first = made := by
  obtain ⟨none_yet, same⟩ := boundAt_walk target split argument member parameter
  have own : made.filter (·.origin = first) = made :=
    List.filter_eq_self.2 fun binding new => decide_eq_true (origin binding new)
  rw [same, boundAt, grown, List.filter_append, own]
  exact congrArg (· ++ made) none_yet

theorem enterFunction_of_bare {name : String} (calls : tracker.callbackSite? function = some site)
    (listed : function.parameters = first :: rest) (bare : first.isName name = true) :
    (tracker.enterFunction function).scopes.lookup name =
        some ⟨name, site, .callback, first⟩ ∧
      (tracker.enterFunction function).bindings =
        tracker.bindings ++ [⟨name, site, .callback, first⟩] := by
  rw [isName, Bool.and_eq_true, decide_eq_true_eq, decide_eq_true_eq] at bare
  rw [enterFunction_eq_bind calls listed, if_pos bare.1, bare.2]
  refine ⟨?_, bindings_bind _ _⟩
  exact Scopes.lookup_of_known (Scopes.view_set.trans (if_pos rfl))

theorem enterFunction_of_wrapped {name : String}
    (calls : tracker.callbackSite? function = some site)
    (listed : function.parameters = first :: rest) (plain : first.IsPlainParameter name)
    (wrapped : first.kind = "required_parameter") :
    (tracker.enterFunction function).scopes.lookup name = none ∧
      (tracker.enterFunction function).bindings = tracker.bindings := by
  rw [enterFunction_eq_bind calls listed, if_neg (by rw [wrapped]; decide)]
  have declared : name ∈ function.parameterNames.map text := by
    rw [← flatMap_boundNames_parameters, listed, List.flatMap_cons,
      boundNames_of_isPlainParameter plain]
    exact List.mem_append_left _ List.mem_cons_self
  exact ⟨Scopes.lookup_of_known (view_opened.trans (by rw [if_pos declared])), rfl⟩

/-- The response of a request that is handed to a callback. If its first parameter is
a bare name, then that name stands for the response from the moment the function is
entered, and this is recorded there and nowhere else in the walk. If the name stands
in a node of its own, it is hidden instead and never bound. -/
theorem callback_bound_if_bare (target name : String) {before after : List Visit}
    (split : (root tree).visits = before ++ .enter function :: after)
    (kind : function.isFunctionLike = true) (continues : call.methodName? = some "then")
    (handed : call.argument? 0 = some function.outermost)
    (resolved : call.receiver?.bind ((reached target before).scopes.resolve? target) = some site)
    (listed : function.parameters = first :: rest) (plain : first.IsPlainParameter name) :
    ∀ outside inside walked, outside = reached target before →
      inside = reached target (before ++ [.enter function]) → walked = walk target (root tree) →
      (first.kind = "identifier" →
        ∃ binding : Binding, binding = ⟨name, site, .callback, first⟩ ∧
          inside.scopes.lookup name = some binding ∧
          inside.bindings = outside.bindings ++ [binding] ∧
          walked.bindings.filter (·.origin = first) = [binding]) ∧
      (first.kind = "required_parameter" →
        inside.scopes.lookup name = none ∧ inside.bindings = outside.bindings ∧
        walked.bindings.filter (·.origin = first) = []) := by
  rintro outside inside walked rfl rfl rfl
  have calls : (reached target before).callbackSite? function = some site := by
    rw [callbackSite?_of_argument continues handed, (traced_reached target split).aim, resolved]
  have argument := isArgument_of_callbackSite? kind calls
  have member : first ∈ function.parameters := listed ▸ List.mem_cons_self
  have scopes : (reached target (before ++ [.enter function])).scopes =
      ((reached target before).enterFunction function).scopes := by
    rw [reached_append]
    exact scopes_step_enter kind
  have bindings : (reached target (before ++ [.enter function])).bindings =
      ((reached target before).enterFunction function).bindings := by
    rw [reached_append, List.foldl_cons, List.foldl_nil, bindings_step_enter, if_pos kind]
  rw [scopes]
  constructor
  · intro identifier
    have bare : first.isName name = true := by
      refine plain.resolve_right fun other => ?_
      exact absurd (identifier.symm.trans other.1) (by decide)
    obtain ⟨found, made⟩ := enterFunction_of_bare calls listed bare
    refine ⟨_, rfl, found, bindings.trans made, ?_⟩
    refine boundAt_walk_of_made target split argument member (by rw [identifier]; decide)
      (bindings.trans made) fun binding new => ?_
    rw [List.mem_singleton.1 new]
  · intro wrapped
    obtain ⟨hidden, made⟩ := enterFunction_of_wrapped calls listed plain wrapped
    refine ⟨hidden, bindings.trans made, ?_⟩
    refine boundAt_walk_of_made target split argument member (by rw [wrapped]; decide) ?_ nofun
    rw [bindings, made, List.append_nil]

theorem callback_bound_if_bare_shadowingCallback :
    ∃ function ∈ (root shadowingCallback).preorder, function.isFunctionLike = true ∧
      ∃ first, function.parameters = [first] ∧ first.IsPlainParameter "r" ∧
        first.kind = "identifier" ∧
        ∃ binding : Binding, binding.site.start = 19 ∧
          (walk "fetch" (root shadowingCallback)).bindings.filter (·.origin = first) =
            [binding] := by
  have given : ∃ function ∈ (root shadowingCallback).preorder, function.isFunctionLike = true ∧
      ∃ call ∈ (root shadowingCallback).preorder, call.methodName? = some "then" ∧
        call.argument? 0 = some function.outermost ∧
        ∃ site ∈ (root shadowingCallback).preorder, site.start = 19 ∧
          call.receiver?.bind ((reached "fetch" function.prior).scopes.resolve? "fetch") =
            some site ∧
          ∃ first ∈ (root shadowingCallback).preorder, function.parameters = [first] ∧
            first.isName "r" = true ∧ first.kind = "identifier" := by
    decide +kernel
  obtain ⟨function, listed, kind, call, _, continues, handed, site, _, start, resolved, first, _,
    parameters, named, identifier⟩ := given
  obtain ⟨after, split⟩ := visits_split listed
  rw [visits_eq function, List.cons_append, List.cons_append] at split
  obtain ⟨binding, rfl, _, _, once⟩ := (callback_bound_if_bare "fetch" "r" split kind continues
    handed resolved parameters (Or.inl named) _ _ _ rfl rfl rfl).1 identifier
  exact ⟨function, listed, kind, first, parameters, Or.inl named, identifier, _, start, once⟩

/-- A callback whose parameter is wrapped into a node of its own. -/
def typedCallback.source : Bytes := Utf8.encode "fetch('/a').then((r) => r.json());"

def typedCallback : Tree :=
  (Tree.ofOutline? typedCallback.source
    [⟨"program", true, false, "", 0, 34, 1⟩,
      ⟨"expression_statement", true, false, "", 0, 34, 2⟩,
      ⟨"call_expression", true, false, "", 0, 33, 2⟩,
      ⟨"member_expression", true, false, "function", 0, 16, 3⟩,
      ⟨"call_expression", true, false, "object", 0, 11, 2⟩,
      ⟨"identifier", true, false, "function", 0, 5, 0⟩,
      ⟨"arguments", true, false, "arguments", 5, 11, 3⟩,
      ⟨"(", false, false, "", 5, 6, 0⟩,
      ⟨"string", true, false, "", 6, 10, 3⟩,
      ⟨"'", false, false, "", 6, 7, 0⟩,
      ⟨"string_fragment", true, false, "", 7, 9, 0⟩,
      ⟨"'", false, false, "", 9, 10, 0⟩,
      ⟨")", false, false, "", 10, 11, 0⟩,
      ⟨".", false, false, "", 11, 12, 0⟩,
      ⟨"property_identifier", true, false, "property", 12, 16, 0⟩,
      ⟨"arguments", true, false, "arguments", 16, 33, 3⟩,
      ⟨"(", false, false, "", 16, 17, 0⟩,
      ⟨"arrow_function", true, false, "", 17, 32, 3⟩,
      ⟨"formal_parameters", true, false, "parameters", 17, 20, 3⟩,
      ⟨"(", false, false, "", 17, 18, 0⟩,
      ⟨"required_parameter", true, false, "", 18, 19, 1⟩,
      ⟨"identifier", true, false, "pattern", 18, 19, 0⟩,
      ⟨")", false, false, "", 19, 20, 0⟩,
      ⟨"=>", false, false, "", 21, 23, 0⟩,
      ⟨"call_expression", true, false, "body", 24, 32, 2⟩,
      ⟨"member_expression", true, false, "function", 24, 30, 3⟩,
      ⟨"identifier", true, false, "object", 24, 25, 0⟩,
      ⟨".", false, false, "", 25, 26, 0⟩,
      ⟨"property_identifier", true, false, "property", 26, 30, 0⟩,
      ⟨"arguments", true, false, "arguments", 30, 32, 2⟩,
      ⟨"(", false, false, "", 30, 31, 0⟩,
      ⟨")", false, false, "", 31, 32, 0⟩,
      ⟨")", false, false, "", 32, 33, 0⟩,
      ⟨";", false, false, "", 33, 34, 0⟩]).getD (Tree.blank typedCallback.source)

/-- The name of a parameter in a node of its own is not bound to the response. -/
theorem typedCallback_not_bound :
    ∃ function ∈ (root typedCallback).preorder, function.isFunctionLike = true ∧
      ∃ call ∈ (root typedCallback).preorder, call.methodName? = some "then" ∧
        call.argument? 0 = some function.outermost ∧
        (call.receiver?.bind ((reached "fetch" function.prior).scopes.resolve? "fetch")).map start =
          some 0 ∧
        (∃ first ∈ function.parameters, first.kind = "required_parameter" ∧
          (first.child? "pattern").any (·.isName "r") = true) ∧
        (reached "fetch" (function.prior ++ [.enter function])).scopes.lookup "r" = none ∧
        (walk "fetch" (root typedCallback)).bindings = [] := by
  decide +kernel

end Tracker
end RequestLint
