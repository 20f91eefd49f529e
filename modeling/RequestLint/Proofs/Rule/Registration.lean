import RequestLint.Analysis
import RequestLint.Proofs.Scope.Tracking
import RequestLint.Proofs.Syntax.Handlers

/-! An analysis as one walk with registered handlers. The tracker registers first, so
every rule sees the bindings of the moment. A rule registers for one kind of node and
hears of each binding as it is made. The end of the unit flushes the sink. -/
namespace RequestLint

/-- What one unit carries along its walk. `calls` holds the calls entered so far, newest
first, each with the scopes of that moment. -/
structure Pass where
  scopes : Scopes := {}
  calls : List Observation := []
  sink : Sink

namespace Pass

/-- Before the walk. -/
def start (source : Bytes) (file? : Option String) : Pass where
  sink := { source := source, file? := file? }

/-- Keeps a call in mind, for rules that ask what came before. -/
def remember (node : Node) (pass : Pass) : Pass :=
  { pass with calls := .entered node pass.scopes :: pass.calls }

def flush (pass : Pass) : Pass := { pass with sink := pass.sink.flush }

end Pass

/-- Closes the scope of a function. -/
def Tracker.leaveFunction (tracker : Tracker) (function : Node) : Tracker :=
  { tracker with scopes := tracker.scopes.leave function }

/-- The kind of the nodes that a rule waits for. -/
def Rule.kind : Rule → String
  | statusCheck => "member_expression"
  | _ => "call_expression"

def Observation.isCall : Observation → Bool
  | entered node _ => node.kind = "call_expression"
  | bound _ => false

namespace Analysis

/-- The tracker acts on a node, and the rules hear of the bindings that it makes. -/
def track (analysis : Analysis) (act : Tracker → Node → Tracker) (node : Node) (pass : Pass) :
    Pass :=
  let tracker := act { target := analysis.options.target, scopes := pass.scopes } node
  { pass with
    scopes := tracker.scopes
    sink := (analysis.actions tracker.history).foldl Sink.apply pass.sink }

/-- A rule judges a node in the light of the calls before it. -/
def visit (analysis : Analysis) (rule : Rule) (node : Node) (pass : Pass) : Pass :=
  let asked := rule.react analysis.options pass.calls (.entered node pass.scopes)
  { pass with sink := asked.foldl Sink.apply pass.sink }

/-- All that is registered for one unit, in the order of registration. -/
def handlers (analysis : Analysis) : Walk.Handlers Pass where
  enter :=
    functionKinds.map (·, analysis.track Tracker.enterFunction) ++
      (analysis.rules.map (fun rule => (rule.kind, analysis.visit rule)) ++
        [("call_expression", Pass.remember)])
  leave :=
    functionKinds.map (·, analysis.track Tracker.leaveFunction) ++
      [("variable_declarator", analysis.track Tracker.leaveDeclarator),
        ("assignment_expression", analysis.track Tracker.leaveAssignment)]
  exit := [Pass.flush]

end Analysis

theorem nodup_functionKinds : functionKinds.Nodup := by decide

namespace Walk

variable {σ : Type} {node : Node}

theorem runAll_append (first second : List (String × (Node → σ → σ))) (state : σ) :
    runAll (first ++ second) node state = runAll second node (runAll first node state) :=
  List.foldl_append

theorem runAll_nil (state : σ) : runAll [] node state = state := rfl

theorem runAll_cons (kind : String) (handler : Node → σ → σ)
    (rest : List (String × (Node → σ → σ))) (state : σ) :
    runAll ((kind, handler) :: rest) node state =
      runAll rest node (if kind = node.kind then handler node state else state) := rfl

/-- A handler that is registered for several kinds runs once, if the node has one of them. -/
theorem runAll_kinds {kinds : List String} (distinct : kinds.Nodup) (handler : Node → σ → σ)
    (state : σ) :
    runAll (kinds.map (·, handler)) node state =
      if node.kind ∈ kinds then handler node state else state := by
  induction kinds generalizing state with
  | nil => rfl
  | cons kind rest ih =>
    rw [List.nodup_cons] at distinct
    rw [List.map_cons, runAll_cons, ih distinct.2]
    by_cases same : kind = node.kind
    · subst same
      rw [if_neg distinct.1, if_pos rfl, if_pos List.mem_cons_self]
    · rw [if_neg same]
      simp only [List.mem_cons, Ne.symm same, false_or]

end Walk

namespace Rule

variable {rule : Rule} {options : Options} {past : List Observation} {scopes : Scopes}
  {node : Node}

/-- A rule says nothing about nodes of a kind that it does not wait for. -/
theorem react_of_ne_kind (other : rule.kind ≠ node.kind) :
    rule.react options past (.entered node scopes) = [] := by
  rw [react]
  by_cases call : node.kind = "call_expression"
  · rw [if_pos call]
    cases rule with
    | statusCheck => rfl
    | errorHandling | jsonContentType | jsonResponseCheck | timeout | asyncAwait | jsonInGet
    | encodedQuery => exact absurd call.symm other
  · rw [if_neg call]
    split
    next status =>
      subst status
      have plain : node.kind ≠ "member_expression" := Ne.symm other
      rw [StatusCheck.onMember, Node.member?, if_neg plain]
    next => rfl

/-- Only the calls before a node bear on what a rule says about it. -/
theorem react_calls (seen : Observation) :
    rule.react options (past.filter Observation.isCall) seen = rule.react options past seen := by
  have looked (site : Node) :
      (past.filter Observation.isCall).any (fun seen =>
          (JsonResponseCheck.checkedSite? options.target seen).any (·.sameSite site)) =
        past.any fun seen =>
          (JsonResponseCheck.checkedSite? options.target seen).any (·.sameSite site) := by
    rw [List.any_filter]
    congr 1
    funext earlier
    cases earlier with
    | bound binding => rfl
    | entered call scopes =>
      by_cases kind : call.kind = "call_expression"
      · simp [Observation.isCall, kind]
      · simp [Observation.isCall, JsonResponseCheck.checkedSite?, JsonResponseCheck.headerOwner?,
          kind]
  cases seen with
  | bound binding => rfl
  | entered node scopes =>
    rw [react, react]
    congr 1
    cases rule with
    | jsonResponseCheck => simp only [onCall, JsonResponseCheck.onCall, looked]
    | errorHandling | statusCheck | jsonContentType | timeout | asyncAwait | jsonInGet
    | encodedQuery => rfl

end Rule

namespace Tracker

/-- An act of the tracker that does not look back, and that adds nothing to the history
but bindings. -/
structure Binds (act : Tracker → Node → Tracker) : Prop where
  target (tracker : Tracker) (node : Node) : (act tracker node).target = tracker.target
  history (tracker : Tracker) (node : Node) :
    ∃ made : List Binding, ∀ past,
      act { tracker with history := past } node =
        { act tracker node with history := made.map .bound ++ past }

theorem binds_enterFunction : Binds enterFunction where
  target tracker function := by
    rcases enterFunction_cases tracker function with same | ⟨_, _, _, _, _, same⟩
    · rw [same]
      rfl
    · rw [same]
      rfl
  history tracker function := by
    have same (past : List Observation) :
        ({ tracker with history := past } : Tracker).callbackSite? function =
          tracker.callbackSite? function := rfl
    simp only [enterFunction, same]
    cases tracker.callbackSite? function with
    | none => exact ⟨[], fun _ => rfl⟩
    | some site =>
      cases function.parameters with
      | nil => exact ⟨[], fun _ => rfl⟩
      | cons first rest =>
        by_cases plain : first.kind = "identifier"
        · simp only [if_pos plain]
          exact ⟨[_], fun _ => rfl⟩
        · simp only [if_neg plain]
          exact ⟨[], fun _ => rfl⟩

theorem binds_leaveFunction : Binds leaveFunction where
  target _ _ := rfl
  history _ _ := ⟨[], fun _ => rfl⟩

theorem binds_leaveDeclarator : Binds leaveDeclarator where
  target tracker declarator := by
    rcases leaveDeclarator_cases tracker declarator with same | ⟨_, _, _, _, _, _, same⟩
    · rw [same]
    · rw [same]
      rfl
  history tracker declarator := by
    simp only [leaveDeclarator]
    cases declarator.child? "name" with
    | none => exact ⟨[], fun _ => rfl⟩
    | some name =>
      by_cases plain : name.kind = "identifier"
      · simp only [if_pos plain]
        cases (declarator.child? "value").bind (Node.initialSite? tracker.target) with
        | none => exact ⟨[], fun _ => rfl⟩
        | some site => exact ⟨[_], fun _ => rfl⟩
      · simp only [if_neg plain]
        exact ⟨[], fun _ => rfl⟩

theorem binds_leaveAssignment : Binds leaveAssignment where
  target tracker assignment := by
    rcases leaveAssignment_cases tracker assignment with same | ⟨_, same⟩ | ⟨_, _, _, _, _, same⟩
    · rw [same]
    · rw [same]
    · rw [same]
      rfl
  history tracker assignment := by
    simp only [leaveAssignment]
    cases (assignment.child? "left").filter (·.kind = "identifier") with
    | none => exact ⟨[], fun _ => rfl⟩
    | some left =>
      cases (assignment.child? "right").bind (Node.initialSite? tracker.target) with
      | some site => exact ⟨[_], fun _ => rfl⟩
      | none =>
        by_cases known : tracker.scopes.declares left.text = true
        · simp only [if_pos known]
          exact ⟨[], fun _ => rfl⟩
        · simp only [if_neg known]
          exact ⟨[], fun _ => rfl⟩

end Tracker

namespace Analysis

variable {analysis : Analysis} {sink : Sink} {tracker : Tracker} {pass : Pass} {node : Node}

theorem actions_append_bound (made : List Binding) (past : List Observation) :
    analysis.actions (made.map .bound ++ past) =
      analysis.actions past ++ analysis.actions (made.map .bound) := by
  induction made with
  | nil => exact (List.append_nil _).symm
  | cons binding rest ih =>
    rw [List.map_cons, List.cons_append, actions, actions, ih, List.append_assoc]
    rfl

/-- The pass knows what the tracker knows, and its sink has taken all that the rules ask
for after the history so far. -/
structure Agrees (analysis : Analysis) (sink : Sink) (tracker : Tracker) (pass : Pass) :
    Prop where
  target : tracker.target = analysis.options.target
  scopes : pass.scopes = tracker.scopes
  calls : pass.calls = tracker.history.filter Observation.isCall
  sink : pass.sink = (analysis.actions tracker.history).foldl Sink.apply sink

theorem Agrees.track {act : Tracker → Node → Tracker} (binds : Tracker.Binds act)
    (agrees : Agrees analysis sink tracker pass) (node : Node) :
    Agrees analysis sink (act tracker node) (analysis.track act node pass) := by
  obtain ⟨made, history⟩ := binds.history tracker node
  have after := history tracker.history
  have fresh : ({ target := analysis.options.target, scopes := pass.scopes } : Tracker) =
      { tracker with history := [] } := by
    rw [agrees.scopes, ← agrees.target]
  have none_calls : (made.map Observation.bound).filter Observation.isCall = [] := by
    rw [List.filter_eq_nil_iff]
    intro seen member
    obtain ⟨binding, _, rfl⟩ := List.mem_map.1 member
    exact Bool.false_ne_true
  rw [Analysis.track, fresh, history []]
  constructor
  case target => rw [binds.target, agrees.target]
  case scopes => rfl
  case calls =>
    rw [after, agrees.calls]
    dsimp only
    rw [List.filter_append, none_calls, List.nil_append]
  case sink =>
    rw [after]
    dsimp only
    rw [List.append_nil, actions_append_bound, List.foldl_append, ← agrees.sink]

/-- All rules that wait for a node add up to what every rule asks for. -/
theorem runAll_visit (rules : List Rule) (pass : Pass) :
    Walk.runAll (rules.map fun rule => (rule.kind, analysis.visit rule)) node pass =
      { pass with
        sink := (rules.flatMap fun rule =>
          rule.react analysis.options pass.calls (.entered node pass.scopes)).foldl Sink.apply
            pass.sink } := by
  induction rules generalizing pass with
  | nil => rfl
  | cons rule rest ih =>
    rw [List.map_cons, Walk.runAll_cons, ih, List.flatMap_cons, List.foldl_append]
    by_cases waits : rule.kind = node.kind
    · rw [if_pos waits, visit]
    · rw [if_neg waits, Rule.react_of_ne_kind waits, List.foldl_nil]

/-- The rules judge a node once the tracker is done with it, and after that it is kept in
mind. -/
theorem Agrees.observe (agrees : Agrees analysis sink tracker pass) (node : Node) :
    Agrees analysis sink
      { tracker with history := .entered node tracker.scopes :: tracker.history }
      (Walk.runAll [("call_expression", Pass.remember)] node
        (Walk.runAll (analysis.rules.map fun rule => (rule.kind, analysis.visit rule)) node
          pass)) := by
  have asked : (analysis.rules.flatMap fun rule =>
      rule.react analysis.options pass.calls (.entered node pass.scopes)) =
        analysis.rules.flatMap fun rule =>
          rule.react analysis.options tracker.history (.entered node tracker.scopes) := by
    rw [agrees.calls, agrees.scopes]
    exact List.flatMap_congr fun rule _ => Rule.react_calls _
  rw [runAll_visit, asked, Walk.runAll_cons, Walk.runAll_nil]
  have taken : (analysis.actions (.entered node tracker.scopes :: tracker.history)).foldl
      Sink.apply sink = (analysis.rules.flatMap fun rule =>
        rule.react analysis.options tracker.history (.entered node tracker.scopes)).foldl Sink.apply
          pass.sink := by
    rw [actions, List.foldl_append, ← agrees.sink]
  by_cases call : node.kind = "call_expression"
  · have counts : (Observation.entered node tracker.scopes).isCall = true := decide_eq_true call
    rw [if_pos call.symm]
    refine ⟨agrees.target, agrees.scopes, ?_, taken.symm⟩
    rw [List.filter_cons_of_pos counts, ← agrees.calls, ← agrees.scopes]
    rfl
  · have passes : ¬ (Observation.entered node tracker.scopes).isCall = true := by
      simpa [Observation.isCall] using call
    rw [if_neg (Ne.symm call)]
    refine ⟨agrees.target, agrees.scopes, ?_, taken.symm⟩
    rw [List.filter_cons_of_neg passes, ← agrees.calls]

theorem Agrees.enter (agrees : Agrees analysis sink tracker pass) (node : Node) :
    Agrees analysis sink (tracker.step (.enter node))
      (analysis.handlers.react pass (.enter node)) := by
  have tracked : Agrees analysis sink
      (if node.isFunctionLike then tracker.enterFunction node else tracker)
      (Walk.runAll (functionKinds.map (·, analysis.track Tracker.enterFunction)) node pass) := by
    rw [Walk.runAll_kinds nodup_functionKinds, Node.isFunctionLike]
    by_cases function : node.kind ∈ functionKinds
    · rw [if_pos function, if_pos (decide_eq_true function)]
      exact agrees.track Tracker.binds_enterFunction node
    · rw [if_neg function, if_neg (by simpa using function)]
      exact agrees
  rw [Walk.Handlers.react, handlers, Walk.runAll_append, Walk.runAll_append]
  exact tracked.observe node

theorem Agrees.leave (agrees : Agrees analysis sink tracker pass) (node : Node) :
    Agrees analysis sink (tracker.step (.leave node))
      (analysis.handlers.react pass (.leave node)) := by
  rw [Walk.Handlers.react, handlers, Walk.runAll_append, Walk.runAll_kinds nodup_functionKinds,
    Walk.runAll_cons, Walk.runAll_cons, Walk.runAll_nil, Tracker.step, Node.isFunctionLike]
  by_cases function : node.kind ∈ functionKinds
  · have declarator : "variable_declarator" ≠ node.kind :=
      fun same => absurd (same ▸ function) (by decide)
    have assignment : "assignment_expression" ≠ node.kind :=
      fun same => absurd (same ▸ function) (by decide)
    rw [if_pos function, if_neg declarator, if_neg assignment, if_pos (decide_eq_true function)]
    exact agrees.track Tracker.binds_leaveFunction node
  rw [if_neg function, if_neg (by simpa using function)]
  by_cases declarator : node.kind = "variable_declarator"
  · have other : "assignment_expression" ≠ node.kind := by
      rw [declarator]
      decide
    rw [if_pos declarator, if_pos declarator.symm, if_neg other]
    exact agrees.track Tracker.binds_leaveDeclarator node
  rw [if_neg declarator, if_neg (Ne.symm declarator)]
  by_cases assignment : node.kind = "assignment_expression"
  · rw [if_pos assignment, if_pos assignment.symm]
    exact agrees.track Tracker.binds_leaveAssignment node
  · rw [if_neg assignment, if_neg (Ne.symm assignment)]
    exact agrees

theorem Agrees.foldl (visits : List Visit) (agrees : Agrees analysis sink tracker pass) :
    Agrees analysis sink (visits.foldl Tracker.step tracker)
      (visits.foldl analysis.handlers.react pass) := by
  induction visits generalizing tracker pass with
  | nil => exact agrees
  | cons visit rest ih =>
    cases visit with
    | enter node => exact ih (agrees.enter node)
    | leave node => exact ih (agrees.leave node)

/-- The diagnostics of a unit are what the sink holds after one walk with all that is
registered. -/
theorem diagnose_eq_walk (analysis : Analysis) (root : Node) (source : Bytes)
    (file? : Option String) :
    analysis.diagnose root source file? =
      (analysis.handlers.walk (.start source file?) root).sink.diagnostics := by
  have start : Agrees analysis (Pass.start source file?).sink
      { target := analysis.options.target } (.start source file?) := ⟨rfl, rfl, rfl, rfl⟩
  have walked := start.foldl root.visits
  rw [Walk.Handlers.walk, Walk.Handlers.run_waits_eq, Walk.fold_eq_foldl, diagnose, Tracker.walk,
    Walk.fold_eq_foldl]
  exact (congrArg (fun sink : Sink => sink.flush.diagnostics) walked.sink).symm

end Analysis
end RequestLint
