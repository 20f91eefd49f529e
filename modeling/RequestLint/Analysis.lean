import RequestLint.Rule.AsyncAwait
import RequestLint.Rule.EncodedQuery
import RequestLint.Rule.ErrorHandling
import RequestLint.Rule.JsonContentType
import RequestLint.Rule.JsonInGet
import RequestLint.Rule.JsonResponseCheck
import RequestLint.Rule.StatusCheck
import RequestLint.Rule.Timeout

/-! The analysis of one unit: a walk gives a history of observations, every
enabled rule reacts to each of them in the light of those before it, and the
sink turns the reactions into diagnostics. -/
namespace RequestLint

namespace Rule

/-- Reports what a judgement of single calls of the target finds. -/
def onTarget (rule : Rule) (options : Options) (verdict? : Node → Option Verdict) (call : Node) :
    List Action :=
  if call.isTargetCall options.target then
    ((verdict? call).map fun verdict => .report (verdict.finding rule options call)).toList
  else []

def onCall (rule : Rule) (options : Options) (past : List Observation) (scopes : Scopes)
    (call : Node) : List Action :=
  match rule with
  | errorHandling => ErrorHandling.onCall options call
  | statusCheck => []
  | jsonContentType => rule.onTarget options JsonContentType.verdict? call
  | jsonResponseCheck => JsonResponseCheck.onCall options past scopes call
  | timeout => rule.onTarget options Timeout.verdict? call
  | asyncAwait => AsyncAwait.onCall options call
  | jsonInGet => rule.onTarget options JsonInGet.verdict? call
  | encodedQuery =>
    rule.onTarget options (EncodedQuery.verdict? options.requireQueryBuilder) call

/-- What a rule asks of the sink after an observation; `past` holds the earlier
observations, newest first. -/
def react (rule : Rule) (options : Options) (past : List Observation) : Observation → List Action
  | .bound binding => if rule = statusCheck then StatusCheck.onBound options binding else []
  | .entered node scopes =>
    if node.kind = "call_expression" then rule.onCall options past scopes node
    else if rule = statusCheck then StatusCheck.onMember options scopes node
    else []

end Rule

/-- A request for an analysis that cannot be made. -/
inductive AnalysisError where
  | unknownRules (ids : List String)
  | unsupportedLanguage (name : String)
  | nullInPath
  deriving DecidableEq, Repr

def AnalysisError.message : AnalysisError → String
  | unknownRules ids => "Unknown rule(s): " ++ String.intercalate ", " ids
  | unsupportedLanguage name => "Unsupported language: " ++ name
  | nullInPath => "embedded null byte"

/-- The options and rules that all units of a run share. -/
structure Analysis where
  options : Options := {}
  rules : List Rule := Rule.all

namespace Analysis

def ofIds (options : Options) (ids? : Option (List String)) : Except AnalysisError Analysis :=
  match Rule.select ids? with
  | .ok rules => .ok ⟨options, rules⟩
  | .error unknown => .error (.unknownRules unknown)

/-- The actions of all rules over a history, oldest observation first. -/
def actions (analysis : Analysis) : List Observation → List Action
  | [] => []
  | seen :: past =>
    analysis.actions past ++ analysis.rules.flatMap fun rule => rule.react analysis.options past seen

/-- The diagnostics of one unit: immediate reports in traversal order, then
deferred ones in the order of their deferral. -/
def diagnose (analysis : Analysis) (root : Node) (source : Bytes) (file? : Option String) :
    List Diagnostic :=
  let history := (Tracker.walk analysis.options.target root).history
  let sink : Sink := { source := source, file? := file? }
  ((analysis.actions history).foldl Sink.apply sink).flush.diagnostics

end Analysis
end RequestLint
