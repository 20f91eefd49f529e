import RequestLint.Diagnostic

/-! Collecting the findings of one unit, at most one per rule and site. A
finding is reported at once or deferred; a deferred one becomes a diagnostic at
the end, unless its contract was seen to be met, before or after. -/
namespace RequestLint

/-- What a rule found at a site. The diagnostic points at `place`. -/
structure Finding where
  rule : String
  site : Node
  messageId : String
  message : String
  place : Node
  fix? : Option Fix := none

/-- The rule and site that a finding is about. -/
structure Subject where
  rule : String
  site : Key
  deriving DecidableEq, Repr

def Finding.subject (finding : Finding) : Subject := ⟨finding.rule, finding.site.key⟩

/-- What a rule asks of the sink. -/
inductive Action where
  | report (finding : Finding)
  | defer (finding : Finding)
  | satisfy (rule : String) (site : Node)

/-- `pending` holds deferred findings in the order of their deferral. -/
structure Sink where
  source : Bytes
  unit : ColumnUnit := .characters
  file? : Option String := none
  diagnostics : List Diagnostic := []
  reported : List Subject := []
  pending : List Finding := []
  satisfied : List Subject := []

namespace Sink

def diagnose (sink : Sink) (finding : Finding) (fix? : Option Fix) : Diagnostic where
  rule := finding.rule
  messageId := finding.messageId
  message := finding.message
  position := .ofOffset sink.source sink.unit finding.place.start
  start := finding.place.start
  stop := finding.place.stop
  fix? := fix?
  file? := sink.file?

def withdraw (sink : Sink) (subject : Subject) : List Finding :=
  sink.pending.filter (·.subject ≠ subject)

/-- Reports a finding, unless its subject was reported before. -/
def report (sink : Sink) (finding : Finding) : Sink :=
  if finding.subject ∈ sink.reported then sink
  else { sink with
    reported := finding.subject :: sink.reported
    pending := sink.withdraw finding.subject
    diagnostics := sink.diagnostics ++ [sink.diagnose finding finding.fix?] }

/-- Whether a report would be taken. -/
def accepts (sink : Sink) (finding : Finding) : Bool := finding.subject ∉ sink.reported

/-- Holds a finding back. The first one of a subject counts, and none after the
subject was reported or satisfied. -/
def defer (sink : Sink) (finding : Finding) : Sink :=
  if finding.subject ∈ sink.reported ∨ finding.subject ∈ sink.satisfied ∨
      finding.subject ∈ sink.pending.map Finding.subject then sink
  else { sink with pending := sink.pending ++ [finding] }

def satisfy (sink : Sink) (rule : String) (site : Node) : Sink :=
  let subject : Subject := ⟨rule, site.key⟩
  { sink with
    satisfied := subject :: sink.satisfied
    pending := sink.withdraw subject }

def isSatisfied (sink : Sink) (rule : String) (site : Node) : Bool :=
  (⟨rule, site.key⟩ : Subject) ∈ sink.satisfied

/-- Turns what is still held back into diagnostics, without fixes. -/
def flush (sink : Sink) : Sink :=
  { sink with
    reported := sink.pending.map Finding.subject ++ sink.reported
    pending := []
    diagnostics := sink.diagnostics ++ sink.pending.map (sink.diagnose · none) }

def apply (sink : Sink) : Action → Sink
  | .report finding => sink.report finding
  | .defer finding => sink.defer finding
  | .satisfy rule site => sink.satisfy rule site

end Sink
end RequestLint
