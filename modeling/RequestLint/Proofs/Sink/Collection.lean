import RequestLint.Sink
import Mathlib.Data.List.Induction
import Mathlib.Data.List.Nodup

/-! What a sink has collected after a sequence of actions, read off the sequence
alone. Of every reported subject the first report counts. Of every subject that
is nowhere reported and nowhere satisfied the first deferral counts. Neither
depends on how reports, deferrals and satisfactions are interleaved. -/
namespace RequestLint

namespace Action

def reported? : Action → Option Finding
  | report finding => some finding
  | _ => none

def deferred? : Action → Option Finding
  | defer finding => some finding
  | _ => none

def satisfied? : Action → Option Subject
  | satisfy rule site => some ⟨rule, site.key⟩
  | _ => none

def reports (actions : List Action) : List Finding := actions.filterMap reported?
def deferrals (actions : List Action) : List Finding := actions.filterMap deferred?
def satisfactions (actions : List Action) : List Subject := actions.filterMap satisfied?

theorem mem_reports_iff {actions : List Action} {finding : Finding} :
    finding ∈ reports actions ↔ .report finding ∈ actions := by
  rw [reports, List.mem_filterMap]
  constructor
  · rintro ⟨action, member, same⟩
    cases action with
    | report other =>
      cases same
      exact member
    | defer => cases same
    | satisfy => cases same
  · intro member
    exact ⟨.report finding, member, rfl⟩

end Action

namespace Finding

/-- The first finding of each subject, in order. -/
def firsts : List Finding → List Finding
  | [] => []
  | finding :: rest => finding :: (firsts rest).filter (·.subject ≠ finding.subject)

theorem mem_subjects_firsts {subject : Subject} {findings : List Finding} :
    subject ∈ (firsts findings).map Finding.subject ↔ subject ∈ findings.map Finding.subject := by
  induction findings with
  | nil => rfl
  | cons finding rest ih =>
    simp only [firsts, List.map_cons, List.mem_cons, ← ih, List.mem_map, List.mem_filter,
      decide_eq_true_eq]
    constructor
    · rintro (same | ⟨other, ⟨member, _⟩, same⟩)
      · exact Or.inl same
      · exact Or.inr ⟨other, member, same⟩
    · rintro (same | ⟨other, member, same⟩)
      · exact Or.inl same
      · by_cases again : other.subject = finding.subject
        · exact Or.inl (same.symm.trans again)
        · exact Or.inr ⟨other, ⟨member, again⟩, same⟩

theorem firsts_sublist (findings : List Finding) : (firsts findings).Sublist findings := by
  induction findings with
  | nil => exact List.Sublist.refl _
  | cons finding rest ih => exact (List.filter_sublist.trans ih).cons_cons finding

theorem nodup_subjects_firsts (findings : List Finding) :
    ((firsts findings).map Finding.subject).Nodup := by
  induction findings with
  | nil => exact List.nodup_nil
  | cons finding rest ih =>
    simp only [firsts, List.map_cons, List.nodup_cons]
    constructor
    · intro member
      obtain ⟨other, kept, same⟩ := List.mem_map.1 member
      have differs := (List.mem_filter.1 kept).2
      exact of_decide_eq_true differs same
    · exact ih.sublist (List.filter_sublist.map _)

theorem firsts_eq_self {findings : List Finding} (distinct : (findings.map Finding.subject).Nodup) :
    firsts findings = findings := by
  induction findings with
  | nil => rfl
  | cons finding rest ih =>
    simp only [List.map_cons, List.nodup_cons] at distinct
    rw [firsts, ih distinct.2]
    congr 1
    apply List.filter_eq_self.2
    intro other member
    have differs : other.subject ≠ finding.subject := by
      rintro same
      exact distinct.1 (same ▸ List.mem_map_of_mem member)
    exact decide_eq_true differs

/-- A choice made by subject keeps or drops all findings of a subject at once. -/
theorem firsts_filter (keep : Subject → Bool) (findings : List Finding) :
    firsts (findings.filter (keep ·.subject)) = (firsts findings).filter (keep ·.subject) := by
  induction findings with
  | nil => rfl
  | cons finding rest ih =>
    cases kept : keep finding.subject with
    | true =>
      simp only [List.filter_cons, kept, if_true, firsts, ih]
      rw [List.filter_comm]
    | false =>
      simp only [List.filter_cons, kept, if_false, firsts, ih, Bool.false_eq_true,
        List.filter_filter]
      apply List.filter_congr
      intro other _
      by_cases same : other.subject = finding.subject
      · simp [same, kept]
      · simp [same]

/-- A further finding counts when its subject is new. -/
theorem firsts_concat (findings : List Finding) (last : Finding) :
    firsts (findings ++ [last]) = firsts findings ++
      if last.subject ∈ findings.map Finding.subject then [] else [last] := by
  induction findings with
  | nil => rfl
  | cons finding rest ih =>
    rw [List.cons_append, firsts, ih, firsts, List.filter_append, List.cons_append]
    congr 2
    by_cases same : last.subject = finding.subject
    · simp [same, apply_ite]
    · by_cases seen : last.subject ∈ rest.map Finding.subject
      · simp [seen]
      · simp [same, seen]

/-- Where sites differ in their subjects, of each site the first finding counts. -/
theorem firsts_map {Site : Type} [BEq Site] [LawfulBEq Site] (about : Site → Finding)
    (sites : List Site)
    (apart : ∀ one ∈ sites, ∀ other ∈ sites, (about one).subject = (about other).subject →
      one = other) :
    firsts (sites.map about) = sites.eraseDups.map about := by
  match sites with
  | [] => rfl
  | site :: rest =>
    have others : (rest.map about).filter (·.subject ≠ (about site).subject) =
        (rest.filter (!· == site)).map about := by
      rw [List.filter_map]
      congr 1
      apply List.filter_congr
      intro other member
      by_cases same : other = site
      · simp [same]
      · have differs : (about other).subject ≠ (about site).subject := fun agree =>
          same (apart other (List.mem_cons_of_mem _ member) site List.mem_cons_self agree)
        simp [same, differs]
    have below := firsts_map about (rest.filter (!· == site)) (by
      intro one first other second
      exact apart one (List.mem_cons_of_mem _ (List.mem_filter.1 first).1) other
        (List.mem_cons_of_mem _ (List.mem_filter.1 second).1))
    rw [List.map_cons, firsts, ← firsts_filter (· ≠ (about site).subject), others, below,
      List.eraseDups_cons, List.map_cons]
  termination_by sites.length
  decreasing_by exact Nat.lt_succ_of_le (List.length_filter_le _ _)

end Finding

namespace Action

/-- The contract of the subject is decided somewhere in the sequence: met, or
reported as broken. -/
def Settles (actions : List Action) (subject : Subject) : Prop :=
  subject ∈ (reports actions).map Finding.subject ∨ subject ∈ satisfactions actions

instance (actions : List Action) (subject : Subject) : Decidable (Settles actions subject) :=
  inferInstanceAs (Decidable (_ ∨ _))

/-- First deferrals of subjects that nothing settles, before or after. -/
def unmet (actions : List Action) : List Finding :=
  (Finding.firsts (deferrals actions)).filter fun finding => ¬ Settles actions finding.subject

theorem reports_append (first second : List Action) :
    reports (first ++ second) = reports first ++ reports second := List.filterMap_append

theorem deferrals_append (first second : List Action) :
    deferrals (first ++ second) = deferrals first ++ deferrals second := List.filterMap_append

theorem satisfactions_append (first second : List Action) :
    satisfactions (first ++ second) = satisfactions first ++ satisfactions second :=
  List.filterMap_append

theorem settles_append (first second : List Action) (subject : Subject) :
    Settles (first ++ second) subject ↔ Settles first subject ∨ Settles second subject := by
  simp only [Settles, reports_append, satisfactions_append, List.map_append, List.mem_append]
  exact or_or_or_comm

theorem settles_report (finding : Finding) (subject : Subject) :
    Settles [.report finding] subject ↔ subject = finding.subject := by
  simp [Settles, reports, satisfactions, reported?, satisfied?]

theorem settles_satisfy (rule : String) (site : Node) (subject : Subject) :
    Settles [.satisfy rule site] subject ↔ subject = ⟨rule, site.key⟩ := by
  simp [Settles, reports, satisfactions, reported?, satisfied?]

theorem not_settles_defer (finding : Finding) (subject : Subject) :
    ¬ Settles [.defer finding] subject := by
  simp [Settles, reports, satisfactions, reported?, satisfied?]

theorem mem_subjects_unmet {actions : List Action} {subject : Subject} :
    subject ∈ (unmet actions).map Finding.subject ↔
      subject ∈ (deferrals actions).map Finding.subject ∧ ¬ Settles actions subject := by
  have deferred := @Finding.mem_subjects_firsts subject (deferrals actions)
  rw [← deferred]
  simp only [unmet, List.mem_map, List.mem_filter, decide_eq_true_eq]
  constructor
  · rintro ⟨finding, ⟨member, unsettled⟩, rfl⟩
    exact ⟨⟨finding, member, rfl⟩, unsettled⟩
  · rintro ⟨⟨finding, member, rfl⟩, unsettled⟩
    exact ⟨finding, ⟨member, unsettled⟩, rfl⟩

/-- Settling a subject takes it off the unmet ones, wherever its deferral stands. -/
theorem unmet_append_settling (actions : List Action) (last : Action) {subject : Subject}
    (waits : last.deferred? = none) (settles : ∀ other, Settles [last] other ↔ other = subject) :
    unmet (actions ++ [last]) = (unmet actions).filter (·.subject ≠ subject) := by
  have none_deferred : deferrals [last] = [] := by
    rw [deferrals, List.filterMap_cons, waits, List.filterMap_nil]
  rw [unmet, unmet, deferrals_append, none_deferred, List.append_nil, List.filter_filter]
  apply List.filter_congr
  intro finding _
  simp only [settles_append, settles, not_or, ne_eq, Bool.decide_and, Bool.and_comm]

/-- A deferral joins the unmet ones when its subject is neither settled nor among
them. A subject that left them is settled for good, so it does not come back. -/
theorem unmet_append_defer (actions : List Action) (finding : Finding) :
    unmet (actions ++ [.defer finding]) = unmet actions ++
      if Settles actions finding.subject ∨ finding.subject ∈ (unmet actions).map Finding.subject
      then [] else [finding] := by
  have deferred : deferrals [.defer finding] = [finding] := rfl
  rw [unmet, deferrals_append, deferred, Finding.firsts_concat, List.filter_append]
  simp only [settles_append, not_settles_defer, or_false]
  rw [← unmet]
  congr 1
  by_cases settled : Settles actions finding.subject
  · simp only [settled, true_or, if_true]
    split
    · rfl
    · simp [settled]
  · by_cases seen : finding.subject ∈ (deferrals actions).map Finding.subject
    · simp [mem_subjects_unmet, settled, seen]
    · simp [mem_subjects_unmet, settled, seen]

end Action
namespace Sink
open RequestLint.Action

/-- What the collections of a sink hold after `actions`, if it started as
`start`. `reported` and `satisfied` are compared as sets. -/
structure Collected (start : Sink) (actions : List Action) (sink : Sink) : Prop where
  source : sink.source = start.source
  unit : sink.unit = start.unit
  file? : sink.file? = start.file?
  diagnostics : sink.diagnostics =
    (Finding.firsts (reports actions)).map fun finding => start.diagnose finding finding.fix?
  reported : ∀ subject, subject ∈ sink.reported ↔ subject ∈ (reports actions).map Finding.subject
  satisfied : ∀ subject, subject ∈ sink.satisfied ↔ subject ∈ satisfactions actions
  pending : sink.pending = unmet actions

variable {start sink : Sink} {actions : List Action}

theorem Collected.diagnose (collected : Collected start actions sink) :
    sink.diagnose = start.diagnose := by
  funext finding fix?
  simp only [Sink.diagnose, collected.source, collected.unit, collected.file?]

/-- A subject reported before is settled, so it was not unmet either. -/
theorem Collected.report (collected : Collected start actions sink) (finding : Finding) :
    Collected start (actions ++ [.report finding]) (sink.report finding) := by
  have reported : reports [.report finding] = [finding] := rfl
  have satisfied : satisfactions [.report finding] = [] := rfl
  have pending := unmet_append_settling actions (.report finding) rfl (settles_report finding)
  unfold Sink.report
  split
  next again =>
    have seen := (collected.reported finding.subject).1 again
    have absent : finding.subject ∉ (unmet actions).map Finding.subject := fun member =>
      (mem_subjects_unmet.1 member).2 (Or.inl seen)
    refine ⟨collected.source, collected.unit, collected.file?, ?_, ?_, ?_, ?_⟩
    · rw [collected.diagnostics, reports_append, reported, Finding.firsts_concat, if_pos seen,
        List.append_nil]
    · intro subject
      rw [collected.reported, reports_append, reported, List.map_append, List.mem_append]
      refine ⟨Or.inl, ?_⟩
      rintro (earlier | same)
      · exact earlier
      · rw [List.map_singleton, List.mem_singleton] at same
        exact same ▸ seen
    · intro subject
      rw [collected.satisfied, satisfactions_append, satisfied, List.append_nil]
    · rw [collected.pending, pending]
      symm
      apply List.filter_eq_self.2
      intro other member
      apply decide_eq_true
      rintro same
      exact absent (same ▸ List.mem_map_of_mem member)
  next new =>
    have unseen : finding.subject ∉ (reports actions).map Finding.subject := fun seen =>
      new ((collected.reported finding.subject).2 seen)
    refine ⟨collected.source, collected.unit, collected.file?, ?_, ?_, ?_, ?_⟩
    · rw [collected.diagnostics, collected.diagnose, reports_append, reported,
        Finding.firsts_concat, if_neg unseen, List.map_append, List.map_singleton]
    · intro subject
      rw [List.mem_cons, collected.reported, reports_append, reported, List.map_append,
        List.mem_append, List.map_singleton, List.mem_singleton, or_comm]
    · intro subject
      rw [collected.satisfied, satisfactions_append, satisfied, List.append_nil]
    · rw [withdraw, collected.pending, pending]

theorem Collected.defer (collected : Collected start actions sink) (finding : Finding) :
    Collected start (actions ++ [.defer finding]) (sink.defer finding) := by
  have reported : reports [.defer finding] = [] := rfl
  have satisfied : satisfactions [.defer finding] = [] := rfl
  have refused : (finding.subject ∈ sink.reported ∨ finding.subject ∈ sink.satisfied ∨
        finding.subject ∈ sink.pending.map Finding.subject) ↔
      Settles actions finding.subject ∨ finding.subject ∈ (unmet actions).map Finding.subject := by
    rw [collected.reported, collected.satisfied, collected.pending, Settles, or_assoc]
  have rest (pending : List Finding) (kept : pending = unmet (actions ++ [.defer finding])) :
      Collected start (actions ++ [.defer finding]) { sink with pending := pending } :=
    { collected with
      diagnostics := by rw [collected.diagnostics, reports_append, reported, List.append_nil]
      reported := by
        intro subject
        rw [collected.reported, reports_append, reported, List.append_nil]
      satisfied := by
        intro subject
        rw [collected.satisfied, satisfactions_append, satisfied, List.append_nil]
      pending := kept }
  have pending := unmet_append_defer actions finding
  unfold Sink.defer
  split
  next held =>
    apply rest sink.pending
    rw [pending, if_pos (refused.1 held), List.append_nil, collected.pending]
  next free =>
    apply rest
    rw [pending, if_neg (fun held => free (refused.2 held)), collected.pending]

theorem Collected.satisfy (collected : Collected start actions sink) (rule : String) (site : Node) :
    Collected start (actions ++ [.satisfy rule site]) (sink.satisfy rule site) := by
  have reported : reports [.satisfy rule site] = [] := rfl
  have satisfied : satisfactions [.satisfy rule site] = [⟨rule, site.key⟩] := rfl
  have pending := unmet_append_settling actions (.satisfy rule site) rfl (settles_satisfy rule site)
  refine ⟨collected.source, collected.unit, collected.file?, ?_, ?_, ?_, ?_⟩
  · rw [reports_append, reported, List.append_nil]
    exact collected.diagnostics
  · intro subject
    rw [reports_append, reported, List.append_nil]
    exact collected.reported subject
  · intro subject
    rw [satisfactions_append, satisfied, List.mem_append, List.mem_singleton, or_comm,
      ← collected.satisfied]
    exact List.mem_cons
  · rw [pending, ← collected.pending]
    rfl

theorem Collected.apply (collected : Collected start actions sink) (action : Action) :
    Collected start (actions ++ [action]) (sink.apply action) := by
  cases action with
  | report finding => exact collected.report finding
  | defer finding => exact collected.defer finding
  | satisfy rule site => exact collected.satisfy rule site

/-- A sink that nothing was asked of yet. -/
def fresh (source : Bytes) (unit : ColumnUnit) (file? : Option String) : Sink :=
  { source := source, unit := unit, file? := file? }

theorem collected_foldl (source : Bytes) (unit : ColumnUnit) (file? : Option String)
    (actions : List Action) :
    Collected (fresh source unit file?) actions
      (actions.foldl apply (fresh source unit file?)) := by
  induction actions using List.reverseRecOn with
  | nil => exact ⟨rfl, rfl, rfl, rfl, fun _ => Iff.rfl, fun _ => Iff.rfl, rfl⟩
  | append_singleton actions action ih =>
    rw [List.foldl_append]
    exact ih.apply action

/-- The diagnostics at the end, from the sequence of actions alone. -/
theorem diagnostics_flush_foldl (source : Bytes) (unit : ColumnUnit) (file? : Option String)
    (actions : List Action) :
    (actions.foldl apply (fresh source unit file?)).flush.diagnostics =
      (Finding.firsts (reports actions)).map
          (fun finding => (fresh source unit file?).diagnose finding finding.fix?) ++
        (unmet actions).map ((fresh source unit file?).diagnose · none) := by
  have collected := collected_foldl source unit file? actions
  rw [flush, collected.diagnostics, collected.pending, collected.diagnose]

/-- Of the satisfactions only their subjects matter, and not where they stand. -/
theorem diagnostics_flush_congr (source : Bytes) (unit : ColumnUnit) (file? : Option String)
    {first second : List Action} (reported : reports first = reports second)
    (deferred : deferrals first = deferrals second)
    (satisfied : ∀ subject, subject ∈ satisfactions first ↔ subject ∈ satisfactions second) :
    (first.foldl apply (fresh source unit file?)).flush.diagnostics =
      (second.foldl apply (fresh source unit file?)).flush.diagnostics := by
  have settled (subject : Subject) : Settles first subject ↔ Settles second subject := by
    rw [Settles, Settles, reported, satisfied]
  have waiting : unmet first = unmet second := by
    simp only [unmet, deferred, settled]
  rw [diagnostics_flush_foldl, diagnostics_flush_foldl, reported, waiting]

end Sink
end RequestLint
