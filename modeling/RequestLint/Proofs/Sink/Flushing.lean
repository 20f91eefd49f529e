import RequestLint.Proofs.Sink.Collection

/-! Sinks that are flushed more than once. A flush may stand anywhere among the
actions, and what follows it goes on with what it left. Every diagnostic is traced
to the finding that it stems from; an invariant of reports, deferrals, satisfactions
and flushes then says that no subject is traced to twice, and that what is settled is
never held back again. -/
namespace RequestLint.Sink

/-- What can be asked of a sink, any number of times and in any order. -/
inductive Operation where
  | act (action : Action)
  | flush

/-- What a diagnostic stems from: a finding, and whether it was held back first. -/
structure Origin where
  finding : Finding
  deferred : Bool

namespace Origin

def subject (origin : Origin) : Subject := origin.finding.subject

/-- What was held back gives a diagnostic without a fix. -/
def fix? (origin : Origin) : Option Fix :=
  if origin.deferred then none else origin.finding.fix?

end Origin

def perform (sink : Sink) : Operation → Sink
  | .act action => sink.apply action
  | .flush => sink.flush

def run (sink : Sink) (operations : List Operation) : Sink := operations.foldl perform sink

/-- The origins of the diagnostics that an operation appends. -/
def origins (sink : Sink) : Operation → List Origin
  | .act (.report finding) => if sink.accepts finding then [⟨finding, false⟩] else []
  | .act (.defer _) => []
  | .act (.satisfy _ _) => []
  | .flush => sink.pending.map (⟨·, true⟩)

/-- The origins of the diagnostics that a run appends. -/
def stems (sink : Sink) : List Operation → List Origin
  | [] => []
  | operation :: rest => sink.origins operation ++ (sink.perform operation).stems rest

/-- A deferral takes effect: something is then held back that was not before. -/
def Takes (sink : Sink) (finding : Finding) : Prop :=
  (sink.defer finding).pending ≠ sink.pending

theorem run_append (sink : Sink) (earlier later : List Operation) :
    sink.run (earlier ++ later) = (sink.run earlier).run later := List.foldl_append

theorem stems_append (sink : Sink) (earlier later : List Operation) :
    sink.stems (earlier ++ later) = sink.stems earlier ++ (sink.run earlier).stems later := by
  induction earlier generalizing sink with
  | nil => rfl
  | cons operation rest ih =>
    rw [List.cons_append, stems, stems, ih, List.append_assoc]
    rfl

theorem diagnostics_report (sink : Sink) (finding : Finding) :
    (sink.report finding).diagnostics = sink.diagnostics ++
      if sink.accepts finding then [sink.diagnose finding finding.fix?] else [] := by
  by_cases again : finding.subject ∈ sink.reported
  · simp [report, accepts, again]
  · simp [report, accepts, again]

@[simp] theorem satisfied_report (sink : Sink) (finding : Finding) :
    (sink.report finding).satisfied = sink.satisfied := by
  unfold report
  split
  · rfl
  · rfl

@[simp] theorem satisfied_defer (sink : Sink) (finding : Finding) :
    (sink.defer finding).satisfied = sink.satisfied := by
  unfold defer
  split
  · rfl
  · rfl

@[simp] theorem reported_defer (sink : Sink) (finding : Finding) :
    (sink.defer finding).reported = sink.reported := by
  unfold defer
  split
  · rfl
  · rfl

theorem mem_subjects_withdraw {sink : Sink} {subject other : Subject} :
    other ∈ (sink.withdraw subject).map Finding.subject ↔
      other ∈ sink.pending.map Finding.subject ∧ other ≠ subject := by
  simp only [withdraw, List.mem_map, List.mem_filter, decide_eq_true_eq]
  constructor
  · rintro ⟨finding, ⟨held, differs⟩, rfl⟩
    exact ⟨⟨finding, held, rfl⟩, differs⟩
  · rintro ⟨⟨finding, held, rfl⟩, differs⟩
    exact ⟨finding, ⟨held, differs⟩, rfl⟩

/-- The collections of a sink agree with each other and with the origins of its
diagnostics, if it started as `start`. -/
structure Coherent (start : Sink) (origins : List Origin) (sink : Sink) : Prop where
  diagnose : sink.diagnose = start.diagnose
  diagnostics : sink.diagnostics =
    origins.map fun origin => start.diagnose origin.finding origin.fix?
  distinct : (origins.map Origin.subject).Nodup
  reported : ∀ subject, subject ∈ sink.reported ↔ subject ∈ origins.map Origin.subject
  waiting : (sink.pending.map Finding.subject).Nodup
  unsettled : ∀ subject ∈ sink.pending.map Finding.subject,
    subject ∉ sink.reported ∧ subject ∉ sink.satisfied

variable {start sink : Sink} {before : List Origin} {subject : Subject}

theorem Coherent.withdrawn (coherent : Coherent start before sink) (subject : Subject) :
    ((sink.withdraw subject).map Finding.subject).Nodup :=
  coherent.waiting.sublist (List.filter_sublist.map _)

theorem Coherent.report (coherent : Coherent start before sink) (finding : Finding) :
    Coherent start (before ++ sink.origins (.act (.report finding))) (sink.report finding) := by
  by_cases again : finding.subject ∈ sink.reported
  · have refused : sink.origins (.act (.report finding)) = [] := by simp [origins, accepts, again]
    rw [refused, List.append_nil, Sink.report, if_pos again]
    exact coherent
  · have taken : sink.origins (.act (.report finding)) = [⟨finding, false⟩] := by
      simp [origins, accepts, again]
    rw [taken, Sink.report, if_neg again]
    refine ⟨coherent.diagnose, ?_, ?_, ?_, coherent.withdrawn _, ?_⟩
    · rw [coherent.diagnostics, coherent.diagnose, List.map_append]
      rfl
    · rw [List.map_append, List.map_singleton, ← List.concat_eq_append]
      exact coherent.distinct.concat fun earlier => again ((coherent.reported _).2 earlier)
    · intro subject
      rw [List.mem_cons, coherent.reported, List.map_append, List.mem_append, List.map_singleton,
        List.mem_singleton, or_comm]
      rfl
    · intro subject held
      obtain ⟨earlier, differs⟩ := mem_subjects_withdraw.1 held
      obtain ⟨unreported, unsatisfied⟩ := coherent.unsettled subject earlier
      refine ⟨?_, unsatisfied⟩
      rw [List.mem_cons, not_or]
      exact ⟨differs, unreported⟩

theorem Coherent.defer (coherent : Coherent start before sink) (finding : Finding) :
    Coherent start before (sink.defer finding) := by
  unfold Sink.defer
  split
  next => exact coherent
  next free =>
    rw [not_or, not_or] at free
    obtain ⟨unreported, unsatisfied, unheld⟩ := free
    refine { coherent with waiting := ?_, unsettled := ?_ }
    · rw [List.map_append, List.map_singleton, ← List.concat_eq_append]
      exact coherent.waiting.concat unheld
    · intro subject held
      rw [List.map_append, List.mem_append, List.map_singleton, List.mem_singleton] at held
      rcases held with earlier | rfl
      · exact coherent.unsettled subject earlier
      · exact ⟨unreported, unsatisfied⟩

theorem Coherent.satisfy (coherent : Coherent start before sink) (rule : String) (site : Node) :
    Coherent start before (sink.satisfy rule site) := by
  refine { coherent with waiting := coherent.withdrawn _, unsettled := ?_ }
  intro subject held
  obtain ⟨earlier, differs⟩ := mem_subjects_withdraw.1 held
  obtain ⟨unreported, unsatisfied⟩ := coherent.unsettled subject earlier
  refine ⟨unreported, ?_⟩
  change subject ∉ _ :: sink.satisfied
  rw [List.mem_cons, not_or]
  exact ⟨differs, unsatisfied⟩

theorem Coherent.flush (coherent : Coherent start before sink) :
    Coherent start (before ++ sink.origins .flush) sink.flush := by
  have subjects : (sink.origins .flush).map Origin.subject = sink.pending.map Finding.subject := by
    rw [origins, List.map_map]
    rfl
  refine ⟨coherent.diagnose, ?_, ?_, ?_, List.nodup_nil, nofun⟩
  · rw [Sink.flush, coherent.diagnostics, coherent.diagnose, List.map_append, origins,
      List.map_map]
    rfl
  · rw [List.map_append, subjects, List.nodup_append]
    refine ⟨coherent.distinct, coherent.waiting, ?_⟩
    rintro subject earlier _ held rfl
    exact (coherent.unsettled subject held).1 ((coherent.reported subject).2 earlier)
  · intro subject
    rw [Sink.flush, List.mem_append, coherent.reported, List.map_append, subjects,
      List.mem_append, or_comm]

theorem Coherent.perform (coherent : Coherent start before sink) (operation : Operation) :
    Coherent start (before ++ sink.origins operation) (sink.perform operation) := by
  cases operation with
  | flush => exact coherent.flush
  | act action =>
    cases action with
    | report finding => exact coherent.report finding
    | defer finding =>
      rw [origins, List.append_nil]
      exact coherent.defer finding
    | satisfy rule site =>
      rw [origins, List.append_nil]
      exact coherent.satisfy rule site

theorem Coherent.run (coherent : Coherent start before sink) (operations : List Operation) :
    Coherent start (before ++ sink.stems operations) (sink.run operations) := by
  induction operations generalizing before sink with
  | nil =>
    rw [stems, List.append_nil]
    exact coherent
  | cons operation rest ih =>
    rw [stems, ← List.append_assoc]
    exact ih (coherent.perform operation)

theorem coherent_fresh (source : Bytes) (unit : ColumnUnit) (file? : Option String) :
    Coherent (fresh source unit file?) [] (fresh source unit file?) :=
  ⟨rfl, rfl, List.nodup_nil, fun _ => Iff.rfl, List.nodup_nil, nofun⟩

theorem mem_reported_perform (operation : Operation) (member : subject ∈ sink.reported) :
    subject ∈ (sink.perform operation).reported := by
  cases operation with
  | flush => exact List.mem_append_right _ member
  | act action =>
    cases action with
    | report finding =>
      rw [perform, apply, report]
      split
      · exact member
      · exact List.mem_cons_of_mem _ member
    | defer finding => simpa [perform, apply] using member
    | satisfy rule site => exact member

/-- The satisfied subjects grow by satisfactions and by nothing else. -/
theorem mem_satisfied_perform (operation : Operation) :
    subject ∈ (sink.perform operation).satisfied ↔ subject ∈ sink.satisfied ∨
      ∃ rule site, operation = .act (.satisfy rule site) ∧ subject = ⟨rule, site.key⟩ := by
  cases operation with
  | flush => simp [perform, flush]
  | act action =>
    cases action with
    | report finding => simp [perform, apply]
    | defer finding => simp [perform, apply]
    | satisfy rule site =>
      simp only [perform, apply, satisfy, List.mem_cons, Operation.act.injEq, Action.satisfy.injEq]
      rw [or_comm]
      constructor
      · exact Or.imp_right fun same => ⟨rule, site, ⟨rfl, rfl⟩, same⟩
      · rintro (earlier | ⟨_, _, ⟨rfl, rfl⟩, same⟩)
        · exact Or.inl earlier
        · exact Or.inr same

theorem mem_satisfied_run (operations : List Operation) :
    subject ∈ (sink.run operations).satisfied ↔ subject ∈ sink.satisfied ∨
      ∃ rule site, .act (.satisfy rule site) ∈ operations ∧ subject = ⟨rule, site.key⟩ := by
  induction operations generalizing sink with
  | nil => simp [run]
  | cons operation rest ih =>
    have next : sink.run (operation :: rest) = (sink.perform operation).run rest := rfl
    rw [next, ih, mem_satisfied_perform]
    simp only [List.mem_cons, or_and_right, exists_or, or_assoc, eq_comm]

/-- What is settled stays so, and a flush finds nothing held back for it. -/
theorem Coherent.not_deferred (coherent : Coherent start before sink)
    (settled : subject ∈ sink.reported ∨ subject ∈ sink.satisfied) (later : List Operation) :
    ∀ origin ∈ sink.stems later, origin.deferred = true → origin.subject ≠ subject := by
  induction later generalizing before sink with
  | nil => exact nofun
  | cons operation rest ih =>
    intro origin member deferred
    rw [stems, List.mem_append] at member
    rcases member with now | afterwards
    · rintro rfl
      cases operation with
      | flush =>
        obtain ⟨finding, held, rfl⟩ := List.mem_map.1 now
        obtain ⟨unreported, unsatisfied⟩ := coherent.unsettled _ (List.mem_map_of_mem held)
        exact settled.elim unreported unsatisfied
      | act action =>
        cases action with
        | report finding =>
          rw [origins] at now
          split at now
          · rw [List.mem_singleton.1 now] at deferred
            cases deferred
          · cases now
        | defer finding => cases now
        | satisfy rule site => cases now
    · refine ih (coherent.perform operation) ?_ origin afterwards deferred
      exact settled.imp (mem_reported_perform operation) fun member =>
        (mem_satisfied_perform operation).2 (Or.inl member)

theorem pending_perform_of_nil {operation : Operation} (empty : sink.pending = [])
    (idle : ∀ finding, operation = .act (.defer finding) → ¬ sink.Takes finding) :
    (sink.perform operation).pending = [] := by
  cases operation with
  | flush => rfl
  | act action =>
    cases action with
    | report finding =>
      rw [perform, apply, report]
      split
      · exact empty
      · rw [withdraw, empty, List.filter_nil]
    | defer finding =>
      have kept : (sink.defer finding).pending = sink.pending := not_not.1 (idle finding rfl)
      exact kept.trans empty
    | satisfy rule site =>
      rw [perform, apply, satisfy, withdraw, empty, List.filter_nil]

theorem pending_run_of_nil {between : List Operation} (empty : sink.pending = [])
    (idle : ∀ earlier finding later, between = earlier ++ .act (.defer finding) :: later →
      ¬ (sink.run earlier).Takes finding) :
    (sink.run between).pending = [] := by
  induction between generalizing sink with
  | nil => exact empty
  | cons operation rest ih =>
    refine ih (pending_perform_of_nil empty ?_) ?_
    · rintro finding rfl
      exact idle [] finding rest rfl
    · rintro earlier finding later rfl
      exact idle (operation :: earlier) finding later rfl

theorem diagnostics_flush_of_nil (empty : sink.pending = []) :
    sink.flush.diagnostics = sink.diagnostics := by
  rw [flush, empty, List.map_nil, List.append_nil]

/-- What is promised of a sink that starts empty, as `start`, at the end of
`operations`. Since any operations can be taken, it is promised at every point. -/
structure Consistent (start : Sink) (operations : List Operation) : Prop where
  traced : (start.run operations).diagnostics =
    (start.stems operations).map fun origin => start.diagnose origin.finding origin.fix?
  once : ((start.stems operations).map Origin.subject).Nodup
  grows : ∀ later, (start.run operations).diagnostics <+:
    (start.run (operations ++ later)).diagnostics
  answered : ∀ finding, ((start.run operations).report finding).diagnostics =
    (start.run operations).diagnostics ++
      if (start.run operations).accepts finding
      then [start.diagnose finding finding.fix?] else []
  reported : ∀ subject, subject ∈ (start.run operations).reported ↔
    subject ∈ (start.stems operations).map Origin.subject
  satisfied : ∀ subject, subject ∈ (start.run operations).satisfied ↔
    ∃ rule site, .act (.satisfy rule site) ∈ operations ∧ subject = ⟨rule, site.key⟩
  unsettled : ∀ finding ∈ (start.run operations).pending,
    finding.subject ∉ (start.run operations).reported ∧
      finding.subject ∉ (start.run operations).satisfied
  /-- A flush has nothing to add when no deferral took effect since the one before it. -/
  idle : ∀ between,
    (∀ earlier finding later, between = earlier ++ .act (.defer finding) :: later →
      ¬ (start.run (operations ++ .flush :: earlier)).Takes finding) →
    (start.run (operations ++ .flush :: between ++ [.flush])).diagnostics =
      (start.run (operations ++ .flush :: between)).diagnostics
  /-- Nothing deferred is shown later about what is reported or satisfied by now. -/
  settled : ∀ subject, subject ∈ (start.run operations).reported ∨
      subject ∈ (start.run operations).satisfied →
    ∀ later, ∃ added, start.stems (operations ++ later) = start.stems operations ++ added ∧
      ∀ origin ∈ added, origin.deferred = true → origin.subject ≠ subject

/-- However reports, deferrals, satisfactions and flushes follow each other, a sink stays
consistent: no subject gives two diagnostics, diagnostics are only appended and a report
says whether it did so, nothing is held back that is reported or satisfied, a flush adds
only what deferrals since the last one left, and what is settled is never shown as a
deferred finding again. -/
theorem consistent_across_flushes (source : Bytes) (unit : ColumnUnit) (file? : Option String)
    (operations : List Operation) : Consistent (fresh source unit file?) operations := by
  have coherent := (coherent_fresh source unit file?).run operations
  rw [List.nil_append] at coherent
  constructor
  case traced => exact coherent.diagnostics
  case once => exact coherent.distinct
  case grows =>
    intro later
    have further := coherent.run later
    rw [run_append, further.diagnostics, coherent.diagnostics, List.map_append]
    exact List.prefix_append _ _
  case answered =>
    intro finding
    rw [← coherent.diagnose]
    exact diagnostics_report _ finding
  case reported => exact coherent.reported
  case satisfied =>
    intro subject
    rw [mem_satisfied_run]
    simp [fresh]
  case unsettled =>
    intro finding held
    exact coherent.unsettled _ (List.mem_map_of_mem held)
  case idle =>
    intro between ineffective
    rw [run_append]
    apply diagnostics_flush_of_nil
    rw [run_append]
    refine @pending_run_of_nil ((fresh source unit file?).run operations).flush between rfl ?_
    intro earlier finding later split
    have ignored := ineffective earlier finding later split
    rwa [run_append] at ignored
  case settled =>
    intro subject decided later
    exact ⟨_, stems_append _ _ _, coherent.not_deferred decided later⟩

end RequestLint.Sink
