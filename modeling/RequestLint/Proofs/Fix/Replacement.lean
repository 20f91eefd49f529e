import RequestLint.Fix
import Mathlib.Data.List.ReduceOption

/-! Applying fixes, read as one replacement. Fixes are applied by splicing a
changing buffer from its end to its start; the result is the source with some of
the fixes replaced all at once, at the offsets they were made for. Which fixes
those are is decided by ranges alone, and the order in which fixes are handed
over matters only among fixes of one range. -/
namespace RequestLint.Fix

/-- All of `a` lies before `b`. Ranges may touch. -/
def Before (a b : Fix) : Prop := a.stop ≤ b.start

/-- An insertion overlaps what it stands strictly inside of. -/
def Overlaps (a b : Fix) : Prop := ¬ a.Before b ∧ ¬ b.Before a

/-- The offsets are those of a range of a source of the given length. -/
def Inside (length : Nat) (fix : Fix) : Prop :=
  0 ≤ fix.start ∧ fix.start ≤ fix.stop ∧ fix.stop ≤ length

def hasRange (start stop : Int) (fix : Fix) : Bool := fix.start = start && fix.stop = stop

instance (a b : Fix) : Decidable (a.Before b) := inferInstanceAs (Decidable (_ ≤ _))
instance (a b : Fix) : Decidable (a.Overlaps b) := inferInstanceAs (Decidable (_ ∧ _))
instance (length : Nat) (fix : Fix) : Decidable (fix.Inside length) :=
  inferInstanceAs (Decidable (_ ∧ _))

/-- The source from `position` on, with the ranges of the given fixes replaced.
The ranges are read in the source itself, and stand in increasing order. -/
def replaced (source : Bytes) (position : Nat) : List Fix → Bytes
  | [] => source.drop position
  | fix :: rest =>
    source.slice position fix.start.toNat ++ Utf8.encode fix.text ++
      replaced source fix.stop.toNat rest

/-- Those of the fixes that `applyBelow` splices, in its order. -/
def chosenBelow (boundary : Int) : List Fix → List Fix
  | [] => []
  | fix :: rest =>
    if boundary < fix.stop then chosenBelow boundary rest
    else fix :: chosenBelow fix.start rest

/-- The fixes that are applied to a source of the given length, last range first. -/
def applied (length : Nat) (fixes : List Fix) : List Fix :=
  chosenBelow (length + 1) (ordered fixes)

theorem applyBelow_eq_foldl (boundary : Int) (source : Bytes) (fixes : List Fix) :
    applyBelow boundary source fixes = (chosenBelow boundary fixes).foldl splice source := by
  induction fixes generalizing boundary source with
  | nil => rfl
  | cons fix rest ih =>
    rw [applyBelow, chosenBelow]
    split
    · exact ih boundary source
    · rw [ih, List.foldl_cons]

theorem applyAll_eq_foldl (source : Bytes) (fixes : List Fix) :
    applyAll source fixes = (applied source.length fixes).foldl splice source :=
  applyBelow_eq_foldl _ _ _

theorem chosenBelow_sublist (boundary : Int) (fixes : List Fix) :
    (chosenBelow boundary fixes).Sublist fixes := by
  induction fixes generalizing boundary with
  | nil => exact List.Sublist.refl _
  | cons fix rest ih =>
    rw [chosenBelow]
    split
    · exact (ih boundary).cons fix
    · exact (ih fix.start).cons_cons fix

theorem stop_le_of_mem_chosenBelow {boundary : Int} {fixes : List Fix} {fix : Fix}
    (proper : ∀ fix ∈ fixes, fix.start ≤ fix.stop) (chosen : fix ∈ chosenBelow boundary fixes) :
    fix.stop ≤ boundary := by
  induction fixes generalizing boundary with
  | nil => cases chosen
  | cons head rest ih =>
    have properRest : ∀ fix ∈ rest, fix.start ≤ fix.stop := fun fix member =>
      proper fix (List.mem_cons_of_mem _ member)
    rw [chosenBelow] at chosen
    split at chosen
    next => exact ih properRest chosen
    next fits =>
      rcases List.mem_cons.1 chosen with rfl | later
      · omega
      · have lower := ih properRest later
        have width := proper head List.mem_cons_self
        omega

/-- Each applied fix ends at or before the start of those applied earlier. -/
theorem pairwise_chosenBelow {boundary : Int} {fixes : List Fix}
    (proper : ∀ fix ∈ fixes, fix.start ≤ fix.stop) :
    (chosenBelow boundary fixes).Pairwise fun a b => b.Before a := by
  induction fixes generalizing boundary with
  | nil => exact List.Pairwise.nil
  | cons head rest ih =>
    have properRest : ∀ fix ∈ rest, fix.start ≤ fix.stop := fun fix member =>
      proper fix (List.mem_cons_of_mem _ member)
    rw [chosenBelow]
    split
    · exact ih properRest
    · refine List.pairwise_cons.2 ⟨?_, ih properRest⟩
      intro fix later
      exact stop_le_of_mem_chosenBelow properRest later

/-- What is skipped reaches over the boundary or into an applied fix. Fixes come
with later starts first and longer ranges before insertions, so a fix that ends
beyond the start of an earlier one overlaps it. -/
theorem exists_skipped (boundary : Int) {fixes : List Fix}
    (proper : ∀ fix ∈ fixes, fix.start ≤ fix.stop)
    (sorted : fixes.Pairwise fun a b => precedes a b = true) :
    ∃ skipped, (chosenBelow boundary fixes ++ skipped).Perm fixes ∧
      ∀ fix ∈ skipped, boundary < fix.stop ∨
        ∃ other ∈ chosenBelow boundary fixes, fix.Overlaps other := by
  induction fixes generalizing boundary with
  | nil => exact ⟨[], List.Perm.refl _, nofun⟩
  | cons head rest ih =>
    have properRest : ∀ fix ∈ rest, fix.start ≤ fix.stop := fun fix member =>
      proper fix (List.mem_cons_of_mem _ member)
    obtain ⟨first, sortedRest⟩ := List.pairwise_cons.1 sorted
    rw [chosenBelow]
    split
    next skips =>
      obtain ⟨skipped, all, reasons⟩ := ih boundary properRest sortedRest
      refine ⟨head :: skipped, List.perm_middle.trans (all.cons head), ?_⟩
      intro fix member
      rcases List.mem_cons.1 member with rfl | member
      · exact Or.inl skips
      · exact reasons fix member
    next =>
      obtain ⟨skipped, all, reasons⟩ := ih head.start properRest sortedRest
      refine ⟨skipped, all.cons head, ?_⟩
      intro fix member
      refine Or.inr ?_
      rcases reasons fix member with reaches | ⟨other, chosen, overlaps⟩
      · have listed : fix ∈ rest := all.subset (List.mem_append_right _ member)
        have order := first fix listed
        have width := proper head List.mem_cons_self
        simp only [precedes, Bool.or_eq_true, Bool.and_eq_true, decide_eq_true_eq] at order
        refine ⟨head, List.mem_cons_self, ?_, ?_⟩
        · simp only [Before]
          omega
        · simp only [Before]
          omega
      · exact ⟨other, List.mem_cons_of_mem _ chosen, overlaps⟩

theorem position_of_le {length : Nat} {offset : Int} (positive : 0 ≤ offset)
    (bound : offset ≤ length) : position length offset = offset.toNat := by
  unfold position
  rw [if_neg (by omega)]
  omega

/-- A splice leaves what lies before its range as it is. -/
theorem splice_append (before after : Bytes) {fix : Fix} (inside : fix.Inside before.length) :
    splice (before ++ after) fix =
      before.take fix.start.toNat ++
        (Utf8.encode fix.text ++ before.drop fix.stop.toNat ++ after) := by
  obtain ⟨positive, width, bound⟩ := inside
  have length : before.length ≤ (before ++ after).length := by
    rw [List.length_append]
    omega
  rw [splice, position_of_le positive (by omega), position_of_le (by omega) (by omega),
    List.take_append_of_le_length (by omega), List.drop_append_of_le_length (by omega)]
  simp only [List.append_assoc]

theorem replaced_concat (source : Bytes) (position : Nat) {fixes : List Fix} {last : Fix}
    (order : ∀ fix ∈ fixes, fix.start ≤ last.start) :
    replaced source position (fixes ++ [last]) =
      replaced (source.take last.start.toNat) position fixes ++
        (Utf8.encode last.text ++ source.drop last.stop.toNat) := by
  induction fixes generalizing position with
  | nil =>
    rw [List.nil_append, replaced, replaced, replaced, Bytes.slice, List.drop_take]
    simp only [List.append_assoc]
  | cons fix rest ih =>
    have lower : fix.start ≤ last.start := order fix List.mem_cons_self
    have segment : Bytes.slice (source.take last.start.toNat) position fix.start.toNat =
        source.slice position fix.start.toNat := by
      rw [Bytes.slice, Bytes.slice, List.drop_take, List.take_take, Nat.min_eq_left (by omega)]
    rw [List.cons_append, replaced, replaced, segment,
      ih _ fun other member => order other (List.mem_cons_of_mem _ member)]
    simp only [List.append_assoc]

/-- Splices that go downwards make the replacements at once. What is already
written stands after `before`, and no splice to come reaches it. -/
theorem foldl_splice (before after : Bytes) {fixes : List Fix}
    (inside : ∀ fix ∈ fixes, fix.Inside before.length)
    (downwards : fixes.Pairwise fun a b => b.Before a) :
    fixes.foldl splice (before ++ after) = replaced before 0 fixes.reverse ++ after := by
  induction fixes generalizing before after with
  | nil => rfl
  | cons head rest ih =>
    obtain ⟨lower, downwardsRest⟩ := List.pairwise_cons.1 downwards
    have headInside := inside head List.mem_cons_self
    obtain ⟨positive, width, bound⟩ := headInside
    have insideRest : ∀ fix ∈ rest, fix.Inside (before.take head.start.toNat).length := by
      intro fix member
      obtain ⟨fixPositive, fixWidth, _⟩ := inside fix (List.mem_cons_of_mem _ member)
      have under : fix.stop ≤ head.start := lower fix member
      refine ⟨fixPositive, fixWidth, ?_⟩
      rw [List.length_take]
      omega
    have order : ∀ fix ∈ rest.reverse, fix.start ≤ head.start := by
      intro fix member
      have under : fix.stop ≤ head.start := lower fix (List.mem_reverse.1 member)
      obtain ⟨_, fixWidth, _⟩ := inside fix (List.mem_cons_of_mem _ (List.mem_reverse.1 member))
      omega
    rw [List.foldl_cons, splice_append before after ⟨positive, width, bound⟩,
      ih _ _ insideRest downwardsRest, List.reverse_cons, replaced_concat before 0 order]
    simp only [List.append_assoc]

theorem precedes_trans (a b c : Fix) (first : precedes a b = true) (second : precedes b c = true) :
    precedes a c = true := by
  simp only [precedes, Bool.or_eq_true, Bool.and_eq_true, decide_eq_true_eq] at *
  omega

theorem precedes_total (a b : Fix) : (precedes a b || precedes b a) = true := by
  simp only [precedes, Bool.or_eq_true, Bool.and_eq_true, decide_eq_true_eq]
  omega

theorem hasRange_iff {start stop : Int} {fix : Fix} :
    fix.hasRange start stop = true ↔ fix.start = start ∧ fix.stop = stop := by
  simp only [hasRange, Bool.and_eq_true, decide_eq_true_eq]

theorem pairwise_ordered (fixes : List Fix) :
    (ordered fixes).Pairwise fun a b => precedes a b = true :=
  List.pairwise_mergeSort precedes_trans precedes_total fixes

theorem ordered_perm (fixes : List Fix) : (ordered fixes).Perm fixes := List.mergeSort_perm _ _

/-- Fixes of one range keep their order. -/
theorem filter_ordered (fixes : List Fix) (start stop : Int) :
    (ordered fixes).filter (hasRange start stop) = fixes.filter (hasRange start stop) := by
  have alike : (fixes.filter (hasRange start stop)).Pairwise fun a b => precedes a b = true := by
    apply List.pairwise_of_forall_mem_list
    intro a one b other
    have left := hasRange_iff.1 (List.mem_filter.1 one).2
    have right := hasRange_iff.1 (List.mem_filter.1 other).2
    simp only [precedes, Bool.or_eq_true, Bool.and_eq_true, decide_eq_true_eq]
    omega
  have kept := List.sublist_mergeSort precedes_trans precedes_total alike List.filter_sublist
  have among := kept.filter (hasRange start stop)
  rw [List.filter_filter, List.filter_congr fun _ _ => Bool.and_self _] at among
  have length := ((ordered_perm fixes).filter (hasRange start stop)).length_eq
  exact (among.eq_of_length length.symm).symm

/-- Lists that agree on the fixes of each range have the same members. -/
theorem mem_iff_of_ranges {first second : List Fix}
    (same : ∀ start stop, first.filter (hasRange start stop) =
      second.filter (hasRange start stop)) (fix : Fix) : fix ∈ first ↔ fix ∈ second := by
  have own : fix.hasRange fix.start fix.stop = true := hasRange_iff.2 ⟨rfl, rfl⟩
  have listed := congrArg (fix ∈ ·) (same fix.start fix.stop)
  simpa only [List.mem_filter, own, and_true, eq_iff_iff] using listed

/-- Two ordered lists that agree on the fixes of each range are the same list. -/
theorem eq_of_ranges {first second : List Fix}
    (left : first.Pairwise fun a b => precedes a b = true)
    (right : second.Pairwise fun a b => precedes a b = true)
    (same : ∀ start stop, first.filter (hasRange start stop) =
      second.filter (hasRange start stop)) : first = second := by
  have members := mem_iff_of_ranges same
  induction first generalizing second with
  | nil =>
    cases second with
    | nil => rfl
    | cons b second => cases (members b).2 List.mem_cons_self
  | cons a first ih =>
    cases second with
    | nil => cases (members a).1 List.mem_cons_self
    | cons b second =>
      obtain ⟨least, leftRest⟩ := List.pairwise_cons.1 left
      obtain ⟨least', rightRest⟩ := List.pairwise_cons.1 right
      have range : a.start = b.start ∧ a.stop = b.stop := by
        rcases List.mem_cons.1 ((members a).1 List.mem_cons_self) with rfl | later
        · exact ⟨rfl, rfl⟩
        · rcases List.mem_cons.1 ((members b).2 List.mem_cons_self) with rfl | earlier
          · exact ⟨rfl, rfl⟩
          · have one := least b earlier
            have other := least' a later
            simp only [precedes, Bool.or_eq_true, Bool.and_eq_true, decide_eq_true_eq] at one other
            omega
      have heads := same a.start a.stop
      rw [List.filter_cons_of_pos (hasRange_iff.2 ⟨rfl, rfl⟩),
        List.filter_cons_of_pos (hasRange_iff.2 ⟨range.1.symm, range.2.symm⟩),
        List.cons.injEq] at heads
      obtain ⟨rfl, _⟩ := heads
      have tails (start stop : Int) : first.filter (hasRange start stop) =
          second.filter (hasRange start stop) := by
        have whole := same start stop
        rw [List.filter_cons, List.filter_cons] at whole
        split at whole
        · exact (List.cons.inj whole).2
        · exact whole
      exact congrArg (a :: ·) (ih leftRest rightRest tails (mem_iff_of_ranges tails))

theorem ordered_congr {first second : List Fix}
    (same : ∀ start stop, first.filter (hasRange start stop) =
      second.filter (hasRange start stop)) : ordered first = ordered second := by
  apply eq_of_ranges (pairwise_ordered first) (pairwise_ordered second)
  intro start stop
  rw [filter_ordered, filter_ordered, same]

variable {source : Bytes} {fixes : List Fix}

theorem proper_ordered {length : Nat} (inside : ∀ fix ∈ fixes, fix.Inside length) :
    ∀ fix ∈ ordered fixes, fix.start ≤ fix.stop := fun fix member =>
  (inside fix ((ordered_perm fixes).subset member)).2.1

theorem pairwise_applied {length : Nat} (inside : ∀ fix ∈ fixes, fix.Inside length) :
    (applied length fixes).reverse.Pairwise Before :=
  List.pairwise_reverse.2 (pairwise_chosenBelow (proper_ordered inside))

theorem applyAll_eq_replaced (inside : ∀ fix ∈ fixes, fix.Inside source.length) :
    applyAll source fixes = replaced source 0 (applied source.length fixes).reverse := by
  have insideApplied : ∀ fix ∈ applied source.length fixes, fix.Inside source.length := by
    intro fix member
    exact inside fix ((ordered_perm fixes).subset ((chosenBelow_sublist _ _).subset member))
  have spliced := foldl_splice source [] insideApplied
    (pairwise_chosenBelow (proper_ordered inside))
  rw [List.append_nil, List.append_nil] at spliced
  rw [applyAll_eq_foldl, spliced]

theorem applied_perm (inside : ∀ fix ∈ fixes, fix.Inside source.length) :
    ∃ skipped, (applied source.length fixes ++ skipped).Perm fixes ∧
      ∀ fix ∈ skipped, ∃ other ∈ applied source.length fixes, fix.Overlaps other := by
  obtain ⟨skipped, all, reasons⟩ :=
    exists_skipped (source.length + 1) (proper_ordered inside) (pairwise_ordered fixes)
  have listed := all.trans (ordered_perm fixes)
  refine ⟨skipped, listed, ?_⟩
  intro fix member
  rcases reasons fix member with beyond | overlaps
  · have bound := (inside fix (listed.subset (List.mem_append_right _ member))).2.2
    omega
  · exact overlaps

theorem overlaps_comm {a b : Fix} : a.Overlaps b ↔ b.Overlaps a := and_comm

theorem chosenBelow_eq_self {boundary : Int} {fixes : List Fix}
    (proper : ∀ fix ∈ fixes, fix.start ≤ fix.stop)
    (sorted : fixes.Pairwise fun a b => precedes a b = true)
    (apart : fixes.Pairwise fun a b => ¬ a.Overlaps b)
    (bound : ∀ fix ∈ fixes, fix.stop ≤ boundary) :
    chosenBelow boundary fixes = fixes := by
  induction fixes generalizing boundary with
  | nil => rfl
  | cons head rest ih =>
    obtain ⟨first, sortedRest⟩ := List.pairwise_cons.1 sorted
    obtain ⟨beside, apartRest⟩ := List.pairwise_cons.1 apart
    have fits := bound head List.mem_cons_self
    have width := proper head List.mem_cons_self
    have below : ∀ fix ∈ rest, fix.stop ≤ head.start := by
      intro fix member
      have order := first fix member
      have disjoint := beside fix member
      simp only [precedes, Bool.or_eq_true, Bool.and_eq_true, decide_eq_true_eq] at order
      simp only [Overlaps, Before, not_and_or, not_not] at disjoint
      omega
    rw [chosenBelow, if_neg (by omega),
      ih (fun fix member => proper fix (List.mem_cons_of_mem _ member)) sortedRest apartRest below]

theorem applied_eq_ordered (inside : ∀ fix ∈ fixes, fix.Inside source.length)
    (apart : fixes.Pairwise fun a b => ¬ a.Overlaps b) :
    applied source.length fixes = ordered fixes := by
  refine chosenBelow_eq_self (proper_ordered inside) (pairwise_ordered fixes) ?_ ?_
  · exact (ordered_perm fixes).symm.pairwise apart fun disjoint => mt overlaps_comm.1 disjoint
  · intro fix member
    have bound := (inside fix ((ordered_perm fixes).subset member)).2.2
    omega

/-- The offset lies in none of the ranges. -/
def spares (fixes : List Fix) (offset : Nat) : Bool :=
  fixes.all fun fix => (offset : Int) < fix.start || fix.stop ≤ offset

/-- The bytes of a source that lie in none of the ranges. An insertion has no byte
in its range. -/
def untouched (source : Bytes) (fixes : List Fix) : Bytes :=
  (source.zipIdx.filter fun (_, offset) => spares fixes offset).map Prod.fst

theorem spares_cons {fix : Fix} {rest : List Fix} {offset : Nat} :
    spares (fix :: rest) offset = true ↔
      ((offset : Int) < fix.start ∨ fix.stop ≤ offset) ∧ spares rest offset = true := by
  simp only [spares, List.all_cons, Bool.and_eq_true, Bool.or_eq_true, decide_eq_true_eq]

theorem map_fst_slice (source : Bytes) (start stop : Nat) :
    ((source.zipIdx.drop start).take stop).map Prod.fst = (source.drop start).take stop := by
  rw [List.map_take, List.map_drop, List.zipIdx_map_fst]

/-- What no range covers survives a replacement, in its order. -/
theorem untouched_sublist_replaced (source : Bytes) (position : Nat) {fixes : List Fix}
    (proper : ∀ fix ∈ fixes, fix.start ≤ fix.stop)
    (later : ∀ fix ∈ fixes, (position : Int) ≤ fix.start) (order : fixes.Pairwise Before) :
    (((source.zipIdx.drop position).filter fun (_, offset) => spares fixes offset).map
      Prod.fst).Sublist (replaced source position fixes) := by
  induction fixes generalizing position with
  | nil =>
    have all : (source.zipIdx.drop position).filter (fun (_, offset) => spares [] offset) =
        source.zipIdx.drop position := List.filter_eq_self.2 fun _ _ => rfl
    rw [all, replaced, List.map_drop, List.zipIdx_map_fst]
  | cons fix rest ih =>
    obtain ⟨first, orderRest⟩ := List.pairwise_cons.1 order
    have width := proper fix List.mem_cons_self
    have start := later fix List.mem_cons_self
    have rest_survives := ih fix.stop.toNat
      (fun other member => proper other (List.mem_cons_of_mem _ member))
      (fun other member => by
        have next : fix.stop ≤ other.start := first other member
        omega) orderRest
    have split : source.zipIdx.drop position =
        (source.zipIdx.drop position).take (fix.start.toNat - position) ++
          ((source.zipIdx.drop fix.start.toNat).take (fix.stop.toNat - fix.start.toNat) ++
            source.zipIdx.drop fix.stop.toNat) := by
      have stop : fix.stop.toNat = fix.start.toNat + (fix.stop.toNat - fix.start.toNat) := by omega
      have beyond : fix.start.toNat = position + (fix.start.toNat - position) := by omega
      conv_rhs => rw [stop, ← List.drop_drop, Nat.add_sub_cancel_left, List.take_append_drop,
        beyond, ← List.drop_drop, Nat.add_sub_cancel_left, List.take_append_drop]
    have covered : ((source.zipIdx.drop fix.start.toNat).take
        (fix.stop.toNat - fix.start.toNat)).filter
          (fun (_, offset) => spares (fix :: rest) offset) = [] := by
      apply List.filter_eq_nil_iff.2
      intro item member spared
      obtain ⟨index, bound, found⟩ := List.mem_iff_getElem.1 member
      have within : index < fix.stop.toNat - fix.start.toNat :=
        Nat.lt_of_lt_of_le bound (List.length_take_le _ _)
      rw [List.getElem_take, List.getElem_drop, List.getElem_zipIdx] at found
      rw [← found, spares_cons] at spared
      simp only [Nat.zero_add] at spared
      omega
    rw [split, List.filter_append, List.filter_append, covered, List.nil_append, List.map_append,
      replaced, List.append_assoc]
    refine List.Sublist.append ?_ (List.sublist_append_of_sublist_right ?_)
    · have segment := (List.filter_sublist
        (l := (source.zipIdx.drop position).take (fix.start.toNat - position))
        (p := fun (_, offset) => spares (fix :: rest) offset)).map Prod.fst
      rwa [map_fst_slice] at segment
    · refine List.Sublist.trans (List.Sublist.map _ ?_) rest_survives
      exact List.monotone_filter_right _ fun item spared => (spares_cons.1 spared).2

theorem untouched_sublist_applyAll (inside : ∀ fix ∈ fixes, fix.Inside source.length) :
    (untouched source fixes).Sublist (applyAll source fixes) := by
  have among : ∀ fix ∈ (applied source.length fixes).reverse, fix ∈ fixes := fun fix member =>
    (ordered_perm fixes).subset ((chosenBelow_sublist _ _).subset (List.mem_reverse.1 member))
  have survives := untouched_sublist_replaced source 0
    (fun fix member => (inside fix (among fix member)).2.1)
    (fun fix member => (inside fix (among fix member)).1) (pairwise_applied inside)
  rw [applyAll_eq_replaced inside]
  refine List.Sublist.trans (List.Sublist.map _ ?_) survives
  refine List.monotone_filter_right _ fun item spared => ?_
  exact List.all_eq_true.2 fun fix member => List.all_eq_true.1 spared fix (among fix member)

/-- Fixes whose ranges lie in the source are applied as one replacement on the
source: some of them are chosen, and the result is made of the untouched
stretches of the source and the texts of the chosen ones, in the order of their
ranges. In that order each chosen fix lies before the next, so none overlap, and
an insertion comes before a replacement that starts where it stands; insertions
at one offset come in the reverse of the order they were offered in. A fix that
is not chosen overlaps one that is. The order of the offer matters only among
fixes of one range. -/
theorem applyAll_replaces_at_once (source : Bytes) (offered : List (Option Fix))
    (inside : ∀ fix, some fix ∈ offered → fix.Inside source.length) :
    (∃ chosen skipped : List Fix, (chosen ++ skipped).Perm offered.reduceOption ∧
      applyAll source offered.reduceOption = replaced source 0 chosen ∧
      chosen.Pairwise Before ∧
      (∀ offset, (chosen.filter (hasRange offset offset)).reverse.Sublist offered.reduceOption) ∧
      ∀ fix ∈ skipped, ∃ other ∈ chosen, fix.Overlaps other) ∧
    ∀ others : List (Option Fix),
      (∀ start stop, others.reduceOption.filter (hasRange start stop) =
        offered.reduceOption.filter (hasRange start stop)) →
      applyAll source others.reduceOption = applyAll source offered.reduceOption := by
  have insideAll : ∀ fix ∈ offered.reduceOption, fix.Inside source.length := fun fix member =>
    inside fix (List.reduceOption_mem_iff.1 member)
  obtain ⟨skipped, all, overlapping⟩ := applied_perm insideAll
  refine ⟨⟨(applied source.length offered.reduceOption).reverse, skipped, ?_,
    applyAll_eq_replaced insideAll, pairwise_applied insideAll, ?_, ?_⟩, ?_⟩
  · exact ((List.reverse_perm _).append_right _).trans all
  · intro offset
    have kept := (chosenBelow_sublist (source.length + 1) (ordered offered.reduceOption)).filter
      (hasRange offset offset)
    rw [filter_ordered] at kept
    rw [List.filter_reverse, List.reverse_reverse]
    exact kept.trans List.filter_sublist
  · intro fix member
    obtain ⟨other, chosen, overlaps⟩ := overlapping fix member
    exact ⟨other, List.mem_reverse.2 chosen, overlaps⟩
  · intro others same
    rw [applyAll, applyAll, ordered_congr same]

/-- Two insertions and a replacement at one offset, and a fix that reaches over
them. -/
def crowded : List (Option Fix) :=
  [some ⟨2, 2, "x"⟩, none, some ⟨1, 3, "long"⟩, some ⟨2, 2, "y"⟩, some ⟨2, 3, "Z"⟩]

/-- The two insertions keep their order, and every range has its place. -/
theorem ordered_crowded : ordered crowded.reduceOption =
    [⟨2, 3, "Z"⟩, ⟨2, 2, "x"⟩, ⟨2, 2, "y"⟩, ⟨1, 3, "long"⟩] := by
  have offered : crowded.reduceOption =
      [⟨2, 2, "x"⟩, ⟨1, 3, "long"⟩, ⟨2, 2, "y"⟩, ⟨2, 3, "Z"⟩] := rfl
  refine eq_of_ranges (pairwise_ordered _) (by decide +kernel) fun start stop => ?_
  rw [filter_ordered, offered]
  by_cases wide : (3 : Int) = stop
  · subst wide
    by_cases two : (2 : Int) = start
    · subst two
      rfl
    · simp [List.filter_cons, hasRange, two]
  · simp [List.filter_cons, hasRange, wide]

theorem applyAll_replaces_at_once_crowded :
    (∀ fix, some fix ∈ crowded → fix.Inside (Utf8.encode "abcd").length) ∧
    ∃ chosen skipped : List Fix, (chosen ++ skipped).Perm crowded.reduceOption ∧
      replaced (Utf8.encode "abcd") 0 chosen = Utf8.encode "abyxZd" ∧
      chosen.Pairwise Before ∧ ∀ fix ∈ skipped, ∃ other ∈ chosen, fix.Overlaps other := by
  have inside : ∀ fix, some fix ∈ crowded → fix.Inside (Utf8.encode "abcd").length := by
    intro fix offered
    have all : ∀ fix ∈ crowded.reduceOption, fix.Inside (Utf8.encode "abcd").length := by
      decide +kernel
    exact all fix (List.reduceOption_mem_iff.2 offered)
  obtain ⟨⟨chosen, skipped, all, result, order, _, overlapping⟩, _⟩ :=
    applyAll_replaces_at_once (Utf8.encode "abcd") crowded inside
  refine ⟨inside, chosen, skipped, all, ?_, order, overlapping⟩
  rw [← result, applyAll, ordered_crowded]
  decide +kernel

end RequestLint.Fix
