import RequestLint.Proofs.Fix.Replacement
import Mathlib.Data.List.Perm.Subperm
import Mathlib.Order.Bounds.Basic

/-! How many fixes are applied. Fixes are taken from the end of the source to its
start, and each is applied that ends where the last one applied begins, or before.
No choice of fixes that leave each other alone is larger: the first of such a
choice can always be exchanged for the first that is applied, which starts no
earlier and so leaves as much room to all the others. -/
namespace RequestLint.Fix

variable {source : Bytes} {fixes chosen : List Fix} {boundary : Int}

/-- The fixes can be lined up so that each ends at or before the start of the next. -/
def Compatible (fixes : List Fix) : Prop :=
  ∃ line : List Fix, line.Perm fixes ∧ line.IsChain Before

/-- In the order of application, what does not overlap an earlier fix lies before it. -/
theorem before_of_precedes {a b : Fix} (width : a.start ≤ a.stop) (order : precedes a b = true)
    (apart : ¬ a.Overlaps b) : b.Before a := by
  simp only [precedes, Bool.or_eq_true, Bool.and_eq_true, decide_eq_true_eq] at order
  simp only [Overlaps, Before, not_and_or, not_not] at apart ⊢
  omega

/-- A line of ranges is in order throughout, not only from each to the next. -/
theorem pairwise_of_isChain (proper : ∀ fix ∈ fixes, fix.start ≤ fix.stop)
    (line : fixes.IsChain Before) : fixes.Pairwise Before := by
  induction fixes with
  | nil => exact List.Pairwise.nil
  | cons first rest ih =>
    have properRest : ∀ fix ∈ rest, fix.start ≤ fix.stop := fun fix member =>
      proper fix (List.mem_cons_of_mem _ member)
    have order := ih properRest line.of_cons
    refine List.pairwise_cons.2 ⟨?_, order⟩
    cases rest with
    | nil => exact fun fix member => absurd member List.not_mem_nil
    | cons second rest =>
      have next : first.stop ≤ second.start := (List.isChain_cons_cons.1 line).1
      intro fix member
      rcases List.mem_cons.1 member with rfl | later
      · exact next
      · have beyond : second.stop ≤ fix.start := (List.pairwise_cons.1 order).1 fix later
        have width := properRest second List.mem_cons_self
        exact Int.le_trans next (Int.le_trans width beyond)

/-- Fixes can be lined up exactly when no two of them overlap. -/
theorem compatible_iff (inside : ∀ fix ∈ fixes, fix.Inside source.length) :
    Compatible fixes ↔ fixes.Pairwise fun a b => ¬ a.Overlaps b := by
  constructor
  · rintro ⟨line, same, chain⟩
    have order : line.Pairwise Before := pairwise_of_isChain
      (fun fix member => (inside fix (same.subset member)).2.1) chain
    have apart : line.Pairwise fun a b => ¬ a.Overlaps b :=
      order.imp fun before overlaps => overlaps.1 before
    exact same.pairwise apart fun disjoint => mt overlaps_comm.1 disjoint
  · intro apart
    have order := pairwise_applied inside
    rw [applied_eq_ordered inside apart] at order
    exact ⟨(ordered fixes).reverse, (List.reverse_perm _).trans (ordered_perm fixes), order.isChain⟩

/-- No choice below the boundary is larger than the one made from the end. The
induction is on the fixes still to come, in the order of application: one that fits
takes the place of the first of the choice, and the rest of the choice lies below it. -/
theorem length_le_chosenBelow (proper : ∀ fix ∈ fixes, fix.start ≤ fix.stop)
    (sorted : fixes.Pairwise fun a b => precedes a b = true) (among : chosen.Sublist fixes)
    (apart : chosen.Pairwise fun a b => ¬ a.Overlaps b)
    (bound : ∀ fix ∈ chosen, fix.stop ≤ boundary) :
    chosen.length ≤ (chosenBelow boundary fixes).length := by
  induction fixes generalizing boundary chosen with
  | nil => rw [List.sublist_nil.1 among, chosenBelow]
  | cons head rest ih =>
    have properRest : ∀ fix ∈ rest, fix.start ≤ fix.stop := fun fix member =>
      proper fix (List.mem_cons_of_mem _ member)
    obtain ⟨first, sortedRest⟩ := List.pairwise_cons.1 sorted
    rw [chosenBelow]
    split
    next skips =>
      cases among with
      | cons _ among => exact ih properRest sortedRest among apart bound
      | cons_cons _ _ => exact absurd (bound head List.mem_cons_self) (Int.not_le.2 skips)
    next fits =>
      cases chosen with
      | nil => exact Nat.zero_le _
      | cons latest others =>
        obtain ⟨beside, apartOthers⟩ := List.pairwise_cons.1 apart
        obtain ⟨order, _⟩ := List.pairwise_cons.1 (sorted.sublist among)
        have listed : latest ∈ head :: rest := among.subset List.mem_cons_self
        have starts : latest.start ≤ head.start := by
          rcases List.mem_cons.1 listed with rfl | later
          · exact Int.le_refl _
          · have precedence := first latest later
            simp only [precedes, Bool.or_eq_true, Bool.and_eq_true,
              decide_eq_true_eq] at precedence
            omega
        have room : ∀ fix ∈ others, fix.stop ≤ head.start := by
          intro fix member
          have before : fix.stop ≤ latest.start :=
            before_of_precedes (proper latest listed) (order fix member) (beside fix member)
          exact Int.le_trans before starts
        exact Nat.succ_le_succ (ih properRest sortedRest among.tail apartOthers room)

theorem length_le_applied (inside : ∀ fix ∈ fixes, fix.Inside source.length)
    (among : chosen.Sublist fixes) (apart : chosen.Pairwise fun a b => ¬ a.Overlaps b) :
    chosen.length ≤ (applied source.length fixes).length := by
  obtain ⟨turned, same, below⟩ := (ordered_perm fixes).symm.subperm_left.1 among.subperm
  rw [← same.length_eq]
  refine length_le_chosenBelow (proper_ordered inside) (pairwise_ordered fixes) below ?_ ?_
  · exact same.symm.pairwise apart fun disjoint => mt overlaps_comm.1 disjoint
  · intro fix member
    have stop := (inside fix ((ordered_perm fixes).subset (below.subset member))).2.2
    omega

theorem applied_subperm (length : Nat) (fixes : List Fix) :
    (applied length fixes).Subperm fixes :=
  (ordered_perm fixes).subperm_left.1 (chosenBelow_sublist _ _).subperm

/-- As many fixes are applied as can be. Those that are spliced in are among the fixes
offered, and their number is the greatest that any fixes have which can be lined up so
that each ends at or before the start of the next. So no choice of fixes that do not
overlap is larger. -/
theorem applies_most (source : Bytes) (fixes : List Fix)
    (inside : ∀ fix ∈ fixes, fix.Inside source.length) :
    applyAll source fixes = (applied source.length fixes).foldl splice source ∧
    (applied source.length fixes).Subperm fixes ∧
    IsGreatest {count | ∃ chosen : List Fix, chosen.Sublist fixes ∧ Compatible chosen ∧
      chosen.length = count} (applied source.length fixes).length ∧
    ∀ chosen : List Fix, chosen.Sublist fixes → (chosen.Pairwise fun a b => ¬ a.Overlaps b) →
      chosen.length ≤ (applied source.length fixes).length := by
  have most (chosen : List Fix) (among : chosen.Sublist fixes)
      (apart : chosen.Pairwise fun a b => ¬ a.Overlaps b) :
      chosen.length ≤ (applied source.length fixes).length := length_le_applied inside among apart
  refine ⟨applyAll_eq_foldl source fixes, applied_subperm source.length fixes, ⟨?_, ?_⟩, most⟩
  · obtain ⟨chosen, same, among⟩ := applied_subperm source.length fixes
    refine ⟨chosen, among, ⟨(applied source.length fixes).reverse, ?_, ?_⟩, same.length_eq⟩
    · exact (List.reverse_perm _).trans same.symm
    · exact (pairwise_applied inside).isChain
  · rintro count ⟨chosen, among, compatible, rfl⟩
    refine most chosen among ((@compatible_iff source chosen fun fix member => ?_).1 compatible)
    exact inside fix (among.subset member)

theorem applies_most_crowded :
    (∀ fix ∈ crowded.reduceOption, fix.Inside (Utf8.encode "abcd").length) ∧
    applyAll (Utf8.encode "abcd") crowded.reduceOption = Utf8.encode "abyxZd" ∧
    IsGreatest {count | ∃ chosen : List Fix, chosen.Sublist crowded.reduceOption ∧
      Compatible chosen ∧ chosen.length = count} 3 := by
  have inside : ∀ fix ∈ crowded.reduceOption, fix.Inside (Utf8.encode "abcd").length := by
    decide +kernel
  obtain ⟨spliced, _, greatest, _⟩ := applies_most (Utf8.encode "abcd") crowded.reduceOption inside
  rw [applied, ordered_crowded] at spliced greatest
  refine ⟨inside, spliced.trans ?_, greatest⟩
  decide +kernel

end RequestLint.Fix
