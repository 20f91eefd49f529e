import RequestLint.Files.Path
import RequestLint.Proofs.Text.Part
import Mathlib.Data.List.Lex
import Mathlib.Data.List.Sort
import Mathlib.Data.String.Basic

/-! Paths and their order. No name has a slash in it and every anchor is made of slashes,
so a path is told by its parts, and paths are in order when their parts are: name by name,
with the first difference deciding. A list of paths in this order is told by its members. -/
namespace RequestLint.Path

variable {path a b c : Path} {names : List String}

/-- As paths are written: slashes stand in the anchor and not in names. -/
structure WellFormed (path : Path) : Prop where
  anchor : path.anchor = "" ∨ '/' ∈ path.anchor.toList
  names : ∀ name ∈ path.names, '/' ∉ name.toList

theorem wellFormed_ofString (text : String) : (ofString text).WellFormed := by
  constructor
  · change anchorOf text.toList = "" ∨ '/' ∈ (anchorOf text.toList).toList
    unfold anchorOf
    split
    · exact Or.inr (by decide)
    · exact Or.inr (by decide)
    · exact Or.inr (by decide)
    · exact Or.inl rfl
  · intro name member slash
    obtain ⟨part, stretch, rfl⟩ := List.mem_map.1 (List.mem_filter.1 member).1
    rw [String.toList_ofList] at slash
    have uncut := (Text.mem_split_iff.1 stretch).1 '/' slash
    exact absurd uncut (by decide)

theorem WellFormed.join (wellFormed : path.WellFormed)
    (plain : ∀ name ∈ names, '/' ∉ name.toList) : (path.join names).WellFormed := by
  refine ⟨wellFormed.anchor, fun name member => ?_⟩
  rcases List.mem_append.1 member with above | below
  · exact wellFormed.names name above
  · exact plain name below

/-- Parts tell an absolute path from a relative one, since no name is an anchor. -/
theorem eq_of_parts (first : a.WellFormed) (second : b.WellFormed) (same : a.parts = b.parts) :
    a = b := by
  have relative {path other : Path} (wellFormed : path.WellFormed) (named : other.WellFormed)
      (absolute : path.isAbsolute = true) (same : path.parts = other.parts) :
      other.isAbsolute = true := by
    by_contra relative
    rw [parts, parts, if_pos absolute, if_neg relative] at same
    have anchored := wellFormed.anchor.resolve_left (of_decide_eq_true absolute)
    exact named.names path.anchor (same ▸ List.mem_cons_self) anchored
  cases absolute : a.isAbsolute with
  | true =>
    have absolute' := relative first second absolute same
    rw [parts, parts, if_pos absolute, if_pos absolute', List.cons.injEq] at same
    obtain ⟨anchor, names⟩ := a
    obtain ⟨anchor', names'⟩ := b
    exact congrArg₂ Path.mk same.1 same.2
  | false =>
    have other : b.isAbsolute = false := by
      by_contra absolute'
      rw [relative second first (by simpa using absolute') same.symm] at absolute
      cases absolute
    rw [parts, parts, absolute, other] at same
    obtain ⟨anchor, names⟩ := a
    obtain ⟨anchor', names'⟩ := b
    have empty : anchor = "" := by simpa [isAbsolute] using absolute
    have empty' : anchor' = "" := by simpa [isAbsolute] using other
    exact congrArg₂ Path.mk (empty.trans empty'.symm) same

theorem namesLe_total (first second : List String) :
    namesLe first second = true ∨ namesLe second first = true := by
  induction first generalizing second with
  | nil => exact Or.inl rfl
  | cons name rest ih =>
    cases second with
    | nil => exact Or.inr rfl
    | cons name' rest' =>
      simp only [namesLe, Bool.or_eq_true, Bool.and_eq_true, decide_eq_true_eq]
      rcases lt_trichotomy name name' with less | same | more
      · exact Or.inl (Or.inl less)
      · exact (ih rest').imp (fun le => Or.inr ⟨same, le⟩) fun le => Or.inr ⟨same.symm, le⟩
      · exact Or.inr (Or.inl more)

theorem namesLe_trans {first second third : List String} (lower : namesLe first second = true)
    (upper : namesLe second third = true) : namesLe first third = true := by
  induction first generalizing second third with
  | nil => rfl
  | cons name rest ih =>
    cases second with
    | nil => cases lower
    | cons name' rest' =>
      cases third with
      | nil => cases upper
      | cons name'' rest'' =>
        simp only [namesLe, Bool.or_eq_true, Bool.and_eq_true, decide_eq_true_eq] at lower upper ⊢
        rcases lower with less | ⟨rfl, le⟩
        · rcases upper with less' | ⟨rfl, _⟩
          · exact Or.inl (lt_trans less less')
          · exact Or.inl less
        · exact upper.imp_right fun ⟨same, le'⟩ => ⟨same, ih le le'⟩

theorem lex_of_namesLe {first second : List String} (le : namesLe first second = true)
    (differ : first ≠ second) : List.Lex (· < ·) first second := by
  induction first generalizing second with
  | nil =>
    cases second with
    | nil => exact absurd rfl differ
    | cons name rest => exact .nil
  | cons name rest ih =>
    cases second with
    | nil => cases le
    | cons name' rest' =>
      simp only [namesLe, Bool.or_eq_true, Bool.and_eq_true, decide_eq_true_eq] at le
      rcases le with less | ⟨rfl, le⟩
      · exact .rel less
      · exact .cons (ih le fun same => differ (same ▸ rfl))

/-- The first part that differs comes earlier in the alphabet, or there is none and the
path is a beginning of the other. -/
def Before (a b : Path) : Prop := List.Lex (· < ·) a.parts b.parts

theorem Before.asymm (before : a.Before b) : ¬ b.Before a :=
  Std.Asymm.asymm (r := List.Lex (· < ·)) _ _ before

theorem pairwise_mergeSort_le (paths : List Path) :
    (paths.mergeSort le).Pairwise fun a b => a.le b = true := by
  refine List.pairwise_mergeSort ?_ ?_ paths
  · intro a b c lower upper
    exact namesLe_trans lower upper
  · intro a b
    rw [Bool.or_eq_true]
    exact namesLe_total a.parts b.parts

/-- Of equal entries in a list only the first is kept, so those that are left differ. -/
theorem pairwise_eraseDups {related : Path → Path → Prop} (paths : List Path)
    (ordered : paths.Pairwise related) :
    paths.eraseDups.Pairwise fun a b => related a b ∧ a ≠ b := by
  match paths with
  | [] => exact .nil
  | path :: rest =>
    obtain ⟨first, later⟩ := List.pairwise_cons.1 ordered
    rw [List.eraseDups_cons, List.pairwise_cons]
    refine ⟨?_, pairwise_eraseDups _ (later.filter fun other => !other == path)⟩
    intro other member
    obtain ⟨listed, differs⟩ := List.mem_filter.1 (List.mem_eraseDups.1 member)
    exact ⟨first other listed, fun same => by simp [same] at differs⟩
  termination_by paths.length
  decreasing_by exact Nat.lt_succ_of_le (List.length_filter_le _ _)

theorem nodup_eraseDups (paths : List Path) : paths.eraseDups.Nodup :=
  (pairwise_eraseDups paths (List.pairwise_of_forall fun _ _ => trivial)).imp And.right

theorem pairwise_before_of_wellFormed {paths : List Path}
    (wellFormed : ∀ path ∈ paths, path.WellFormed) :
    (paths.mergeSort le).eraseDups.Pairwise Before := by
  refine (pairwise_eraseDups _ (pairwise_mergeSort_le paths)).imp_of_mem ?_
  intro a b first second ⟨ordered, differ⟩
  have proper {path : Path} (member : path ∈ (paths.mergeSort le).eraseDups) : path.WellFormed :=
    wellFormed path (List.mem_mergeSort.1 (List.mem_eraseDups.1 member))
  exact lex_of_namesLe ordered fun same =>
    differ (eq_of_parts (proper first) (proper second) same)

/-- Lists in order with the same members are the same. -/
theorem eq_of_mem_iff {first second : List Path} (ordered : first.Pairwise Before)
    (ordered' : second.Pairwise Before) (same : ∀ path, path ∈ first ↔ path ∈ second) :
    first = second := by
  have antisymm : Std.Antisymm Before := ⟨fun _ _ before after => absurd after before.asymm⟩
  have irrefl : Std.Irrefl Before := ⟨fun _ before => before.asymm before⟩
  exact ordered.eq_of_mem_iff ordered' same

end RequestLint.Path
