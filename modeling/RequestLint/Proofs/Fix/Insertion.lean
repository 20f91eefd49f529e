import RequestLint.Proofs.Fix.Replacement
import RequestLint.Proofs.Syntax.Object
import RequestLint.Proofs.Syntax.Span

/-! Fixes that add an entry to an object literal. They either insert at the end of
the last entry or replace a literal without entries, and in a tree whose spans
nest such fixes do not get into each other's way, however deeply the literals lie
in one another. -/
namespace RequestLint.Fix
open Node

variable {tree : Tree} {source : Bytes} {object : Node} {entry : String} {fix : Fix}

/-- What an added entry replaces in a literal: nothing, at the end of the last
entry, or all of a literal that has no entry. -/
def ExtendsAt (object : Node) (fix : Fix) : Prop :=
  (∃ last, object.parts.getLast? = some last ∧ fix.start = last.stop ∧ fix.stop = last.stop) ∨
    object.parts = [] ∧ fix.start = object.start ∧ fix.stop = object.stop

theorem hasError_of_insertEntry (literal : object.kind = "object")
    (made : insertEntry (some object) entry = .ok fix) :
    object.hasError = false ∧ ExtendsAt object fix := by
  have opened : (some object).bind unwrap = some object := unwrap_of_object literal
  rw [insertEntry, opened] at made
  simp only [literal, ne_eq, not_true_eq_false, if_false, entries_of_object literal] at made
  split at made
  · cases made
  next clean =>
    refine ⟨by simpa using clean, ?_⟩
    split at made
    next none_left =>
      cases made
      exact Or.inr ⟨List.getLast?_eq_none_iff.1 none_left, rfl, rfl⟩
    next last found =>
      cases made
      exact Or.inl ⟨last, found, rfl, rfl⟩

/-- A fix lies in the literal that it extends. -/
theorem ExtendsAt.within (fits : tree.Fits source) (listed : object ∈ (root tree).preorder)
    (extends_ : ExtendsAt object fix) :
    (object.start : Int) ≤ fix.start ∧ fix.start ≤ fix.stop ∧ fix.stop ≤ object.stop := by
  rcases extends_ with ⟨last, found, start, stop⟩ | ⟨_, start, stop⟩
  · have member := (mem_parts_iff.1 (List.mem_of_getLast? found)).1
    have proper := fits.proper last (mem_preorder_of_child listed member)
    have span := fits.within object listed last member
    omega
  · have proper := fits.proper object listed
    omega

theorem ExtendsAt.inside (fits : tree.Fits source) (listed : object ∈ (root tree).preorder)
    (extends_ : ExtendsAt object fix) : fix.Inside source.length := by
  obtain ⟨start, width, stop⟩ := extends_.within fits listed
  have bound := stop_le_length fits listed
  exact ⟨by omega, width, by omega⟩

/-- The end of an entry does not fall inside a literal without entries: all that
lies below such a literal are tokens and comments. -/
theorem not_inside_bare (fits : tree.Fits source) {outer last bare : Node}
    (listedOuter : outer ∈ (root tree).preorder) (listedBare : bare ∈ (root tree).preorder)
    (part : last ∈ outer.parts) (empty : bare.parts = []) :
    last.stop ≤ bare.start ∨ bare.stop ≤ last.stop := by
  obtain ⟨child, isPart⟩ := mem_parts_iff.1 part
  have listedLast := mem_preorder_of_child listedOuter child
  rcases nested_or_apart fits listedLast listedBare with below | above | before | after
  · rcases mem_children_of_parts_nil fits listedBare empty below with rfl | ⟨token, noPart⟩
    · exact Or.inr (Nat.le_refl _)
    · exact absurd (mem_parts_iff.2 ⟨token, isPart⟩) noPart
  · exact Or.inr (span_of_mem_preorder fits listedLast above).2
  · exact Or.inl before
  · have proper := fits.proper last listedLast
    exact Or.inr (by omega)

/-- Two different literals without entries lie apart, unless one is a direct part
of the other. -/
theorem apart_of_bare (fits : tree.Fits source) {first second : Node}
    (one : first ∈ (root tree).preorder) (other : second ∈ (root tree).preorder)
    (empty : first.parts = []) (empty' : second.parts = []) (differ : first ≠ second)
    (loose : first.parent? ≠ some second) (loose' : second.parent? ≠ some first) :
    Apart first second := by
  rcases nested_or_apart fits one other with below | above | apart
  · rcases mem_children_of_parts_nil fits other empty' below with same | ⟨token, _⟩
    · exact absurd same differ
    · exact absurd (mem_children_iff.1 token) loose
  · rcases mem_children_of_parts_nil fits one empty above with same | ⟨token, _⟩
    · exact absurd same.symm differ
    · exact absurd (mem_children_iff.1 token) loose'
  · exact apart

/-- Fixes for different literals do not overlap. -/
theorem ExtendsAt.not_overlaps (fits : tree.Fits source) {first second : Node} {fix' : Fix}
    (one : first ∈ (root tree).preorder) (other : second ∈ (root tree).preorder)
    (differ : first ≠ second) (loose : first.parent? ≠ some second)
    (loose' : second.parent? ≠ some first) (extends_ : ExtendsAt first fix)
    (extends' : ExtendsAt second fix') : ¬ fix.Overlaps fix' := by
  rintro ⟨notBefore, notAfter⟩
  unfold Before at notBefore notAfter
  rcases extends_ with ⟨last, found, start, stop⟩ | ⟨empty, start, stop⟩
  · rcases extends' with ⟨last', found', start', stop'⟩ | ⟨empty', start', stop'⟩
    · omega
    · have beside := not_inside_bare fits one other (List.mem_of_getLast? found) empty'
      omega
  · rcases extends' with ⟨last', found', start', stop'⟩ | ⟨empty', start', stop'⟩
    · have beside := not_inside_bare fits other one (List.mem_of_getLast? found') empty
      omega
    · rcases apart_of_bare fits one other empty empty' differ loose loose' with before | after
      · omega
      · omega

end RequestLint.Fix
