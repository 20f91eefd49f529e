import RequestLint.Proofs.Fix.Replacement
import RequestLint.Proofs.Text.Utf8

/-! Fixes of a text. Fixes give ranges of bytes, and are applied to the encoding of a
text. Where no range cuts through a character, the result is again the encoding of a
text: the one in which the same fixes are applied to the characters. The offsets of
characters grow with their indices, so that ranges of characters and the ranges of
their bytes are ordered, chosen and replaced alike. -/
namespace RequestLint

namespace Utf8

/-- The number of bytes before the character at an index. -/
def offset (text : String) (index : Nat) : Nat :=
  ((text.toList.take index).flatMap String.utf8EncodeChar).length

/-- The offset is that of a character, or of the end of the text. -/
def IsBoundary (text : String) (bytes : Nat) : Prop :=
  ∃ index ≤ text.length, offset text index = bytes

instance (text : String) (bytes : Nat) : Decidable (IsBoundary text bytes) :=
  inferInstanceAs (Decidable (∃ index ≤ text.length, offset text index = bytes))

theorem offset_add (text : String) (index more : Nat) :
    offset text (index + more) = offset text index +
      (((text.toList.drop index).take more).flatMap String.utf8EncodeChar).length := by
  rw [offset, List.take_add, List.flatMap_append, List.length_append, offset]

theorem offset_length (text : String) : offset text text.length = (encode text).length := by
  rw [offset, ← String.length_toList, List.take_length, encode]

/-- Every character has bytes of its own. -/
theorem offset_lt {text : String} {i j : Nat} (order : i < j) (bound : j ≤ text.length) :
    offset text i < offset text j := by
  obtain ⟨more, rfl⟩ := Nat.exists_eq_add_of_lt order
  rw [Nat.add_assoc, offset_add]
  rw [← String.length_toList] at bound
  have held : i < text.toList.length := by omega
  rw [List.drop_eq_getElem_cons held, List.take_succ_cons, List.flatMap_cons, List.length_append]
  have bytes : 0 < (String.utf8EncodeChar text.toList[i]).length := by
    rw [String.length_utf8EncodeChar]
    exact Char.utf8Size_pos _
  omega

theorem offset_le_iff {text : String} {i j : Nat} (first : i ≤ text.length)
    (second : j ≤ text.length) : offset text i ≤ offset text j ↔ i ≤ j := by
  constructor
  · intro order
    by_contra back
    have := offset_lt (Nat.lt_of_not_le back) first
    omega
  · intro order
    rcases Nat.lt_or_eq_of_le order with less | rfl
    · exact Nat.le_of_lt (offset_lt less second)
    · exact Nat.le_refl _

theorem flatMap_split (chars : List Char) (index : Nat) :
    chars.flatMap String.utf8EncodeChar = (chars.take index).flatMap String.utf8EncodeChar ++
      (chars.drop index).flatMap String.utf8EncodeChar := by
  rw [← List.flatMap_append, List.take_append_drop]

theorem drop_encode (text : String) (index : Nat) :
    (encode text).drop (offset text index) =
      (text.toList.drop index).flatMap String.utf8EncodeChar := by
  rw [encode, flatMap_split text.toList index, offset, List.drop_left]

/-- A range of characters is encoded by the bytes between their offsets. -/
theorem slice_encode (text : String) {start stop : Nat} (order : start ≤ stop) :
    (encode text).slice (offset text start) (offset text stop) =
      ((text.toList.drop start).take (stop - start)).flatMap String.utf8EncodeChar := by
  obtain ⟨more, rfl⟩ := Nat.exists_eq_add_of_le order
  rw [Bytes.slice, drop_encode, offset_add, Nat.add_sub_cancel_left, Nat.add_sub_cancel_left,
    flatMap_split (text.toList.drop start) more, List.take_left]

end Utf8

namespace Fix

/-- The characters from `position` on, with ranges of characters replaced. The ranges
are read in the text itself, and stand in increasing order. -/
def replacedCharacters (chars : List Char) (position : Nat) : List Fix → List Char
  | [] => chars.drop position
  | fix :: rest =>
    (chars.drop position).take (fix.start.toNat - position) ++ fix.text.toList ++
      replacedCharacters chars fix.stop.toNat rest

/-- The fix of the bytes of a range of characters. -/
def inBytes (source : String) (range : Fix) : Fix where
  start := Utf8.offset source range.start.toNat
  stop := Utf8.offset source range.stop.toNat
  text := range.text

variable {source : String} {ranges fixes : List Fix}

theorem offset_toNat_le_iff {i j : Int} (first : 0 ≤ i ∧ i ≤ source.length)
    (second : 0 ≤ j ∧ j ≤ source.length) :
    (Utf8.offset source i.toNat : Int) ≤ Utf8.offset source j.toNat ↔ i ≤ j := by
  rw [Int.ofNat_le, Utf8.offset_le_iff (by omega) (by omega)]
  omega

theorem precedes_inBytes {a b : Fix} (first : a.Inside source.length)
    (second : b.Inside source.length) :
    precedes (inBytes source a) (inBytes source b) = precedes a b := by
  obtain ⟨aStart, aOrder, aStop⟩ := first
  obtain ⟨bStart, bOrder, bStop⟩ := second
  have upward : (Utf8.offset source a.start.toNat : Int) ≤ _ ↔ _ :=
    offset_toNat_le_iff ⟨aStart, by omega⟩ ⟨bStart, by omega⟩
  have downward : (Utf8.offset source b.start.toNat : Int) ≤ _ ↔ _ :=
    offset_toNat_le_iff ⟨bStart, by omega⟩ ⟨aStart, by omega⟩
  have stops : (Utf8.offset source b.stop.toNat : Int) ≤ _ ↔ _ :=
    offset_toNat_le_iff ⟨by omega, bStop⟩ ⟨by omega, aStop⟩
  rw [Bool.eq_iff_iff]
  simp only [precedes, Bool.or_eq_true, Bool.and_eq_true, decide_eq_true_eq]
  simp only [inBytes]
  omega

theorem ordered_inBytes (inside : ∀ range ∈ ranges, range.Inside source.length) :
    ordered (ranges.map (inBytes source)) = (ordered ranges).map (inBytes source) := by
  symm
  apply List.map_mergeSort
  intro a first b second
  exact (precedes_inBytes (inside a first) (inside b second)).symm

/-- A choice by ranges is carried over by a map that keeps their comparisons. -/
theorem chosenBelow_map {boundary boundary' : Int} {shift : Fix → Fix}
    (border : ∀ fix ∈ fixes, boundary' < (shift fix).stop ↔ boundary < fix.stop)
    (alike : ∀ a ∈ fixes, ∀ b ∈ fixes, (shift a).start < (shift b).stop ↔ a.start < b.stop) :
    chosenBelow boundary' (fixes.map shift) = (chosenBelow boundary fixes).map shift := by
  induction fixes generalizing boundary boundary' with
  | nil => rfl
  | cons head rest ih =>
    have alikeRest : ∀ a ∈ rest, ∀ b ∈ rest, (shift a).start < (shift b).stop ↔ a.start < b.stop :=
      fun a first b second =>
        alike a (List.mem_cons_of_mem _ first) b (List.mem_cons_of_mem _ second)
    rw [List.map_cons, chosenBelow, chosenBelow]
    by_cases skips : boundary < head.stop
    · rw [if_pos skips, if_pos ((border head List.mem_cons_self).2 skips)]
      exact ih (fun fix member => border fix (List.mem_cons_of_mem _ member)) alikeRest
    · rw [if_neg skips, if_neg (mt (border head List.mem_cons_self).1 skips), List.map_cons]
      exact congrArg _ (ih (fun fix member =>
        alike head List.mem_cons_self fix (List.mem_cons_of_mem _ member)) alikeRest)

theorem inside_inBytes {range : Fix} (inside : range.Inside source.length) :
    (inBytes source range).Inside (Utf8.encode source).length := by
  obtain ⟨start, order, stop⟩ := inside
  have width := (@offset_toNat_le_iff source _ _ ⟨start, by omega⟩ ⟨by omega, stop⟩).2 order
  have bound := (@Utf8.offset_le_iff source range.stop.toNat source.length (by omega)
    (Nat.le_refl _)).2 (by omega)
  rw [Utf8.offset_length] at bound
  exact ⟨Int.natCast_nonneg _, width, Int.ofNat_le.2 bound⟩

theorem applied_inBytes (inside : ∀ range ∈ ranges, range.Inside source.length) :
    applied (Utf8.encode source).length (ranges.map (inBytes source)) =
      (applied source.length ranges).map (inBytes source) := by
  have insideOrdered : ∀ range ∈ ordered ranges, range.Inside source.length :=
    fun range member => inside range ((ordered_perm ranges).subset member)
  rw [applied, ordered_inBytes inside, applied]
  apply chosenBelow_map
  · intro range member
    have bytes := (inside_inBytes (insideOrdered range member)).2.2
    have characters := (insideOrdered range member).2.2
    omega
  · intro a first b second
    obtain ⟨_, _, _⟩ := insideOrdered a first
    obtain ⟨_, _, _⟩ := insideOrdered b second
    have turned := @offset_toNat_le_iff source b.stop a.start (by omega) (by omega)
    simp only [inBytes]
    omega

/-- The bytes of a text with ranges of characters replaced. -/
theorem flatMap_replacedCharacters {position : Nat}
    (inside : ∀ range ∈ ranges, range.Inside source.length)
    (later : ∀ range ∈ ranges, (position : Int) ≤ range.start) (order : ranges.Pairwise Before) :
    (replacedCharacters source.toList position ranges).flatMap String.utf8EncodeChar =
      replaced (Utf8.encode source) (Utf8.offset source position)
        (ranges.map (inBytes source)) := by
  induction ranges generalizing position with
  | nil => exact (Utf8.drop_encode source position).symm
  | cons range rest ih =>
    obtain ⟨next, orderRest⟩ := List.pairwise_cons.1 order
    obtain ⟨start, width, stop⟩ := inside range List.mem_cons_self
    have front := later range List.mem_cons_self
    have laterRest : ∀ other ∈ rest, (range.stop.toNat : Int) ≤ other.start := by
      intro other member
      have beyond : range.stop ≤ other.start := next other member
      omega
    rw [replacedCharacters, List.flatMap_append, List.flatMap_append,
      ih (fun other member => inside other (List.mem_cons_of_mem _ member)) laterRest orderRest,
      ← Utf8.slice_encode source (by omega), List.map_cons, replaced]
    rfl

/-- Applying the fixes of the bytes of ranges encodes what applying the ranges to the
characters gives. -/
theorem applyAll_inBytes (inside : ∀ range ∈ ranges, range.Inside source.length) :
    applyAll (Utf8.encode source) (ranges.map (inBytes source)) =
      (replacedCharacters source.toList 0 (applied source.length ranges).reverse).flatMap
        String.utf8EncodeChar := by
  have insideBytes : ∀ fix ∈ ranges.map (inBytes source),
      fix.Inside (Utf8.encode source).length := by
    intro fix member
    obtain ⟨range, listed, rfl⟩ := List.mem_map.1 member
    exact inside_inBytes (inside range listed)
  have insideApplied : ∀ range ∈ (applied source.length ranges).reverse,
      range.Inside source.length := fun range member =>
    inside range ((ordered_perm ranges).subset
      ((chosenBelow_sublist _ _).subset (List.mem_reverse.1 member)))
  rw [applyAll_eq_replaced insideBytes, applied_inBytes inside, ← List.map_reverse,
    flatMap_replacedCharacters insideApplied (fun range member => (insideApplied range member).1)
      (pairwise_applied inside)]
  rfl

/-- Fixes between characters are those of the bytes of some ranges of characters. -/
theorem exists_ranges (inside : ∀ fix ∈ fixes, fix.Inside (Utf8.encode source).length)
    (whole : ∀ fix ∈ fixes, Utf8.IsBoundary source fix.start.toNat ∧
      Utf8.IsBoundary source fix.stop.toNat) :
    ∃ ranges : List Fix, fixes = ranges.map (inBytes source) ∧
      ∀ range ∈ ranges, range.Inside source.length := by
  induction fixes with
  | nil => exact ⟨[], rfl, nofun⟩
  | cons fix rest ih =>
    obtain ⟨ranges, same, insideRest⟩ := ih
      (fun other member => inside other (List.mem_cons_of_mem _ member))
      (fun other member => whole other (List.mem_cons_of_mem _ member))
    obtain ⟨positive, width, _⟩ := inside fix List.mem_cons_self
    obtain ⟨⟨start, first, startBytes⟩, ⟨stop, second, stopBytes⟩⟩ := whole fix List.mem_cons_self
    have order : start ≤ stop := (Utf8.offset_le_iff first second).1 (by omega)
    refine ⟨⟨start, stop, fix.text⟩ :: ranges, ?_, ?_⟩
    · rw [List.map_cons, ← same, inBytes, Int.toNat_natCast, Int.toNat_natCast, startBytes,
        stopBytes, Int.toNat_of_nonneg positive, Int.toNat_of_nonneg (by omega)]
    · intro range member
      rcases List.mem_cons.1 member with rfl | member
      · exact ⟨Int.natCast_nonneg _, Int.ofNat_le.2 order, Int.ofNat_le.2 second⟩
      · exact insideRest range member

/-- Fixes whose ranges lie in a text and cut through no character can be applied to it:
decoding does not fail, the result encodes what the fixes make of the bytes, and it is
the text in which the same ranges, counted in characters, are replaced; of those the
same are chosen as of the ranges of bytes. -/
theorem applyAllToText_replaces_characters (source : String) (fixes : List Fix)
    (inside : ∀ fix ∈ fixes, fix.Inside (Utf8.encode source).length)
    (whole : ∀ fix ∈ fixes, Utf8.IsBoundary source fix.start.toNat ∧
      Utf8.IsBoundary source fix.stop.toNat) :
    ∃ (result : String) (ranges : List Fix),
      applyAllToText source fixes = some result ∧
      Utf8.encode result = applyAll (Utf8.encode source) fixes ∧
      fixes = ranges.map (inBytes source) ∧
      (∀ range ∈ ranges, range.Inside source.length) ∧
      applied (Utf8.encode source).length fixes =
        (applied source.length ranges).map (inBytes source) ∧
      result.toList =
        replacedCharacters source.toList 0 (applied source.length ranges).reverse := by
  obtain ⟨ranges, rfl, insideRanges⟩ := exists_ranges inside whole
  have encoded : Utf8.encode (String.ofList
      (replacedCharacters source.toList 0 (applied source.length ranges).reverse)) =
        applyAll (Utf8.encode source) (ranges.map (inBytes source)) := by
    rw [applyAll_inBytes insideRanges, Utf8.encode, String.toList_ofList]
  refine ⟨_, ranges, ?_, encoded, rfl, insideRanges, applied_inBytes insideRanges,
    String.toList_ofList⟩
  rw [applyAllToText, ← encoded, Utf8.decode?_encode]

/-- A character of two bytes replaced, an insertion after one of four, and a fix that
reaches over both. -/
def accentedFixes : List Fix := [⟨1, 3, "ß"⟩, ⟨0, 7, "long"⟩, ⟨7, 7, "ü"⟩]

theorem applyAllToText_replaces_characters_accented :
    (∀ fix ∈ accentedFixes, fix.Inside (Utf8.encode "aé𝒳b").length) ∧
    (∀ fix ∈ accentedFixes, Utf8.IsBoundary "aé𝒳b" fix.start.toNat ∧
      Utf8.IsBoundary "aé𝒳b" fix.stop.toNat) ∧
    ∃ ranges : List Fix,
      applyAllToText "aé𝒳b" accentedFixes = some "aß𝒳üb" ∧
      accentedFixes = ranges.map (inBytes "aé𝒳b") ∧
      replacedCharacters "aé𝒳b".toList 0 (applied "aé𝒳b".length ranges).reverse =
        "aß𝒳üb".toList := by
  have inside : ∀ fix ∈ accentedFixes, fix.Inside (Utf8.encode "aé𝒳b").length := by decide
  have whole : ∀ fix ∈ accentedFixes, Utf8.IsBoundary "aé𝒳b" fix.start.toNat ∧
      Utf8.IsBoundary "aé𝒳b" fix.stop.toNat := by decide
  have order : ordered accentedFixes = [⟨7, 7, "ü"⟩, ⟨1, 3, "ß"⟩, ⟨0, 7, "long"⟩] := by
    simp [ordered, accentedFixes, List.mergeSort, precedes]
  have computed : applyAllToText "aé𝒳b" accentedFixes = some "aß𝒳üb" := by
    rw [applyAllToText, applyAll, order]
    decide +kernel
  obtain ⟨result, ranges, decoded, _, same, _, _, characters⟩ :=
    applyAllToText_replaces_characters "aé𝒳b" accentedFixes inside whole
  obtain rfl : result = "aß𝒳üb" := Option.some.inj (decoded.symm.trans computed)
  exact ⟨inside, whole, ranges, computed, same, characters.symm⟩

end Fix
end RequestLint
