import RequestLint.Text.LetterCase

/-! Words that can be recognised whatever their letter case. No character beyond the
basic ones is lowered to a basic letter, apart from two: the sign for kelvin becomes a
`k`, and a capital `I` with a dot becomes an `i` and a mark. A text is therefore lowered
to a basic word without these two letters only if it consists of basic letters itself,
and then each of them is lowered on its own. -/
namespace RequestLint.Text

variable {char : Char}

/-- A basic character that nothing else is lowered to. -/
def isDistinctive (char : Char) : Bool := char.toNat < 0x80 && char ≠ 'k' && char ≠ 'i'

/-- A run of the table leaves the basic characters alone, or stays clear of them; one
leads to the letter `k`. -/
def CaseRun.staysClear (run : CaseRun) : Bool :=
  run.last < 0x80 ||
    (run.first = run.last && (run.first + run.delta).toNat = 'k'.toNat) ||
    (0x80 ≤ run.first + run.delta && (run.last + run.delta < 0xD800 ||
      (0xE000 ≤ run.first + run.delta && run.last + run.delta < 0x110000)))

theorem staysClear_of_mem_lowerRuns : ∀ run ∈ lowerRuns, run.staysClear = true := by
  decide +kernel

theorem not_isDistinctive_of_toNat (foreign : 0x80 ≤ char.toNat) : isDistinctive char = false := by
  simp [isDistinctive, Nat.not_lt.2 foreign]

theorem not_isDistinctive_of_covers {run : CaseRun} {code : Nat} (listed : run ∈ lowerRuns)
    (foreign : 0x80 ≤ code) (covered : run.covers code = true) :
    isDistinctive (Char.ofNat (code + run.delta).toNat) = false := by
  have clear := staysClear_of_mem_lowerRuns run listed
  simp only [CaseRun.covers, Bool.and_eq_true, decide_eq_true_eq] at covered
  simp only [CaseRun.staysClear, Bool.or_eq_true, Bool.and_eq_true, decide_eq_true_eq] at clear
  obtain ⟨⟨low, high⟩, _⟩ := covered
  rcases clear with (below | ⟨single, kelvin⟩) | ⟨above, valid⟩
  · omega
  · have same : code = run.first := by omega
    rw [same, kelvin]
    decide
  · apply not_isDistinctive_of_toNat
    have isValid : (code + run.delta).toNat.isValidChar := by
      rw [Nat.isValidChar]
      omega
    have image : (Char.ofNat (code + run.delta).toNat).toNat = (code + run.delta).toNat := by
      rw [Char.ofNat, dif_pos isValid]
      rfl
    omega

/-- What another character is lowered to starts with no distinctive one. -/
theorem lowerChar_of_foreign (foreign : 0x80 ≤ char.toNat) :
    ∃ first later, lowerChar char = first :: later ∧ isDistinctive first = false := by
  rw [lowerChar, if_neg (Nat.not_lt.2 foreign), mapCase]
  split
  next codes found =>
    have dotted : codes = [0x69, 0x307] := by
      rw [lowerExpansions, List.lookup_cons, List.lookup_nil] at found
      split at found
      · exact (Option.some.inj found).symm
      · cases found
    exact ⟨'i', _, by rw [dotted]; rfl, by decide⟩
  next =>
    split
    next run found =>
      have covered : run.covers char.toNat = true := by simpa using List.find?_some found
      exact ⟨_, [], rfl, not_isDistinctive_of_covers (List.mem_of_find?_eq_some found) foreign
        covered⟩
    next => exact ⟨char, [], rfl, not_isDistinctive_of_toNat foreign⟩

theorem toLower_of_foreign (foreign : 0x80 ≤ char.toNat) : char.toLower = char := by
  have large : ¬ char.val ≤ 'Z'.val := by
    intro small
    have bound : char.toNat ≤ 90 := small
    omega
  exact dif_neg fun both => large both.2

theorem lowerFrom_eq_iff {before chars letters : List Char}
    (plain : ∀ letter ∈ letters, isDistinctive letter = true) :
    lowerFrom before chars = letters ↔ chars.map Char.toLower = letters := by
  induction chars generalizing before letters with
  | nil => rfl
  | cons char rest ih =>
    rw [lowerFrom, List.map_cons]
    by_cases basic : char.toNat < 0x80
    · have other : char ≠ 'Σ' := by
        rintro rfl
        exact absurd basic (by decide)
      rw [if_neg other, lowerChar, if_pos basic, List.singleton_append]
      cases letters with
      | nil => exact ⟨nofun, nofun⟩
      | cons letter letters =>
        rw [List.cons.injEq, List.cons.injEq,
          ih fun letter member => plain letter (List.mem_cons_of_mem _ member)]
    · have foreign := Nat.not_lt.1 basic
      constructor
      · intro same
        have headed : ∃ first later, letters = first :: later ∧ isDistinctive first = false := by
          rw [← same]
          split
          · split
            · exact ⟨_, _, rfl, by decide⟩
            · exact ⟨_, _, rfl, by decide⟩
          · obtain ⟨first, later, lowered, clear⟩ := lowerChar_of_foreign foreign
            exact ⟨first, _, by rw [lowered, List.cons_append], clear⟩
        obtain ⟨first, later, rfl, clear⟩ := headed
        exact absurd (plain first List.mem_cons_self) (by simp [clear])
      · rintro rfl
        have clear := plain _ List.mem_cons_self
        rw [toLower_of_foreign foreign, not_isDistinctive_of_toNat foreign] at clear
        cases clear

/-- A word of distinctive letters is recognised letter by letter. -/
theorem lower_eq_iff {text word : String}
    (plain : ∀ letter ∈ word.toList, isDistinctive letter = true) :
    lower text = word ↔ text.toList.map Char.toLower = word.toList := by
  rw [lower, ← String.toList_inj, String.toList_ofList, lowerFrom_eq_iff plain]

end RequestLint.Text
