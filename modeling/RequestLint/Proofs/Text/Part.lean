import RequestLint.Text.Part

/-! What splitting a text gives: the stretches between its cuts, the first one and then
those that stand right after a cut. -/
namespace RequestLint.Text

variable {cut : Char → Bool} {chars part : List Char}

/-- The part stands in the text between two cuts, or between a cut and an end, and
nothing in it is cut. -/
def IsStretch (cut : Char → Bool) (chars part : List Char) : Prop :=
  (∀ char ∈ part, cut char = false) ∧ ∃ before after, chars = before ++ part ++ after ∧
    (∀ char ∈ before.getLast?, cut char = true) ∧ ∀ char ∈ after.head?, cut char = true

/-- The text starts with the part, which ends at its end or at a cut. -/
def IsFirstStretch (cut : Char → Bool) (chars part : List Char) : Prop :=
  (∀ char ∈ part, cut char = false) ∧ ∃ after, chars = part ++ after ∧
    ∀ char ∈ after.head?, cut char = true

/-- The part stands right after a cut, and ends as all stretches do. -/
def IsLaterStretch (cut : Char → Bool) (chars part : List Char) : Prop :=
  ∃ before char rest, cut char = true ∧ chars = before ++ char :: rest ∧
    IsFirstStretch cut rest part

theorem isStretch_iff :
    IsStretch cut chars part ↔ IsFirstStretch cut chars part ∨ IsLaterStretch cut chars part := by
  constructor
  · rintro ⟨uncut, before, after, rfl, cutBefore, cutAfter⟩
    obtain rfl | ⟨start, char, rfl⟩ := List.eq_nil_or_concat before
    · exact .inl ⟨uncut, after, by rw [List.nil_append], cutAfter⟩
    · rw [List.concat_eq_append] at cutBefore ⊢
      refine .inr ⟨start, char, part ++ after, cutBefore char (by simp), by simp, ?_⟩
      exact ⟨uncut, after, rfl, cutAfter⟩
  · rintro (⟨uncut, after, rfl, cutAfter⟩ | ⟨before, char, _, cuts, rfl, uncut, after, rfl, cutAfter⟩)
    · exact ⟨uncut, [], after, rfl, nofun, cutAfter⟩
    · refine ⟨uncut, before ++ [char], after, by simp, ?_, cutAfter⟩
      intro last ends
      rw [List.getLast?_concat] at ends
      cases ends
      exact cuts

theorem isFirstStretch_iff : IsFirstStretch cut chars part ↔ part = chars.takeWhile (!cut ·) := by
  constructor
  · rintro ⟨uncut, after, rfl, cutAfter⟩
    have stop : after.takeWhile (!cut ·) = [] := by
      cases after with
      | nil => rfl
      | cons char rest => simp [cutAfter char rfl]
    rw [List.takeWhile_append_of_pos (by simpa using uncut), stop, List.append_nil]
  · rintro rfl
    refine ⟨?_, chars.dropWhile (!cut ·), List.takeWhile_append_dropWhile.symm, ?_⟩
    · intro char member
      simpa using List.all_eq_true.1 List.all_takeWhile char member
    · intro char starts
      have stopped := List.head?_dropWhile_not (!cut ·) chars
      rw [Option.mem_def.1 starts] at stopped
      simpa using stopped

theorem isLaterStretch_cons {char : Char} {rest : List Char} :
    IsLaterStretch cut (char :: rest) part ↔
      (cut char = true ∧ IsFirstStretch cut rest part) ∨ IsLaterStretch cut rest part := by
  constructor
  · rintro ⟨before, cutter, after, cuts, same, first⟩
    cases before with
    | nil =>
      cases same
      exact .inl ⟨cuts, first⟩
    | cons _ before =>
      cases same
      exact .inr ⟨before, cutter, after, cuts, rfl, first⟩
  · rintro (⟨cuts, first⟩ | ⟨before, cutter, after, cuts, rfl, first⟩)
    · exact ⟨[], char, rest, cuts, rfl, first⟩
    · exact ⟨char :: before, cutter, after, cuts, rfl, first⟩

/-- Splitting gives the first stretch and then the later ones. -/
theorem split_spec (cut : Char → Bool) (chars : List Char) :
    ∃ later, split cut chars = chars.takeWhile (!cut ·) :: later ∧
      ∀ part, part ∈ later ↔ IsLaterStretch cut chars part := by
  induction chars with
  | nil =>
    refine ⟨[], rfl, fun part => ⟨nofun, ?_⟩⟩
    rintro ⟨before, _, _, _, same, _⟩
    cases before with
    | nil => cases same
    | cons _ _ => cases same
  | cons char rest ih =>
    obtain ⟨later, found, members⟩ := ih
    simp only [isLaterStretch_cons, isFirstStretch_iff]
    cases cuts : cut char with
    | true =>
      refine ⟨split cut rest, ?_, fun part => ?_⟩
      · rw [split, if_pos cuts]
        simp [cuts]
      · rw [found, List.mem_cons, members]
        simp
    | false =>
      refine ⟨later, ?_, fun part => ?_⟩
      · rw [split, found]
        simp [cuts]
      · rw [members]
        simp

theorem mem_split_iff : part ∈ split cut chars ↔ IsStretch cut chars part := by
  obtain ⟨later, found, members⟩ := split_spec cut chars
  rw [found, List.mem_cons, members, isStretch_iff, isFirstStretch_iff]

end RequestLint.Text
