import RequestLint.Terminal.Markup
import Mathlib.Data.List.Basic

/-! What markup is taken to show, and that it shows so here. A tag that opens a style and
the one that closes it are not seen; a tag behind a backslash is. -/
namespace RequestLint.Terminal

/-- Characters with a meaning in markup, and controls. -/
def isMark (char : Char) : Bool := char ∈ ['[', ']', '\\', ':'] || char.toNat < 32

/-- Nothing in the text has a meaning in markup or controls the terminal. -/
def Plain (text : String) : Prop := text.toList.any isMark = false

instance (text : String) : Decidable (Plain text) :=
  inferInstanceAs (Decidable (text.toList.any isMark = false))

theorem isMark_of_isDigit {char : Char} (digit : char.isDigit = true) : isMark char = false := by
  have none_digit : ['[', ']', '\\', ':'].all (!Char.isDigit ·) = true := by decide
  have unlisted : char ∉ ['[', ']', '\\', ':'] := by
    intro listed
    have other := List.all_eq_true.1 none_digit char listed
    rw [digit] at other
    cases other
  have least : 48 ≤ char.toNat := by
    simp only [Char.isDigit, Bool.and_eq_true, decide_eq_true_eq] at digit
    exact UInt32.le_iff_toNat_le.1 digit.1
  rw [isMark, decide_eq_false unlisted, Bool.false_or, decide_eq_false]
  omega

/-- The text can stand between the brackets of a tag. -/
def NamesTag (text : String) : Prop :=
  Plain text ∧ (text.toList.head?.any fun first => 'a' ≤ first && first ≤ 'z') = true

instance (text : String) : Decidable (NamesTag text) :=
  inferInstanceAs (Decidable (Plain text ∧ _ = true))

/-- What a terminal shows of styled text. -/
structure ShowsMarkup (shows : String → String) : Prop where
  styled : ∀ style text, NamesTag style → Plain text →
    shows ("[" ++ style ++ "]" ++ text ++ "[/" ++ style ++ "]") = text
  escaped : ∀ style tag text, NamesTag style → NamesTag tag → Plain text →
    shows ("[" ++ style ++ "]" ++ "\\[" ++ tag ++ "]" ++ text ++ "[/" ++ style ++ "]") =
      "[" ++ tag ++ "]" ++ text

variable {chars inner after : List Char} {first char : Char} {position : Nat}
  {before : List Char}

theorem dropEscapes_of_not_mem (bare : '\\' ∉ chars) : dropEscapes chars = chars := by
  induction chars with
  | nil => rfl
  | cons char rest ih =>
    rw [List.mem_cons, not_or] at bare
    rw [dropEscapes, ih bare.2]
    rintro _ rfl
    exact absurd rfl bare.1

theorem withEmoji_of_not_mem (bare : ':' ∉ chars) : withEmoji chars = chars := by
  induction chars with
  | nil => rw [withEmoji]
  | cons char rest ih =>
    rw [List.mem_cons, not_or] at bare
    rw [withEmoji, if_neg (Ne.symm bare.1), ih bare.2]

theorem shown_plain (unescaped : '\\' ∉ chars) (bare : ':' ∉ chars) :
    (MarkupPart.plain chars).shown = chars := by
  rw [MarkupPart.shown, dropEscapes_of_not_mem unescaped, withEmoji_of_not_mem bare]

theorem shown_nothing : (MarkupPart.plain []).shown = [] :=
  shown_plain List.not_mem_nil List.not_mem_nil

theorem shown_tag (position : Nat) (inner : List Char) :
    (MarkupPart.tag position inner).shown = [] := rfl

theorem tag?_eq_some (opens : opensTag first = true) (within : (first :: inner).all inTag = true) :
    tag? ('[' :: first :: (inner ++ ']' :: after)) = some (first :: inner, after) := by
  have held := List.all_eq_true.1 within
  have skipped : (first :: (inner ++ ']' :: after)).dropWhile inTag = ']' :: after := by
    rw [← List.cons_append, List.dropWhile_append_of_pos held]
    rfl
  have taken : (first :: (inner ++ ']' :: after)).takeWhile inTag = first :: inner := by
    rw [← List.cons_append, List.takeWhile_append_of_pos held]
    exact List.append_nil _
  rw [tag?, skipped, taken]
  exact if_pos opens

theorem partsFrom_of_some {char : Char} {rest tag : List Char} {count : Nat}
    (found : slashedTag? (char :: rest) = some (count, tag, after)) :
    partsFrom position before (char :: rest) =
      .plain before :: .plain (slashes (count / 2)) ::
        (if count % 2 = 1 then .plain ('[' :: tag ++ [']']) else .tag (position + count) tag) ::
        partsFrom (position + count + tag.length + 2) [] after := by
  rw [partsFrom]
  split
  next read =>
    cases found.symm.trans read
    rfl
  next read => cases found.symm.trans read

theorem partsFrom_of_none {char : Char} {rest : List Char}
    (missing : slashedTag? (char :: rest) = none) :
    partsFrom position before (char :: rest) =
      partsFrom (position + 1) (before ++ [char]) rest := by
  rw [partsFrom]
  split
  next read => cases missing.symm.trans read
  next => rfl

/-- Without brackets and backslashes, a stretch of text shows as it is. -/
theorem partsFrom_text (chars : List Char) (untagged : '[' ∉ chars) (unescaped : '\\' ∉ chars) :
    partsFrom position before (chars ++ after) =
      partsFrom (position + chars.length) (before ++ chars) after := by
  induction chars generalizing position before with
  | nil => rw [List.nil_append, List.length_nil, Nat.add_zero, List.append_nil]
  | cons char rest ih =>
    rw [List.mem_cons, not_or] at untagged unescaped
    have slashless : isSlash char = false := decide_eq_false (Ne.symm unescaped.1)
    have no_tag : slashedTag? (char :: (rest ++ after)) = none := by
      rw [slashedTag?, List.dropWhile_cons_of_neg (by simp [slashless]), tag?]
      · rfl
      · exact fun _ _ same => untagged.1 (List.cons.inj same).1.symm
    rw [List.cons_append, partsFrom_of_none no_tag, ih untagged.2 unescaped.2, List.length_cons,
      Nat.add_assoc, Nat.add_comm 1, List.append_assoc]
    rfl

theorem partsFrom_tag (opens : opensTag first = true)
    (within : (first :: inner).all inTag = true) :
    partsFrom position before ('[' :: first :: (inner ++ ']' :: after)) =
      .plain before :: .plain [] :: .tag position (first :: inner) ::
        partsFrom (position + (first :: inner).length + 2) [] after := by
  have found : slashedTag? ('[' :: first :: (inner ++ ']' :: after)) =
      some (0, first :: inner, after) := by
    rw [slashedTag?, List.dropWhile_cons_of_neg (by decide), tag?_eq_some opens within]
    rfl
  exact partsFrom_of_some found

theorem partsFrom_escapedTag (opens : opensTag first = true)
    (within : (first :: inner).all inTag = true) :
    partsFrom position before ('\\' :: '[' :: first :: (inner ++ ']' :: after)) =
      .plain before :: .plain [] :: .plain ('[' :: first :: inner ++ [']']) ::
        partsFrom (position + 1 + (first :: inner).length + 2) [] after := by
  have found : slashedTag? ('\\' :: '[' :: first :: (inner ++ ']' :: after)) =
      some (1, first :: inner, after) := by
    rw [slashedTag?, List.dropWhile_cons_of_pos (by decide),
      List.dropWhile_cons_of_neg (by decide), tag?_eq_some opens within]
    rfl
  exact partsFrom_of_some found

variable {style tag text : String}

theorem Plain.not_mem {char : Char} (plain : Plain text) (marks : isMark char = true) :
    char ∉ text.toList := fun member => List.any_eq_false.1 plain char member marks

/-- The characters of a tag, and that they can be read as one, also behind a slash. -/
theorem NamesTag.exists_cons (named : NamesTag tag) : ∃ first inner,
    tag.toList = first :: inner ∧ opensTag first = true ∧ (first :: inner).all inTag = true := by
  obtain ⟨plain, letter⟩ := named
  obtain ⟨first, head, small⟩ := (Option.any_eq_true _ _).1 letter
  obtain ⟨inner, chars⟩ := List.head?_eq_some_iff.1 head
  refine ⟨first, inner, chars, ?_, ?_⟩
  · rw [opensTag, small]
    rfl
  · rw [← chars, List.all_eq_true]
    intro char member
    have opening : char ≠ '[' := fun same => plain.not_mem (by decide) (same ▸ member)
    have closing : char ≠ ']' := fun same => plain.not_mem (by decide) (same ▸ member)
    simp [inTag, opening, closing]

theorem showsMarkup_shown : ShowsMarkup shown := by
  constructor
  case styled =>
    intro style text named plain
    obtain ⟨first, inner, chars, opens, within⟩ := named.exists_cons
    have closes : ('/' :: first :: inner).all inTag = true := by
      rw [List.all_cons, within]
      rfl
    have read : ("[" ++ style ++ "]" ++ text ++ "[/" ++ style ++ "]").toList =
        '[' :: first :: (inner ++ ']' :: (text.toList ++
          '[' :: '/' :: (first :: inner ++ ']' :: []))) := by
      simp [chars]
    have shows := shown_plain (plain.not_mem (by decide)) (plain.not_mem (by decide))
    rw [← String.toList_inj, shown, String.toList_ofList, parts, read, partsFrom_tag opens within,
      partsFrom_text _ (plain.not_mem (by decide)) (plain.not_mem (by decide)),
      partsFrom_tag (by decide) closes, partsFrom]
    simp only [List.flatMap_cons, List.flatMap_nil, List.nil_append, List.append_nil,
      shown_nothing, shown_tag, shows]
  case escaped =>
    intro style tag text named named' plain
    obtain ⟨first, inner, chars, opens, within⟩ := named.exists_cons
    obtain ⟨first', inner', chars', opens', within'⟩ := named'.exists_cons
    have closes : ('/' :: first :: inner).all inTag = true := by
      rw [List.all_cons, within]
      rfl
    have read : ("[" ++ style ++ "]" ++ "\\[" ++ tag ++ "]" ++ text ++ "[/" ++ style ++ "]").toList =
        '[' :: first :: (inner ++ ']' :: ('\\' :: '[' :: first' :: (inner' ++ ']' ::
          (text.toList ++ '[' :: '/' :: (first :: inner ++ ']' :: []))))) := by
      simp [chars, chars']
    have shows := shown_plain (plain.not_mem (by decide)) (plain.not_mem (by decide))
    have literal : (MarkupPart.plain ('[' :: first' :: inner' ++ [']'])).shown =
        '[' :: first' :: inner' ++ [']'] := by
      rw [← chars']
      refine shown_plain ?_ ?_
      · simpa using named'.1.not_mem (by decide)
      · simpa using named'.1.not_mem (by decide)
    rw [← String.toList_inj, shown, String.toList_ofList, parts, read, partsFrom_tag opens within,
      partsFrom_escapedTag opens' within',
      partsFrom_text _ (plain.not_mem (by decide)) (plain.not_mem (by decide)),
      partsFrom_tag (by decide) closes, partsFrom]
    simp only [List.flatMap_cons, List.flatMap_nil, List.nil_append, List.append_nil,
      shown_nothing, shown_tag, shows, literal]
    simp [chars']

end RequestLint.Terminal
