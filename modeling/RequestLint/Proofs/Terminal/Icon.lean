import RequestLint.Terminal.Icon
import Mathlib.Data.List.Basic

/-! Icons give way to their plain forms. They are replaced one icon after the other, in
a text that holds the plain forms of all icons before. But icons lie beyond ASCII and
plain forms within it, escaped or not, so no replacement makes an icon, or touches what
an earlier one put. The text becomes what it would become if every character were looked
up once, and no icon is left in it. -/
namespace RequestLint.Terminal

variable {table : List (Char × String)} {markup : Bool} {char other : Char} {chars : List Char}
  {text : String}

/-- A replacement joins anew the parts that the old character separates. -/
theorem replaceChar_eq_intercalate (old : Char) (new chars : List Char) :
    replaceChar old new chars = new.intercalate (chars.splitOn old) := by
  induction chars with
  | nil => rfl
  | cons char rest ih =>
    obtain ⟨first, later, parts⟩ := List.exists_cons_of_ne_nil (List.splitOn_ne_nil old rest)
    rw [replaceChar, List.flatMap_cons, ← replaceChar, ih, List.splitOn_cons_eq_if_modifyHead,
      parts]
    by_cases replaced : char = old
    · simp [replaced, List.intercalate_cons_cons]
    · simp [replaced, List.intercalate_cons_cons_left]

/-- A plain form as it is written: in markup its parts between opening brackets are
joined by escaped ones. -/
def written (markup : Bool) (form : String) : String :=
  if markup then "\\[".intercalate ((form.toList.splitOn '[').map String.ofList) else form

theorem toList_written (markup : Bool) (form : String) :
    (written markup form).toList = plainForm markup form := by
  cases markup with
  | false => rfl
  | true =>
    have joined : (written true form).toList = ['\\', '['].intercalate (form.toList.splitOn '[') := by
      simp [written, String.toList_intercalate, Function.comp_def]
    rw [joined, ← replaceChar_eq_intercalate]
    rfl

/-- What stands for a character: the plain form that the table has for it, or else the
character itself. -/
def standIn (table : List (Char × String)) (markup : Bool) (char : Char) : String :=
  match table.lookup char with
  | some form => written markup form
  | none => String.singleton char

def isAscii (char : Char) : Bool := char.toNat < 0x80

/-- The characters to replace lie beyond ASCII, and what to put for them within. -/
def LeadsToAscii (table : List (Char × String)) : Prop :=
  ∀ entry ∈ table, isAscii entry.1 = false ∧ entry.2.toList.all isAscii = true

theorem icons_leadToAscii : LeadsToAscii icons := by
  unfold LeadsToAscii
  decide +kernel

theorem LeadsToAscii.lookup_eq_none (ascii : LeadsToAscii table) (basic : isAscii char = true) :
    table.lookup char = none := by
  rw [List.lookup_eq_none_iff]
  intro entry listed
  have beyond := (ascii entry listed).1
  rw [bne_iff_ne]
  rintro rfl
  rw [basic] at beyond
  cases beyond

theorem isAscii_of_mem_plainForm {form : String} (basic : form.toList.all isAscii = true)
    (member : char ∈ plainForm markup form) : isAscii char = true := by
  have inForm := List.all_eq_true.1 basic
  cases markup with
  | false => exact inForm char member
  | true =>
    obtain ⟨source, listed, stands⟩ := List.mem_flatMap.1 member
    split at stands
    next =>
      have bracket : char = '\\' ∨ char = '[' := by simpa using stands
      rcases bracket with rfl | rfl <;> decide
    next =>
      rw [List.mem_singleton.1 stands]
      exact inForm source listed

/-- Nothing in a stand-in is to be replaced itself. -/
theorem LeadsToAscii.lookup_of_mem_standIn (ascii : LeadsToAscii table)
    (member : other ∈ (standIn table markup char).toList) : table.lookup other = none := by
  rw [standIn] at member
  split at member
  next form found =>
    rw [toList_written] at member
    obtain ⟨before, after, rfl, _⟩ := List.lookup_eq_some_iff.1 found
    have basic := (ascii (char, form) (by simp)).2
    exact ascii.lookup_eq_none (isAscii_of_mem_plainForm basic member)
  next unlisted =>
    rw [String.toList_singleton, List.mem_singleton] at member
    rw [member, unlisted]

theorem flatMap_standIn_of_unlisted (unlisted : ∀ char ∈ chars, table.lookup char = none) :
    (chars.flatMap fun char => (standIn table markup char).toList) = chars := by
  have same : ∀ char ∈ chars, (standIn table markup char).toList = [char] := by
    intro char member
    rw [standIn, unlisted char member, String.toList_singleton]
  rw [List.flatMap_congr same, List.flatMap_singleton']

/-- Replacements one after the other are one replacement. The induction is on the
table: what the first entry puts is in ASCII, so the entries after it leave it alone. -/
theorem foldl_replaceChar (ascii : LeadsToAscii table) (markup : Bool) (chars : List Char) :
    table.foldl (fun chars (icon, form) => replaceChar icon (plainForm markup form) chars) chars =
      chars.flatMap fun char => (standIn table markup char).toList := by
  induction table generalizing chars with
  | nil => exact (flatMap_standIn_of_unlisted fun _ _ => rfl).symm
  | cons entry rest ih =>
    obtain ⟨icon, form⟩ := entry
    have asciiRest : LeadsToAscii rest := fun entry listed =>
      ascii entry (List.mem_cons_of_mem _ listed)
    have basic : form.toList.all isAscii = true := (ascii _ List.mem_cons_self).2
    have settled : ∀ char ∈ plainForm markup form, rest.lookup char = none := fun char member =>
      asciiRest.lookup_eq_none (isAscii_of_mem_plainForm basic member)
    rw [List.foldl_cons, ih asciiRest]
    refine List.flatMap_assoc.trans (List.flatMap_congr fun char _ => ?_)
    by_cases replaced : char = icon
    · rw [if_pos replaced, flatMap_standIn_of_unlisted settled, standIn, replaced,
        List.lookup_cons_self, toList_written]
    · rw [if_neg replaced, List.flatMap_singleton, standIn, standIn, List.lookup_cons,
        beq_false_of_ne replaced]

theorem toList_replaceIcons (markup : Bool) (text : String) :
    (replaceIcons markup text).toList =
      text.toList.flatMap fun char => (standIn icons markup char).toList := by
  rw [replaceIcons, String.toList_ofList]
  exact foldl_replaceChar icons_leadToAscii markup text.toList

def IconFree (text : String) : Prop := ∀ char ∈ text.toList, char ∉ icons.map Prod.fst

theorem lookup_icons_eq_none_iff : icons.lookup char = none ↔ char ∉ icons.map Prod.fst := by
  simp only [List.lookup_eq_none_iff, bne_iff_ne, List.mem_map, not_exists, not_and]
  exact forall₂_congr fun _ _ => ne_comm

theorem iconFree_replaceIcons (markup : Bool) (text : String) :
    IconFree (replaceIcons markup text) := by
  intro char member
  rw [toList_replaceIcons, List.mem_flatMap] at member
  obtain ⟨source, _, stands⟩ := member
  exact lookup_icons_eq_none_iff.1 (icons_leadToAscii.lookup_of_mem_standIn stands)

theorem replaceIcons_of_iconFree (free : IconFree text) (markup : Bool) :
    replaceIcons markup text = text := by
  rw [← String.toList_inj, toList_replaceIcons]
  exact flatMap_standIn_of_unlisted fun char member =>
    lookup_icons_eq_none_iff.2 (free char member)

theorem replaceIcons_append (markup : Bool) (text more : String) :
    replaceIcons markup (text ++ more) = replaceIcons markup text ++ replaceIcons markup more := by
  rw [← String.toList_inj, String.toList_append]
  simp only [toList_replaceIcons, String.toList_append, List.flatMap_append]

/-- Icons that are replaced one after the other are replaced all at once: the result is
the text with each icon's plain form, escaped in markup, in the place of the icon, and
every other character as it is. So no icon is left, and a second replacement, for markup
or not, changes nothing. Parts of a text can be treated apart. The texts without icons
are those that stay as they are. -/
theorem icons_replaced_at_once (markup : Bool) (text : String) :
    replaceIcons markup text = String.join (text.toList.map (standIn icons markup)) ∧
    IconFree (replaceIcons markup text) ∧
    (∀ again, replaceIcons again (replaceIcons markup text) = replaceIcons markup text) ∧
    (∀ more, replaceIcons markup (text ++ more) =
      replaceIcons markup text ++ replaceIcons markup more) ∧
    (replaceIcons markup text = text ↔ IconFree text) := by
  have free := iconFree_replaceIcons markup text
  refine ⟨?_, free, replaceIcons_of_iconFree free, replaceIcons_append markup text, ?_, ?_⟩
  · rw [← String.toList_inj, toList_replaceIcons, String.toList_join, List.flatMap_map]
  · intro same
    rwa [same] at free
  · exact fun bare => replaceIcons_of_iconFree bare markup

/-- Brackets and backslashes of the text itself stay as they are. -/
example : replaceIcons true "[b]✓✗[/b] \\→ a…" = "[b]\\[OK]\\[FAIL][/b] \\-> a..." := by
  decide +kernel

end RequestLint.Terminal
