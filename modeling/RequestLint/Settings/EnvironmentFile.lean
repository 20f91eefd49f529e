import RequestLint.Text.Blank
import RequestLint.Text.Part
import RequestLint.Text.Utf8.Fault

/-! Files of environment variables. An entry is a name, `=` and a value, after an
optional `export`; a name alone is bound to no value. Names and values may be
quoted, and what is quoted may run over several lines. `#` begins a comment,
after a bare value only behind a blank. A malformed entry is dropped up to the
end of the line on which it goes wrong. -/
namespace RequestLint

/-- The bindings of a file in order. A name without `=` has no value. -/
abbrev EnvironmentFile := List (String × Option String)

namespace EnvironmentFile

/-- A line feed for each line end, be it that, a carriage return or both. -/
def unifyLines : List Char → List Char
  | [] => []
  | '\r' :: '\n' :: rest => '\n' :: unifyLines rest
  | '\r' :: rest => '\n' :: unifyLines rest
  | char :: rest => char :: unifyLines rest

/-- Drops the blanks before the next character or the end of the line. -/
def dropBlanks (text : List Char) : List Char :=
  text.dropWhile fun char => Text.isBlank char && char ≠ '\n'

def restOfLine (text : List Char) : List Char := text.takeWhile (· ≠ '\n')

/-- What stands after the end of the line. -/
def dropLine (text : List Char) : List Char := (text.dropWhile (· ≠ '\n')).tail

/-- Drops a leading `export` that a blank sets off. -/
def dropExport (text : List Char) : List Char :=
  match text with
  | 'e' :: 'x' :: 'p' :: 'o' :: 'r' :: 't' :: rest =>
    if dropBlanks rest = rest then text else dropBlanks rest
  | _ => text

/-- A quoted text up to its closing quote, and what follows. A backslash keeps the
next character from closing. -/
def closeQuote (mark : Char) : List Char → Option (List Char × List Char)
  | [] => none
  | '\\' :: next :: rest =>
    (closeQuote mark rest).map fun (text, after) => ('\\' :: next :: text, after)
  | char :: rest =>
    if char = mark then some ([], rest)
    else (closeQuote mark rest).map fun (text, after) => (char :: text, after)

/-- What a backslash and a character stand for inside quotes. -/
def escapes (mark : Char) : List (Char × Char) :=
  if mark = '"' then
    [('\\', '\\'), ('\'', '\''), ('"', '"'), ('a', '\x07'), ('b', '\x08'), ('f', '\x0C'), ('n', '\n'),
      ('r', '\r'), ('t', '\t'), ('v', '\x0B')]
  else [('\\', '\\'), ('\'', '\'')]

def unescape (mark : Char) : List Char → List Char
  | '\\' :: char :: rest =>
    match (escapes mark).lookup char with
    | some meant => meant :: unescape mark rest
    | none => '\\' :: unescape mark (char :: rest)
  | char :: rest => char :: unescape mark rest
  | [] => []

def quotedValue? (mark : Char) (text : List Char) : Option (String × List Char) :=
  (closeQuote mark text).map fun (text, after) => (.ofList (unescape mark text), after)

/-- The part of a line before a comment, which a blank sets off. -/
def beforeComment : List Char → List Char
  | [] => []
  | char :: rest =>
    if Text.isBlank char ∧ (Text.trimLeft rest).head? = some '#' then []
    else char :: beforeComment rest

/-- The value after `=`, and what follows it; none if its quote is not closed. -/
def value? (text : List Char) : Option (String × List Char) :=
  match dropBlanks text with
  | '\'' :: rest => quotedValue? '\'' rest
  | '"' :: rest => quotedValue? '"' rest
  | _ =>
    some (Text.trim (.ofList (beforeComment (restOfLine text))), text.dropWhile (· ≠ '\n'))

def isNameChar (char : Char) : Bool := char ≠ '=' && char ≠ '#' && !Text.isBlank char

/-- A name, quoted or bare, and what follows it. -/
def name? (text : List Char) : Option (String × List Char) :=
  match text with
  | '\'' :: rest =>
    match rest.takeWhile (· ≠ '\''), rest.dropWhile (· ≠ '\'') with
    | [], _ => none
    | _, [] => none
    | name, _ :: after => some (.ofList name, after)
  | _ =>
    match text.takeWhile isNameChar with
    | [] => none
    | name => some (.ofList name, text.dropWhile isNameChar)

/-- Nothing more stands on the line, except for a comment. -/
def endsLine (text : List Char) : Bool :=
  (dropBlanks text).head?.all fun char => char = '\n' || char = '#'

/-- The entry at the start of a text, if it is one, and where reading it stopped,
which is on its last line. -/
def entry (text : List Char) : Option (String × Option String) × List Char :=
  let start := dropExport text
  match name? start with
  | none => (none, start)
  | some (name, rest) =>
    match dropBlanks rest with
    | '=' :: rest =>
      match value? rest with
      | none => (none, rest)
      | some (value, after) => (if endsLine after then some (name, some value) else none, after)
    | rest => (if endsLine rest then some (name, none) else none, rest)

theorem length_dropBlanks_le (text : List Char) : (dropBlanks text).length ≤ text.length :=
  Text.length_dropWhile_le _ text

theorem length_dropExport_le (text : List Char) : (dropExport text).length ≤ text.length := by
  unfold dropExport
  split
  · rename_i rest
    have := length_dropBlanks_le rest
    split <;> simp only [List.length_cons] <;> omega
  · exact Nat.le_refl _

theorem length_closeQuote {mark : Char} {text body after : List Char}
    (closed : closeQuote mark text = some (body, after)) : after.length ≤ text.length := by
  fun_induction closeQuote mark text generalizing body after <;>
    grind [Option.map_eq_some_iff]

theorem length_quotedValue? {mark : Char} {text after : List Char} {value : String}
    (read : quotedValue? mark text = some (value, after)) : after.length ≤ text.length := by
  obtain ⟨⟨body, _⟩, closed, same⟩ := Option.map_eq_some_iff.mp read
  obtain ⟨-, rfl⟩ := Prod.mk.inj same
  exact length_closeQuote closed

theorem length_value? {text after : List Char} {value : String}
    (read : value? text = some (value, after)) : after.length ≤ text.length := by
  have blanks := length_dropBlanks_le text
  unfold value? at read
  split at read
  · rename_i found
    have quoted := length_quotedValue? read
    rw [found, List.length_cons] at blanks
    omega
  · rename_i found
    have quoted := length_quotedValue? read
    rw [found, List.length_cons] at blanks
    omega
  · simp only [Option.some.injEq, Prod.mk.injEq] at read
    rw [← read.2]
    exact Text.length_dropWhile_le _ text

theorem length_name? {text after : List Char} {name : String}
    (read : name? text = some (name, after)) : after.length ≤ text.length := by
  unfold name? at read
  grind [Text.length_dropWhile_le]

theorem length_entry_le (text : List Char) : (entry text).2.length ≤ text.length := by
  have start := length_dropExport_le text
  unfold entry
  dsimp only
  split
  · exact start
  · rename_i name rest named
    have name := length_name? named
    have blanks := length_dropBlanks_le rest
    split
    · rename_i found
      rw [found, List.length_cons] at blanks
      split
      · dsimp only
        omega
      · rename_i valued
        have value := length_value? valued
        dsimp only
        omega
    · dsimp only
      omega

theorem length_dropLine_le (text : List Char) : (dropLine text).length ≤ text.length - 1 := by
  have bound := Text.length_dropWhile_le (· ≠ '\n') text
  simp only [dropLine, List.length_tail]
  omega

/-- What follows the first entry is shorter than the text. -/
theorem length_after_entry_lt {text : List Char} (more : Text.trimLeft text ≠ []) :
    (dropLine (entry (Text.trimLeft text)).2).length < text.length := by
  have line := length_dropLine_le (entry (Text.trimLeft text)).2
  have read := length_entry_le (Text.trimLeft text)
  have left := Text.length_dropWhile_le Text.isBlank text
  have positive := List.length_pos_iff.mpr more
  rw [Text.trimLeft] at *
  omega

/-- The bindings of a text with line feeds for line ends. -/
def bindings (text : List Char) : EnvironmentFile :=
  if _ : Text.trimLeft text = [] then []
  else
    let read := entry (Text.trimLeft text)
    read.1.toList ++ bindings (dropLine read.2)
termination_by text.length
decreasing_by exact length_after_entry_lt ‹_›

/-- One byte order mark at the start is no part of the text. -/
def dropMark : List Char → List Char
  | '\uFEFF' :: rest => rest
  | text => text

def parse (text : String) : EnvironmentFile := bindings (unifyLines (dropMark text.toList))

def read (content : Bytes) : Except Utf8.Fault EnvironmentFile := (Utf8.decode content).map parse

/-- The value of a name; its last binding counts. -/
def get? (file : EnvironmentFile) (name : String) : Option String := (file.reverse.lookup name).join

end EnvironmentFile
end RequestLint
