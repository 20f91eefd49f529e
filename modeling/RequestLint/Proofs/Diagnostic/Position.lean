import RequestLint.Sink
import RequestLint.Proofs.Command.Outcome
import RequestLint.Proofs.Text.Utf8

/-! Where a diagnostic says it is. Positions are computed from bytes: newline bytes
are counted, and the bytes since the last one are shown as characters. For the
encoding of a text this is the position among its characters. For any bytes, later
offsets have later positions, so that an order by position is one by offset. -/
namespace RequestLint

namespace Position

theorem ne_newline_of_mem_encodeChar {char : Char} {byte : UInt8} (other : char ≠ '\n')
    (member : byte ∈ String.utf8EncodeChar char) : byte ≠ newline := by
  rintro rfl
  have differs : char.val.toNat ≠ 10 := fun same =>
    other (Char.ext (UInt32.toNat_inj.1 same))
  have low (value : Nat) (same : newline = UInt8.ofNat value) : value % 256 = 10 :=
    (congrArg UInt8.toNat same).symm
  unfold String.utf8EncodeChar at member
  dsimp only at member
  split at member
  next =>
    have same := low _ (List.mem_singleton.1 member)
    omega
  split at member
  next =>
    simp only [List.mem_cons, List.not_mem_nil, or_false] at member
    have same := member.imp (low _) (low _)
    omega
  split at member
  next =>
    simp only [List.mem_cons, List.not_mem_nil, or_false] at member
    have same := member.imp (low _) (Or.imp (low _) (low _))
    omega
  next =>
    simp only [List.mem_cons, List.not_mem_nil, or_false] at member
    have same := member.imp (low _) (Or.imp (low _) (Or.imp (low _) (low _)))
    omega

theorem count_newline_flatMap (chars : List Char) :
    (chars.flatMap String.utf8EncodeChar).count newline = chars.count '\n' := by
  induction chars with
  | nil => rfl
  | cons char chars ih =>
    rw [List.flatMap_cons, List.count_append, ih, List.count_cons, Nat.add_comm]
    congr 1
    by_cases same : char = '\n'
    · rw [same]
      rfl
    · have absent : newline ∉ String.utf8EncodeChar char := fun member =>
        ne_newline_of_mem_encodeChar same member rfl
      rw [List.count_eq_zero.2 absent]
      simp [same]

/-- The bytes since the last newline encode the characters since the last newline. -/
theorem takeWhile_reverse_flatMap (chars : List Char) :
    ((chars.flatMap String.utf8EncodeChar).reverse.takeWhile (· != newline)).reverse =
      (chars.reverse.takeWhile (· != '\n')).reverse.flatMap String.utf8EncodeChar := by
  induction chars using List.reverseRecOn with
  | nil => rfl
  | append_singleton chars char ih =>
    rw [List.flatMap_append, List.flatMap_singleton, List.reverse_append, List.reverse_concat]
    by_cases same : char = '\n'
    · rw [same]
      rfl
    · have inside : ∀ byte ∈ (String.utf8EncodeChar char).reverse, (byte != newline) = true :=
        fun byte member => bne_iff_ne.2
          (ne_newline_of_mem_encodeChar same (List.mem_reverse.1 member))
      rw [List.takeWhile_append_of_pos inside, List.takeWhile_cons, if_pos (bne_iff_ne.2 same),
        List.reverse_append, List.reverse_reverse, ih, List.reverse_cons, List.flatMap_append,
        List.flatMap_singleton]

/-- Among the characters of a text: the newlines before an offset between two
characters, and the characters since the last of them. -/
theorem ofOffset_encode (before after : String) :
    ofOffset (Utf8.encode (before ++ after)) .characters (Utf8.encode before).length =
      ⟨1 + before.toList.count '\n', 1 + (before.toList.reverse.takeWhile (· != '\n')).length⟩ := by
  have front : (Utf8.encode (before ++ after)).take (Utf8.encode before).length =
      before.toList.flatMap String.utf8EncodeChar := by
    rw [Utf8.encode_append, List.take_left]
    rfl
  rw [ofOffset, lineBefore, front, count_newline_flatMap, takeWhile_reverse_flatMap,
    ColumnUnit.measure, Utf8.count_flatMap, List.length_reverse]

/-- The first position comes before the second, line by line, or is the same. -/
def AtMost (a b : Position) : Prop := a.line < b.line ∨ a.line = b.line ∧ a.column ≤ b.column

theorem AtMost.trans {a b c : Position} (first : a.AtMost b) (second : b.AtMost c) :
    a.AtMost c := by
  unfold AtMost at *
  omega

theorem AtMost.antisymm {a b : Position} (first : a.AtMost b) (second : b.AtMost a) : a = b := by
  obtain ⟨line, column⟩ := a
  obtain ⟨line', column'⟩ := b
  simp only [AtMost, mk.injEq] at *
  omega

theorem measure_concat (unit : ColumnUnit) (bytes : Bytes) (byte : UInt8) :
    unit.measure (bytes ++ [byte]) = unit.measure bytes ∨
      unit.measure (bytes ++ [byte]) = unit.measure bytes + 1 := by
  cases unit with
  | characters => exact Utf8.count_concat bytes byte
  | bytes => exact Or.inr List.length_append

/-- All that one more byte can do to a position: a newline begins the next line, and
any other byte leaves the line and moves the column by one or not at all. -/
theorem ofOffset_succ (source : Bytes) (unit : ColumnUnit) (offset : Nat) :
    ((ofOffset source unit (offset + 1)).line = (ofOffset source unit offset).line ∧
      ((ofOffset source unit (offset + 1)).column = (ofOffset source unit offset).column ∨
        (ofOffset source unit (offset + 1)).column = (ofOffset source unit offset).column + 1)) ∨
    ((ofOffset source unit (offset + 1)).line = (ofOffset source unit offset).line + 1 ∧
      (ofOffset source unit (offset + 1)).column = 1) := by
  cases found : source[offset]? with
  | none =>
    have ended : source.length ≤ offset := List.getElem?_eq_none_iff.1 found
    rw [ofOffset, ofOffset, lineBefore, lineBefore, List.take_of_length_le ended,
      List.take_of_length_le (Nat.le_succ_of_le ended)]
    exact Or.inl ⟨rfl, Or.inl rfl⟩
  | some byte =>
    have longer : source.take (offset + 1) = source.take offset ++ [byte] := by
      rw [List.take_add_one, found]
      rfl
    rw [ofOffset, ofOffset, lineBefore, lineBefore, longer, List.count_append,
      List.reverse_concat, List.takeWhile_cons]
    by_cases newlined : byte = newline
    · right
      rw [newlined]
      refine ⟨rfl, ?_⟩
      cases unit with
      | characters => rfl
      | bytes => rfl
    · left
      have plain : [byte].count newline = 0 :=
        List.count_eq_zero.2 (by simpa using Ne.symm newlined)
      rw [if_pos (bne_iff_ne.2 newlined), List.reverse_cons, plain]
      have column := measure_concat unit
        ((source.take offset).reverse.takeWhile (· != newline)).reverse byte
      dsimp only
      omega

/-- Along the offsets of a source, positions do not go back. -/
theorem ofOffset_mono (source : Bytes) (unit : ColumnUnit) {a b : Nat} (order : a ≤ b) :
    (ofOffset source unit a).AtMost (ofOffset source unit b) := by
  induction order with
  | refl => exact Or.inr ⟨rfl, Nat.le_refl _⟩
  | @step b _ ih =>
    refine ih.trans ?_
    have next := ofOffset_succ source unit b
    rw [AtMost, Nat.succ_eq_add_one]
    omega

end Position

namespace Command

/-- Within a file, problems are listed by position. -/
theorem atMost_of_rank {a b : Diagnostic} (file : a.file? = b.file?) (order : rank a ≤ rank b) :
    a.position.AtMost b.position := by
  simp only [rank, file, Prod.Lex.toLex_le_toLex, lt_irrefl, true_and, false_or] at order
  rcases order with line | ⟨line, column | ⟨column, _⟩⟩
  · exact Or.inl line
  · exact Or.inr ⟨line, Nat.le_of_lt column⟩
  · exact Or.inr ⟨line, Nat.le_of_eq column⟩

/-- Where the problems of each file have their positions from one source, the list keeps
to the order of that source. -/
theorem pairwise_start_reportOrder {diagnostics : List Diagnostic}
    {sources : Option String → Bytes} {units : Option String → ColumnUnit}
    (placed : ∀ diagnostic ∈ diagnostics, diagnostic.position =
      .ofOffset (sources diagnostic.file?) (units diagnostic.file?) diagnostic.start) :
    (reportOrder diagnostics).Pairwise fun earlier later =>
      earlier.file? = later.file? → earlier.position ≠ later.position →
        earlier.start < later.start := by
  have listed {diagnostic : Diagnostic} (member : diagnostic ∈ reportOrder diagnostics) :
      diagnostic ∈ diagnostics := (List.mergeSort_perm _ _).subset member
  refine (pairwise_reportOrder diagnostics).imp_of_mem ?_
  intro earlier later first second order file differ
  by_contra back
  have mirrored := Position.ofOffset_mono (sources later.file?) (units later.file?)
    (Nat.not_lt.1 back)
  rw [← placed later (listed second), ← file, ← placed earlier (listed first)] at mirrored
  exact differ ((atMost_of_rank file order).antisymm mirrored)

end Command

namespace Sink

/-- A diagnostic of a unit that is a text says where the text has it, if it is about a
node that begins between two characters: on the line after the newlines before the node,
and at the column after the characters since the last of them. -/
theorem diagnose_position_among_characters (sink : Sink) (before after : String)
    (finding : Finding) (fix? : Option Fix)
    (source : sink.source = Utf8.encode (before ++ after)) (unit : sink.unit = .characters)
    (start : finding.place.start = (Utf8.encode before).length) :
    (sink.diagnose finding fix?).position.line = 1 + before.toList.count '\n' ∧
    (sink.diagnose finding fix?).position.column =
      1 + (before.toList.reverse.takeWhile (· != '\n')).length := by
  have position : (sink.diagnose finding fix?).position =
      ⟨1 + before.toList.count '\n', 1 + (before.toList.reverse.takeWhile (· != '\n')).length⟩ := by
    rw [diagnose, source, unit, start]
    exact Position.ofOffset_encode before after
  rw [position]
  exact ⟨rfl, rfl⟩

/-- What stands before a request on the second line, some of it in several bytes. -/
def accented : String := "\"é\";\n𝒳 = "

def accentedRequest : Tree :=
  (Tree.ofOutline? (Utf8.encode (accented ++ "fetch();"))
    [⟨"program", true, false, "", 0, 21, 2⟩,
      ⟨"expression_statement", true, false, "", 0, 5, 2⟩,
      ⟨"string", true, false, "", 0, 4, 3⟩,
      ⟨"\"", false, false, "", 0, 1, 0⟩,
      ⟨"string_fragment", true, false, "", 1, 3, 0⟩,
      ⟨"\"", false, false, "", 3, 4, 0⟩,
      ⟨";", false, false, "", 4, 5, 0⟩,
      ⟨"expression_statement", true, false, "", 6, 21, 2⟩,
      ⟨"assignment_expression", true, false, "", 6, 20, 3⟩,
      ⟨"identifier", true, false, "left", 6, 10, 0⟩,
      ⟨"=", false, false, "", 11, 12, 0⟩,
      ⟨"call_expression", true, false, "right", 13, 20, 2⟩,
      ⟨"identifier", true, false, "function", 13, 18, 0⟩,
      ⟨"arguments", true, false, "arguments", 18, 20, 2⟩,
      ⟨"(", false, false, "", 18, 19, 0⟩,
      ⟨")", false, false, "", 19, 20, 0⟩,
      ⟨";", false, false, "", 20, 21, 0⟩]).getD (Tree.blank [])

/-- The finding that the request has no time limit. -/
def accentedFinding : Finding :=
  let call := ((Node.root accentedRequest).preorder.find? (·.kind = "call_expression")).getD
    (.root accentedRequest)
  Message.missingTimeout.finding .timeout {} call call

theorem diagnose_position_among_characters_accented :
    accentedFinding.place.start = (Utf8.encode accented).length ∧
    ((fresh (Utf8.encode (accented ++ "fetch();")) .characters none).diagnose accentedFinding
      none).position.line = 2 ∧
    ((fresh (Utf8.encode (accented ++ "fetch();")) .characters none).diagnose accentedFinding
      none).position.column = 5 := by
  have start : accentedFinding.place.start = (Utf8.encode accented).length := by decide +kernel
  have position := diagnose_position_among_characters
    (fresh (Utf8.encode (accented ++ "fetch();")) .characters none) accented "fetch();"
    accentedFinding none rfl rfl start
  exact ⟨start, position⟩

/-- Positions agree with the order of a source, whatever its bytes are. Later nodes have
later positions, or the same; a node that begins one byte later on the same line is at
most one column further. So when problems are listed by position, those of one file that
differ in position stand in the order of their places, if each file had one sink. -/
theorem positions_follow_offsets (sink : Sink) :
    (∀ (one other : Finding) (fix? fix?' : Option Fix), one.place.start ≤ other.place.start →
      (sink.diagnose one fix?).position.AtMost (sink.diagnose other fix?').position) ∧
    (∀ (one other : Finding) (fix? fix?' : Option Fix),
      other.place.start = one.place.start + 1 →
      (sink.diagnose other fix?').position.line = (sink.diagnose one fix?).position.line →
      (sink.diagnose other fix?').position.column = (sink.diagnose one fix?).position.column ∨
        (sink.diagnose other fix?').position.column =
          (sink.diagnose one fix?).position.column + 1) ∧
    ∀ (sinks : Option String → Sink) (diagnostics : List Diagnostic),
      (∀ diagnostic ∈ diagnostics, ∃ finding fix?,
        diagnostic = (sinks diagnostic.file?).diagnose finding fix?) →
      (Command.reportOrder diagnostics).Pairwise fun earlier later =>
        earlier.file? = later.file? → earlier.position ≠ later.position →
          earlier.start < later.start := by
  refine ⟨?_, ?_, ?_⟩
  · intro one other fix? fix?' order
    exact Position.ofOffset_mono sink.source sink.unit order
  · intro one other fix? fix?' next line
    have moved := Position.ofOffset_succ sink.source sink.unit one.place.start
    simp only [diagnose, next] at line ⊢
    omega
  · intro sinks diagnostics built
    have placed (diagnostic : Diagnostic) (member : diagnostic ∈ diagnostics) :
        diagnostic.position = .ofOffset (sinks diagnostic.file?).source
          (sinks diagnostic.file?).unit diagnostic.start := by
      obtain ⟨finding, fix?, made⟩ := built diagnostic member
      have start : diagnostic.start = finding.place.start := congrArg Diagnostic.start made
      rw [start]
      exact congrArg Diagnostic.position made
    exact @Command.pairwise_start_reportOrder diagnostics (fun file? => (sinks file?).source)
      (fun file? => (sinks file?).unit) placed

end Sink
end RequestLint
