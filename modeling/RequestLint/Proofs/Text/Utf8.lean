import RequestLint.Text.Utf8

/-! What the machine makes of bytes. On the encoding of a text it spells the
characters of the text, whatever follows, so decoding undoes encoding. On any bytes
at all, one more byte shows one more character or none: a byte that goes on with a
character that was begun stands for no character of its own. -/
namespace RequestLint.Utf8

theorem piecesFrom_cons (state : State) (byte : UInt8) (rest : Bytes) :
    piecesFrom state (byte :: rest) =
      (step state byte).1 ++ piecesFrom (step state byte).2 rest := by
  cases state with
  | ready => rfl
  | inside value more low high => rfl

/-- How a byte is taken at the start of a character, told by its value. -/
theorem first_ofNat {value : Nat} (byte : value < 256) :
    first (UInt8.ofNat value) =
      if value < 0x80 then ([.scalar (Char.ofNat value)], .ready)
      else if value < 0xC2 then ([.broken], .ready)
      else if value < 0xE0 then ([], .inside (value - 0xC0) 0 0x80 0xBF)
      else if value = 0xE0 then ([], .inside 0 1 0xA0 0xBF)
      else if value = 0xED then ([], .inside 0xD 1 0x80 0x9F)
      else if value < 0xF0 then ([], .inside (value - 0xE0) 1 0x80 0xBF)
      else if value = 0xF0 then ([], .inside 0 2 0x90 0xBF)
      else if value < 0xF4 then ([], .inside (value - 0xF0) 2 0x80 0xBF)
      else if value = 0xF4 then ([], .inside 4 2 0x80 0x8F)
      else ([.broken], .ready) := by
  have same : (UInt8.ofNat value).toNat = value := UInt8.toNat_ofNat_of_lt' byte
  simp only [first, UInt8.lt_iff_toNat_lt, ← UInt8.toNat_inj, same, UInt8.reduceToNat]

/-- A continuation byte that the state admits adds the six bits it carries. -/
theorem step_inside {value more : Nat} {low high : UInt8}
    (admitted : low.toNat ≤ value % 64 + 0x80 ∧ value % 64 + 0x80 ≤ high.toNat) :
    step (.inside (value / 64) more low high) (UInt8.ofNat (value % 64 + 0x80)) =
      match more with
      | 0 => ([.scalar (Char.ofNat value)], .ready)
      | more + 1 => ([], .inside value more 0x80 0xBF) := by
  have same : (UInt8.ofNat (value % 64 + 0x80)).toNat = value % 64 + 0x80 :=
    UInt8.toNat_ofNat_of_lt' (by change _ < 256; omega)
  have joined : value / 64 * 64 + (value % 64 + 0x80 - 0x80) = value := by omega
  have taken : low ≤ UInt8.ofNat (value % 64 + 0x80) ∧ UInt8.ofNat (value % 64 + 0x80) ≤ high := by
    rwa [UInt8.le_iff_toNat_le, UInt8.le_iff_toNat_le, same]
  cases more with
  | zero => simp only [step, if_pos taken, same, joined]
  | succ more => simp only [step, if_pos taken, same, joined]

theorem piecesFrom_last {value : Nat} {low high : UInt8} (rest : Bytes)
    (admitted : low.toNat ≤ value % 64 + 0x80 ∧ value % 64 + 0x80 ≤ high.toNat) :
    piecesFrom (.inside (value / 64) 0 low high) (UInt8.ofNat (value % 64 + 0x80) :: rest) =
      .scalar (Char.ofNat value) :: pieces rest := by
  rw [piecesFrom_cons, step_inside admitted]
  rfl

theorem piecesFrom_more {value more : Nat} {low high : UInt8} (rest : Bytes)
    (admitted : low.toNat ≤ value % 64 + 0x80 ∧ value % 64 + 0x80 ≤ high.toNat) :
    piecesFrom (.inside (value / 64) (more + 1) low high)
        (UInt8.ofNat (value % 64 + 0x80) :: rest) =
      piecesFrom (.inside value more 0x80 0xBF) rest := by
  rw [piecesFrom_cons, step_inside admitted]
  rfl

theorem admitted_ordinary (value : Nat) :
    (0x80 : UInt8).toNat ≤ value % 64 + 0x80 ∧ value % 64 + 0x80 ≤ (0xBF : UInt8).toNat := by
  simp only [UInt8.reduceToNat]
  omega

/-- The first of three bytes; what may come second keeps out shorter forms and
surrogates. -/
theorem first_of_three {value : Nat} (long : 0x7FF < value) (short : value ≤ 0xFFFF)
    (scalar : value < 0xD800 ∨ 0xDFFF < value) :
    ∃ low high : UInt8,
      first (UInt8.ofNat (value / 4096 % 16 + 0xE0)) = ([], .inside (value / 64 / 64) 1 low high) ∧
      low.toNat ≤ value / 64 % 64 + 0x80 ∧ value / 64 % 64 + 0x80 ≤ high.toNat := by
  have lead : value / 4096 % 16 = value / 64 / 64 := by omega
  rw [lead, first_ofNat (by omega)]
  by_cases least : value / 64 / 64 = 0
  · refine ⟨0xA0, 0xBF, by simp [least], ?_⟩
    simp only [UInt8.reduceToNat]
    omega
  by_cases surrogate : value / 64 / 64 = 0xD
  · refine ⟨0x80, 0x9F, by simp [surrogate], ?_⟩
    simp only [UInt8.reduceToNat]
    omega
  · refine ⟨0x80, 0xBF, ?_, admitted_ordinary _⟩
    rw [if_neg (by omega), if_neg (by omega), if_neg (by omega), if_neg (by omega),
      if_neg (by omega), if_pos (by omega), Nat.add_sub_cancel]

/-- The first of four bytes; what may come second keeps out shorter forms and values
beyond the last code point. -/
theorem first_of_four {value : Nat} (long : 0xFFFF < value) (last : value < 0x110000) :
    ∃ low high : UInt8,
      first (UInt8.ofNat (value / 262144 % 8 + 0xF0)) =
        ([], .inside (value / 64 / 64 / 64) 2 low high) ∧
      low.toNat ≤ value / 64 / 64 % 64 + 0x80 ∧ value / 64 / 64 % 64 + 0x80 ≤ high.toNat := by
  have lead : value / 262144 % 8 = value / 64 / 64 / 64 := by omega
  rw [lead, first_ofNat (by omega)]
  by_cases least : value / 64 / 64 / 64 = 0
  · refine ⟨0x90, 0xBF, by simp [least], ?_⟩
    simp only [UInt8.reduceToNat]
    omega
  by_cases greatest : value / 64 / 64 / 64 = 4
  · refine ⟨0x80, 0x8F, by simp [greatest], ?_⟩
    simp only [UInt8.reduceToNat]
    omega
  · refine ⟨0x80, 0xBF, ?_, admitted_ordinary _⟩
    rw [if_neg (by omega), if_neg (by omega), if_neg (by omega), if_neg (by omega),
      if_neg (by omega), if_neg (by omega), if_neg (by omega), if_pos (by omega),
      Nat.add_sub_cancel]

/-- The encoding of a character spells it, whatever follows. -/
theorem pieces_encodeChar_append (char : Char) (rest : Bytes) :
    pieces (String.utf8EncodeChar char ++ rest) = .scalar char :: pieces rest := by
  obtain ⟨value, number, valid⟩ : ∃ value, char.val.toNat = value ∧
      (value < 0xD800 ∨ 0xDFFF < value ∧ value < 0x110000) := ⟨_, rfl, char.valid⟩
  have whole : Char.ofNat value = char := number ▸ Char.ofNat_toNat char
  unfold String.utf8EncodeChar
  simp only [number]
  split
  next one =>
    rw [List.singleton_append, pieces, piecesFrom_cons, step, first_ofNat (by omega),
      if_pos (by omega), whole]
    rfl
  split
  next two =>
    have bits : value / 64 % 32 + 0xC0 - 0xC0 = value / 64 := by omega
    simp only [List.cons_append, List.nil_append]
    rw [pieces, piecesFrom_cons, step, first_ofNat (by omega), if_neg (by omega),
      if_neg (by omega), if_pos (by omega), bits, List.nil_append,
      piecesFrom_last _ (admitted_ordinary value), whole]
  split
  next three =>
    obtain ⟨low, high, lead, admitted⟩ := @first_of_three value (by omega) three (by omega)
    simp only [List.cons_append, List.nil_append]
    rw [pieces, piecesFrom_cons, step, lead, List.nil_append, piecesFrom_more _ admitted,
      piecesFrom_last _ (admitted_ordinary value), whole]
  next four =>
    obtain ⟨low, high, lead, admitted⟩ := @first_of_four value (by omega) (by omega)
    have second : value / 4096 = value / 64 / 64 := by omega
    simp only [List.cons_append, List.nil_append]
    rw [pieces, piecesFrom_cons, step, lead, second, List.nil_append, piecesFrom_more _ admitted,
      piecesFrom_more _ (admitted_ordinary (value / 64)),
      piecesFrom_last _ (admitted_ordinary value), whole]

theorem pieces_flatMap_append (chars : List Char) (rest : Bytes) :
    pieces (chars.flatMap String.utf8EncodeChar ++ rest) = chars.map .scalar ++ pieces rest := by
  induction chars with
  | nil => rfl
  | cons char chars ih =>
    rw [List.flatMap_cons, List.append_assoc, pieces_encodeChar_append, ih, List.map_cons,
      List.cons_append]

theorem pieces_flatMap (chars : List Char) :
    pieces (chars.flatMap String.utf8EncodeChar) = chars.map .scalar := by
  have spelled := pieces_flatMap_append chars []
  have nothing : pieces [] = [] := rfl
  rwa [List.append_nil, nothing, List.append_nil] at spelled

theorem decode?_encode (text : String) : decode? (encode text) = some text := by
  have read (chars : List Char) : (chars.map Piece.scalar).mapM Piece.scalar? = some chars := by
    induction chars with
    | nil => rfl
    | cons char chars ih =>
      rw [List.map_cons, List.mapM_cons, ih]
      rfl
  rw [decode?, encode, pieces_flatMap, read, Option.map_some, String.ofList_toList]

theorem count_flatMap (chars : List Char) :
    count (chars.flatMap String.utf8EncodeChar) = chars.length := by
  rw [count, pieces_flatMap, List.length_map]

theorem encode_append (before after : String) :
    encode (before ++ after) = encode before ++ encode after := by
  rw [encode, String.toList_append, List.flatMap_append, encode, encode]

/-- A single byte at the start of a character shows one, be it whole, begun or broken. -/
theorem length_first (byte : UInt8) :
    (first byte).1.length + (piecesFrom (first byte).2 []).length = 1 := by
  unfold first
  repeat' split
  all_goals rfl

/-- In every state one more byte shows one more character, or goes on with the one
that the end of the input would have cut off. -/
theorem length_step (state : State) (byte : UInt8) :
    (step state byte).1.length + (piecesFrom (step state byte).2 []).length =
        (piecesFrom state []).length ∨
      (step state byte).1.length + (piecesFrom (step state byte).2 []).length =
        (piecesFrom state []).length + 1 := by
  cases state with
  | ready => exact Or.inr (length_first byte)
  | inside value more low high =>
    rw [step]
    split
    next =>
      left
      cases more with
      | zero => rfl
      | succ more => rfl
    next =>
      right
      have fresh := length_first byte
      simp only [List.length_cons, piecesFrom, List.length_nil] at fresh ⊢
      omega

theorem length_piecesFrom_concat (state : State) (bytes : Bytes) (byte : UInt8) :
    (piecesFrom state (bytes ++ [byte])).length = (piecesFrom state bytes).length ∨
      (piecesFrom state (bytes ++ [byte])).length = (piecesFrom state bytes).length + 1 := by
  induction bytes generalizing state with
  | nil =>
    rw [List.nil_append, piecesFrom_cons, List.length_append]
    exact length_step state byte
  | cons head rest ih =>
    rw [List.cons_append, piecesFrom_cons, piecesFrom_cons, List.length_append,
      List.length_append]
    have below := ih (step state head).2
    omega

theorem count_concat (bytes : Bytes) (byte : UInt8) :
    count (bytes ++ [byte]) = count bytes ∨ count (bytes ++ [byte]) = count bytes + 1 :=
  length_piecesFrom_concat .ready bytes byte

end RequestLint.Utf8
