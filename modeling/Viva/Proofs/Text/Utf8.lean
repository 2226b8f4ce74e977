import Viva.Proofs.Stream.Framing

/-! # Text comes through its bytes

The bytes of a text decode to its characters, all of them, and nothing is begun after them.
-/

namespace Viva.Text.Utf8

/-! ## Bytes as numbers -/

theorem toNat_ofNat {n : Nat} (small : n < 256) : (UInt8.ofNat n).toNat = n :=
  UInt8.toNat_ofNat_of_lt' small

theorem isTail_iff {b : UInt8} : isTail b = true ↔ 0x80 ≤ b.toNat ∧ b.toNat ≤ 0xBF := by
  simp [isTail, UInt8.le_iff_toNat_le]

/-- The second byte is bounded by the first, so that no character has two forms. -/
theorem isSecond_iff {first b : UInt8} : isSecond first b = true ↔ isTail b = true ∧
    (first.toNat = 0xE0 → 0xA0 ≤ b.toNat) ∧ (first.toNat = 0xED → b.toNat ≤ 0x9F) ∧
      (first.toNat = 0xF0 → 0x90 ≤ b.toNat) ∧ (first.toNat = 0xF4 → b.toNat ≤ 0x8F) := by
  simp only [isSecond, isTail_iff, ← UInt8.toNat_inj, UInt8.le_iff_toNat_le, UInt8.reduceToNat]
  grind [isTail_iff]

theorem lengthFrom_iff {a : UInt8} {n : Nat} (some : 0 < n) : lengthFrom a = n ↔
    (n = 1 ∧ a.toNat < 0x80) ∨ (n = 2 ∧ 0xC2 ≤ a.toNat ∧ a.toNat ≤ 0xDF) ∨
      (n = 3 ∧ 0xE0 ≤ a.toNat ∧ a.toNat ≤ 0xEF) ∨ (n = 4 ∧ 0xF0 ≤ a.toNat ∧ a.toNat ≤ 0xF4) := by
  simp only [lengthFrom, UInt8.le_iff_toNat_le, UInt8.lt_iff_toNat_lt, UInt8.reduceToNat,
    Bool.and_eq_true, decide_eq_true_eq]
  grind

/-! ## The bytes of one character -/

/-- The bytes are those of a character as far as they go: the first one says how many there may be,
    and each of the others may follow. -/
def Fits : List UInt8 → Prop
  | [] => True
  | [first] => 0 < lengthFrom first
  | first :: second :: rest =>
    rest.length + 1 < lengthFrom first ∧ isSecond first second = true ∧
      ∀ b ∈ rest, isTail b = true

/-- The bytes are those of a character, all of them. -/
def Whole (bytes : List UInt8) : Prop :=
  Fits bytes ∧ isComplete bytes = true

theorem isComplete_cons {first : UInt8} {rest : List UInt8} :
    isComplete (first :: rest) = true ↔ lengthFrom first = rest.length + 1 :=
  beq_iff_eq.trans eq_comm

/-- Bytes that fit are what a decoder gets to by bytes that follow. -/
theorem fits_concat {begun : List UInt8} {b : UInt8} :
    Fits (begun ++ [b]) ↔ Fits begun ∧ isComplete begun = false ∧ follows begun b = true := by
  match begun with
  | [] => simp [Fits, isComplete, follows, Nat.pos_iff_ne_zero]
  | [first] =>
      simp only [List.singleton_append, Fits, ← Bool.not_eq_true, isComplete_cons, follows,
        List.length_nil]
      grind
  | first :: second :: rest =>
      simp only [List.cons_append, Fits, ← Bool.not_eq_true, isComplete_cons, follows,
        List.length_append, List.length_cons, List.length_nil]
      grind

theorem Fits.left {bytes more : List UInt8} (fits : Fits (bytes ++ more)) : Fits bytes := by
  induction more generalizing bytes with
  | nil => simpa using fits
  | cons b more ih =>
      rw [List.append_cons] at fits
      exact (fits_concat.mp (ih fits)).1

/-- Bytes that more can follow are no whole character. -/
theorem Fits.incomplete {bytes more : List UInt8} (fits : Fits (bytes ++ more))
    (some : more ≠ []) : isComplete bytes = false := by
  cases more with
  | nil => exact absurd rfl some
  | cons b more =>
      rw [List.append_cons] at fits
      exact (fits_concat.mp fits.left).2.1

/-- What fits and is not complete is held back. -/
theorem Fits.decode_eq {begun bytes : List UInt8} (fits : Fits (begun ++ bytes))
    (incomplete : isComplete (begun ++ bytes) = false) :
    decode begun bytes = ([], begun ++ bytes) := by
  induction bytes generalizing begun with
  | nil => simp [decode]
  | cons b rest ih =>
      rw [List.append_cons] at fits incomplete
      have next := (fits_concat.mp fits.left).2.2
      have open' : isComplete (begun ++ [b]) = false := by
        cases rest with
        | nil => simpa using incomplete
        | cons _ _ => exact fits.incomplete (List.cons_ne_nil _ _)
      have one : step begun b = ([], begun ++ [b]) := by simp [step, next, accept, open']
      simp [decode, one, ih fits incomplete]

/-- A whole character is decoded to the character its bytes stand for. -/
theorem Whole.decode_eq {bytes : List UInt8} (whole : Whole bytes) :
    decode [] bytes = ([charOf bytes], []) := by
  obtain ⟨fits, complete⟩ := whole
  rcases List.eq_nil_or_concat bytes with rfl | ⟨begun, b, rfl⟩
  · simp [isComplete] at complete
  · rw [List.concat_eq_append] at fits complete ⊢
    obtain ⟨before, incomplete, next⟩ := fits_concat.mp fits
    have held : decode [] begun = ([], begun) := Fits.decode_eq (by simpa) (by simpa)
    simp [decode_append, held, decode, step, next, accept, complete]

section
variable {a b c d : UInt8}

theorem whole_one (first : lengthFrom a = 1) : Whole [a] :=
  ⟨by simp [Fits, first], isComplete_cons.mpr first⟩

theorem whole_two (first : lengthFrom a = 2) (second : isSecond a b = true) : Whole [a, b] :=
  ⟨by simp [Fits, first, second], isComplete_cons.mpr first⟩

theorem whole_three (first : lengthFrom a = 3) (second : isSecond a b = true)
    (third : isTail c = true) : Whole [a, b, c] :=
  ⟨by simp [Fits, first, second, third], isComplete_cons.mpr first⟩

theorem whole_four (first : lengthFrom a = 4) (second : isSecond a b = true)
    (third : isTail c = true) (fourth : isTail d = true) : Whole [a, b, c, d] :=
  ⟨by simp [Fits, first, second, third, fourth], isComplete_cons.mpr first⟩

end

/-- The encoding of a character fits the table, and the table leads back to the character. -/
theorem whole_utf8EncodeChar (c : Char) :
    Whole (String.utf8EncodeChar c) ∧ charOf (String.utf8EncodeChar c) = c := by
  have valid : c.toNat < 0xD800 ∨ 0xDFFF < c.toNat ∧ c.toNat < 0x110000 := c.valid
  have back {n : Nat} (same : n = c.toNat) : Char.ofNat n = c := same ▸ Char.ofNat_toNat c
  have tail (n : Nat) : (UInt8.ofNat (n % 64 + 128)).toNat = n % 64 + 128 := toNat_ofNat (by omega)
  have isTail (n : Nat) : isTail (UInt8.ofNat (n % 64 + 128)) = true := by
    rw [isTail_iff, tail]
    omega
  simp only [String.utf8EncodeChar]
  rw [show c.val.toNat = c.toNat from rfl]
  split
  · have first : (UInt8.ofNat c.toNat).toNat = c.toNat := toNat_ofNat (by omega)
    refine ⟨whole_one ((lengthFrom_iff (by decide)).mpr (by omega)), ?_⟩
    rw [charOf, first, back rfl]
  · split
    · have first : (UInt8.ofNat (c.toNat / 64 % 32 + 192)).toNat = c.toNat / 64 % 32 + 192 :=
        toNat_ofNat (by omega)
      refine ⟨whole_two ((lengthFrom_iff (by decide)).mpr (by omega))
        (isSecond_iff.mpr ⟨isTail _, by omega⟩), ?_⟩
      rw [charOf, first, tail, back (by omega)]
    · split
      · have first : (UInt8.ofNat (c.toNat / 4096 % 16 + 224)).toNat =
            c.toNat / 4096 % 16 + 224 := toNat_ofNat (by omega)
        have second := tail (c.toNat / 64)
        refine ⟨whole_three ((lengthFrom_iff (by decide)).mpr (by omega))
          (isSecond_iff.mpr ⟨isTail _, by omega⟩) (isTail _), ?_⟩
        rw [charOf, first, second, tail, back (by omega)]
      · have first : (UInt8.ofNat (c.toNat / 262144 % 8 + 240)).toNat =
            c.toNat / 262144 % 8 + 240 := toNat_ofNat (by omega)
        have second := tail (c.toNat / 4096)
        have third := tail (c.toNat / 64)
        refine ⟨whole_four ((lengthFrom_iff (by decide)).mpr (by omega))
          (isSecond_iff.mpr ⟨isTail _, by omega⟩) (isTail _) (isTail _), ?_⟩
        rw [charOf, first, second, third, tail, back (by omega)]

theorem decode_utf8EncodeChar (c : Char) : decode [] (String.utf8EncodeChar c) = ([c], []) := by
  obtain ⟨whole, same⟩ := whole_utf8EncodeChar c
  rw [whole.decode_eq, same]

/-! ## A whole text -/

theorem decode_char (c : Char) (bytes : List UInt8) :
    decode [] (String.utf8EncodeChar c ++ bytes) =
      (c :: (decode [] bytes).1, (decode [] bytes).2) := by
  simp [decode_append, decode_utf8EncodeChar]

theorem decode_chars (chars : List Char) (bytes : List UInt8) :
    decode [] (chars.flatMap String.utf8EncodeChar ++ bytes) =
      (chars ++ (decode [] bytes).1, (decode [] bytes).2) := by
  induction chars with
  | nil => simp
  | cons c chars ih => simp [decode_char, ih]

/-- A byte array lists its bytes from the end it has come to. -/
theorem toList_loop (bytes : ByteArray) (i : Nat) (read : List UInt8) :
    ByteArray.toList.loop bytes i read = read.reverse ++ bytes.data.toList.drop i := by
  fun_induction ByteArray.toList.loop bytes i read with
  | case1 i read more ih =>
      have inside : i < bytes.data.size := more
      have here : bytes.get! i = bytes.data.toList[i] :=
        (getElem!_pos bytes.data i inside).trans (Array.getElem_toList inside).symm
      rw [ih, List.drop_eq_getElem_cons (i := i) inside, here, List.reverse_cons, List.append_assoc,
        List.singleton_append]
  | case2 i read done =>
      have past : bytes.data.toList.length ≤ i := Nat.le_of_not_lt done
      rw [List.drop_of_length_le past, List.append_nil]

theorem encode_ofList (cs : List Char) :
    encode (String.ofList cs) = cs.flatMap String.utf8EncodeChar := by
  rw [encode, String.toUTF8_eq_toByteArray, String.toByteArray_ofList, ByteArray.toList,
    toList_loop, List.utf8Encode, List.toList_data_toByteArray]
  rfl

/-- The bytes of a text stand for its characters, and for no character that has only begun. -/
theorem decode_encode (s : String) : decode [] (encode s) = (s.toList, []) := by
  rw [← String.ofList_toList (s := s), encode_ofList, String.ofList_toList]
  simpa [decode] using decode_chars s.toList []

end Viva.Text.Utf8
