import Viva.Proofs.Text.Utf8

/-! # What lenient decoding gives

`Lossy` says which characters a byte string stands for when what is no character is replaced: the
bytes of every character give that character, and a maximal subpart gives one U+FFFD. A maximal
subpart starts where no character does; it is the longest piece from there that a character could
start with, or one byte when there is none.

`Rounds` is a decoder that looks at all its bytes at once, one maximal subpart a round. The bytewise
`decode` comes to the same text and holds the same bytes back (`Unfinished.rounds`,
`Rounds.decode_eq`), and that text is the lossy one of the bytes it does not hold back
(`Rounds.settled`).
-/

namespace Viva.Text.Utf8

/-- The bytes start a character that has more of them; so do no bytes at all. -/
def Unfinished (bytes : List UInt8) : Prop :=
  ∃ c more, more ≠ [] ∧ String.utf8EncodeChar c = bytes ++ more

/-- `part` is a maximal subpart of an ill-formed sequence, where `rest` comes after it. -/
structure Subpart (part rest : List UInt8) : Prop where
  nonempty : part ≠ []
  /-- No character stands here. -/
  noChar : ∀ c, ¬ String.utf8EncodeChar c <+: part ++ rest
  /-- It starts a character, or it is one byte. -/
  starts : Unfinished part ∨ part.length = 1
  /-- Nothing longer starts a character. -/
  longest : ∀ longer, longer <+: part ++ rest → Unfinished longer → longer.length ≤ part.length

/-- The characters that a byte string stands for when what is no character is replaced. -/
inductive Lossy : List UInt8 → List Char → Prop where
  | nil : Lossy [] []
  | char {c : Char} {rest chars} : Lossy rest chars →
      Lossy (String.utf8EncodeChar c ++ rest) (c :: chars)
  | subpart {part rest chars} : Subpart part rest → Lossy rest chars →
      Lossy (part ++ rest) (replacement :: chars)

/-- A decoder that looks at all its bytes in every round: the number of rounds, the bytes, the text
    they give and the bytes held back. A round takes the characters in front. What comes then may be
    the start of a character, or nothing, which ends the decoding; otherwise it is a subpart. -/
inductive Rounds : Nat → List UInt8 → List Char → List UInt8 → Prop where
  | last (chars : List Char) {begun} : Unfinished begun →
      Rounds 1 (chars.flatMap String.utf8EncodeChar ++ begun) chars begun
  | replaced (chars : List Char) {n part rest text begun} : Subpart part rest →
      ¬ Unfinished (part ++ rest) → Rounds n rest text begun →
      Rounds (n + 1) (chars.flatMap String.utf8EncodeChar ++ (part ++ rest))
        (chars ++ replacement :: text) begun

/-! ## The table of bytes -/

theorem ofNat_eq {n : Nat} {b : UInt8} (same : n = b.toNat) : UInt8.ofNat n = b := by
  rw [same, UInt8.ofNat_toNat]

theorem val_toNat_ofNat {n : Nat} (valid : n.isValidChar) : (Char.ofNat n).val.toNat = n := by
  rw [Char.ofNat, dif_pos valid]
  rfl

/-- What the table calls a character is the encoding of one. -/
theorem Whole.utf8EncodeChar_charOf {bytes : List UInt8} (whole : Whole bytes) :
    String.utf8EncodeChar (charOf bytes) = bytes := by
  obtain ⟨fits, complete⟩ := whole
  match bytes with
  | [a] =>
      have first := (lengthFrom_iff (by simp)).mp (isComplete_cons.mp complete)
      simp only [List.length_nil] at first
      rw [String.utf8EncodeChar, charOf, val_toNat_ofNat (.inl (by omega)), if_pos (by omega),
        UInt8.ofNat_toNat]
  | [a, b] =>
      have first := (lengthFrom_iff (by simp)).mp (isComplete_cons.mp complete)
      have second := isSecond_iff.mp fits.2.1
      rw [isTail_iff] at second
      simp only [List.length_cons, List.length_nil] at first
      rw [String.utf8EncodeChar, charOf, val_toNat_ofNat (.inl (by omega)), if_neg (by omega),
        if_pos (by omega), ofNat_eq (b := a) (by omega), ofNat_eq (b := b) (by omega)]
  | [a, b, c] =>
      have first := (lengthFrom_iff (by simp)).mp (isComplete_cons.mp complete)
      have second := isSecond_iff.mp fits.2.1
      have third := isTail_iff.mp (fits.2.2 c (by simp))
      rw [isTail_iff] at second
      simp only [List.length_cons, List.length_nil] at first
      rw [String.utf8EncodeChar, charOf, val_toNat_ofNat (by rw [Nat.isValidChar]; omega),
        if_neg (by omega), if_neg (by omega), if_pos (by omega), ofNat_eq (b := a) (by omega),
        ofNat_eq (b := b) (by omega), ofNat_eq (b := c) (by omega)]
  | [a, b, c, d] =>
      have first := (lengthFrom_iff (by simp)).mp (isComplete_cons.mp complete)
      have second := isSecond_iff.mp fits.2.1
      have third := isTail_iff.mp (fits.2.2 c (by simp))
      have fourth := isTail_iff.mp (fits.2.2 d (by simp))
      rw [isTail_iff] at second
      simp only [List.length_cons, List.length_nil] at first
      rw [String.utf8EncodeChar, charOf, val_toNat_ofNat (by rw [Nat.isValidChar]; omega),
        if_neg (by omega), if_neg (by omega), if_neg (by omega), ofNat_eq (b := a) (by omega),
        ofNat_eq (b := b) (by omega), ofNat_eq (b := c) (by omega), ofNat_eq (b := d) (by omega)]
  | a :: b :: c :: d :: e :: rest =>
      have first := (lengthFrom_iff (by simp)).mp (isComplete_cons.mp complete)
      simp at first

theorem Fits.length_le {bytes : List UInt8} (fits : Fits bytes) : bytes.length ≤ 4 := by
  have most (a : UInt8) : lengthFrom a ≤ 4 := by grind [lengthFrom]
  rcases bytes with _ | ⟨first, _ | ⟨second, rest⟩⟩
  · simp
  · simp
  · have := fits.1
    have := most first
    simp only [List.length_cons]
    omega

/-- Some byte may follow bytes that are no whole character. -/
theorem Fits.extend {bytes : List UInt8} (fits : Fits bytes)
    (incomplete : isComplete bytes = false) : ∃ b, Fits (bytes ++ [b]) := by
  suffices ∃ b, follows bytes b = true by
    obtain ⟨b, next⟩ := this
    exact ⟨b, fits_concat.mpr ⟨fits, incomplete, next⟩⟩
  match bytes with
  | [] => exact ⟨0, by decide⟩
  | [first] =>
      by_cases three : first = 0xE0
      · exact ⟨0xA0, by rw [three]; decide⟩
      · by_cases four : first = 0xF0
        · exact ⟨0x90, by rw [four]; decide⟩
        · exact ⟨0x80, by simp [follows, isSecond, isTail, three, four]⟩
  | _ :: _ :: _ => exact ⟨0x80, by simp [follows, isTail]⟩

/-- Bytes that fit can go on to a whole character. -/
theorem Fits.whole {bytes : List UInt8} (fits : Fits bytes) : ∃ more, Whole (bytes ++ more) := by
  by_cases complete : isComplete bytes = true
  · exact ⟨[], by rw [List.append_nil]; exact ⟨fits, complete⟩⟩
  · obtain ⟨b, longer⟩ := fits.extend (Bool.eq_false_iff.mpr complete)
    have := longer.length_le
    obtain ⟨more, whole⟩ := longer.whole
    exact ⟨b :: more, by rwa [List.append_cons]⟩
termination_by 4 - bytes.length
decreasing_by simp at *; omega

theorem unfinished_iff {bytes : List UInt8} :
    Unfinished bytes ↔ Fits bytes ∧ isComplete bytes = false := by
  constructor
  · rintro ⟨c, more, some, same⟩
    have fits := (whole_utf8EncodeChar c).1.1
    rw [same] at fits
    exact ⟨fits.left, fits.incomplete some⟩
  · rintro ⟨fits, incomplete⟩
    obtain ⟨more, whole⟩ := fits.whole
    refine ⟨charOf (bytes ++ more), more, ?_, whole.utf8EncodeChar_charOf⟩
    rintro rfl
    rw [List.append_nil] at whole
    simp [whole.2] at incomplete

theorem unfinished_nil : Unfinished [] :=
  unfinished_iff.mpr ⟨trivial, rfl⟩

theorem Unfinished.length_le {bytes : List UInt8} (unfinished : Unfinished bytes) :
    bytes.length ≤ 3 := by
  obtain ⟨c, more, some, same⟩ := unfinished
  have all := (whole_utf8EncodeChar c).1.1.length_le
  have := List.length_pos_iff.mpr some
  rw [same, List.length_append] at all
  omega

/-- No character stands in front of bytes that one has only begun with. -/
theorem Unfinished.not_prefix {bytes : List UInt8} (unfinished : Unfinished bytes) (c : Char) :
    ¬ String.utf8EncodeChar c <+: bytes := by
  rintro ⟨more, rfl⟩
  obtain ⟨fits, incomplete⟩ := unfinished_iff.mp unfinished
  have complete := (whole_utf8EncodeChar c).1.2
  cases more with
  | nil => simp [complete] at incomplete
  | cons b more => simp [fits.incomplete (List.cons_ne_nil b more)] at complete

/-! ## Maximal subparts -/

theorem not_fits_of_stray {begun : List UInt8} {b : UInt8} (stray : follows begun b = false)
    (more : List UInt8) : ¬ Fits (begun ++ b :: more) := by
  intro fits
  rw [List.append_cons] at fits
  simpa [stray] using (fits_concat.mp fits.left).2.2

theorem prefix_cons_cases {α : Type} {front rest : List α} {b : α} (begun : List α)
    (inside : front <+: begun ++ b :: rest) :
    front <+: begun ∨ ∃ more, front = begun ++ b :: more := by
  rcases List.prefix_or_prefix_of_prefix inside (List.prefix_append begun _) with
    short | ⟨more, rfl⟩
  · exact .inl short
  · rw [List.prefix_append_right_inj] at inside
    cases more with
    | nil => exact .inl (by simp)
    | cons a more =>
        rw [List.cons_prefix_cons] at inside
        exact .inr ⟨more, by rw [inside.1]⟩

/-- No character goes beyond what was begun when the next byte cannot follow it. -/
theorem Unfinished.stops {begun : List UInt8} {b : UInt8} (unfinished : Unfinished begun)
    (stray : follows begun b = false) (rest : List UInt8) :
    (∀ c, ¬ String.utf8EncodeChar c <+: begun ++ b :: rest) ∧
      ∀ longer, longer <+: begun ++ b :: rest → Unfinished longer →
        longer.length ≤ begun.length := by
  constructor
  · intro c front
    rcases prefix_cons_cases begun front with inside | ⟨more, same⟩
    · exact unfinished.not_prefix c inside
    · exact not_fits_of_stray stray more (same ▸ (whole_utf8EncodeChar c).1.1)
  · intro longer front starts
    rcases prefix_cons_cases begun front with inside | ⟨more, rfl⟩
    · exact inside.length_le
    · exact absurd (unfinished_iff.mp starts).1 (not_fits_of_stray stray more)

/-- What was begun is a maximal subpart when the next byte cannot follow it. -/
theorem Unfinished.subpart {begun rest : List UInt8} {b : UInt8} (unfinished : Unfinished begun)
    (some : begun ≠ []) (stray : follows begun b = false) : Subpart begun (b :: rest) where
  nonempty := some
  noChar := (unfinished.stops stray rest).1
  starts := .inl unfinished
  longest := (unfinished.stops stray rest).2

theorem Unfinished.subpart_last {begun : List UInt8} (unfinished : Unfinished begun)
    (some : begun ≠ []) : Subpart begun [] where
  nonempty := some
  noChar := by simpa using unfinished.not_prefix
  starts := .inl unfinished
  longest := by
    intro longer front _
    simpa using front.length_le

/-- A byte that no character starts with is a maximal subpart. -/
theorem subpart_stray {b : UInt8} (stray : follows [] b = false) (rest : List UInt8) :
    Subpart [b] rest where
  nonempty := List.cons_ne_nil b []
  noChar := (unfinished_nil.stops stray rest).1
  starts := .inr rfl
  longest := by
    intro longer front starts
    have none : longer.length ≤ 0 := (unfinished_nil.stops stray rest).2 longer front starts
    exact Nat.le_trans none (Nat.zero_le 1)

/-- A maximal subpart is one in front of less as well. -/
theorem Subpart.left {part rest more : List UInt8} (subpart : Subpart part (rest ++ more)) :
    Subpart part rest where
  nonempty := subpart.nonempty
  noChar := by
    intro c front
    have longer := front.trans (List.prefix_append _ more)
    rw [List.append_assoc] at longer
    exact subpart.noChar c longer
  starts := subpart.starts
  longest := by
    intro longer front
    have further := front.trans (List.prefix_append _ more)
    rw [List.append_assoc] at further
    exact subpart.longest longer further

/-! ## One byte after a character begun -/

/-- A byte that may follow completes a character, or the character goes on. -/
theorem Unfinished.next {begun : List UInt8} {b : UInt8} (unfinished : Unfinished begun)
    (next : follows begun b = true) :
    (∃ c, String.utf8EncodeChar c = begun ++ [b]) ∨ Unfinished (begun ++ [b]) := by
  obtain ⟨fits, incomplete⟩ := unfinished_iff.mp unfinished
  have longer := fits_concat.mpr ⟨fits, incomplete, next⟩
  by_cases complete : isComplete (begun ++ [b]) = true
  · exact .inl ⟨charOf (begun ++ [b]), Whole.utf8EncodeChar_charOf ⟨longer, complete⟩⟩
  · exact .inr (unfinished_iff.mpr ⟨longer, Bool.eq_false_iff.mpr complete⟩)

/-- A byte that cannot follow what was begun closes it off, and starts anew. -/
theorem step_stray {begun : List UInt8} {b : UInt8} (some : begun ≠ [])
    (stray : follows begun b = false) :
    step begun b = (replacement :: (step [] b).1, (step [] b).2) := by
  by_cases starts : follows [] b = true <;> simp [step, some, stray, starts]

theorem decode_stray {begun : List UInt8} {b : UInt8} (some : begun ≠ [])
    (stray : follows begun b = false) (rest : List UInt8) :
    decode begun (b :: rest) =
      (replacement :: (decode [] (b :: rest)).1, (decode [] (b :: rest)).2) := by
  simp [decode, step_stray some stray]

theorem decode_stray_nil {b : UInt8} (stray : follows [] b = false) (rest : List UInt8) :
    decode [] (b :: rest) = (replacement :: (decode [] rest).1, (decode [] rest).2) := by
  simp [decode, step, stray]

theorem Unfinished.decode_eq {begun : List UInt8} (unfinished : Unfinished begun) :
    decode [] begun = ([], begun) := by
  obtain ⟨fits, incomplete⟩ := unfinished_iff.mp unfinished
  have held : decode [] ([] ++ begun) = ([], [] ++ begun) := Fits.decode_eq fits incomplete
  simpa using held

/-- Bytes held back count like bytes of the next read. -/
theorem Unfinished.decode_append {begun : List UInt8} (unfinished : Unfinished begun)
    (bytes : List UInt8) : decode [] (begun ++ bytes) = decode begun bytes := by
  simp [Utf8.decode_append, unfinished.decode_eq]

/-- A maximal subpart decodes to one replacement, unless it may still go on. -/
theorem Subpart.decode_eq {part rest : List UInt8} (subpart : Subpart part rest)
    (ended : ¬ Unfinished (part ++ rest)) :
    decode [] (part ++ rest) = (replacement :: (decode [] rest).1, (decode [] rest).2) := by
  by_cases unfinished : Unfinished part
  · cases rest with
    | nil => exact absurd (by simpa using unfinished) ended
    | cons b rest =>
        have stray : follows part b = false := by
          refine Bool.eq_false_iff.mpr fun next => ?_
          have front : part ++ [b] <+: part ++ b :: rest := ⟨rest, by simp⟩
          rcases unfinished.next next with ⟨c, same⟩ | longer
          · exact subpart.noChar c (same ▸ front)
          · exact absurd (subpart.longest _ front longer) (by simp)
        rw [unfinished.decode_append, decode_stray subpart.nonempty stray]
  · obtain ⟨b, rfl⟩ := List.length_eq_one_iff.mp (subpart.starts.resolve_left unfinished)
    have stray : follows [] b = false := by
      refine Bool.eq_false_iff.mpr fun next => ?_
      rcases unfinished_nil.next next with ⟨c, same⟩ | longer
      · exact subpart.noChar c ⟨rest, by rw [same]; rfl⟩
      · exact unfinished longer
    exact decode_stray_nil stray rest

/-! ## Round by round -/

theorem Rounds.char {n : Nat} {bytes begun : List UInt8} {text : List Char}
    (rounds : Rounds n bytes text begun) (c : Char) :
    Rounds n (String.utf8EncodeChar c ++ bytes) (c :: text) begun := by
  cases rounds with
  | last _ unfinished => simpa using Rounds.last (c :: text) unfinished
  | replaced chars subpart ended rest =>
      simpa using Rounds.replaced (c :: chars) subpart ended rest

theorem Rounds.subpart {n : Nat} {part rest begun : List UInt8} {text : List Char}
    (rounds : Rounds n rest text begun) (subpart : Subpart part rest)
    (ended : ¬ Unfinished (part ++ rest)) :
    Rounds (n + 1) (part ++ rest) (replacement :: text) begun := by
  simpa using Rounds.replaced [] subpart ended rounds

/-- The bytewise decoder does what the one does that looks at all its bytes in every round, and that
    one comes to an end: each of its rounds but the last takes a byte away. -/
theorem Unfinished.rounds {begun : List UInt8} (unfinished : Unfinished begun)
    (bytes : List UInt8) :
    ∃ n ≤ (begun ++ bytes).length + 1,
      Rounds n (begun ++ bytes) (decode [] (begun ++ bytes)).1 (decode [] (begun ++ bytes)).2 := by
  match bytes with
  | [] =>
      refine ⟨1, by simp, ?_⟩
      simpa [unfinished.decode_eq] using Rounds.last [] unfinished
  | b :: rest =>
      by_cases next : follows begun b = true
      · rcases unfinished.next next with ⟨c, same⟩ | longer
        · obtain ⟨n, few, rounds⟩ := unfinished_nil.rounds rest
          refine ⟨n, by simp at few ⊢; omega, ?_⟩
          rw [List.append_cons, ← same, decode_char]
          exact rounds.char c
        · rw [List.append_cons]
          exact longer.rounds rest
      · have stray := Bool.eq_false_iff.mpr next
        have ended : ¬ Unfinished (begun ++ b :: rest) :=
          fun all => not_fits_of_stray stray rest (unfinished_iff.mp all).1
        by_cases fresh : begun = []
        · subst fresh
          obtain ⟨n, few, rounds⟩ := unfinished_nil.rounds rest
          refine ⟨n + 1, by simp at few ⊢; omega, ?_⟩
          rw [List.nil_append, decode_stray_nil stray]
          exact rounds.subpart (subpart_stray stray rest) ended
        · have := List.length_pos_iff.mpr fresh
          obtain ⟨n, few, rounds⟩ := unfinished_nil.rounds (b :: rest)
          refine ⟨n + 1, by simp at few ⊢; omega, ?_⟩
          rw [unfinished.decode_append, decode_stray fresh stray]
          exact rounds.subpart (unfinished.subpart fresh stray) ended
termination_by (bytes.length, begun.length)

/-- There is one result only. -/
theorem Rounds.decode_eq {n : Nat} {bytes begun : List UInt8} {text : List Char}
    (rounds : Rounds n bytes text begun) : decode [] bytes = (text, begun) := by
  induction rounds with
  | last chars unfinished => simp [decode_chars, unfinished.decode_eq]
  | replaced chars subpart ended _ ih => simp [decode_chars, subpart.decode_eq ended, ih]

/-! ## The lossy text -/

theorem Lossy.chars {bytes : List UInt8} {text : List Char} (lossy : Lossy bytes text)
    (chars : List Char) : Lossy (chars.flatMap String.utf8EncodeChar ++ bytes) (chars ++ text) := by
  induction chars with
  | nil => exact lossy
  | cons c chars ih => simpa using ih.char (c := c)

/-- The text is what the bytes that are not held back stand for. -/
theorem Rounds.settled {n : Nat} {bytes begun : List UInt8} {text : List Char}
    (rounds : Rounds n bytes text begun) :
    Unfinished begun ∧ ∃ settled, bytes = settled ++ begun ∧ Lossy settled text := by
  induction rounds with
  | last chars unfinished => exact ⟨unfinished, _, rfl, by simpa using Lossy.nil.chars chars⟩
  | replaced chars subpart _ _ ih =>
      obtain ⟨unfinished, settled, rfl, lossy⟩ := ih
      exact ⟨unfinished, _, by simp, (Lossy.subpart subpart.left lossy).chars chars⟩

/-- With one more replacement for what is held back, it is what all the bytes stand for. -/
theorem Rounds.lossy {n : Nat} {bytes begun : List UInt8} {text : List Char}
    (rounds : Rounds n bytes text begun) :
    Lossy bytes (if begun.isEmpty then text else text ++ [replacement]) := by
  induction rounds with
  | @last chars begun unfinished =>
      cases begun with
      | nil => simpa using Lossy.nil.chars chars
      | cons b more =>
          have subpart : Subpart (b :: more) [] := unfinished.subpart_last (List.cons_ne_nil b more)
          simpa using (Lossy.subpart subpart .nil).chars chars
  | replaced chars subpart _ _ ih =>
      have := (Lossy.subpart subpart ih).chars chars
      split <;> simp_all

theorem toList_lossy (bytes : List UInt8) : (lossy bytes).toList =
    if (decode [] bytes).2.isEmpty then (decode [] bytes).1
    else (decode [] bytes).1 ++ [replacement] := by
  simp [lossy]

/-- The lossy text of a byte string is its one reading with every maximal subpart replaced. -/
theorem lossy_iff {bytes : List UInt8} {text : List Char} :
    Lossy bytes text ↔ text = (lossy bytes).toList := by
  constructor
  · intro reading
    rw [toList_lossy]
    induction reading with
    | nil => rfl
    | char _ ih => simp [decode_char, ih]; split <;> rfl
    | @subpart part rest chars subpart _ ih =>
        by_cases more : Unfinished (part ++ rest)
        · have short := subpart.longest _ List.prefix_rfl more
          rw [List.length_append] at short
          obtain rfl : rest = [] := List.eq_nil_of_length_eq_zero (by omega)
          rw [List.append_nil] at more ⊢
          simp [more.decode_eq, subpart.nonempty, show chars = [] from ih]
        · simp [subpart.decode_eq more, ih]
          split <;> rfl
  · rintro rfl
    obtain ⟨n, _, rounds⟩ := unfinished_nil.rounds bytes
    rw [toList_lossy]
    exact rounds.lossy

end Viva.Text.Utf8
