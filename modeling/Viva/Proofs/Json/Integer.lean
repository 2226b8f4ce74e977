import Viva.Json.Numeral
import Viva.Proofs.Json.Quoting

/-! # Integers by their digits

An integer is written with its digits, after a minus sign if it is negative. What is written is one
number token, and the number reads as the same text as long as 64 bits hold the integer.
-/

namespace Viva.Json

/-- The value of a character that is a digit. -/
def digitValue (c : Char) : Nat := c.toNat - '0'.toNat

/-- The number that the digits of an integer write. -/
def Numeral.ofInt (n : Int) : Numeral :=
  ⟨n < 0, (Nat.toDigits 10 n.natAbs).map digitValue, [], none⟩

/-! ## Digits -/

theorem isDigit_of_mem_digits {n : Nat} {c : Char} (mem : c ∈ Nat.toDigits 10 n) :
    c.isDigit = true :=
  Nat.isDigit_of_mem_toDigits (by decide) (by decide) mem

theorem eq_zero_of_digitValue {c : Char} (digit : c.isDigit = true) (zero : digitValue c = 0) :
    c = '0' := by
  simp only [Char.isDigit, Bool.and_eq_true, decide_eq_true_eq, UInt32.le_iff_toNat_le] at digit
  simp only [digitValue, Char.toNat] at zero
  exact Char.ext (UInt32.toNat_inj.mp (Nat.le_antisymm (Nat.sub_eq_zero_iff_le.mp zero) digit.1))

/-- Only zero is written with a zero in front. -/
theorem eq_zero_of_head_digits {n : Nat} (zero : (Nat.toDigits 10 n).head? = some '0') : n = 0 := by
  induction n using Nat.strongRecOn with
  | ind n ih =>
      rw [Nat.toDigits_eq_if (by decide)] at zero
      split at zero
      · simpa using zero
      · have before : (Nat.toDigits 10 (n / 10)).head? = some '0' := by
          rwa [List.head?_append, Option.or_of_isSome (by simp [Nat.toDigits_ne_nil])] at zero
        have := ih (n / 10) (by omega) before
        omega

theorem foldl_digits (n : Nat) :
    ((Nat.toDigits 10 n).map digitValue).foldl (fun k d => k * 10 + d) 0 = n := by
  have value := Nat.ofDigitChars_ten_toDigits (n := n)
  simpa only [List.foldl_map, digitValue, Nat.mul_comm, Nat.ofDigitChars_eq_foldl] using value

/-! ## The token of an integer -/

theorem scanDigits_eq_map {cs : List Char} (digits : ∀ c ∈ cs, c.isDigit = true) :
    Token.scanDigits cs = (cs.map digitValue, []) := by
  induction cs with
  | nil => rfl
  | cons c rest ih =>
      have digit : Token.digit? c = some (digitValue c) := if_pos (digits c List.mem_cons_self)
      simp only [Token.scanDigits, digit, ih fun c mem => digits c (List.mem_cons_of_mem _ mem),
        List.map_cons]

theorem scanWhole_digits (n : Nat) :
    Token.scanWhole (Nat.toDigits 10 n) = some ((Nat.toDigits 10 n).map digitValue, []) := by
  have scanned := scanDigits_eq_map fun c => isDigit_of_mem_digits (n := n) (c := c)
  unfold Token.scanWhole
  split <;> rename_i found
  · exact absurd (List.map_eq_nil_iff.mp (Prod.mk.inj (scanned.symm.trans found)).1)
      Nat.toDigits_ne_nil
  · obtain ⟨c, rest, digits, zero, more⟩ :=
      List.map_eq_cons_iff.mp (Prod.mk.inj (scanned.symm.trans found)).1
    have mem : c ∈ Nat.toDigits 10 n := digits ▸ List.mem_cons_self
    have first : c = '0' := eq_zero_of_digitValue (isDigit_of_mem_digits mem) zero
    have none : n = 0 := eq_zero_of_head_digits (by rw [digits, first]; rfl)
    rw [none, Nat.toDigits_zero] at digits
    cases digits
    cases more
  · rw [scanned]

theorem scanNumber_digits (negative : Bool) (n : Nat) :
    Token.scanNumber negative (Nat.toDigits 10 n) =
      some (⟨negative, (Nat.toDigits 10 n).map digitValue, [], none⟩, []) := by
  rw [Token.scanNumber, scanWhole_digits]
  rfl

theorem ne_of_isDigit {c d : Char} (digit : c.isDigit = true) (other : d.isDigit = false) :
    c ≠ d := by
  rintro rfl
  exact Bool.false_ne_true (other.symm.trans digit)

theorem isSpace_digit {c : Char} (digit : c.isDigit = true) : Token.isSpace c = false := by
  have ne (d : Char) (other : d.isDigit = false) : decide (c = d) = false :=
    decide_eq_false (ne_of_isDigit digit other)
  rw [Token.isSpace, ne ' ' rfl, ne '\n' rfl, ne '\t' rfl, ne '\r' rfl]
  rfl

/-- A digit starts a number. -/
theorem scan_digit {c : Char} {rest : List Char} (digit : c.isDigit = true) :
    Token.scan c rest =
      (Token.scanNumber false (c :: rest)).map fun (n, after) => (.number n, after) := by
  unfold Token.scan
  split
  case h_12 => rfl
  all_goals exact absurd digit (by decide)

/-- The digits of an integer are one number. -/
theorem ofText?_integer (n : Int) :
    Token.ofText? (toString n).toList = some [.number (.ofInt n)] := by
  rw [Int.toString_eq_repr, Int.repr_eq_if, Numeral.ofInt]
  split
  · rename_i sign
    have natural : n.natAbs = n.toNat := by omega
    have scanned := scanNumber_digits false n.toNat
    rw [Nat.toList_repr, natural, decide_eq_false (by omega : ¬n < 0)]
    cases digits : Nat.toDigits 10 n.toNat with
    | nil => exact absurd digits Nat.toDigits_ne_nil
    | cons c rest =>
        have digit : c.isDigit = true := isDigit_of_mem_digits (digits ▸ List.mem_cons_self)
        rw [digits] at scanned
        rw [ofText?_scan (isSpace_digit digit) (by rw [scan_digit digit, scanned, Option.map_some]),
          Token.ofText?, Option.map_some]
  · rename_i sign
    have natural : n.natAbs = (-n).toNat := by omega
    have text : ("-" ++ (-n).toNat.repr).toList = '-' :: Nat.toDigits 10 (-n).toNat := by
      rw [String.toList_append, Nat.toList_repr]
      rfl
    have scanned : Token.scan '-' (Nat.toDigits 10 (-n).toNat) =
        some (.number ⟨true, (Nat.toDigits 10 (-n).toNat).map digitValue, [], none⟩, []) := by
      simp only [Token.scan, scanNumber_digits, Option.map_some]
    rw [text, natural, decide_eq_true (by omega : n < 0), ofText?_scan rfl scanned, Token.ofText?,
      Option.map_some]

/-! ## The number of an integer -/

theorem integer?_ofInt (n : Int) : (Numeral.ofInt n).integer? = some n.natAbs :=
  congrArg some (foldl_digits n.natAbs)

/-- An integer that 64 bits hold, with a sign or without, reads as its digits. -/
theorem text?_ofInt {n : Int} (low : -Nat.pow 2 63 ≤ n) (high : n < Nat.pow 2 64) :
    (Numeral.ofInt n).text? = some (toString n) := by
  have lowest : Nat.pow 2 63 = 9223372036854775808 := rfl
  have beyond : Nat.pow 2 64 = 18446744073709551616 := rfl
  have limit : Numeral.limit = 18446744073709551615 := rfl
  simp only [Numeral.text?, integer?_ofInt]
  rw [Int.toString_eq_repr, Int.repr_eq_if]
  split <;> rename_i sign <;> rw [Numeral.ofInt, decide_eq_true_eq] at sign
  · rw [if_pos (by simp; omega), if_neg (by omega), Nat.toString_eq_repr]
    congr 3
    omega
  · rw [if_pos (by omega), if_pos (by omega), Nat.toString_eq_repr]
    congr 2
    omega

end Viva.Json
