import Courier.Json.Reader
import Courier.Proofs.Text.WellFormed
import Mathlib.Data.List.Basic

/-!
# Reading an integer that was written

The digits of an integer are read back, if what stands behind them neither goes on with a digit nor
makes a real number of it.

Results:
* `natOfDigits_ofNat`: the value of decimal digits.
* `wholeLength_ofNat`: how far the digits go.
* `numberAt_sign`: digits are read back behind a sign.
-/

namespace Courier.Json

/-! ## Decimal digits -/

theorem natOfDigits_ofNat (n : Nat) : natOfDigits (Text.ofNat n) = n := by
  rw [natOfDigits, Text.ofNat, List.foldl_map]
  exact Nat.ofDigitChars_ten_toDigits

theorem isAsciiDigit_of_mem_ofNat {n : Nat} {c : CodePoint} (hc : c ∈ Text.ofNat n) :
    c.isAsciiDigit = true := by
  obtain ⟨d, hd, rfl⟩ := List.mem_map.mp hc
  have hdigit := Nat.isDigit_of_mem_toDigits (by decide) (by decide) hd
  simp only [Char.isDigit, UInt32.le_iff_toNat_le, Bool.and_eq_true, decide_eq_true_eq] at hdigit
  simp only [CodePoint.isAsciiDigit, Bool.and_eq_true, decide_eq_true_eq]
  exact hdigit

theorem ofNat_ne_nil (n : Nat) : Text.ofNat n ≠ [] :=
  mt List.map_eq_nil_iff.mp Nat.toDigits_ne_nil

theorem exists_ofNat_eq_cons (n : Nat) :
    ∃ c more, Text.ofNat n = c :: more ∧ c.isAsciiDigit = true := by
  obtain ⟨c, more, hn⟩ := List.exists_cons_of_ne_nil (ofNat_ne_nil n)
  exact ⟨c, more, hn, isAsciiDigit_of_mem_ofNat (hn ▸ List.mem_cons_self)⟩

/-- Only zero is written with a zero in front. -/
theorem head?_ofNat_ne_zero {n : Nat} (hn : 0 < n) :
    (Text.ofNat n).head? ≠ some (CodePoint.ofChar '0') := by
  induction n using Nat.strongRecOn with
  | ind n ih =>
    by_cases hlt : n < 10
    · have hdigit : ∀ d < 10, 0 < d →
          CodePoint.ofChar d.digitChar ≠ CodePoint.ofChar '0' := by decide
      rw [Text.ofNat, Nat.toDigits_of_lt_base hlt, List.map_singleton, List.head?_cons, ne_eq,
        Option.some.injEq]
      exact hdigit n hlt hn
    · have hsplit : Text.ofNat n =
          Text.ofNat (n / 10) ++ [CodePoint.ofChar (n % 10).digitChar] := by
        rw [Text.ofNat, Nat.toDigits_of_base_le (by decide) (by omega), List.map_append]
        rfl
      rw [hsplit, List.head?_append_of_ne_nil _ (ofNat_ne_nil (n / 10))]
      exact ih (n / 10) (by omega) (by omega)

/-- What may stand behind a number without going on with it: neither a digit nor a point nor the
letter of an exponent. -/
def EndsNumber (rest : Text) : Prop :=
  ∀ c, rest.head? = some c → c.isAsciiDigit = false ∧ c ≠ CodePoint.ofChar '.' ∧
    c.lowerAscii ≠ CodePoint.ofChar 'e'

variable {rest : Text}

theorem leadingDigits_ofNat (h : EndsNumber rest) (n : Nat) :
    leadingDigits (Text.ofNat n ++ rest) = Text.ofNat n := by
  have hnone : rest.takeWhile CodePoint.isAsciiDigit = [] := by
    cases rest with
    | nil => rfl
    | cons c rest => rw [List.takeWhile_cons_of_neg (by simp [(h c rfl).1])]
  rw [leadingDigits, List.takeWhile_append_of_pos fun _ hc => isAsciiDigit_of_mem_ofNat hc, hnone,
    List.append_nil]

theorem wholeLength_ofNat (h : EndsNumber rest) (n : Nat) :
    wholeLength (Text.ofNat n ++ rest) = (Text.ofNat n).length := by
  rw [wholeLength, leadingDigits_ofNat h, List.head?_append_of_ne_nil _ (ofNat_ne_nil n)]
  by_cases hn : n = 0
  · rw [hn]
    rfl
  · rw [if_neg (head?_ofNat_ne_zero (Nat.pos_of_ne_zero hn))]

theorem fractionLength_of_endsNumber (h : EndsNumber rest) : fractionLength rest = 0 := by
  cases rest with
  | nil => rfl
  | cons c rest => simp [fractionLength, (h c rfl).2.1]

theorem exponentPart_of_endsNumber (h : EndsNumber rest) : exponentPart rest = (0, 0) := by
  cases rest with
  | nil => rfl
  | cons c rest => simp [exponentPart, (h c rfl).2.2]

/-! ## Integers -/

/-- The sign of an integer as it is written. -/
def sign (negative : Bool) : Text := if negative then [CodePoint.ofChar '-'] else []

theorem isAt_sign (negative : Bool) (n pos : Nat) (rest : Text) :
    Cursor.isAt ⟨pos, sign negative ++ (Text.ofNat n ++ rest)⟩ '-' = negative := by
  cases negative with
  | true => rfl
  | false =>
    have hminus : CodePoint.isAsciiDigit (CodePoint.ofChar '-') = false := by decide
    rw [Cursor.isAt, decide_eq_false_iff_not, sign, if_neg Bool.false_ne_true, List.nil_append,
      List.head?_append_of_ne_nil _ (ofNat_ne_nil n)]
    intro hhead
    rw [isAsciiDigit_of_mem_ofNat (List.mem_of_mem_head? hhead)] at hminus
    cases hminus

/-- Digits are read behind a minus sign or none, up to where they end. -/
theorem numberAt_sign {limits : Limits} {n : Nat} (hdigits : (Text.ofNat n).length ≤ limits.digits)
    (h : EndsNumber rest) (negative : Bool) (pos : Nat) :
    numberAt limits ⟨pos, sign negative ++ (Text.ofNat n ++ rest)⟩ =
      .ok (.int (if negative then -n else n),
        ⟨pos + (sign negative ++ Text.ofNat n).length, rest⟩) := by
  have hunsigned : (if negative then (sign negative ++ (Text.ofNat n ++ rest)).drop 1
      else sign negative ++ (Text.ofNat n ++ rest)) = Text.ofNat n ++ rest := by
    cases negative <;> rfl
  have hlength : (sign negative).length = if negative then 1 else 0 := by
    cases negative <;> rfl
  have hne : (Text.ofNat n).isEmpty = false := by simp [ofNat_ne_nil]
  simp only [numberAt, isAt_sign, hunsigned, wholeLength_ofNat h, List.take_left, hne,
    Bool.false_eq_true, if_false, List.drop_left, fractionLength_of_endsNumber h, List.take_zero,
    List.isEmpty_nil, List.length_nil, Nat.add_zero, exponentPart_of_endsNumber h, Bool.true_and,
    decide_true, if_neg (Nat.not_lt.mpr hdigits), natOfDigits_ofNat, if_true]
  rw [Cursor.advance, ← hlength, ← List.length_append, ← List.append_assoc, List.drop_left]

end Courier.Json
