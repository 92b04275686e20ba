import Courier.Proofs.Text.Utf8
import Courier.Text.Base64

/-!
# Reading base64

The reader is a strict one: the characters stand in groups of four, only the last group may be
filled, and the bits that are left over before the filling are zero.

Results:
* `value?_digit`: the number of the digit that is written for a number.
* `decode?_encode`: octets are read back from their base64 form.
-/

namespace Courier.Base64

/-- The number below 64 that a character stands for. -/
def value? (c : CodePoint) : Option Nat :=
  if 0x41 ≤ c.val ∧ c.val ≤ 0x5A then some (c.val - 0x41)
  else if 0x61 ≤ c.val ∧ c.val ≤ 0x7A then some (c.val - 0x61 + 26)
  else if 0x30 ≤ c.val ∧ c.val ≤ 0x39 then some (c.val - 0x30 + 52)
  else if c = CodePoint.ofChar '+' then some 62
  else if c = CodePoint.ofChar '/' then some 63
  else none

/-- The octets that a text is the base64 form of. -/
def decode? : Text → Option Bytes
  | [] => some []
  | a :: b :: c :: d :: rest =>
    match value? a, value? b, value? c, value? d with
    | some i, some j, some k, some l =>
      let n := ((i * 64 + j) * 64 + k) * 64 + l
      (decode? rest).map fun bs =>
        (n / 65536).toUInt8 :: (n / 256 % 256).toUInt8 :: (n % 256).toUInt8 :: bs
    | some i, some j, some k, none =>
      let n := (i * 64 + j) * 64 + k
      if d = filler ∧ rest = [] ∧ n % 4 = 0 then
        some [(n / 4 / 256).toUInt8, (n / 4 % 256).toUInt8]
      else none
    | some i, some j, none, none =>
      let n := i * 64 + j
      if c = filler ∧ d = filler ∧ rest = [] ∧ n % 16 = 0 then some [(n / 16).toUInt8] else none
    | _, _, _, _ => none
  | _ => none

theorem value?_digit : ∀ n < 64, value? (digit n) = some n := by decide +kernel

theorem value?_filler : value? filler = none := by decide

/-- Octets are read back from their base64 form, whatever number of them is left for the last
group. -/
theorem decode?_encode (bs : Bytes) : decode? (encode bs) = some bs := by
  have hoctet : ∀ (b : UInt8) (n : Nat), n = b.toNat → n.toUInt8 = b := fun b n h =>
    (Utf8.toUInt8_eq_iff (h ▸ b.toNat_lt)).mpr h.symm
  induction bs using encode.induct with
  | case1 => rfl
  | case2 a =>
    have ha := a.toNat_lt
    have hn : a.toNat / 4 * 64 + a.toNat % 4 * 16 = a.toNat * 16 := by omega
    simp only [encode, decode?, value?_digit (a.toNat / 4) (by omega),
      value?_digit (a.toNat % 4 * 16) (by omega), value?_filler, hn, Nat.mul_mod_left, and_self,
      if_true]
    rw [hoctet a _ (by omega)]
  | case3 a b =>
    have ha := a.toNat_lt
    have hb := b.toNat_lt
    obtain ⟨n, hn⟩ : ∃ n, n = a.toNat * 256 + b.toNat := ⟨_, rfl⟩
    have hsum : (n / 1024 * 64 + n / 16 % 64) * 64 + n % 16 * 4 = n * 4 := by omega
    simp only [encode, ← hn, decode?, value?_digit (n / 1024) (by omega),
      value?_digit (n / 16 % 64) (by omega), value?_digit (n % 16 * 4) (by omega), value?_filler,
      hsum, Nat.mul_mod_left, and_self, if_true]
    rw [hoctet a _ (by omega), hoctet b _ (by omega)]
  | case4 a b c rest ih =>
    have ha := a.toNat_lt
    have hb := b.toNat_lt
    have hc := c.toNat_lt
    obtain ⟨n, hn⟩ : ∃ n, n = (a.toNat * 256 + b.toNat) * 256 + c.toNat := ⟨_, rfl⟩
    have hsum : ((n / 262144 * 64 + n / 4096 % 64) * 64 + n / 64 % 64) * 64 + n % 64 = n := by
      omega
    simp only [encode, ← hn, decode?, value?_digit (n / 262144) (by omega),
      value?_digit (n / 4096 % 64) (by omega), value?_digit (n / 64 % 64) (by omega),
      value?_digit (n % 64) (by omega), hsum, ih, Option.map_some]
    rw [hoctet a _ (by omega), hoctet b _ (by omega), hoctet c _ (by omega)]

example : decode? (Text.ofString "Zm9vYg==") = some [0x66, 0x6F, 0x6F, 0x62] := by decide

end Courier.Base64
