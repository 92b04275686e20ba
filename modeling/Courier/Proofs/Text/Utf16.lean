import Courier.Proofs.Text.Utf8
import Courier.Text.Document

/-!
# The UTF-16 units of text

The length of a body is counted in units: every character counts once, and those beyond U+FFFF once
more. The units are read back as the text they were written for, since the two units of a pair stand
side by side and are the only ones from the range of surrogates.

Results:
* `length_encode`: how many units a text has.
* `decode_encode`, `paired_encode`: the units of a text without surrogates.
* `units16?_littleEndian`: octets taken two by two, the small one first, give the units.
-/

namespace Courier.Utf16

/-! ## The number of units -/

/-- The characters of a text, where those beyond U+FFFF count twice. -/
def width (t : Text) : Nat := t.length + t.countP fun c => 0xFFFF < c.val

theorem length_encodeOne (c : CodePoint) :
    (encodeOne c).length = if 0xFFFF < c.val then 2 else 1 := by
  simp only [encodeOne]
  by_cases h : c.val < 0x10000
  · rw [if_pos h, if_neg (by omega)]
    rfl
  · rw [if_neg h, if_pos (by omega)]
    rfl

theorem length_encode (t : Text) : (encode t).length = width t := by
  induction t with
  | nil => rfl
  | cons c t ih =>
    rw [encode, List.flatMap_cons, List.length_append, ← encode, ih, length_encodeOne]
    simp only [width, List.length_cons, List.countP_cons, decide_eq_true_eq]
    split <;> omega

/-! ## Units and octets -/

theorem toNat_toUInt16 {n : Nat} (h : n < 0x10000) : n.toUInt16.toNat = n := by
  simp [Nat.toUInt16, Nat.mod_eq_of_lt h]

/-- The octets of a text in UTF-16, the small octet of each unit first. -/
def littleEndian (t : Text) : Bytes :=
  t.flatMap fun c =>
    if c.val < 0x10000 then [(c.val % 0x100).toUInt8, (c.val / 0x100).toUInt8]
    else
      let n := c.val - 0x10000
      [(n / 0x400 % 0x100).toUInt8, (0xD8 + n / 0x40000).toUInt8,
        (n % 0x100).toUInt8, (0xDC + n % 0x400 / 0x100).toUInt8]

theorem units16?_cons {a b n : Nat} (ha : a < 0x100) (hb : b < 0x100) (hn : b * 0x100 + a = n)
    (rest : Bytes) :
    Document.units16? false (a.toUInt8 :: b.toUInt8 :: rest) =
      (Document.units16? false rest).map (n.toUInt16 :: ·) := by
  rw [Document.units16?, Utf8.toNat_toUInt8 ha, Utf8.toNat_toUInt8 hb, if_neg (by decide), hn]
  cases Document.units16? false rest <;> rfl

/-- Two octets are one unit throughout: what is cut out of the octets never falls out of step. -/
theorem units16?_littleEndian (t : Text) :
    Document.units16? false (littleEndian t) = some (encode t) := by
  induction t with
  | nil => rfl
  | cons c t ih =>
    have hlt := c.isLt
    simp only [littleEndian, encode, List.flatMap_cons] at ih ⊢
    by_cases h : c.val < 0x10000
    · rw [if_pos h, encodeOne, if_pos h]
      simp only [List.cons_append, List.nil_append]
      rw [units16?_cons (n := c.val) (by omega) (by omega) (by omega), ih]
      rfl
    · rw [if_neg h, encodeOne, if_neg h]
      simp only [List.cons_append, List.nil_append]
      rw [units16?_cons (n := 0xD800 + (c.val - 0x10000) / 0x400) (by omega) (by omega) (by omega),
        units16?_cons (n := 0xDC00 + (c.val - 0x10000) % 0x400) (by omega) (by omega) (by omega),
        ih]
      rfl

/-! ## Pairs -/

/-- A unit that begins a pair. -/
def IsHigh (u : UInt16) : Prop := 0xD800 ≤ u.toNat ∧ u.toNat ≤ 0xDBFF

/-- A unit that ends a pair. -/
def IsLow (u : UInt16) : Prop := 0xDC00 ≤ u.toNat ∧ u.toNat ≤ 0xDFFF

theorem not_isLow_of_isHigh {u : UInt16} (h : IsHigh u) : ¬IsLow u := by
  rw [IsHigh] at h
  rw [IsLow]
  omega

/-- Behind every unit that begins a pair stands one that ends it, and the other way round. -/
structure Paired (us : List UInt16) : Prop where
  low_of_high : ∀ i u, us[i]? = some u → IsHigh u → ∃ v, us[i + 1]? = some v ∧ IsLow v
  high_of_low : ∀ i v, us[i]? = some v → IsLow v → ∃ j u, i = j + 1 ∧ us[j]? = some u ∧ IsHigh u

theorem paired_nil : Paired [] := ⟨by simp, by simp⟩

theorem Paired.cons {u : UInt16} {us : List UInt16} (h : Paired us) (hhigh : ¬IsHigh u)
    (hlow : ¬IsLow u) : Paired (u :: us) := by
  constructor
  · intro i v hv hvhigh
    cases i with
    | zero =>
      obtain rfl : u = v := by simpa using hv
      exact absurd hvhigh hhigh
    | succ i => exact h.low_of_high i v (by simpa using hv) hvhigh
  · intro i v hv hvlow
    cases i with
    | zero =>
      obtain rfl : u = v := by simpa using hv
      exact absurd hvlow hlow
    | succ i =>
      obtain ⟨j, w, rfl, hw, hwhigh⟩ := h.high_of_low i v (by simpa using hv) hvlow
      exact ⟨j + 1, w, rfl, by simpa using hw, hwhigh⟩

theorem Paired.cons_cons {high low : UInt16} {us : List UInt16} (h : Paired us)
    (hhigh : IsHigh high) (hlow : IsLow low) : Paired (high :: low :: us) := by
  constructor
  · intro i v hv hvhigh
    match i with
    | 0 => exact ⟨low, by simp, hlow⟩
    | 1 =>
      obtain rfl : low = v := by simpa using hv
      exact absurd hlow (not_isLow_of_isHigh hvhigh)
    | i + 2 => exact h.low_of_high i v (by simpa using hv) hvhigh
  · intro i v hv hvlow
    match i with
    | 0 =>
      obtain rfl : high = v := by simpa using hv
      exact absurd hvlow (not_isLow_of_isHigh hhigh)
    | 1 => exact ⟨0, high, rfl, by simp, hhigh⟩
    | i + 2 =>
      obtain ⟨j, w, rfl, hw, hwhigh⟩ := h.high_of_low i v (by simpa using hv) hvlow
      exact ⟨j + 2, w, rfl, by simpa using hw, hwhigh⟩

/-! ## Reading units back -/

/-- The units of a character: one outside of the range of surrogates, or a pair. -/
theorem encodeOne_cases {c : CodePoint} (hc : c.isSurrogate = false) :
    (∃ u : UInt16, encodeOne c = [u] ∧ CodePoint.ofNat u.toNat = c ∧ ¬IsHigh u ∧ ¬IsLow u) ∨
      ∃ high low : UInt16, encodeOne c = [high, low] ∧ pair high.toNat low.toNat = c ∧
        IsHigh high ∧ IsLow low := by
  have hlt := c.isLt
  rw [Utf8.isSurrogate_eq_false_iff] at hc
  by_cases h : c.val < 0x10000
  · refine .inl ⟨c.val.toUInt16, by rw [encodeOne, if_pos h], ?_, ?_, ?_⟩
    · rw [toNat_toUInt16 h, Utf8.ofNat_val]
    · rw [IsHigh, toNat_toUInt16 h]
      omega
    · rw [IsLow, toNat_toUInt16 h]
      omega
  · refine .inr ⟨_, _, by rw [encodeOne, if_neg h], ?_, ?_, ?_⟩
    · rw [pair, toNat_toUInt16 (by omega), toNat_toUInt16 (by omega)]
      exact Utf8.ofNat_eq_of_eq_val (by omega)
    · rw [IsHigh, toNat_toUInt16 (by omega)]
      omega
    · rw [IsLow, toNat_toUInt16 (by omega)]
      omega

theorem isHighSurrogate_ofNat_iff (u : UInt16) :
    (CodePoint.ofNat u.toNat).isHighSurrogate = true ↔ IsHigh u := by
  have hlt : u.toNat < 0x10000 := u.toNat_lt
  simp [CodePoint.isHighSurrogate, IsHigh, Utf8.val_ofNat (show u.toNat < 0x110000 by omega)]

theorem isLowSurrogate_ofNat_iff (u : UInt16) :
    (CodePoint.ofNat u.toNat).isLowSurrogate = true ↔ IsLow u := by
  have hlt : u.toNat < 0x10000 := u.toNat_lt
  simp [CodePoint.isLowSurrogate, IsLow, Utf8.val_ofNat (show u.toNat < 0x110000 by omega)]

theorem decode_cons {u : UInt16} (h : ¬IsHigh u) (us : List UInt16) :
    decode (u :: us) = CodePoint.ofNat u.toNat :: decode us := by
  rw [← isHighSurrogate_ofNat_iff] at h
  cases us with
  | nil => rfl
  | cons v us => simp [decode, h]

theorem decode_cons_cons {high low : UInt16} (hhigh : IsHigh high) (hlow : IsLow low)
    (us : List UInt16) :
    decode (high :: low :: us) = pair high.toNat low.toNat :: decode us := by
  rw [← isHighSurrogate_ofNat_iff] at hhigh
  rw [← isLowSurrogate_ofNat_iff] at hlow
  simp [decode, hhigh, hlow]

/-- The units of a text are read back as that text. -/
theorem decode_encode {t : Text} (ht : t.isWellFormed = true) : decode (encode t) = t := by
  induction t with
  | nil => rfl
  | cons c t ih =>
    simp only [Text.isWellFormed, List.all_cons, Bool.and_eq_true, Bool.not_eq_true'] at ht
    rw [encode, List.flatMap_cons, ← encode]
    obtain ⟨u, he, hc, hhigh, -⟩ | ⟨high, low, he, hc, hhigh, hlow⟩ := encodeOne_cases ht.1
    · rw [he, List.singleton_append, decode_cons hhigh, hc, ih ht.2]
    · rw [he, List.cons_append, List.singleton_append, decode_cons_cons hhigh hlow, hc, ih ht.2]

/-- The surrogates among the units of a text stand in pairs. -/
theorem paired_encode {t : Text} (ht : t.isWellFormed = true) : Paired (encode t) := by
  induction t with
  | nil => exact paired_nil
  | cons c t ih =>
    simp only [Text.isWellFormed, List.all_cons, Bool.and_eq_true, Bool.not_eq_true'] at ht
    rw [encode, List.flatMap_cons, ← encode]
    obtain ⟨u, he, -, hhigh, hlow⟩ | ⟨high, low, he, -, hhigh, hlow⟩ := encodeOne_cases ht.1
    · rw [he]
      exact (ih ht.2).cons hhigh hlow
    · rw [he]
      exact (ih ht.2).cons_cons hhigh hlow

theorem encode_append (t u : Text) : encode (t ++ u) = encode t ++ encode u := List.flatMap_append

/-- Texts without surrogates are told apart by their units. -/
theorem encode_inj {t u : Text} (ht : t.isWellFormed = true) (hu : u.isWellFormed = true)
    (h : encode t = encode u) : t = u := by
  rw [← decode_encode ht, h, decode_encode hu]

end Courier.Utf16
