import Courier.Proofs.Text.Utf8
import Courier.Proofs.Text.WellFormed
import Courier.Text.Percent
import Mathlib.Tactic.IntervalCases

/-!
# Percent encoding loses nothing

Every octet is written as a piece of its own, and decoding reads each piece as that octet, whatever
comes after it. The pieces are made of `%` and of characters that need no escape, so no delimiter
of a form stands in them.

Results:
* `decode_encode`: decoding gives the octets back.
* `eq_percent_or_unreserved_of_mem_encode`: the characters of an encoded text, which are no
  surrogates (`isWellFormed_encode`) and no delimiters (`amp_not_mem_encode`).
-/

namespace Courier.Percent

/-! ## Hexadecimal digits -/

theorem hexValue?_upperHexDigit :
    ∀ n < 16, (CodePoint.upperHexDigit n).hexValue? = some n := by
  decide

/-- A hexadecimal digit stands for itself in an encoded text. -/
theorem exists_unreserved_upperHexDigit :
    ∀ n < 16, ∃ b : UInt8, isUnreserved b = true ∧
      CodePoint.upperHexDigit n = CodePoint.ofNat b.toNat := by
  intro n hn
  refine ⟨(if n < 10 then 0x30 + n else 0x37 + n).toUInt8, ?_⟩
  interval_cases n <;> decide

/-! ## Decoding piece by piece -/

theorem decode_cons_of_ne {c : CodePoint} (hc : c ≠ CodePoint.ofChar '%') (rest : Text) :
    decode (c :: rest) = Utf8.encodeOne c ++ decode rest := by
  match rest with
  | [] => simp [decode]
  | [d] => simp [decode]
  | d :: e :: rest => rw [decode, if_neg hc]

theorem lt_of_isUnreserved {b : UInt8} (h : isUnreserved b = true) :
    b.toNat < 0x80 ∧ b.toNat ≠ 0x25 ∧ b.toNat ≠ 0x26 ∧ b.toNat ≠ 0x3D := by
  simp only [isUnreserved, Bool.or_eq_true, Bool.and_eq_true, decide_eq_true_eq] at h
  omega

theorem ofNat_ne_of_toNat_ne {b : UInt8} {c : CodePoint} (h : b.toNat ≠ c.val) :
    CodePoint.ofNat b.toNat ≠ c := by
  intro he
  have hb := b.toNat_lt
  rw [← he, Utf8.val_ofNat (by omega)] at h
  exact h rfl

theorem decode_encodeOctet (b : UInt8) (rest : Text) :
    decode (encodeOctet b ++ rest) = b :: decode rest := by
  have hb := b.toNat_lt
  unfold encodeOctet
  split
  next h =>
    obtain ⟨hlt, hne, -⟩ := lt_of_isUnreserved h
    rw [List.singleton_append, decode_cons_of_ne (ofNat_ne_of_toNat_ne hne),
      (Utf8.encodeOne_one hlt).2]
    rfl
  next =>
    have hhigh := hexValue?_upperHexDigit (b.toNat / 16) (by omega)
    have hlow := hexValue?_upperHexDigit (b.toNat % 16) (by omega)
    simp only [escape, List.cons_append, List.nil_append, decode, hhigh, hlow, if_true]
    rw [(Utf8.toUInt8_eq_iff (b := b) (by omega)).mpr (by omega)]

/-- Decoding undoes encoding, whatever comes after the encoded octets. -/
theorem decode_encode_append (bs : Bytes) (rest : Text) :
    decode (encode bs ++ rest) = bs ++ decode rest := by
  induction bs with
  | nil => rfl
  | cons b bs ih =>
    rw [encode, List.flatMap_cons, ← encode, List.append_assoc, decode_encodeOctet, ih]
    rfl

theorem decode_encode (bs : Bytes) : decode (encode bs) = bs := by
  simpa [decode] using decode_encode_append bs []

theorem encode_inj {bs bs' : Bytes} (h : encode bs = encode bs') : bs = bs' := by
  rw [← decode_encode bs, h, decode_encode]

theorem encode_append (bs bs' : Bytes) : encode (bs ++ bs') = encode bs ++ encode bs' :=
  List.flatMap_append

/-! ## What stands in an encoded text -/

/-- An encoded text is made of `%` and of characters that need no escape. -/
theorem eq_percent_or_unreserved_of_mem_encode {bs : Bytes} {c : CodePoint} (h : c ∈ encode bs) :
    c = CodePoint.ofChar '%' ∨ ∃ b, isUnreserved b = true ∧ c = CodePoint.ofNat b.toNat := by
  obtain ⟨b, -, hc⟩ := List.mem_flatMap.mp h
  have hb := b.toNat_lt
  unfold encodeOctet at hc
  split at hc
  next hu =>
    obtain rfl := List.mem_singleton.mp hc
    exact .inr ⟨b, hu, rfl⟩
  next =>
    simp only [escape, List.mem_cons, List.not_mem_nil, or_false] at hc
    obtain rfl | rfl | rfl := hc
    · exact .inl rfl
    · exact .inr (exists_unreserved_upperHexDigit _ (by omega))
    · exact .inr (exists_unreserved_upperHexDigit _ (by omega))

theorem isWellFormed_encode (bs : Bytes) : (encode bs).isWellFormed = true := by
  rw [Text.isWellFormed_iff]
  intro c hc
  obtain rfl | ⟨b, hb, rfl⟩ := eq_percent_or_unreserved_of_mem_encode hc
  · decide
  · have hlt := (lt_of_isUnreserved hb).1
    have hval := Utf8.val_ofNat (n := b.toNat) (by omega)
    exact (Utf8.isSurrogate_eq_false_iff (CodePoint.ofNat b.toNat)).mpr (by omega)

theorem amp_not_mem_encode (bs : Bytes) : CodePoint.ofChar '&' ∉ encode bs := by
  intro h
  obtain h | ⟨b, hb, h⟩ := eq_percent_or_unreserved_of_mem_encode h
  · exact absurd h (by decide)
  · exact ofNat_ne_of_toNat_ne (lt_of_isUnreserved hb).2.2.1 h.symm

end Courier.Percent
