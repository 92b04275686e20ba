import Courier.Proofs.Message.Body
import Courier.Proofs.Text.WellFormed
import Mathlib.Data.List.Forall2

/-!
# The percent form of a body

The body of a message is written octet by octet, each as a piece of its own that tells which octet
it stands for (`Percent.Writes`). Nothing is lost by that, and text is written as its UTF-8 form is.
Text that has no UTF-8 form has no percent form either; the failure covers the surrogates that stand
side by side with the first one.

Results:
* `Percent.encode_eq_flatten`: the percent form as pieces in a row.
* `Body.percentForm?_lossless`: what the percent form of a body says of it.
* `Utf8.Unencodable.covers_of_encode?`, `Body.percentForm?_text_eq_error_iff`: which part of a text
  has no percent form.
-/

namespace Courier

/-! ## One piece for each octet -/

namespace Percent

/-- The characters that stand for themselves: letters, digits and four marks. -/
def IsPlain (c : CodePoint) : Prop :=
  c.isAsciiLetter = true ∨ c.isAsciiDigit = true ∨ c ∈ Text.ofString "-._~"

/-- The hexadecimal digits with capital letters, each at the place of its value. -/
def hexDigits : Text := Text.ofString "0123456789ABCDEF"

/-- A piece stands for an octet: it is the character of the octet, if that stands for itself, and
else `%` and two digits. -/
inductive Writes (b : UInt8) : Text → Prop
  | plain {c : CodePoint} (hb : c.val = b.toNat) (hc : IsPlain c) : Writes b [c]
  | escaped {high low : CodePoint} (hb : ∀ c : CodePoint, c.val = b.toNat → ¬IsPlain c)
      (hhigh : hexDigits[b.toNat / 16]? = some high) (hlow : hexDigits[b.toNat % 16]? = some low) :
      Writes b [CodePoint.ofChar '%', high, low]

theorem isUnreserved_iff {b : UInt8} {c : CodePoint} (h : c.val = b.toNat) :
    isUnreserved b = true ↔ IsPlain c := by
  have hmarks : c ∈ Text.ofString "-._~" ↔
      b.toNat = 0x2D ∨ b.toNat = 0x2E ∨ b.toNat = 0x5F ∨ b.toNat = 0x7E := by
    rw [show Text.ofString "-._~" = [0x2D, 0x2E, 0x5F, 0x7E] by decide]
    simp only [List.mem_cons, List.not_mem_nil, or_false, Fin.ext_iff, h]
    rfl
  simp only [isUnreserved, IsPlain, CodePoint.isAsciiLetter, CodePoint.isAsciiDigit, hmarks, h,
    Bool.or_eq_true, Bool.and_eq_true, decide_eq_true_eq]
  omega

theorem getElem?_hexDigits : ∀ n < 16, hexDigits[n]? = some (CodePoint.upperHexDigit n) := by
  decide

theorem writes_encodeOctet (b : UInt8) : Writes b (encodeOctet b) := by
  have hlt := b.toNat_lt
  unfold encodeOctet
  split
  next h =>
    have hval : (CodePoint.ofNat b.toNat).val = b.toNat := Utf8.val_ofNat (by omega)
    exact .plain hval ((isUnreserved_iff hval).mp h)
  next h =>
    exact .escaped (fun c hc => (isUnreserved_iff hc).not.mp h)
      (getElem?_hexDigits _ (by omega)) (getElem?_hexDigits _ (by omega))

/-- The percent form is one piece for each octet, in order. -/
theorem encode_eq_flatten (bs : Bytes) :
    ∃ pieces, encode bs = pieces.flatten ∧ List.Forall₂ Writes bs pieces := by
  refine ⟨bs.map encodeOctet, List.flatMap_def, ?_⟩
  rw [List.forall₂_map_right_iff, List.forall₂_same]
  exact fun b _ => writes_encodeOctet b

end Percent

/-- **The percent form is lossless.** Octets have a percent form, which is one piece for each of
them, in order, and which is decoded to them. No other octets have the same form, and octets that
are joined have their forms joined. A text whose UTF-8 form they are has the same percent form. -/
theorem Body.percentForm?_lossless (bs : Bytes) :
    ∃ form, (octets bs).percentForm? = .ok form ∧
      (∃ pieces, form = pieces.flatten ∧ List.Forall₂ Percent.Writes bs pieces) ∧
      Percent.decode form = bs ∧
      (∀ bs' form', (octets bs').percentForm? = .ok form' →
        (form' = form → bs' = bs) ∧ (octets (bs ++ bs')).percentForm? = .ok (form ++ form')) ∧
      ∀ t : Text, (∀ c ∈ t, c.isSurrogate = false) → Utf8.encodeAll t = bs →
        (text t).percentForm? = .ok form := by
  refine ⟨_, rfl, Percent.encode_eq_flatten bs, Percent.decode_encode bs, ?_, ?_⟩
  · intro bs' form' h
    obtain rfl := Except.ok.inj h
    exact ⟨Percent.encode_inj, congrArg Except.ok (Percent.encode_append bs bs')⟩
  · rintro t ht rfl
    exact percentForm?_of_denotes ⟨Text.isWellFormed_iff.mpr ht, rfl⟩

/-- Octets that look like an escape are escaped once more. -/
example : (Body.octets [0x25, 0x34, 0x31, 0x20, 0xFF]).percentForm? =
    .ok (Text.ofString "%2541%20%FF") := by
  decide

/-! ## Text without a percent form -/

/-- A run covers all surrogates that stand side by side with the first one in a text. -/
structure Utf8.Unencodable.Covers (run : Unencodable) (t before part after : Text) : Prop where
  text_eq : t = before ++ part ++ after
  before_plain : ∀ c ∈ before, c.isSurrogate = false
  part_surrogate : ∀ c ∈ part, c.isSurrogate = true
  after_plain : ∀ c ∈ after.head?, c.isSurrogate = false
  start_eq : run.start = before.length
  length_eq : run.length = part.length
  first_eq : part.head? = some run.first

theorem Utf8.Unencodable.covers_of_encode? {t : Text} {run : Unencodable}
    (h : encode? t = .error run) : ∃ before part after, run.Covers t before part after := by
  obtain ⟨before, after, rfl, hbefore, hfirst, hstart, hlength⟩ := exists_surrogate_of_encode? h
  refine ⟨before, run.first :: after.takeWhile CodePoint.isSurrogate,
    after.dropWhile CodePoint.isSurrogate, ?_, Text.isWellFormed_iff.mp hbefore, ?_, ?_, hstart, ?_,
    rfl⟩
  · rw [List.append_assoc, List.cons_append, List.takeWhile_append_dropWhile]
  · rw [List.forall_mem_cons]
    exact ⟨hfirst, fun d hd => List.mem_takeWhile_imp hd⟩
  · intro d hd
    simpa [Option.mem_def.mp hd] using List.head?_dropWhile_not CodePoint.isSurrogate after
  · rw [hlength, List.length_cons, Nat.add_comm]

theorem Body.percentForm?_text_eq_error_iff {t : Text} {run : Utf8.Unencodable} :
    (text t).percentForm? = .error run ↔ Utf8.encode? t = .error run := by
  rw [percentForm?, Percent.encodeText?]
  cases Utf8.encode? t <;> simp [Except.map]

end Courier
