import Courier.Message.Body
import Courier.Proofs.Text.Percent
import Courier.Proofs.Text.Utf16

/-!
# What a body stands for

A body given as text and one given as the UTF-8 form of that text stand for the same text. What is
not proper text stands for none.

* `text?_eq_ok_iff`: the text that is read from a body is the one it stands for.
* `percentForm?_of_denotes`: what is sent for a body depends on its text alone.
-/

namespace Courier.Body

/-- The body stands for a text: it is that text, or its UTF-8 form. Only texts without surrogates
are stood for. -/
def Denotes (b : Body) (t : Text) : Prop :=
  t.isWellFormed = true ∧
    match b with
    | .text u => u = t
    | .octets bs => bs = Utf8.encodeAll t

/-- Octets stand for the text that strict decoding reads of them. -/
theorem denotes_octets_iff {bs : Bytes} {t : Text} :
    (octets bs).Denotes t ↔ Utf8.decode? bs = .ok t := by
  rw [Utf8.decode?_eq_ok_iff, Denotes, eq_comm (a := bs)]

theorem text?_eq_ok_iff {b : Body} {t : Text} : b.text? = .ok t ↔ b.Denotes t := by
  cases b with
  | text u =>
    simp only [text?, Denotes]
    cases h : Utf8.encode? u with
    | ok bs =>
      have hu := (Utf8.encode?_eq_ok_iff.mp h).1
      simp only [Except.ok.injEq]
      constructor
      · rintro rfl
        exact ⟨hu, rfl⟩
      · exact fun h => h.2
    | error run =>
      simp only [reduceCtorEq, false_iff]
      rintro ⟨ht, rfl⟩
      rw [Utf8.encode?_eq_ok_iff.mpr ⟨ht, rfl⟩] at h
      cases h
  | octets bs =>
    rw [denotes_octets_iff, text?]
    cases Utf8.decode? bs <;> simp

theorem Denotes.unique {b : Body} {t u : Text} (ht : b.Denotes t) (hu : b.Denotes u) : t = u :=
  Except.ok.inj ((text?_eq_ok_iff.mpr ht).symm.trans (text?_eq_ok_iff.mpr hu))

theorem units?_of_denotes {b : Body} {t : Text} (h : b.Denotes t) :
    b.units? = .ok (Utf16.encode t) := by
  rw [units?, text?_eq_ok_iff.mpr h]
  rfl

/-- A body that has units stands for a text. -/
theorem exists_denotes_of_units? {b : Body} {us : List UInt16} (h : b.units? = .ok us) :
    ∃ t, b.Denotes t ∧ us = Utf16.encode t := by
  rw [units?] at h
  cases ht : b.text? with
  | ok t =>
    rw [ht] at h
    exact ⟨t, text?_eq_ok_iff.mp ht, (Except.ok.inj h).symm⟩
  | error failure =>
    rw [ht] at h
    cases h

theorem units?_eq_error_iff {b : Body} {failure : EncodingFailure} :
    b.units? = .error failure ↔ b.text? = .error failure := by
  rw [units?]
  cases b.text? <;> simp [Except.map]

/-- A body that stands for no text is turned down by the converter. -/
theorem exists_failure_of_not_denotes {b : Body} (h : ¬∃ t, b.Denotes t) :
    ∃ failure, b.units? = .error failure := by
  cases ht : b.text? with
  | ok t => exact absurd ⟨t, text?_eq_ok_iff.mp ht⟩ h
  | error failure => exact ⟨failure, units?_eq_error_iff.mpr ht⟩

theorem percentForm?_of_denotes {b : Body} {t : Text} (h : b.Denotes t) :
    b.percentForm? = .ok (Percent.encode (Utf8.encodeAll t)) := by
  obtain ⟨ht, hb⟩ := h
  cases b with
  | text u =>
    obtain rfl : u = t := hb
    rw [percentForm?, Percent.encodeText?, Utf8.encode?_eq_ok_iff.mpr ⟨ht, rfl⟩]
    rfl
  | octets bs =>
    obtain rfl : bs = Utf8.encodeAll t := hb
    rfl

end Courier.Body
