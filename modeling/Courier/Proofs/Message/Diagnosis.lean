import Courier.Proofs.Message.Body
import Courier.Proofs.Text.Grammar

/-!
# What is said of a body that is no text

Octets are no text where they are not UTF-8, and text where a surrogate stands in it. The failure
names the place, and for octets what is wrong there. All of it is said here of the grammar of UTF-8
and of the text, without the decoder.

Results:
* `EncodingFailure.locates_of_decode?`: what a failure says of octets.
* `units?_text_eq_error_iff`: what a failure says of text.
* `failures_exact`: which bodies fail, where, and for which reason.
-/

namespace Courier

/-- The words for two reasons differ. -/
theorem Utf8.Reason.message_inj (r r' : Utf8.Reason) :
    Text.ofString r.message = Text.ofString r'.message ↔ r = r' := by
  cases r <;> cases r' <;> decide

/-- A failure tells of octets where they stop being UTF-8, and its reason is that more octets could
make them so, or that the octet at that place begins no sequence, or else that the sequence it
begins is not gone on with. -/
structure EncodingFailure.Locates (failure : EncodingFailure) (bs : Bytes) (place : Nat) :
    Prop where
  position_eq : failure.position = some (place : Int)
  lt_length : place < bs.length
  isUtf8_take : Utf8.IsUtf8 (bs.take place)
  le_of_isUtf8_take : ∀ n ≤ bs.length, Utf8.IsUtf8 (bs.take n) → n ≤ place
  end_iff : failure.reason = Text.ofString "unexpected end of data" ↔
    ∃ more, Utf8.IsUtf8 (bs ++ more)
  start_iff : failure.reason = Text.ofString "invalid start byte" ↔
    ∃ b, bs[place]? = some b ∧ ∀ rest, ¬Utf8.IsSequence (b :: rest)
  continuation_iff : failure.reason = Text.ofString "invalid continuation byte" ↔
    (¬∃ more, Utf8.IsUtf8 (bs ++ more)) ∧
      ¬∃ b, bs[place]? = some b ∧ ∀ rest, ¬Utf8.IsSequence (b :: rest)

theorem EncodingFailure.locates_of_decode? {bs : Bytes} {fault : Utf8.Undecodable}
    (h : Utf8.decode? bs = .error fault) :
    EncodingFailure.Locates ⟨Text.ofString fault.reason.message, some fault.start⟩ bs
      fault.start := by
  have hrefused := Utf8.Refused.of_decode? h
  constructor
  case position_eq => rfl
  case lt_length => exact hrefused.lt_length
  case isUtf8_take => exact hrefused.isUtf8_take
  case le_of_isUtf8_take => exact hrefused.le_of_isUtf8_take
  case end_iff =>
    rw [← hrefused.unexpectedEnd_iff]
    exact Utf8.Reason.message_inj fault.reason .unexpectedEnd
  case start_iff =>
    rw [← hrefused.invalidStart_iff]
    exact Utf8.Reason.message_inj fault.reason .invalidStart
  case continuation_iff =>
    rw [← hrefused.unexpectedEnd_iff, ← hrefused.invalidStart_iff]
    refine (Utf8.Reason.message_inj fault.reason .invalidContinuation).trans ?_
    cases fault.reason <;> simp

namespace Body

/-- Octets have units exactly when they are UTF-8. -/
theorem exists_units?_octets_iff {bs : Bytes} :
    (∃ us, (octets bs).units? = .ok us) ↔ Utf8.IsUtf8 bs := by
  rw [← Utf8.exists_decode?_eq_ok_iff, units?, text?]
  cases Utf8.decode? bs <;> simp [Except.map]

theorem units?_octets_eq_error_iff {bs : Bytes} {failure : EncodingFailure} :
    (octets bs).units? = .error failure ↔
      ∃ fault : Utf8.Undecodable, Utf8.decode? bs = .error fault ∧
        failure = ⟨Text.ofString fault.reason.message, some fault.start⟩ := by
  rw [units?_eq_error_iff, text?]
  cases Utf8.decode? bs <;> simp [eq_comm]

theorem units?_text_eq_error_iff_run {t : Text} {failure : EncodingFailure} :
    (text t).units? = .error failure ↔
      ∃ run : Utf8.Unencodable, Utf8.encode? t = .error run ∧
        failure = ⟨Text.ofString "surrogates not allowed", some run.start⟩ := by
  rw [units?_eq_error_iff, text?]
  cases Utf8.encode? t <;> simp [eq_comm]

/-- Text fails for the first surrogate in it, whose index is the position. -/
theorem units?_text_eq_error_iff {t : Text} {failure : EncodingFailure} :
    (text t).units? = .error failure ↔
      ∃ (before : Text) (c : CodePoint) (after : Text), t = before ++ c :: after ∧
        before.isWellFormed = true ∧ c.isSurrogate = true ∧
        failure = ⟨Text.ofString "surrogates not allowed", some before.length⟩ := by
  rw [units?_text_eq_error_iff_run]
  constructor
  · rintro ⟨run, hrun, rfl⟩
    obtain ⟨before, after, ht, hbefore, hfirst, hstart, -⟩ := Utf8.exists_surrogate_of_encode? hrun
    exact ⟨before, run.first, after, ht, hbefore, hfirst, by rw [hstart]⟩
  · rintro ⟨before, c, after, rfl, hbefore, hc, rfl⟩
    obtain ⟨run, hrun, hstart⟩ := Utf8.encode?_append_cons hbefore hc after
    exact ⟨run, hrun, by rw [hstart]⟩

/-- **Failures are exact.** Octets have units exactly when they are UTF-8, and else the failure
tells where they stop being so and for which reason. Text fails exactly when a surrogate stands in
it, at the index of the first one. -/
theorem failures_exact (bs : Bytes) (t : Text) :
    ((∃ us, (octets bs).units? = .ok us) ↔ Utf8.IsUtf8 bs) ∧
      (∀ failure, (octets bs).units? = .error failure → ∃ place, failure.Locates bs place) ∧
      ((∃ failure, (text t).units? = .error failure) ↔ ∃ c ∈ t, c.isSurrogate = true) ∧
      ∀ failure, (text t).units? = .error failure →
        ∃ (before : Text) (c : CodePoint) (after : Text), t = before ++ c :: after ∧
          (∀ d ∈ before, d.isSurrogate = false) ∧ c.isSurrogate = true ∧
          failure = ⟨Text.ofString "surrogates not allowed", some before.length⟩ := by
  refine ⟨exists_units?_octets_iff, ?_, ?_, ?_⟩
  · intro failure h
    obtain ⟨fault, hfault, rfl⟩ := units?_octets_eq_error_iff.mp h
    exact ⟨fault.start, EncodingFailure.locates_of_decode? hfault⟩
  · constructor
    · rintro ⟨failure, h⟩
      obtain ⟨before, c, after, rfl, -, hc, -⟩ := units?_text_eq_error_iff.mp h
      exact ⟨c, by simp, hc⟩
    · rintro ⟨c, hmem, hc⟩
      refine exists_failure_of_not_denotes ?_
      rintro ⟨u, hu, rfl⟩
      simp only [Text.isWellFormed, List.all_eq_true] at hu
      simpa [hc] using hu c hmem
  · intro failure h
    obtain ⟨before, c, after, ht, hbefore, hc, hfailure⟩ := units?_text_eq_error_iff.mp h
    exact ⟨before, c, after, ht, by simpa [Text.isWellFormed] using hbefore, hc, hfailure⟩

end Body

end Courier
