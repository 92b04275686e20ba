import Courier.Proofs.Client.Send
import Courier.Proofs.Message.Diagnosis
import Courier.Proofs.Message.PercentForm

/-!
# Only text with octets is encoded

A body is looked at twice. First its units are counted, which fails at the first surrogate; later
its percent form is made, which fails for all the surrogates that stand there side by side. Both
fail for the same bodies, so the first look shields the second: a send never gets to encode a body
that has no percent form.

Results:
* `Body.exists_percentForm?_error_iff`: the texts for which the two looks fail.
* `Body.position_of_percentForm?`: the place at which both do.
* `Client.send_shields_encoding`: the two looks compared, and what a send does after the first.
-/

namespace Courier

namespace Body

theorem exists_percentForm?_error_iff {t : Text} :
    (∃ run, (text t).percentForm? = .error run) ↔ ∃ failure, (text t).units? = .error failure := by
  simp only [percentForm?_text_eq_error_iff, units?_text_eq_error_iff_run]
  constructor
  · rintro ⟨run, h⟩
    exact ⟨_, run, h, rfl⟩
  · rintro ⟨failure, run, h, -⟩
    exact ⟨run, h⟩

theorem position_of_percentForm? {t : Text} {run : Utf8.Unencodable} {failure : EncodingFailure}
    (hrun : (text t).percentForm? = .error run) (hfailure : (text t).units? = .error failure) :
    failure.position = some (run.start : Int) := by
  obtain ⟨run', hrun', rfl⟩ := units?_text_eq_error_iff_run.mp hfailure
  rw [percentForm?_text_eq_error_iff.mp hrun] at hrun'
  obtain rfl := Except.error.inj hrun'
  rfl

end Body

namespace Client

variable [Installation]

/-- **Encoding is shielded.** The percent form of a text fails exactly if the conversion to units
does. Both fail at one position, and the percent form for all surrogates that stand side by side
from there on; for octets it never fails. A send turns its message down, or the body has a percent
form and with it the message a payload, before anything depends on the transport. -/
theorem send_shields_encoding (t : Text) (bs : Bytes) (c : Client) (m : Message) (verbose : Bool)
    (s : State) :
    ((∃ run, (Body.text t).percentForm? = .error run) ↔
      ∃ failure, (Body.text t).units? = .error failure) ∧
    (∀ run failure, (Body.text t).percentForm? = .error run →
      (Body.text t).units? = .error failure →
      failure.position = some (run.start : Int) ∧
        ∃ before part after, run.Covers t before part after) ∧
    (∃ form, (Body.octets bs).percentForm? = .ok form) ∧
    ((∃ reason, (c.send m verbose).exec s = (.ok (.rejected reason), rejecting m reason s)) ∨
      ∃ form payload, m.body.percentForm? = .ok form ∧ m.formPayload? = .ok payload ∧
        (c.send m verbose).exec s =
          match c.carrierIn s with
          | some k => (k.deliver (c.post payload) >>= conclude m verbose).exec (c.announcing m s)
          | none => (.error .notReady, s)) := by
  refine ⟨Body.exists_percentForm?_error_iff, fun run failure hrun hfailure => ?_, ⟨_, rfl⟩, ?_⟩
  · have hencode := Body.percentForm?_text_eq_error_iff.mp hrun
    exact ⟨Body.position_of_percentForm? hrun hfailure, Utf8.Unencodable.covers_of_encode? hencode⟩
  · cases ho : objection? m.body with
    | some reason => exact .inl ⟨reason, exec_send_of_objection? ho c verbose s⟩
    | none =>
      obtain ⟨u, hu, hw⟩ := objection?_eq_none_iff.mp ho
      obtain ⟨payload, hp, hrun⟩ := exec_send_of_denotes hu hw c verbose s
      exact .inr ⟨_, payload, Body.percentForm?_of_denotes hu, hp, hrun⟩

end Client

end Courier
