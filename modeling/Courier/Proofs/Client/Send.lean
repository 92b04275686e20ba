import Courier.Client
import Courier.Proofs.Delivery
import Courier.Proofs.Message.Payload

/-!
# The run of a send

A send turns a body down, or posts its payload over one transport and draws a conclusion from the
delivery. Which of the two it does depends on the body alone.

Results:
* `objection?_of_denotes`, `objection?_of_not_denotes`: which bodies are turned down, and why.
* `exec_send_of_objection?`: a body that is turned down, whatever transports there are.
* `exec_send_of_denotes`: a body that is not, where the payload always has a form.
* `exec_conclude`: what is made of a delivery.
-/

namespace Courier

/-! ## What is made of a delivery -/

/-- The text of the provider's answer, if it is wanted. -/
def Delivery.detail (d : Delivery) (verbose : Bool) : Text :=
  if verbose then Utf8.decodeLossy d.chunks.flatten else []

/-- The outcome of a send with a delivery, or the fault it ended in. -/
def Delivery.report (d : Delivery) (verbose : Bool) : Except Fault Outcome :=
  match d.ending with
  | .failed fault => .error fault
  | .broken reason => .ok (.broken reason)
  | .answered status =>
    .ok (if status = 200 ∨ status = 201 then .accepted status (d.detail verbose)
      else .refused status (d.detail verbose))

namespace Client

theorem contains_acceptedStatuses_iff (status : Int) :
    acceptedStatuses.contains status = true ↔ status = 200 ∨ status = 201 := by
  rw [List.contains_iff_mem]
  simp [acceptedStatuses]

/-- Of a delivery its report is made, and only the log is written to. -/
theorem exec_conclude (m : Message) (verbose : Bool) (d : Delivery) (s : State) :
    ∃ entries, (conclude m verbose d).exec s =
      (d.report verbose, { s with log := s.log ++ entries }) := by
  obtain ⟨chunks, ending⟩ := d
  unfold conclude Delivery.report Delivery.detail
  rw [Sink.text_writeAll]
  cases ending with
  | failed fault => exact ⟨[], by simp⟩
  | broken reason => exact ⟨_, rfl⟩
  | answered status =>
    dsimp only
    by_cases h : status = 200 ∨ status = 201
    · rw [if_pos h, if_pos ((contains_acceptedStatuses_iff status).mpr h)]
      exact ⟨_, rfl⟩
    · rw [if_neg h, if_neg (mt (contains_acceptedStatuses_iff status).mp h)]
      exact ⟨_, rfl⟩

/-! ## Bodies that are turned down -/

theorem objection?_of_denotes {b : Body} {t : Text} (h : b.Denotes t) :
    objection? b = if 1600 < Utf16.width t then some (tooLong (Utf16.width t)) else none := by
  rw [objection?, Body.units?_of_denotes h]
  simp only [Utf16.length_encode, maxBodyUnits]

/-- A body that stands for no text is turned down in the words of the converter. -/
theorem objection?_of_not_denotes {b : Body} (h : ¬∃ t, b.Denotes t) :
    ∃ failure, b.units? = .error failure ∧ objection? b = some failure.describe := by
  obtain ⟨failure, hf⟩ := Body.exists_failure_of_not_denotes h
  exact ⟨failure, hf, by rw [objection?, hf]⟩

/-- The bodies that are sent. -/
theorem objection?_eq_none_iff {b : Body} :
    objection? b = none ↔ ∃ t, b.Denotes t ∧ Utf16.width t ≤ 1600 := by
  by_cases h : ∃ t, b.Denotes t
  · obtain ⟨t, ht⟩ := h
    rw [objection?_of_denotes ht]
    constructor
    · intro hw
      refine ⟨t, ht, ?_⟩
      by_contra hlt
      rw [if_pos (by omega)] at hw
      cases hw
    · rintro ⟨u, hu, hw⟩
      obtain rfl := ht.unique hu
      rw [if_neg (by omega)]
  · obtain ⟨failure, -, ho⟩ := objection?_of_not_denotes h
    rw [ho]
    simp only [reduceCtorEq, false_iff]
    rintro ⟨t, ht, -⟩
    exact h ⟨t, ht⟩

/-! ## The steps of a send -/

/-- The transport that a client posts over in a state. -/
def carrierIn (c : Client) (s : State) : Option Carrier := c.carrier <|> s.shared.map .network

/-- What a client posts for a payload. -/
def post (c : Client) (payload : Text) : Post :=
  ⟨c.messagesUrl, payload, c.credentials.sid, c.credentials.token⟩

/-- The state after the record of a message that is turned down. -/
def rejecting (m : Message) (reason : Text) (s : State) : State :=
  s.noted .warning logger
    (Text.ofString "Rejected message to " ++ m.recipient ++ Text.ofString ": " ++ reason)

/-- The state after the record of a message that is about to be posted. -/
def announcing (c : Client) (m : Message) (s : State) : State :=
  s.noted .debug logger
    (Text.ofString "Sending " ++ m.kind.word ++ Text.ofString " to " ++ m.recipient
      ++ Text.ofString " via " ++ c.messagesUrl)

theorem exec_carrierFor (c : Client) (s : State) :
    c.carrierFor.exec s =
      match c.carrierIn s with
      | some k => (.ok k, s)
      | none => (.error .notReady, s) := by
  unfold carrierFor carrierIn
  cases c.carrier with
  | some k => rfl
  | none =>
    rw [map_eq_pure_bind, Transport.shared, bind_assoc, Run.exec_bind_of_ok (Run.exec_get s)]
    cases s.shared <;> rfl

variable [Installation]

theorem exec_send_of_objection? {m : Message} {reason : Text} (h : objection? m.body = some reason)
    (c : Client) (verbose : Bool) (s : State) :
    (c.send m verbose).exec s = (.ok (.rejected reason), rejecting m reason s) := by
  rw [send, h]
  rfl

/-- A body that is sent has a form in the payload, so that all depends on the transport. -/
theorem exec_send_of_denotes {m : Message} {t : Text} (h : m.body.Denotes t)
    (hw : Utf16.width t ≤ 1600) (c : Client) (verbose : Bool) (s : State) :
    ∃ payload, m.formPayload? = .ok payload ∧
      (c.send m verbose).exec s =
        match c.carrierIn s with
        | some k => (k.deliver (c.post payload) >>= conclude m verbose).exec (c.announcing m s)
        | none => (.error .notReady, s) := by
  refine ⟨_, Message.formPayload?_of_denotes h, ?_⟩
  rw [send, objection?_eq_none_iff.mpr ⟨t, h, hw⟩]
  dsimp only
  rw [Run.exec_bind, exec_carrierFor]
  cases c.carrierIn s with
  | none => rfl
  | some k =>
    rw [Message.formPayload?_of_denotes h]
    rfl

end Client

end Courier
