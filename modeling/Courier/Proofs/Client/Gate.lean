import Courier.Proofs.Client.Send

/-!
# Which messages reach a transport

The body of a message decides alone whether its send reaches a transport. It has to be proper text,
which is looked at first, and of at most 1600 units. A send that does not reach a transport leaves
nothing behind but the record of the rejection, and does not look for a transport either.

Results:
* `reaches_iff`: the bodies whose send reaches the client's transport.
* `send_gate`: what becomes of every body, sent or turned down.
-/

namespace Courier.Client

/-- The reason that names the limit and the number of units. -/
theorem tooLong_eq (units : Nat) :
    tooLong units =
      Text.ofString "Message body must have 1600 or fewer characters. Cannot send message with "
        ++ Text.ofNat units ++ Text.ofString " characters." := by
  have hlimit : Text.ofString "Message body must have " ++ Text.ofNat maxBodyUnits
      ++ Text.ofString " or fewer characters. Cannot send message with " =
        Text.ofString
          "Message body must have 1600 or fewer characters. Cannot send message with " := by
    decide +kernel
  rw [tooLong, hlimit]

variable [Installation]

/-- A send reaches a transport: after the record that says so, it is the post of the message's
payload over that transport and what is made of its delivery. -/
def Reaches (c : Client) (m : Message) (verbose : Bool) (s : State) (k : Carrier) : Prop :=
  ∃ payload, m.formPayload? = .ok payload ∧
    (c.send m verbose).exec s =
      (k.deliver (c.post payload) >>= conclude m verbose).exec (c.announcing m s)

/-- A post and what is made of it only add to the log. -/
theorem exists_log_of_exec_post (k : Carrier) (p : Post) (m : Message) (verbose : Bool)
    (s : State) :
    ∃ entries, ((k.deliver p >>= conclude m verbose).exec s).2.log = s.log ++ entries := by
  have hlog := k.log_of_exec_deliver p s
  rcases h : (k.deliver p).exec s with ⟨fault | d, s₁⟩
  · rw [Run.exec_bind_of_error h]
    rw [h] at hlog
    exact ⟨[], by simpa using hlog⟩
  · rw [Run.exec_bind_of_ok h]
    rw [h] at hlog
    obtain ⟨entries, hc⟩ := exec_conclude m verbose d s₁
    exact ⟨entries, by rw [hc, ← show s₁.log = s.log from hlog]⟩

/-- A message that is turned down reaches no transport: its first record is another one than that
of a message about to be posted. -/
theorem not_reaches_of_objection? {m : Message} {reason : Text}
    (h : objection? m.body = some reason) (c : Client) (verbose : Bool) (s : State) (k : Carrier) :
    ¬c.Reaches m verbose s k := by
  rintro ⟨payload, -, hrun⟩
  rw [exec_send_of_objection? h] at hrun
  obtain ⟨entries, hlog⟩ :=
    exists_log_of_exec_post k (c.post payload) m verbose (c.announcing m s)
  rw [← hrun] at hlog
  simp only [rejecting, announcing, State.noted, List.append_assoc, List.append_cancel_left_eq,
    List.singleton_append, List.cons.injEq, Log.Entry.mk.injEq] at hlog
  exact absurd hlog.1.1 (by decide)

theorem reaches_iff {c : Client} {s : State} {k : Carrier} (hk : c.carrierIn s = some k)
    (m : Message) (verbose : Bool) :
    c.Reaches m verbose s k ↔ ∃ t, m.body.Denotes t ∧ Utf16.width t ≤ 1600 := by
  constructor
  · intro h
    rw [← objection?_eq_none_iff]
    cases ho : objection? m.body with
    | none => rfl
    | some reason => exact absurd h (not_reaches_of_objection? ho c verbose s k)
  · rintro ⟨t, ht, hw⟩
    obtain ⟨payload, hp, hrun⟩ := exec_send_of_denotes ht hw c verbose s
    rw [hk] at hrun
    exact ⟨payload, hp, hrun⟩

/-- **The gate is exact.** A send reaches the client's transport exactly if the body stands for a
text of at most 1600 units, where characters beyond U+FFFF count twice. A longer text is turned down
with the limit and its number of units, and a body that stands for no text in the words of the
converter. In both cases there need be no transport, and nothing is posted: the state only has the
record of the rejection more. -/
theorem send_gate (c : Client) (m : Message) (verbose : Bool) (s : State) :
    (∀ k, c.carrierIn s = some k →
      (c.Reaches m verbose s k ↔
        ∃ t, m.body.Denotes t ∧ t.length + t.countP (fun x => 0xFFFF < x.val) ≤ 1600)) ∧
    (∀ t, m.body.Denotes t → 1600 < t.length + t.countP (fun x => 0xFFFF < x.val) →
      let reason :=
        Text.ofString "Message body must have 1600 or fewer characters. Cannot send message with "
          ++ Text.ofNat (t.length + t.countP fun x => 0xFFFF < x.val)
          ++ Text.ofString " characters."
      (c.send m verbose).exec s =
        (.ok ⟨false, reason, some .validation, none⟩, rejecting m reason s)) ∧
    ((¬∃ t, m.body.Denotes t) →
      ∃ failure, m.body.units? = .error failure ∧
        (c.send m verbose).exec s =
          (.ok ⟨false, failure.describe, some .validation, none⟩,
            rejecting m failure.describe s)) := by
  refine ⟨fun k hk => reaches_iff hk m verbose, ?_, ?_⟩
  · intro t ht hw reason
    have ho : objection? m.body = some reason := by
      rw [objection?_of_denotes ht, if_pos (show 1600 < Utf16.width t from hw), tooLong_eq]
      rfl
    exact exec_send_of_objection? ho c verbose s
  · intro hb
    obtain ⟨failure, hf, ho⟩ := objection?_of_not_denotes hb
    exact ⟨failure, hf, exec_send_of_objection? ho c verbose s⟩

end Courier.Client
