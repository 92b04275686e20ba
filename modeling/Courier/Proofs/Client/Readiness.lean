import Courier.Proofs.Client.PostFaults
import Courier.Proofs.Client.Send

/-!
# A missing transport

A client without a transport of its own posts over the shared one. Where that is missing too, a send
says so, but only if the body of its message would be posted. A body that is turned down is turned
down alike whatever transports there are.

Results:
* `failsAsPost_exec_post`: a message that is posted does not miss a transport.
* `send_notReady_iff`: the sends that miss one, and the bodies that need none.
-/

namespace Courier

/-- A delivery is reported, or ends in a fault of its post. -/
theorem Delivery.failsAsPost_report {d : Delivery} (h : d.ending.IsOfPost) (verbose : Bool) :
    FailsAsPost (d.report verbose) := by
  unfold report
  split
  next fault hd =>
    rw [hd] at h
    exact failsAsPost_throw h
  next => exact failsAsPost_pure _
  next => exact failsAsPost_pure _

namespace Client

theorem carrierIn_eq_none_iff {c : Client} {s : State} :
    c.carrierIn s = none ↔ c.carrier = none ∧ s.shared = none := by
  simp [carrierIn]

/-- A transport in memory that a client posts over is its own. -/
theorem isHeld_of_carrierIn {c : Client} {s : State} {k : Carrier}
    (hc : ∀ own, c.carrier = some own → own.IsHeld s) (hk : c.carrierIn s = some k) :
    k.IsHeld s := by
  unfold carrierIn at hk
  cases hown : c.carrier with
  | some own =>
    rw [hown] at hk
    cases hk
    exact hc k hown
  | none =>
    -- what is shared is a transport of the network
    rintro id rfl
    simp [hown] at hk

section

variable [Installation]

theorem failsAsPost_exec_post {s : State} {k : Carrier} (hk : k.IsHeld s) (p : Post) (m : Message)
    (verbose : Bool) : FailsAsPost ((k.deliver p >>= conclude m verbose).exec s).1 := by
  have hdeliver := Carrier.failsAsPost_exec_deliver hk p
  rcases h : (k.deliver p).exec s with ⟨fault | d, s₁⟩
  · rw [h] at hdeliver
    rw [Run.exec_bind_of_error h]
    exact failsAsPost_throw (hdeliver fault rfl)
  · obtain ⟨entries, hreport⟩ := exec_conclude m verbose d s₁
    rw [Run.exec_bind_of_ok h, hreport]
    exact Delivery.failsAsPost_report (k.yields_deliver p s d s₁ h) verbose

/-- A body that would be posted needs a transport. -/
theorem exec_send_of_missing {c : Client} {s : State} (hk : c.carrierIn s = none) {m : Message}
    (hbody : ∃ t, m.body.Denotes t ∧ Utf16.width t ≤ 1600) (verbose : Bool) :
    (c.send m verbose).exec s = (.error .notReady, s) := by
  obtain ⟨t, ht, hw⟩ := hbody
  obtain ⟨payload, -, hrun⟩ := exec_send_of_denotes ht hw c verbose s
  rw [hrun, hk]

/-- A send that misses a transport has none, and a body that would be posted. -/
theorem missing_of_exec_send {c : Client} {s : State}
    (hc : ∀ own, c.carrier = some own → own.IsHeld s) {m : Message} {verbose : Bool}
    (h : ((c.send m verbose).exec s).1 = .error .notReady) :
    c.carrierIn s = none ∧ ∃ t, m.body.Denotes t ∧ Utf16.width t ≤ 1600 := by
  cases ho : objection? m.body with
  | some reason =>
    rw [exec_send_of_objection? ho] at h
    cases h
  | none =>
    have hbody := objection?_eq_none_iff.mp ho
    refine ⟨?_, hbody⟩
    obtain ⟨t, ht, hw⟩ := hbody
    obtain ⟨payload, -, hrun⟩ := exec_send_of_denotes ht hw c verbose s
    rw [hrun] at h
    cases hk : c.carrierIn s with
    | none => rfl
    | some k =>
      rw [hk] at h
      have hheld : k.IsHeld (c.announcing m s) := isHeld_of_carrierIn hc hk
      exact absurd h (failsAsPost_exec_post hheld (c.post payload) m verbose).ne_notReady

/-- **A missing transport is reported where it matters.** A send says that there is no transport
exactly if the client has none of its own, none is shared, and the body stands for a text of at most
1600 units; nothing is posted then, and the state stays as it was. Any other body is turned down
with one result and one record, whichever client sends it and whatever transports there are, open or
closed. A client's own transport, if it is one in memory, is taken to be among those of the state.
-/
theorem send_notReady_iff (c : Client) (m : Message) (verbose : Bool) (s : State)
    (hc : ∀ own, c.carrier = some own → own.IsHeld s) :
    (((c.send m verbose).exec s).1 = .error .notReady ↔
      c.carrier = none ∧ s.shared = none ∧
        ∃ t, m.body.Denotes t ∧ (Utf16.encode t).length ≤ 1600) ∧
    (((c.send m verbose).exec s).1 = .error .notReady →
      (c.send m verbose).exec s = (.error .notReady, s)) ∧
    ((¬∃ t, m.body.Denotes t ∧ (Utf16.encode t).length ≤ 1600) →
      ∃ reason, ∀ (c' : Client) (verbose' : Bool) (s' : State),
        (c'.send m verbose').exec s' =
          (.ok ⟨false, reason, some .validation, none⟩,
            s'.noted .warning logger (Text.ofString "Rejected message to " ++ m.recipient
              ++ Text.ofString ": " ++ reason))) := by
  simp only [Utf16.length_encode]
  refine ⟨⟨fun h => ?_, ?_⟩, fun h => ?_, fun hbody => ?_⟩
  · obtain ⟨hk, hbody⟩ := missing_of_exec_send hc h
    obtain ⟨hown, hshared⟩ := carrierIn_eq_none_iff.mp hk
    exact ⟨hown, hshared, hbody⟩
  · rintro ⟨hown, hshared, hbody⟩
    rw [exec_send_of_missing (carrierIn_eq_none_iff.mpr ⟨hown, hshared⟩) hbody]
  · obtain ⟨hk, hbody⟩ := missing_of_exec_send hc h
    exact exec_send_of_missing hk hbody verbose
  · obtain ⟨reason, ho⟩ := Option.ne_none_iff_exists'.mp (objection?_eq_none_iff.not.mpr hbody)
    exact ⟨reason, exec_send_of_objection? ho⟩

end

open scoped Installation in
/-- With no shared transport, a client without one of its own misses it, and a client with one in
memory does not. -/
theorem send_notReady_iff_ownOrNone :
    let c (own : Option Carrier) : Client :=
      ⟨⟨Text.ofString "AC1", Text.ofString "t"⟩, own, .ofEnvironment .empty⟩
    let m : Message := ⟨Text.ofString "+1", Text.ofString "+2", .text (Text.ofString "hi"), none⟩
    let s : State := { State.initial 0 .empty .initial with recorders := [⟨[], .ok 201, []⟩] }
    (Carrier.recorder 0).IsHeld s ∧ ((c none).send m false).exec s = (.error .notReady, s) ∧
      (((c (some (.recorder 0))).send m false).exec s).1 ≠ .error .notReady := by
  intro c m s
  have hheld : (Carrier.recorder 0).IsHeld s := by
    rintro id ⟨⟩
    exact ⟨_, rfl⟩
  have hbody : ∃ t, m.body.Denotes t ∧ (Utf16.encode t).length ≤ 1600 :=
    ⟨Text.ofString "hi", ⟨by decide, rfl⟩, by decide⟩
  obtain ⟨hmissing, hstate, -⟩ := send_notReady_iff (c none) m false s (by simp [c])
  obtain ⟨hown, -, -⟩ := send_notReady_iff (c (some (.recorder 0))) m false s
    fun own h => Option.some.inj h ▸ hheld
  refine ⟨hheld, hstate (hmissing.mpr ⟨rfl, rfl, hbody⟩), fun h => ?_⟩
  cases (hown.mp h).1

end Client

end Courier
