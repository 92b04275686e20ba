import Courier.Proofs.Client.Faults
import Courier.Proofs.Client.Report

/-!
# What a send leaves on the wire

A client without a transport of its own posts over the network, so that what it did can be read off
the wire: nothing for a message that is turned down, and one request with the reply of the provider
for any other message that comes to an outcome.

Results:
* `Transport.exists_request_of_exec_deliver`: a post that comes back put one request on the wire.
* `Client.exists_exchanged_of_exec_send`: an outcome reports the exchanges that were made for it.
-/

namespace Courier

variable [Installation]

/-- The exchanges with the provider between two states: the requests that went over the network, and
for each what the reply gave that the provider had next. -/
structure State.Exchanged (s s' : State) (made : List (WireRequest × Delivery)) : Prop where
  wire_eq : s'.wire = s.wire ++ made.map (·.1)
  gives : ∀ e ∈ made, s.nextReply.Gives e.2

theorem State.exchanged_nil {s s' : State} (h : s'.wire = s.wire) : s.Exchanged s' [] := by
  refine ⟨?_, ?_⟩
  · rw [h, List.map_nil, List.append_nil]
  · intro e he
    cases he

/-- A post over the network that comes back put one request on the wire, and came back as what the
next reply gives unless it ended in a fault. -/
theorem Transport.exists_request_of_exec_deliver {id : Nat} {p : Post} {s s' : State} {d : Delivery}
    (h : (deliver id p).exec s = (.ok d, s')) :
    ∃ request, s'.wire = s.wire ++ [request] ∧
      ((∃ fault, d.ending = .failed fault) ∨ s.nextReply.Gives d) := by
  obtain ⟨-, fault, hd⟩ | ⟨-, url, request, -, -, hd⟩ := exec_deliver_cases id p s
  · rw [hd] at h
    cases h
  · rw [hd] at h
    refine ⟨request, ?_, gives_of_exec_receive h⟩
    have hwire := wire_exec_receive id url s.nextReply (s.requested request)
    rw [h] at hwire
    exact hwire

namespace Client

/-- An outcome of a send over the shared transport reports the exchanges that were made for it. -/
theorem exists_exchanged_of_exec_send {c : Client} {m : Message} {verbose : Bool} {s s' : State}
    {r : Outcome} (hc : c.carrier = none) (h : (c.send m verbose).exec s = (.ok r, s')) :
    ∃ made, s.Exchanged s' made ∧ r.Reports verbose (made.map (·.2)) := by
  cases ho : objection? m.body with
  | some reason =>
    rw [exec_send_of_objection? ho] at h
    cases h
    exact ⟨[], State.exchanged_nil rfl, Outcome.reports_rejected reason verbose⟩
  | none =>
    obtain ⟨k, payload, d, s₁, hk, -, hd, hr⟩ := exists_post_of_exec_send ho h
    obtain ⟨id, rfl⟩ : ∃ id, k = .network id := by
      rw [carrierIn, hc] at hk
      cases hs : s.shared with
      | none => simp [hs] at hk
      | some id => exact ⟨id, by simpa [hs] using hk.symm⟩
    obtain ⟨entries, hconclude⟩ := exec_conclude m verbose d s₁
    obtain ⟨hreport, hs'⟩ := Prod.mk.inj (hconclude.symm.trans hr)
    obtain ⟨request, hwire, hended⟩ := Transport.exists_request_of_exec_deliver hd
    obtain ⟨fault, hf⟩ | hgives := hended
    · simp [Delivery.report, hf] at hreport
    · refine ⟨[(request, d)], ⟨?_, ?_⟩, Delivery.reports_of_report hreport⟩
      · rw [← hs']
        exact hwire
      · intro e he
        obtain rfl := List.mem_singleton.mp he
        exact hgives

theorem exists_exchanged_of_exec_sendMessage {c : Client} {recipient sender body : Text}
    {mediaUrl : Option Text} {verbose : Bool} {s s' : State} {r : Outcome} (hc : c.carrier = none)
    (h : (c.sendMessage (.text recipient) (.text sender) (.text body)
      (Value.ofOption .text mediaUrl) verbose).exec s = (.ok r, s')) :
    ∃ made, s.Exchanged s' made ∧ r.Reports verbose (made.map (·.2)) := by
  have hsend := exec_sendMessage c recipient sender (.text body) mediaUrl verbose s
  exact exists_exchanged_of_exec_send hc (hsend.symm.trans h)

end Client

end Courier
