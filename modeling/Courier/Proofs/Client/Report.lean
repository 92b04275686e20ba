import Courier.Proofs.Client.Send

/-!
# What the outcome of a send reports

The fields of an outcome are set apart from each other at every end of a send. `Outcome.Reports`
says how they go together, for the deliveries of the posts that were made.

Results:
* `Delivery.reports_of_report`: the outcome that is made of a delivery reports it.
* `send_reports`: an outcome of a send reports the posts that were made, of which there is at most
  one.
-/

namespace Courier

/-- An outcome reports the deliveries of the posts that were made for it. -/
structure Outcome.Reports (r : Outcome) (verbose : Bool) (made : List Delivery) : Prop where
  at_most_one : made.length ≤ 1
  validation_iff : r.failure = some .validation ↔ made = []
  ok_iff : r.ok = true ↔
    ∃ d ∈ made, ∃ status, d.ending = .answered status ∧ (status = 200 ∨ status = 201)
  failure_eq_none_iff : r.failure = none ↔ r.ok = true
  provider_iff : r.failure = some .provider ↔
    ∃ d ∈ made, ∃ status, d.ending = .answered status ∧ ¬(status = 200 ∨ status = 201)
  transport_iff : r.failure = some .transport ↔ ∃ d ∈ made, ∃ reason, d.ending = .broken reason
  status_iff : ∀ status, r.status = some status ↔ ∃ d ∈ made, d.ending = .answered status
  detail_of_broken : ∀ d ∈ made, ∀ reason, d.ending = .broken reason → r.detail = reason
  detail_of_answered : ∀ d ∈ made, ∀ status, d.ending = .answered status →
    r.detail = if verbose then Utf8.decodeLossy d.chunks.flatten else []

/-! ## The ends of a send -/

/-- The outcome of a message that is turned down reports that nothing was posted. -/
theorem Outcome.reports_rejected (reason : Text) (verbose : Bool) :
    (Outcome.rejected reason).Reports verbose [] := by
  constructor <;> simp [Outcome.rejected]

theorem Outcome.reports_broken {d : Delivery} {reason : Text} (h : d.ending = .broken reason)
    (verbose : Bool) : (Outcome.broken reason).Reports verbose [d] := by
  constructor <;> simp [Outcome.broken, h]

theorem Outcome.reports_accepted {d : Delivery} {status : Int} (h : d.ending = .answered status)
    (hs : status = 200 ∨ status = 201) (verbose : Bool) :
    (Outcome.accepted status (d.detail verbose)).Reports verbose [d] := by
  constructor
  case provider_iff => simpa [Outcome.accepted, h] using hs.resolve_left
  all_goals simp [Outcome.accepted, Delivery.detail, h, hs]

theorem Outcome.reports_refused {d : Delivery} {status : Int} (h : d.ending = .answered status)
    (hs : ¬(status = 200 ∨ status = 201)) (verbose : Bool) :
    (Outcome.refused status (d.detail verbose)).Reports verbose [d] := by
  constructor
  case provider_iff => simpa [Outcome.refused, h] using hs
  all_goals simp [Outcome.refused, Delivery.detail, h, hs]

/-- The outcome that is made of a delivery reports it. -/
theorem Delivery.reports_of_report {d : Delivery} {verbose : Bool} {r : Outcome}
    (h : d.report verbose = .ok r) : r.Reports verbose [d] := by
  unfold Delivery.report at h
  cases he : d.ending with
  | failed fault => simp [he] at h
  | broken reason =>
    rw [he] at h
    obtain rfl := Except.ok.inj h
    exact Outcome.reports_broken he verbose
  | answered status =>
    rw [he] at h
    obtain rfl := Except.ok.inj h
    by_cases hs : status = 200 ∨ status = 201
    · rw [if_pos hs]
      exact Outcome.reports_accepted he hs verbose
    · rw [if_neg hs]
      exact Outcome.reports_refused he hs verbose

section

variable [Installation]

/-- An exchange over the network breaks off for an error of the request that its reply raises. -/
theorem Outcome.Reports.exists_raises {r : Outcome} {verbose : Bool} {made : List Delivery}
    {s : State} {id : Nat} (hr : r.Reports verbose made)
    (hmade : ∀ d ∈ made, (Carrier.network id).Answers s d) (hf : r.failure = some .transport) :
    ∃ chunks e message, s.nextReply.Raises chunks e message ∧ e.isRequestError = true ∧
      r.detail = e.reason message := by
  obtain ⟨d, hd, reason, hreason⟩ := hr.transport_iff.mp hf
  rw [hr.detail_of_broken d hd reason hreason]
  obtain _ | hgives := hmade d hd
  generalize s.nextReply = reply at hgives ⊢
  cases hgives with
  | answered chunks _ => cases hreason
  | broken hraises he =>
    cases hreason
    exact ⟨_, _, _, hraises, he, rfl⟩

end

/-! ## Sends -/

namespace Client

section

variable [Installation]

/-- A send of a body that is not turned down comes to an outcome by one post and the conclusion from
its delivery. -/
theorem exists_post_of_exec_send {c : Client} {m : Message} {verbose : Bool} {s s' : State}
    {r : Outcome} (ho : objection? m.body = none) (h : (c.send m verbose).exec s = (.ok r, s')) :
    ∃ k payload d s₁, c.carrierIn s = some k ∧ m.formPayload? = .ok payload ∧
      (k.deliver (c.post payload)).exec (c.announcing m s) = (.ok d, s₁) ∧
      (conclude m verbose d).exec s₁ = (.ok r, s') := by
  obtain ⟨t, ht, hw⟩ := objection?_eq_none_iff.mp ho
  obtain ⟨payload, hp, hrun⟩ := exec_send_of_denotes ht hw c verbose s
  rw [hrun] at h
  cases hk : c.carrierIn s with
  | none => simp [hk] at h
  | some k =>
    rw [hk] at h
    obtain ⟨d, s₁, hd, hr⟩ := Run.exec_bind_eq_ok_iff.mp h
    exact ⟨k, payload, d, s₁, rfl, hp, hd, hr⟩

/-- The delivery of that post did not end in a fault. -/
theorem exists_delivery_of_exec_send {c : Client} {m : Message} {verbose : Bool} {s s' : State}
    {r : Outcome} (ho : objection? m.body = none) (h : (c.send m verbose).exec s = (.ok r, s')) :
    ∃ k payload d s₁, c.carrierIn s = some k ∧ m.formPayload? = .ok payload ∧
      (k.deliver (c.post payload)).exec (c.announcing m s) = (.ok d, s₁) ∧
      s'.postCount = s.postCount + 1 ∧ k.Answers s d ∧ d.report verbose = .ok r := by
  obtain ⟨k, payload, d, s₁, hk, hp, hd, hr⟩ := exists_post_of_exec_send ho h
  obtain ⟨entries, hc⟩ := exec_conclude m verbose d s₁
  obtain ⟨hreport, hs'⟩ := Prod.mk.inj (hc.symm.trans hr)
  obtain ⟨hcount, ⟨fault, hf⟩ | hans⟩ := Carrier.answers_of_exec_deliver hd
  · simp [Delivery.report, hf] at hreport
  · rw [announcing, State.postCount_noted] at hcount
    refine ⟨k, payload, d, s₁, hk, hp, hd, ?_, Carrier.answers_noted_iff.mp hans, hreport⟩
    rw [← hs']
    exact hcount

/-- **The outcome of a send.** At most one post is made, over the client's transport, and the
outcome reports its delivery: nothing was posted exactly if the message was turned down; it is a
success exactly if the provider answered 200 or 201; its status and text are those of the answer, or
its text is the reason why the exchange broke off. Over the network that is the message of an error
of the request, or its name where it has none. -/
theorem send_reports {c : Client} {m : Message} {verbose : Bool} {s s' : State} {r : Outcome}
    (h : (c.send m verbose).exec s = (.ok r, s')) :
    ∃ made : List Delivery, s'.postCount = s.postCount + made.length ∧
      (∀ d ∈ made, ∃ k payload s₁, c.carrierIn s = some k ∧ m.formPayload? = .ok payload ∧
        (k.deliver (c.post payload)).exec (c.announcing m s) = (.ok d, s₁) ∧ k.Answers s d) ∧
      r.Reports verbose made ∧
      ∀ id, c.carrierIn s = some (.network id) → r.failure = some .transport →
        ∃ chunks e message, s.nextReply.Raises chunks e message ∧ e.isRequestError = true ∧
          r.detail = if message.isEmpty then Text.ofString e.name else message := by
  cases ho : objection? m.body with
  | some reason =>
    rw [exec_send_of_objection? ho] at h
    cases h
    refine ⟨[], rfl, ?_, Outcome.reports_rejected reason verbose, ?_⟩
    · intro d hd
      cases hd
    · intro id _ hf
      cases hf
  | none =>
    obtain ⟨k, payload, d, s₁, hk, hp, hd, hcount, hans, hreport⟩ :=
      exists_delivery_of_exec_send ho h
    have hreports := Delivery.reports_of_report hreport
    refine ⟨[d], hcount, ?_, hreports, ?_⟩
    · intro d' hd'
      obtain rfl := List.mem_singleton.mp hd'
      exact ⟨k, payload, s₁, hk, hp, hd, hans⟩
    · intro id hid hf
      obtain rfl := Option.some.inj (hid.symm.trans hk)
      have hmade : ∀ d' ∈ [d], (Carrier.network id).Answers s d' := by
        intro d' hd'
        obtain rfl := List.mem_singleton.mp hd'
        exact hans
      exact hreports.exists_raises hmade hf

end

open scoped Installation in
/-- A post over the shared transport to a provider that cannot be reached in time. -/
theorem send_reports_connectTimeout :
    let c : Client := ⟨⟨Text.ofString "AC1", Text.ofString "t"⟩, none, .ofEnvironment .empty⟩
    let m : Message := ⟨Text.ofString "+1", Text.ofString "+2", .text (Text.ofString "hi"), none⟩
    let s : State := { State.initial 0 .empty .initial with
      transports := [⟨.usual, true, []⟩], shared := some 0,
      replies := [.failure .connectTimeout []] }
    let r := Outcome.broken (Text.ofString "ConnectTimeout")
    ∃ s', (c.send m true).exec s = (.ok r, s') ∧
      ∃ made : List Delivery, s'.postCount = s.postCount + made.length ∧ r.Reports true made := by
  intro c m s r
  have hrun : (c.send m true).exec s = (.ok r, ((c.send m true).exec s).2) := Prod.ext rfl rfl
  obtain ⟨made, hcount, -, hreports, -⟩ := send_reports hrun
  exact ⟨_, hrun, made, hcount, hreports⟩

end Client

end Courier
