import Courier.Proofs.Client.Report
import Courier.Proofs.Client.SideBySide

/-!
# Verbosity is only diagnostic

Whether the text of the provider's answer is wanted decides what is kept of a body, and nothing
else. A send that keeps it posts the same, writes the same records and ends the same way as one that
does not, and one that does not keep it cannot tell one body from another.

Results:
* `Client.relates_conclude_verbose`: what is made of one delivery, with its text and without.
* `Client.conclude_of_unheard`: what is made of two deliveries without their texts.
* `Client.send_diagnostic`: the two ways to send a message, and bodies that are not kept.
-/

namespace Courier

/-- Two outcomes of one end. Their details may differ where there is an answer of the provider. -/
structure Outcome.SameEnd (r r' : Outcome) : Prop where
  ok_eq : r.ok = r'.ok
  failure_eq : r.failure = r'.failure
  status_eq : r.status = r'.status
  detail_eq_of_none : r.status = none → r.detail = r'.detail

theorem Outcome.SameEnd.refl (r : Outcome) : r.SameEnd r := ⟨rfl, rfl, rfl, fun _ => rfl⟩

/-- Two states differ at most in the bodies of the replies to come. -/
def State.Unheard (s s' : State) : Prop := s.SameBodies (fun _ => []) s'

namespace Client

/-! ## With the text of the answer and without -/

theorem relates_conclude_verbose (m : Message) (d : Delivery) :
    Run.Relates Eq Outcome.SameEnd (conclude m true d) (conclude m false d) := by
  unfold conclude
  cases d.ending with
  | failed fault => exact Run.relates_throw fault
  | broken reason => exact (Run.relates_refl _).bind_eq fun _ => Run.relates_pure (.refl _)
  | answered status =>
    dsimp only
    split
    · refine (Run.relates_refl _).bind_eq fun _ => Run.relates_pure ⟨rfl, rfl, rfl, ?_⟩
      intro h
      cases h
    · refine (Run.relates_refl _).bind_eq fun _ => Run.relates_pure ⟨rfl, rfl, rfl, ?_⟩
      intro h
      cases h

section

variable [Installation]

/-- The post of a send was answered with a status. -/
def Completes (c : Client) (m : Message) (s : State) : Prop :=
  ∃ k payload d s₁ status, c.carrierIn s = some k ∧ m.formPayload? = .ok payload ∧
    (k.deliver (c.post payload)).exec (c.announcing m s) = (.ok d, s₁) ∧
    d.ending = .answered status

theorem relates_send_verbose (c : Client) (m : Message) :
    Run.Relates Eq Outcome.SameEnd (c.send m true) (c.send m false) := by
  unfold send
  cases objection? m.body with
  | some reason => exact (Run.relates_refl _).bind_eq fun _ => Run.relates_pure (.refl _)
  | none =>
    refine (Run.relates_refl _).bind_eq fun k => ?_
    refine (Run.relates_refl _).bind_eq fun _ => ?_
    refine (Run.relates_refl _).bind_eq fun payload => ?_
    exact (Run.relates_refl _).bind_eq fun d => relates_conclude_verbose m d

/-- An outcome with a status is that of a post that was answered. -/
theorem completes_of_exec_send {c : Client} {m : Message} {verbose : Bool} {s s' : State}
    {r : Outcome} (h : (c.send m verbose).exec s = (.ok r, s')) (hs : r.status ≠ none) :
    c.Completes m s := by
  cases ho : objection? m.body with
  | some reason =>
    rw [exec_send_of_objection? ho] at h
    cases h
    exact absurd rfl hs
  | none =>
    obtain ⟨k, payload, d, s₁, hk, hp, hd, -, -, hreport⟩ := exists_delivery_of_exec_send ho h
    refine ⟨k, payload, d, s₁, ?_⟩
    unfold Delivery.report at hreport
    cases he : d.ending with
    | failed fault => simp [he] at hreport
    | broken reason =>
      rw [he] at hreport
      cases hreport
      exact absurd rfl hs
    | answered status => exact ⟨status, hk, hp, hd, rfl⟩

end

/-! ## Bodies that are not kept -/

/-- Without the text of the answer, the same is made of any two bodies. -/
theorem conclude_of_unheard {d d' : Delivery}
    (h : d'.mapBody (fun _ => []) = d.mapBody fun _ => []) (m : Message) :
    conclude m false d' = conclude m false d := by
  obtain ⟨chunks, ending⟩ := d
  obtain ⟨chunks', ending'⟩ := d'
  obtain rfl : ending' = ending := congrArg Delivery.ending h
  have hkept : ∀ chunks, ((Sink.new false).writeAll chunks).text = [] := by
    intro chunks
    rw [Sink.text_writeAll]
    rfl
  unfold conclude
  rw [hkept, hkept]

section

variable [Installation]

theorem relates_send_unheard (c : Client) (m : Message) :
    Run.Relates State.Unheard Eq (c.send m false) (c.send m false) :=
  (State.likeness_sameBodies _).relates_send_same (fun _ => rfl) c (fun _ _ _ => trivial) m false
    fun _ _ hd => conclude_of_unheard hd m

/-- **Verbosity is only diagnostic.** A message that is sent with the text of the answer and without
it ends in the same fault, or in two outcomes that differ at most in their details, and in these
only if the post was answered with a status. The states afterwards are the same: the same was
posted, and the same was written to the log. Without the text, two states that differ at most in the
bodies of the replies to come see the send end in the same way, with one detail. -/
theorem send_diagnostic (c : Client) (m : Message) (s : State) :
    (let told := (c.send m true).exec s
      let untold := (c.send m false).exec s
      told.2 = untold.2 ∧
        ((∃ fault, told.1 = .error fault ∧ untold.1 = .error fault) ∨
          ∃ r r', told.1 = .ok r ∧ untold.1 = .ok r' ∧ r.ok = r'.ok ∧ r.failure = r'.failure ∧
            r.status = r'.status ∧ (r.detail ≠ r'.detail → c.Completes m s))) ∧
    ∀ s', s.Unheard s' →
      ((c.send m false).exec s).1 = ((c.send m false).exec s').1 ∧
        ((c.send m false).exec s).2.Unheard ((c.send m false).exec s').2 := by
  constructor
  · obtain ⟨hagree, hafter⟩ := relates_send_verbose c m s s rfl
    refine ⟨hafter, ?_⟩
    obtain hfault | ⟨r, r', hr, hr', hend⟩ := hagree.fault_or_value
    · exact .inl hfault
    · refine .inr ⟨r, r', hr, hr', hend.ok_eq, hend.failure_eq, hend.status_eq, fun hdetail => ?_⟩
      have hrun : (c.send m true).exec s = (.ok r, ((c.send m true).exec s).2) := Prod.ext hr rfl
      exact completes_of_exec_send hrun fun hnone => hdetail (hend.detail_eq_of_none hnone)
  · intro s' hs
    obtain ⟨hagree, hafter⟩ := relates_send_unheard c m s s' hs
    exact ⟨hagree.eq, hafter⟩

end

open scoped Installation in
/-- A message that the provider refuses, with one reason or another in the body of its answer. -/
theorem send_diagnostic_refused :
    let c : Client := ⟨⟨Text.ofString "AC1", Text.ofString "t"⟩, none, .ofEnvironment .empty⟩
    let m : Message := ⟨Text.ofString "+1", Text.ofString "+2", .text (Text.ofString "hi"), none⟩
    let s (body : String) : State := { State.initial 0 .empty .initial with
      transports := [⟨.usual, true, []⟩], shared := some 0
      replies := [.response 400 [] [Utf8.encodeAll (Text.ofString body)] none] }
    (s "no").Unheard (s "never") ∧
      ((c.send m true).exec (s "no")).1 = .ok (.refused 400 (Text.ofString "no")) ∧
      ((c.send m false).exec (s "no")).1 = .ok (.refused 400 []) ∧
      ((c.send m true).exec (s "no")).2 = ((c.send m false).exec (s "no")).2 ∧
      c.Completes m (s "no") ∧
      ((c.send m false).exec (s "never")).1 = .ok (.refused 400 []) := by
  intro c m s
  obtain ⟨s₁, htold⟩ : ∃ s₁, (c.send m true).exec (s "no") =
      (.ok (.refused 400 (Text.ofString "no")), s₁) :=
    Run.exists_exec_of_toOption (by decide +kernel)
  obtain ⟨s₂, huntold⟩ : ∃ s₂, (c.send m false).exec (s "no") = (.ok (.refused 400 []), s₂) :=
    Run.exists_exec_of_toOption (by decide +kernel)
  obtain ⟨⟨hafter, hends⟩, hunheard⟩ := send_diagnostic c m (s "no")
  have hother := (hunheard (s "never") rfl).1
  rw [htold, huntold] at hends
  rw [huntold] at hother
  refine ⟨rfl, congrArg Prod.fst htold, congrArg Prod.fst huntold, hafter, ?_, hother.symm⟩
  obtain ⟨fault, hfault, -⟩ | ⟨r, r', hr, hr', -, -, -, hcompletes⟩ := hends
  · cases hfault
  · cases hr
    cases hr'
    exact hcompletes (by decide)

end Client

end Courier
