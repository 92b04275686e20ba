import Courier.Proofs.Client.Send

/-!
# What a send does to a state, and what it leaves alone

A send writes to the log and makes at most one post. So what relates the states before and after
every post relates those before and after every send, if the log does not count. A post puts a
request on the wire for which it takes a reply, and keeps the cookies in that reply, or goes to
memory. Whatever is seen of a state in which none of this shows (`State.Overlooks`) is the same
after a send as before it, however the send ends.

Results:
* `Client.related_sendMessage`: what relates the states before and after a send.
* `Carrier.keeps_deliver`, `Client.keeps_sendMessage`: what a post and a send leave alone.
-/

namespace Courier

/-! ## Before and after -/

/-- The log does not count in what relates the states before and after a call. -/
structure State.OverlooksLog (T : State → State → Prop) : Prop where
  refl : ∀ s, T s s
  before : ∀ {s s' : State} (log : List Log.Entry), T { s with log := log } s' → T s s'
  after : ∀ {s s' : State} (log : List Log.Entry), T s s' → T s { s' with log := log }

/-- What holds between the states before and after every post of a client holds for its sends. -/
theorem Client.related_sendMessage [Installation] {T : State → State → Prop}
    (hT : State.OverlooksLog T) {c : Client}
    (hpost : ∀ (k : Carrier) (payload : Text) (s : State),
      T s ((k.deliver (c.post payload)).exec s).2)
    (recipient sender body mediaUrl : Value) (verbose : Bool) (s : State) :
    T s ((c.sendMessage recipient sender body mediaUrl verbose).exec s).2 := by
  unfold sendMessage
  cases Message.ofValue (.ofFields
      [("to", recipient), ("from_", sender), ("body", body), ("media_url", mediaUrl)]) with
  | invalid issues => exact hT.refl s
  | valid m =>
    show T s ((c.send m verbose).exec s).2
    cases ho : objection? m.body with
    | some reason =>
      rw [exec_send_of_objection? ho]
      exact hT.after _ (hT.refl s)
    | none =>
      obtain ⟨t, ht, hw⟩ := objection?_eq_none_iff.mp ho
      obtain ⟨payload, -, hrun⟩ := exec_send_of_denotes ht hw c verbose s
      rw [hrun]
      cases c.carrierIn s with
      | none => exact hT.refl s
      | some k =>
        dsimp only
        have hdeliver := hT.before _ (hpost k payload (c.announcing m s))
        rcases hd : (k.deliver (c.post payload)).exec (c.announcing m s) with ⟨fault | d, s₁⟩
        · rw [Run.exec_bind_of_error hd]
          rwa [hd] at hdeliver
        · obtain ⟨entries, hconclude⟩ := exec_conclude m verbose d s₁
          rw [Run.exec_bind_of_ok hd, hconclude]
          rw [hd] at hdeliver
          exact hT.after _ hdeliver

/-! ## Left alone -/

variable {γ : Type} {view : State → γ}

/-- Nothing that a send does to a state shows in what is seen of it. -/
structure State.Overlooks (view : State → γ) : Prop where
  logged : ∀ (s : State) (log : List Log.Entry), view { s with log := log } = view s
  requested : ∀ s request, view (State.requested s request) = view s
  keeping : ∀ s id site headers, view (State.keeping s id site headers) = view s
  recorded : ∀ s id p, view (State.recorded s id p) = view s

theorem State.Overlooks.overlooksLog (h : Overlooks view) :
    OverlooksLog fun s s' => view s' = view s where
  refl _ := rfl
  before log hs := hs.trans (h.logged _ log)
  after log hs := (h.logged _ log).trans hs

theorem Run.keeps_log (h : State.Overlooks view) (level : Log.Level) (logger : String)
    (message : Text) : Keeps view (Run.log level logger message) :=
  fun s => h.logged s _

variable [Installation]

theorem Transport.keeps_deliver (h : State.Overlooks view) (id : Nat) (p : Post) :
    Run.Keeps view (deliver id p) := by
  intro s
  obtain ⟨-, fault, hd⟩ | ⟨-, url, request, -, -, hd⟩ := exec_deliver_cases id p s
  · rw [hd]
  · rw [hd]
    obtain hs | ⟨site, headers, hs⟩ := snd_exec_receive id url s.nextReply (s.requested request)
    · rw [hs, h.requested]
    · rw [hs, h.keeping, h.requested]

theorem Carrier.keeps_deliver (h : State.Overlooks view) (k : Carrier) (p : Post) :
    Run.Keeps view (k.deliver p) := by
  cases k with
  | network id => exact Transport.keeps_deliver h id p
  | recorder id =>
    intro s
    rw [Carrier.deliver, Recorder.exec_deliver]
    cases s.recorders[id]? with
    | none => rfl
    | some r => exact h.recorded s id p

theorem Client.keeps_sendMessage (h : State.Overlooks view) (c : Client)
    (recipient sender body mediaUrl : Value) (verbose : Bool) :
    Run.Keeps view (c.sendMessage recipient sender body mediaUrl verbose) :=
  related_sendMessage h.overlooksLog (fun k payload => k.keeps_deliver h (c.post payload)) recipient
    sender body mediaUrl verbose

end Courier
