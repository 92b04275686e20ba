import Courier.Proofs.Gateway.Submission

/-!
# What a request does to a process

For a request the settings are read that it needs, then one message is sent at most, and the log is
written to. So what relates the states before and after every send relates the state in which the
settings were read and the one after the request, if the log does not count.

Results:
* `Request.readings`: the settings that are read for a request.
* `App.related_handle`: what relates the states before and after a request.
* `App.keeps_holdings_handle`: a request opens and closes no transport.
-/

namespace Courier

/-- The state in which the settings were read that a client of the configured account needs. -/
def State.accounted (s : State) : State :=
  match s.currentGatewaySettings.account? with
  | none => { s with gatewaySettings := some s.currentGatewaySettings }
  | some _ => s.prepared

namespace Gateway

namespace Request

/-- The state in which the settings were read that the content of a message needs. Content that
cannot be read needs none. -/
def Payload.readings (s : State) : Payload → State
  | .unreadable | .malformed _ _ => s
  | .absent | .octets _ | .value _ => s.accounted

variable [Installation]

/-- The state in which the settings were read that a request needs. -/
def readings (r : Request) (s : State) : State :=
  match r.route? with
  | some .health => { s with gatewaySettings := some s.currentGatewaySettings }
  | some .messages => r.payload.readings s
  | none | some .schema | some .page | some .pageReturn | some .liveness => s

/-- For a request no settings are read, or those of the gateway, or all of them. -/
theorem readings_cases (r : Request) (s : State) :
    r.readings s = s ∨ r.readings s = { s with gatewaySettings := some s.currentGatewaySettings } ∨
      r.readings s = s.prepared := by
  have haccounted : s.accounted = { s with gatewaySettings := some s.currentGatewaySettings } ∨
      s.accounted = s.prepared := by
    unfold State.accounted
    cases s.currentGatewaySettings.account? with
    | none => exact .inl rfl
    | some account => exact .inr rfl
  unfold readings
  cases r.route? with
  | none => exact .inl rfl
  | some route =>
    cases route with
    | schema | page | pageReturn | liveness => exact .inl rfl
    | health => exact .inr (.inl rfl)
    | messages =>
      cases r.payload with
      | unreadable | malformed reason position => exact .inl rfl
      | absent | octets bs | value v => exact .inr haccounted

end Request

namespace App

theorem snd_exec_health (s : State) :
    (health.exec s).2 = { s with gatewaySettings := some s.currentGatewaySettings } := by
  unfold health
  rw [Run.exec_bind_of_ok (Run.exec_gatewaySettings s)]
  rfl

theorem related_withClient {T : State → State → Prop} {act : GatewaySettings → Client → Run Result}
    (hact : ∀ settings c s, T s ((act settings c).exec s).2) (hT : State.OverlooksLog T)
    (s : State) : T s.accounted ((withClient act).exec s).2 := by
  unfold State.accounted
  cases haccount : s.currentGatewaySettings.account? with
  | none =>
    rw [exec_withClient_of_none haccount]
    exact hT.refl _
  | some account =>
    rw [exec_withClient_of_some haccount]
    exact hact _ _ _

variable [Installation]

/-- A request that no route takes changes nothing. -/
theorem snd_exec_turnedAway (r : Request) (s : State) : ((turnedAway r).exec s).2 = s := by
  unfold turnedAway
  split
  · rfl
  · cases Route.otherPath? r.path with
    | none => rfl
    | some path =>
      dsimp only
      rw [Run.exec_bind_pure, Run.exec_ofExcept]

/-- An answer is written to the log at most. -/
theorem snd_exec_answerOf (result : Result) (s : State) :
    ∃ log, ((answerOf result).exec s).2 = { s with log := log } := by
  have hwritten : ∀ (resp : Except Fault Response) (s : State), ((written resp).exec s).2 = s := by
    intro resp s
    rw [written, Run.exec_ofExcept]
  cases result with
  | answer r => exact ⟨s.log, hwritten _ s⟩
  | problem p => exact ⟨_, hwritten _ (s.noted .debug logger (Text.ofString "http error"))⟩
  | invalid issues =>
    exact ⟨_, hwritten _ (s.noted .debug logger (Text.ofString "validation error"))⟩

/-- What is done after the work on a request is written to the log at most. -/
theorem snd_exec_handle (r : Request) (s : State) :
    ∃ log, ((handle r).exec s).2 = { ((dispatch r).exec s).2 with log := log } := by
  rw [exec_handle]
  rcases hwork : (dispatch r).exec s with ⟨fault | result, s₁⟩
  · rw [Run.exec_bind_of_error hwork]
    exact ⟨_, rfl⟩
  · rw [Run.exec_bind_of_ok hwork]
    obtain ⟨log, hanswer⟩ := snd_exec_answerOf result s₁
    rcases hrun : (answerOf result).exec s₁ with ⟨fault | resp, s₂⟩
    · rw [hrun] at hanswer
      subst hanswer
      exact ⟨_, rfl⟩
    · rw [hrun] at hanswer
      subst hanswer
      exact ⟨_, rfl⟩

/-- What is done after the work of a route is written to the log at most. -/
theorem snd_exec_handle_at {r : Request} {route : Route} (h : r.Reaches route) (s : State) :
    ∃ log, ((handle r).exec s).2 = { ((work r route).exec s).2 with log := log } :=
  dispatch_of_reaches h ▸ snd_exec_handle r s

variable {T : State → State → Prop}

variable (hT : State.OverlooksLog T)
  (hsend : ∀ (c : Client) recipient sender body mediaUrl verbose s,
    T s ((c.sendMessage recipient sender body mediaUrl verbose).exec s).2)

include hT hsend

theorem related_submit (settings : GatewaySettings) (c : Client) (sub : Submission) (s : State) :
    T s ((submit settings c sub).exec s).2 := by
  unfold submit
  cases senderOf settings sub with
  | none => exact hT.refl s
  | some sender =>
    dsimp only
    rw [Run.exec_bind_pure]
    exact hsend _ _ _ _ _ _ _

theorem related_messages (payload : Request.Payload) (s : State) :
    T (payload.readings s) ((messages payload).exec s).2 := by
  cases payload with
  | unreadable => exact hT.refl s
  | malformed reason position => exact hT.refl s
  | absent => exact related_withClient (fun _ _ => hT.refl) hT s
  | octets bs => exact related_withClient (fun _ _ => hT.refl) hT s
  | value v =>
    refine related_withClient (fun settings c s => ?_) hT s
    cases submissionOf v with
    | invalid issues => exact hT.refl s
    | valid sub => exact related_submit hT hsend settings c sub s

theorem related_dispatch (r : Request) (s : State) :
    T (r.readings s) ((dispatch r).exec s).2 := by
  unfold dispatch Request.readings
  cases r.route? with
  | none =>
    dsimp only
    rw [snd_exec_turnedAway]
    exact hT.refl s
  | some route =>
    cases route with
    | schema | page | pageReturn | liveness => exact hT.refl s
    | health =>
      show T _ (health.exec s).2
      rw [snd_exec_health]
      exact hT.refl _
    | messages => exact related_messages hT hsend r.payload s

/-- **What a request does to a process.** The settings are read that it needs, and what relates the
states before and after every send relates that state and the one after the request. -/
theorem related_handle (r : Request) (s : State) : T (r.readings s) ((handle r).exec s).2 := by
  obtain ⟨log, hanswer⟩ := snd_exec_handle r s
  rw [hanswer]
  exact hT.after log (related_dispatch hT hsend r s)

omit hT hsend

/-- A request to the gateway opens and closes no transport, and does not change which is shared. -/
theorem keeps_holdings_handle (r : Request) : Run.Keeps State.holdings (handle r) := by
  have hreadings : ∀ s, (r.readings s).holdings = s.holdings := by
    intro s
    obtain h | h | h := r.readings_cases s <;>
    exact (congrArg State.holdings h :)
  intro s
  rw [← hreadings s]
  exact related_handle State.overlooks_holdings.overlooksLog
    (fun c _ _ _ _ _ => c.keeps_holdings_sendMessage _ _ _ _ _) r s

end App

end Gateway

end Courier
