import Courier.Proofs.Gateway.Readings
import Courier.Proofs.Session.Housekeeping

/-!
# The ground of a session

What a program has done to its environment, settings, transports and clients is the ground of its
session. What sends leave behind does not belong to it: the log, the wire, the replies that were
taken, the cookies in them and the posts in memory. Sends do not change the ground, and what other
steps do to it depends on nothing else. So sends can be put anywhere into a session, and the ground
is the same after it.

Results:
* `Session.Step.IsSend.sameGround_next`: a send leaves the ground as it is.
* `Session.sameGround_next`: every step from the same ground leads to the same ground.
* `Session.sameGround_after`: so does a run with sends put into it.
-/

namespace Courier

namespace State

/-- The state without what sends leave behind. -/
def ground (s : State) : State :=
  { s with log := [], wire := [], replies := []
           transports := s.transports.map fun t => { t with cookies := [] }
           recorders := s.recorders.map fun r => { r with posts := [] } }

/-- Two states differ at most in what sends leave behind. -/
def SameGround (s s' : State) : Prop := s.ground = s'.ground

theorem overlooks_ground : Overlooks ground where
  logged _ _ := rfl
  requested _ _ := rfl
  keeping s id site headers := by
    have htransports := map_modify (fun t : Transport => { t with cookies := [] })
      (fun t => { t with cookies := t.cookies.receive s.now site headers }) (fun t => t)
      (fun _ => rfl) s.transports id
    have hself : ∀ items : List Transport, items.modify id (fun t => t) = items :=
      fun items => List.modify_id id items
    simp only [ground, keeping, htransports, hself]
  recorded s id p := by
    have hrecorders := map_modify (fun r : Recorder => { r with posts := [] })
      (fun r => { r with posts := r.posts ++ [p] }) (fun r => r) (fun _ => rfl) s.recorders id
    have hself : ∀ items : List Recorder, items.modify id (fun r => r) = items :=
      fun items => List.modify_id id items
    simp only [ground, recorded, hrecorders, hself]

theorem housekeeping_sameGround : Housekeeping SameGround where
  shared_eq h := (congrArg State.shared h.symm :)
  length_eq {s s'} h := by
    have hlength : ∀ s : State, s.ground.transports.length = s.transports.length :=
      fun s => List.length_map _
    rw [← hlength s, ← hlength s', show s.ground = s'.ground from h]
  clientSettings_eq h := (congrArg State.currentClientSettings h.symm :)
  hasCredentials_eq h :=
    (congrArg (fun s : State => s.currentGatewaySettings.hasCredentials) h.symm :)
  noted h _ _ _ := h
  read h settings := (congrArg (fun s : State => { s with clientSettings := some settings }) h :)
  readGateway h := (congrArg (fun s : State =>
    { s with gatewaySettings := some s.currentGatewaySettings }) h :)
  forgot h := (congrArg (fun s : State =>
    { s with clientSettings := none, gatewaySettings := none }) h :)
  opened {s s'} h limit := by
    have hground : ∀ s : State,
        ground { s with transports := s.transports ++ [⟨limit, true, []⟩] } =
          { s.ground with transports := s.ground.transports ++ [⟨limit, true, []⟩] } :=
      fun s => by simp [ground]
    rw [SameGround, hground, hground, show s.ground = s'.ground from h]
  closed {s s'} h id := by
    have hground : ∀ s : State, ground { s with
          transports := s.transports.modify id fun t => { t with isOpen := false } } =
        { s.ground with
          transports := s.ground.transports.modify id fun t => { t with isOpen := false } } := by
      intro s
      simp only [ground, map_modify (fun t : Transport => { t with cookies := [] })
        (fun t => { t with isOpen := false }) (fun t => { t with isOpen := false }) fun _ => rfl]
    rw [SameGround, hground, hground, show s.ground = s'.ground from h]
  sharing h shared := (congrArg (fun s : State => { s with shared := shared }) h :)

theorem SameGround.isOpen_iff {s s' : State} (h : s.SameGround s') (id : Nat) :
    s'.IsOpen id ↔ s.IsOpen id := by
  have hopen : ∀ s : State, s.ground.IsOpen id ↔ s.IsOpen id := by
    intro s
    simp only [IsOpen, ground, List.getElem?_map, Option.any_map]
  rw [← hopen s, ← hopen s', show s.ground = s'.ground from h]

/-- Transports that keep the same cookies are the same. -/
theorem SameGround.transport_eq {s s' : State} (h : s.SameGround s') {id : Nat}
    (hjar : s'.jarOf id = s.jarOf id) : s'.transports[id]? = s.transports[id]? := by
  have hrest : (s'.transports[id]?).map (fun t => { t with cookies := [] }) =
      (s.transports[id]?).map fun t => { t with cookies := [] } := by
    rw [← List.getElem?_map, ← List.getElem?_map]
    exact (congrArg (fun s : State => s.transports[id]?) h.symm :)
  unfold jarOf at hjar
  cases ht : s.transports[id]? with
  | none =>
    rw [ht, Option.map_none, Option.map_eq_none_iff] at hrest
    exact hrest
  | some t =>
    rw [ht, Option.map_some, Option.map_eq_some_iff] at hrest
    obtain ⟨⟨timeout', isOpen', cookies'⟩, ht', hsame⟩ := hrest
    obtain ⟨timeout, isOpen, cookies⟩ := t
    rw [ht, ht'] at hjar
    cases hsame
    obtain rfl : cookies' = cookies := hjar
    exact ht'

theorem SameGround.delivery_eq {s s' : State} (h : s.SameGround s') (id : Nat) :
    (s'.recorders[id]?).map Recorder.delivery = (s.recorders[id]?).map Recorder.delivery := by
  have hdelivery : ∀ s : State, (s.ground.recorders[id]?).map Recorder.delivery =
      (s.recorders[id]?).map Recorder.delivery := by
    intro s
    simp only [ground, List.getElem?_map, Option.map_map]
    rfl
  rw [← hdelivery s, ← hdelivery s', show s.ground = s'.ground from h]

theorem ground_accounted (s : State) : s.accounted.ground = s.ground.accounted := by
  have hcurrent : s.ground.currentGatewaySettings = s.currentGatewaySettings := rfl
  unfold accounted
  rw [hcurrent]
  cases s.currentGatewaySettings.account? with
  | none => rfl
  | some account => rfl

end State

theorem Gateway.Request.ground_readings [Installation] (r : Request) (s : State) :
    (r.readings s).ground = r.readings s.ground := by
  unfold readings
  cases r.route? with
  | none => rfl
  | some route =>
    cases route with
    | schema | page | pageReturn | health | liveness => rfl
    | messages =>
      cases r.payload with
      | unreadable | malformed reason position => rfl
      | absent | octets bs | value v => exact s.ground_accounted

namespace Session

/-! ## One step -/

/-- Two sessions have the same ground. -/
structure SameGround (ses ses' : Session) : Prop where
  state : ses.state.SameGround ses'.state
  clients : ses.clients = ses'.clients

variable {ses ses' ses'' : Session}

theorem SameGround.trans (h : ses.SameGround ses') (h' : ses'.SameGround ses'') :
    ses.SameGround ses'' :=
  ⟨show ses.state.ground = ses''.state.ground from h.state.trans h'.state,
    h.clients.trans h'.clients⟩

theorem relates_change_sameGround (edit : Environment → Except Environment.Refusal Environment) :
    Run.Relates State.SameGround Eq (change edit) (change edit) := by
  intro s s' hs
  have henvironment : s'.environment = s.environment := (congrArg State.environment hs.symm :)
  rw [exec_change, exec_change, henvironment]
  cases edit s.environment with
  | error reason => exact ⟨.value rfl, hs⟩
  | ok env => exact ⟨.value rfl, (congrArg (fun s : State => { s with environment := env }) hs :)⟩

variable [Installation]

theorem Step.IsSend.sameGround_next {step : Step} (h : step.IsSend) (ses : Session) :
    ses.SameGround (step.next ses) := by
  cases step with
  | send client recipient sender body mediaUrl verbose =>
    refine ⟨?_, (Step.clients_next_of_ne (by simp) ses).symm⟩
    rw [Step.next, Step.run_send]
    cases ses.clients[client]? with
    | none => exact rfl
    | some c => exact (c.keeps_sendMessage State.overlooks_ground _ _ _ _ _ _).symm
  | _ => exact h.elim

/-- What a request does to the ground depends on the ground alone. -/
theorem ground_next_request (r : Gateway.Request) (ses : Session) :
    ((Step.request r).next ses).state.ground = r.readings ses.state.ground := by
  rw [Step.next, Step.run_request, ← r.ground_readings]
  exact Gateway.App.related_handle State.overlooks_ground.overlooksLog
    (fun c _ _ _ _ _ => c.keeps_sendMessage State.overlooks_ground _ _ _ _ _) r ses.state

/-- Calls that come to the same from the same ground make the same clients. -/
theorem sameGround_next_of_relates {step : Step}
    (hstep : ∀ clients, Run.Relates State.SameGround Eq (step.call clients) (step.call clients))
    (h : ses.SameGround ses') : (step.next ses).SameGround (step.next ses') := by
  obtain ⟨s, clients⟩ := ses
  obtain ⟨s', clients'⟩ := ses'
  obtain rfl : clients = clients' := h.clients
  obtain ⟨hagree, hafter⟩ := hstep clients s s' h.state
  exact ⟨hafter, congrArg (clientsAfter clients) hagree.eq⟩

/-- Every step from the same ground leads to the same ground. -/
theorem sameGround_next (step : Step) (h : ses.SameGround ses') :
    (step.next ses).SameGround (step.next ses') := by
  cases step with
  | assign name value => exact sameGround_next_of_relates (fun _ => relates_change_sameGround _) h
  | remove name => exact sameGround_next_of_relates (fun _ => relates_change_sameGround _) h
  | send client recipient sender body mediaUrl verbose =>
    have hsend : (Step.send client recipient sender body mediaUrl verbose).IsSend := trivial
    have hnext := hsend.sameGround_next ses
    exact ⟨hnext.state.symm.trans (h.trans (hsend.sameGround_next ses')).state,
      hnext.clients.symm.trans (h.trans (hsend.sameGround_next ses')).clients⟩
  | request r =>
    refine ⟨?_, ?_⟩
    · rw [State.SameGround, ground_next_request, ground_next_request]
      exact congrArg r.readings h.state
    · rw [Step.clients_next_of_ne (by simp), Step.clients_next_of_ne (by simp), h.clients]
  | _ =>
    refine sameGround_next_of_relates (fun clients => ?_) h
    apply State.housekeeping_sameGround.relates_call
    trivial

/-! ## Sends put into a run -/

/-- The second run is the first with sends put into it. -/
inductive Inserts : List Step → List Step → Prop
  | nil : Inserts [] []
  | step (step : Step) {steps steps' : List Step} (h : Inserts steps steps') :
      Inserts (step :: steps) (step :: steps')
  | send {step : Step} (hs : step.IsSend) {steps steps' : List Step} (h : Inserts steps steps') :
      Inserts steps (step :: steps')

/-- A run with sends put into it leads to the same ground. The induction is on the sends put in. -/
theorem sameGround_after {steps steps' : List Step} (hsteps : Inserts steps steps')
    (h : ses.SameGround ses') : (ses.after steps).SameGround (ses'.after steps') := by
  induction hsteps generalizing ses ses' with
  | nil => exact h
  | step step _ ih => exact ih (sameGround_next step h)
  | send hs _ ih => exact ih (h.trans (hs.sameGround_next ses'))

end Session

end Courier
