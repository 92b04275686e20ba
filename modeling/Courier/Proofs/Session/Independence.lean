import Courier.Proofs.Client.Call
import Courier.Proofs.Session.Cookies
import Courier.Proofs.Session.Ground
import Courier.Proofs.Session.Reading

/-!
# Clients are fixed and independent

A client gets its credentials, its transport and its settings from the step that makes it, and no
later step changes them: neither what is assigned to the environment, nor forgetting settings, nor
opening and closing transports, nor what other clients send. All its posts carry them. Sends that
are put before one of its own make a difference only through the cookies that the transport has kept
of their replies.

Results:
* `makesClient_of_getElem?`: where a client of a session comes from.
* `postsOnce_next`: what a send posts.
* `alongside_next`, `exists_wire_next`: what a send does after two runs that lead to the same
  ground, with the same cookies and with others.
* `clients_independent`: the clients of every session.
-/

namespace Courier

namespace Client

/-- The transport of the network that a client posts over in a state has kept the same cookies in
another. -/
def SameCookies (c : Client) (s s' : State) : Prop :=
  ∀ id, c.carrierIn s = some (.network id) → s'.jarOf id = s.jarOf id

/-- A client that was made has the credentials, the transport and the settings that were given, or
else the settings that are held then. -/
theorem of_exec_new {sid token : Value} {carrier : Option Carrier}
    {settings : Option ClientSettings} {s s' : State} {c : Client}
    (h : (Client.new sid token carrier settings).exec s = (.ok c, s')) :
    Credentials.ofValue (.ofFields [("account_sid", sid), ("auth_token", token)]) =
        .valid c.credentials ∧
      c.carrier = carrier ∧ c.settings = settings.getD s.currentClientSettings := by
  unfold Client.new at h
  cases hc : Credentials.ofValue (.ofFields [("account_sid", sid), ("auth_token", token)]) with
  | invalid issues =>
    rw [hc] at h
    cases h
  | valid credentials =>
    rw [hc] at h
    cases settings with
    | some own =>
      cases h
      exact ⟨rfl, rfl, rfl⟩
    | none =>
      obtain ⟨own, s₁, hown, hdone⟩ := Run.exec_bind_eq_ok_iff.mp
        (show (Run.clientSettings >>= fun own => pure (Client.mk credentials carrier own)).exec s =
          (.ok c, s') from h)
      rw [Run.exec_clientSettings] at hown
      cases hown
      cases hdone
      exact ⟨rfl, rfl, rfl⟩

end Client

namespace Session

/-! ## Where clients come from -/

section

variable [Installation]

/-- The client at a place was made by a step: of the credentials, the transport and the settings
given, or else of the settings that the environment had at the first reading since they were last
forgotten. -/
def MakesClient (ses : Session) (steps : List Step) (i : Nat) (c : Client) : Prop :=
  ∃ pre sid token settings post,
    steps = pre ++ .makeClient sid token c.carrier settings :: post ∧
    (ses.after pre).clients.length = i ∧
    Credentials.ofValue (.ofFields [("account_sid", sid), ("auth_token", token)]) =
      .valid c.credentials ∧
    match settings with
    | some own => c.settings = own
    | none => ∃ first,
        ses.FirstReading (pre ++ [.makeClient sid token c.carrier none]) first ∧
        c.settings = .ofEnvironment (ses.after first).state.environment

theorem MakesClient.concat {ses : Session} {steps : List Step} {i : Nat} {c : Client}
    (h : ses.MakesClient steps i c) (step : Step) : ses.MakesClient (steps ++ [step]) i c := by
  obtain ⟨pre, sid, token, settings, post, rfl, hrest⟩ := h
  exact ⟨pre, sid, token, settings, post ++ [step], by simp, hrest⟩

theorem makesClient_of_run {ses : Session} (hs : ses.state.clientSettings = none)
    {steps : List Step} {sid token : Value} {carrier : Option Carrier}
    {settings : Option ClientSettings} {c : Client}
    (h : ((Step.makeClient sid token carrier settings).run (ses.after steps)).1 =
      .ok (.client c)) :
    ses.MakesClient (steps ++ [.makeClient sid token carrier settings])
      (ses.after steps).clients.length c := by
  obtain ⟨made, s₁, hmade, hdone⟩ := Run.exec_bind_eq_ok_iff.mp
    (show (Step.call _ (.makeClient sid token carrier settings)).exec _ = (.ok (.client c), _) from
      Prod.ext h rfl)
  cases hdone
  obtain ⟨hcredentials, hcarrier, hsettings⟩ := Client.of_exec_new hmade
  subst hcarrier
  refine ⟨steps, sid, token, settings, [], rfl, rfl, hcredentials, ?_⟩
  cases settings with
  | some own => exact hsettings
  | none =>
    have hreads : (Step.makeClient sid token c.carrier none).Reads (ses.after steps) :=
      ⟨rfl, c.credentials, hcredentials⟩
    obtain ⟨first, hfirst, hfrom⟩ := exists_firstReading hs hreads
    exact ⟨first, hfirst, hsettings.trans hfrom⟩

/-- Every client of a session was made in it. The induction is on the steps, from the last one. -/
theorem makesClient_of_getElem? {ses : Session} (hs : ses.state.clientSettings = none)
    (hc : ses.clients = []) {steps : List Step} {i : Nat} {c : Client}
    (h : (ses.after steps).clients[i]? = some c) : ses.MakesClient steps i c := by
  induction steps using List.reverseRecOn with
  | nil =>
    have hnone : ses.clients[i]? = some c := h
    simp [hc] at hnone
  | append_singleton steps step ih =>
    rw [after_concat] at h
    obtain hkept | ⟨sid, token, carrier, settings, made, rfl, hrun, hadded⟩ :=
      clients_next (ses.after steps) step
    · rw [hkept] at h
      exact (ih h).concat step
    · rw [hadded] at h
      by_cases hi : i < (ses.after steps).clients.length
      · rw [List.getElem?_append_left hi] at h
        exact (ih h).concat _
      · rw [List.getElem?_append_right (by omega)] at h
        obtain ⟨hlast, hmade⟩ := List.getElem?_eq_some_iff.mp h
        have hindex : i = (ses.after steps).clients.length := by
          simp only [List.length_singleton] at hlast
          omega
        subst hindex
        obtain rfl : made = c := by simpa using hmade
        exact makesClient_of_run hs hrun

/-! ## Sends after other sends -/

/-- What a send posts, in the name of its client. -/
theorem postsOnce_next {ses : Session} {i : Nat} {c : Client} (hc : ses.clients[i]? = some c)
    (recipient sender body mediaUrl : Value) (verbose : Bool) :
    c.PostsOnce ses.state
      ((Step.send i recipient sender body mediaUrl verbose).next ses).state := by
  rw [Step.next, Step.run_send, hc]
  exact c.postsOnce_sendMessage _ _ _ _ _ _

/-- A send does the same after two runs that lead to the same ground, as long as the replies to come
and the cookies of its transport are the same. -/
theorem alongside_next {ses ses' : Session} (h : ses.SameGround ses') {i : Nat} {c : Client}
    (hc : ses.clients[i]? = some c) (hreplies : ses'.state.replies = ses.state.replies)
    (hcookies : c.SameCookies ses.state ses'.state) (recipient sender body mediaUrl : Value)
    (verbose : Bool) :
    let send := Step.send i recipient sender body mediaUrl verbose
    send.answer ses' = send.answer ses ∧
      State.Alongside (fun k => c.carrierIn ses.state = some k) Eq Eq ses.state ses'.state
        (send.next ses).state (send.next ses').state := by
  intro send
  have hc' : ses'.clients[i]? = some c := h.clients ▸ hc
  have hstart : State.Alongside (fun k => c.carrierIn ses.state = some k) Eq Eq ses.state ses'.state
      ses.state ses'.state :=
    State.alongside_start (congrArg State.now h.state.symm :)
      (State.housekeeping_sameGround.shared_eq h.state) hreplies
      (fun id hid => h.state.transport_eq (hcookies id hid)) fun id _ => h.state.delivery_eq id
  obtain ⟨hagree, hafter⟩ := c.relates_sendMessage_alongside ses.state ses'.state recipient sender
    body mediaUrl verbose ses.state ses'.state hstart
  have hrun := Step.run_send ses i recipient sender body mediaUrl verbose
  have hrun' := Step.run_send ses' i recipient sender body mediaUrl verbose
  rw [hc] at hrun
  rw [hc'] at hrun'
  unfold Step.answer Step.next
  rw [hrun, hrun']
  dsimp only
  rw [hagree.eq]
  exact ⟨rfl, hafter⟩

/-- After two runs that lead to the same ground, a send over the network has the same call to make,
and makes it with the cookies that its transport has kept. -/
theorem exists_wire_next {ses ses' : Session} (h : ses.SameGround ses') {i : Nat} {c : Client}
    (hc : ses.clients[i]? = some c) (recipient sender body mediaUrl : Value) (verbose : Bool) :
    let send := Step.send i recipient sender body mediaUrl verbose
    ∃ call, ∀ id, c.carrierIn ses.state = some (.network id) → ses.state.IsOpen id →
      (send.next ses).state.wire =
          ses.state.wire ++ Call.sent (ses.state.jarOf id) call ∧
        (send.next ses').state.wire =
          ses'.state.wire ++ Call.sent (ses'.state.jarOf id) call := by
  intro send
  obtain ⟨call, hcall⟩ := c.exists_wire_exec_sendMessage recipient sender body mediaUrl verbose
  have hnext : ∀ ses : Session, ses.clients[i]? = some c → (send.next ses).state =
      ((c.sendMessage recipient sender body mediaUrl verbose).exec ses.state).2 := by
    intro ses hc
    rw [Step.next, Step.run_send, hc]
  refine ⟨call, fun id hk ho => ⟨?_, ?_⟩⟩
  · rw [hnext ses hc]
    exact hcall hk ho
  · rw [hnext ses' (h.clients ▸ hc)]
    refine hcall ?_ ((h.state.isOpen_iff id).mpr ho)
    rwa [Client.carrierIn, State.housekeeping_sameGround.shared_eq h.state]

/-- **Clients are fixed and independent.** In every session that begins without settings, each
client was made by a step, of credentials and settings that are its own from then on. What it sends
is one post in its name at most, for a request over the network one reply is taken, and none
otherwise. In a session with other sends put anywhere before it, a send has the same call to make:
its request has the same address, the same authorization and the same content, and only the cookies
that the transport has kept may be others, or keep the address from being called. If they are the
same, as they are if no reply sets any, and the other sends take replies of their own, then the send
comes to the same, and its request is the same. -/
theorem clients_independent {s : State} (hs : s.clientSettings = none) {steps steps' : List Step}
    (hsteps : Inserts steps steps') (replies : List Reply) {i : Nat} {c : Client}
    (hc : (after ⟨s, []⟩ steps).clients[i]? = some c) (recipient sender body mediaUrl : Value)
    (verbose : Bool) :
    let ses := after ⟨s, []⟩ steps
    let ses' := after ⟨{ s with replies := replies }, []⟩ steps'
    let send := Step.send i recipient sender body mediaUrl verbose
    MakesClient ⟨s, []⟩ steps i c ∧
      c.PostsOnce ses.state (send.next ses).state ∧
      (∃ call, ∀ id, c.carrierIn ses.state = some (.network id) → ses.state.IsOpen id →
        (send.next ses).state.wire =
            ses.state.wire ++ Call.sent (ses.state.jarOf id) call ∧
          (send.next ses').state.wire =
            ses'.state.wire ++ Call.sent (ses'.state.jarOf id) call) ∧
      ((∀ reply ∈ s.replies ++ replies, reply.IsQuiet) → c.SameCookies ses.state ses'.state) ∧
      (ses'.state.replies = ses.state.replies → c.SameCookies ses.state ses'.state →
        send.answer ses' = send.answer ses ∧
          State.Alongside (fun k => c.carrierIn ses.state = some k) Eq Eq ses.state ses'.state
            (send.next ses).state (send.next ses').state) := by
  intro ses ses' send
  have hground : ses.SameGround ses' := sameGround_after hsteps ⟨rfl, rfl⟩
  refine ⟨makesClient_of_getElem? hs rfl hc, postsOnce_next hc _ _ _ _ _,
    exists_wire_next hground hc _ _ _ _ _, ?_, ?_⟩
  · intro hquiet id _
    rw [List.forall_mem_append] at hquiet
    have hjar : ses.state.jarOf id = s.jarOf id := jarOf_after_of_isQuiet hquiet.1 steps id
    have hjar' : ses'.state.jarOf id = s.jarOf id := jarOf_after_of_isQuiet hquiet.2 steps' id
    rw [hjar, hjar']
  · intro hreplies hcookies
    exact alongside_next hground hc hreplies hcookies _ _ _ _ _

/-- What a program is told by a step that sends: an outcome, or the words of a fault. -/
def told (answer : Except Fault (Product (Text × Text))) : Except Text (Option Outcome) :=
  (answer.mapError Fault.message).map fun
    | .outcome o => some o
    | _ => none

end

open scoped Installation in
/-- Two clients of the shared transport: that the provider refuses what the first sends makes no
difference to the second. -/
theorem clients_independent_twoClients :
    let s : State := { State.initial 0 .empty .initial with replies := [.response 201 [] [] none] }
    let replies : List Reply := [.response 503 [] [] none, .response 201 [] [] none]
    let make (sid : String) : Step := .makeClient (.string sid) (.string "t") none none
    let send (i : Nat) : Step := .send i (.string "+1") (.string "+2") (.string "hi") .null false
    let steps := [.openShared none, make "AC1", make "AC2"]
    let steps' := [.openShared none, make "AC1", send 0, make "AC2"]
    let c : Client := ⟨⟨Text.ofString "AC2", Text.ofString "t"⟩, none, .ofEnvironment .empty⟩
    let ses := after ⟨s, []⟩ steps
    let ses' := after ⟨{ s with replies := replies }, []⟩ steps'
    s.clientSettings = none ∧ Inserts steps steps' ∧ ses.clients[1]? = some c ∧
      ses'.state.replies = ses.state.replies ∧ c.SameCookies ses.state ses'.state ∧
      (send 1).answer ses' = (send 1).answer ses ∧
      told ((send 1).answer ses) = .ok (some (.accepted 201 [])) ∧
      ((send 1).next ses').state.wire.map (·.authorization) =
        [Text.ofString "Basic QUMxOnQ=", Text.ofString "Basic QUMyOnQ="] := by
  intro s replies make send steps steps' c ses ses'
  have hsteps : Inserts steps steps' :=
    .step _ (.step _ (.send (show (send 0).IsSend from trivial) (.step _ .nil)))
  have hc : ses.clients[1]? = some c := rfl
  have hreplies : ses'.state.replies = ses.state.replies := by decide +kernel
  obtain ⟨-, -, -, hquiet, hsame⟩ := clients_independent (s := s) rfl hsteps replies hc
    (.string "+1") (.string "+2") (.string "hi") .null false
  have hcookies : c.SameCookies ses.state ses'.state := hquiet (by decide +kernel)
  exact ⟨rfl, hsteps, hc, hreplies, hcookies, (hsame hreplies hcookies).1, by decide +kernel,
    by decide +kernel⟩

open scoped Installation in
/-- The first client is answered with a cookie. The second posts to an address without a scheme.
Alone it is told that this cannot be done, but where a cookie is kept the send ends in a fault, for
the address is looked at as that of a site. -/
theorem clients_independent_foreignCookie :
    let words := Text.ofString "Request URL is missing an 'http://' or 'https://' protocol."
    let s : State := { State.initial 0 .empty .initial with
      replies := [.failure .unsupportedProtocol words] }
    let replies : List Reply :=
      [.response 201 [(Text.ofString "set-cookie", Text.ofString "k=v")] [] none,
        .failure .unsupportedProtocol words]
    let own : ClientSettings :=
      { ClientSettings.ofEnvironment .empty with baseUrl := Text.ofString "api.example.com" }
    let send (i : Nat) : Step := .send i (.string "+1") (.string "+2") (.string "hi") .null false
    let steps := [.openShared none, .makeClient (.string "AC1") (.string "t") none none,
      .makeClient (.string "AC2") (.string "t") none (some own)]
    let ses := after ⟨s, []⟩ steps
    let ses' := after ⟨{ s with replies := replies }, []⟩ (steps ++ [send 0])
    Inserts steps (steps ++ [send 0]) ∧ ses'.state.replies = ses.state.replies ∧
      told ((send 1).answer ses) = .ok (some (.broken words)) ∧
      told ((send 1).answer ses') = .error (Text.ofString
        "unknown url type: '/api.example.com/2010-04-01/Accounts/AC2/Messages'") := by
  intro words s replies own send steps ses ses'
  have hsteps : Inserts steps (steps ++ [send 0]) :=
    .step _ (.step _ (.step _ (.send (show (send 0).IsSend from trivial) .nil)))
  exact ⟨hsteps, by decide +kernel, by decide +kernel, by decide +kernel⟩

end Session

end Courier
