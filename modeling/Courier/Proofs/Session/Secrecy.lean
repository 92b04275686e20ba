import Courier.Proofs.Gateway.Answer
import Courier.Proofs.Session.Basic
import Courier.Proofs.Session.Veil
import Mathlib.Data.List.Forall2

/-!
# The token is told to the provider alone

Two sessions are run side by side that differ in one token, wherever it is configured: given to a
client or held by the environment. Each call of the library and each route of the gateway comes to
the same in both, as long as the states are the same but for the tokens in them, and leaves such
states behind. So the answers of all steps are the same, and the log is. The token is found in the
authorization of the requests, and nowhere else.

Results:
* `Client.relates_sendMessage_veiled`: sends by clients with different tokens.
* `Gateway.App.relates_handle_veiled`: requests to gateways with different tokens.
* `Session.Step.next_of_swaps`: one step of two sessions.
* `Session.tells_no_token`: two sessions from begin to end.
-/

namespace Courier

open State (SameVeiled likeness_sameVeiled housekeeping_sameVeiled)

/-! ## The library -/

namespace Run

theorem relates_gatewaySettings_veiled :
    Relates SameVeiled (fun g g' => g.veiled = g'.veiled) gatewaySettings gatewaySettings := by
  intro s s' hs
  rw [exec_gatewaySettings, exec_gatewaySettings]
  exact ⟨.value hs.currentGatewaySettings_eq, housekeeping_sameVeiled.readGateway hs⟩

end Run

/-! ## Clients -/

namespace Client

/-- The credentials of a client are checked part by part. -/
theorem ofValue_credentials (sid token : Value) :
    Credentials.ofValue (.ofFields [("account_sid", sid), ("auth_token", token)]) =
      Credentials.mk <$> (Schema.text sid).within (Text.ofString "account_sid")
        <*> (Schema.text token).within (Text.ofString "auth_token") := rfl

theorem relates_new_veiled (sid : Value) {t t' : Text} (h : veil t = veil t')
    (carrier : Option Carrier) (settings : Option ClientSettings) :
    Run.Relates SameVeiled (fun c c' => c.veiled = c'.veiled)
      (Client.new sid (.text t) carrier settings) (Client.new sid (.text t') carrier settings) := by
  unfold Client.new
  rw [ofValue_credentials, ofValue_credentials]
  cases Schema.text sid with
  | invalid issues => exact Run.relates_throw _
  | valid account =>
    refine Run.Relates.bind (V := fun c c' => c = ⟨account, t⟩ ∧ c' = ⟨account, t'⟩)
      (Run.relates_pure ⟨rfl, rfl⟩) ?_
    rintro _ _ ⟨rfl, rfl⟩
    have hclient : ∀ own : ClientSettings,
        (Client.mk ⟨account, t⟩ carrier own).veiled =
          (Client.mk ⟨account, t'⟩ carrier own).veiled := by
      intro own
      simp only [veiled, h]
    cases settings with
    | some own => exact Run.relates_pure (hclient own)
    | none =>
      exact housekeeping_sameVeiled.relates_clientSettings.bind_eq fun own =>
        Run.relates_pure (hclient own)

variable [Installation]

theorem relates_send_veiled {c c' : Client} (h : c.veiled = c'.veiled) (m : Message)
    (verbose : Bool) : Run.Relates SameVeiled Eq (c.send m verbose) (c'.send m verbose) := by
  have hurl : c'.messagesUrl = c.messagesUrl := (congrArg messagesUrl h.symm :)
  have hsid : c.credentials.sid = c'.credentials.sid := (congrArg (·.credentials.sid) h :)
  have htoken : veil c.credentials.token = veil c'.credentials.token :=
    (congrArg (·.credentials.token) h :)
  refine likeness_sameVeiled.relates_send (congrArg Client.carrier h.symm :)
    (fun _ _ _ => trivial) hurl rfl rfl rfl ?_ (fun _ => rfl) ?_
  · intro ho
    obtain ⟨text, htext, -⟩ := objection?_eq_none_iff.mp ho
    have hp := Message.formPayload?_of_denotes htext
    have hpost : ∀ payload, (c.post payload).veiled = (c'.post payload).veiled := by
      intro payload
      simp only [Post.veiled, post, hurl, hsid, htoken]
    exact ⟨_, _, hp, hp, hpost _, fun _ _ => Post.alike_of_veiled_eq (hpost _)⟩
  · intro d d' hd
    obtain rfl : d' = d := hd
    exact likeness_sameVeiled.relates_conclude m verbose d'

/-- A send comes to the same with any token that can be sent at all. -/
theorem relates_sendMessage_veiled {c c' : Client} (h : c.veiled = c'.veiled)
    (recipient sender body mediaUrl : Value) (verbose : Bool) :
    Run.Relates SameVeiled Eq (c.sendMessage recipient sender body mediaUrl verbose)
      (c'.sendMessage recipient sender body mediaUrl verbose) :=
  (Run.relates_checked _ _).bind_eq fun m => relates_send_veiled h m verbose

end Client

/-! ## The gateway -/

namespace Gateway.App

theorem relates_health_veiled : Run.Relates SameVeiled Eq health health := by
  refine Run.relates_gatewaySettings_veiled.bind fun g g' hg => ?_
  refine housekeeping_sameVeiled.relates_isReady.bind_eq fun ready => Run.relates_pure ?_
  have hversion : g'.appVersion = g.appVersion := (congrArg GatewaySettings.appVersion hg.symm :)
  rw [GatewaySettings.hasCredentials_of_veiled_eq hg, hversion]

/-- Whether there is an account to send for does not depend on what the token is, and a client of it
is made alike. -/
theorem relates_withClient_veiled {act : GatewaySettings → Client → Run Result}
    (h : ∀ {g g' : GatewaySettings} {c c' : Client}, g.veiled = g'.veiled → c.veiled = c'.veiled →
      Run.Relates SameVeiled Eq (act g c) (act g' c')) :
    Run.Relates SameVeiled Eq (withClient act) (withClient act) := by
  refine Run.relates_gatewaySettings_veiled.bind fun g g' hg => ?_
  have haccount : g.account?.map (fun account => (account.1, veil account.2)) =
      g'.account?.map fun account => (account.1, veil account.2) := by
    rw [← GatewaySettings.account?_veiled, hg, GatewaySettings.account?_veiled]
  cases ha : g.account? with
  | none =>
    rw [ha, Option.map_none, eq_comm, Option.map_eq_none_iff] at haccount
    rw [haccount]
    exact Run.relates_pure rfl
  | some account =>
    rw [ha, Option.map_some, eq_comm, Option.map_eq_some_iff] at haccount
    obtain ⟨⟨sid, t'⟩, ha', hsame⟩ := haccount
    obtain ⟨_, t⟩ := account
    obtain ⟨rfl, ht⟩ := Prod.mk.inj hsame
    rw [ha']
    exact (Client.relates_new_veiled _ ht.symm none none).bind fun c c' hc => h hg hc

variable [Installation]

theorem relates_submit_veiled {g g' : GatewaySettings} {c c' : Client} (hg : g.veiled = g'.veiled)
    (hc : c.veiled = c'.veiled) (s : Submission) :
    Run.Relates SameVeiled Eq (submit g c s) (submit g' c' s) := by
  unfold submit
  rw [show senderOf g' s = senderOf g s from (congrArg (senderOf · s) hg.symm :)]
  cases senderOf g s with
  | none => exact Run.relates_pure rfl
  | some sender =>
    exact (Client.relates_sendMessage_veiled hc _ _ _ _ _).bind_eq fun _ => Run.relates_pure rfl

theorem relates_messages_veiled (payload : Request.Payload) :
    Run.Relates SameVeiled Eq (messages payload) (messages payload) := by
  cases payload with
  | unreadable => exact Run.relates_pure rfl
  | malformed reason position => exact Run.relates_pure rfl
  | absent => exact relates_withClient_veiled fun _ _ => Run.relates_pure rfl
  | octets bs => exact relates_withClient_veiled fun _ _ => Run.relates_pure rfl
  | value v =>
    refine relates_withClient_veiled fun hg hc => ?_
    cases submissionOf v with
    | invalid issues => exact Run.relates_pure rfl
    | valid s => exact relates_submit_veiled hg hc s

theorem relates_turnedAway_veiled (r : Request) :
    Run.Relates SameVeiled Eq (turnedAway r) (turnedAway r) := by
  unfold turnedAway
  split
  · exact Run.relates_pure rfl
  · cases Route.otherPath? r.path with
    | none => exact Run.relates_pure rfl
    | some path => exact (Run.relates_ofExcept _).bind_eq fun _ => Run.relates_pure rfl

theorem relates_dispatch_veiled (r : Request) :
    Run.Relates SameVeiled Eq (dispatch r) (dispatch r) := by
  unfold dispatch
  cases r.route? with
  | none => exact relates_turnedAway_veiled r
  | some route =>
    cases route with
    | schema | page | pageReturn | liveness => exact Run.relates_pure rfl
    | health => exact relates_health_veiled
    | messages => exact relates_messages_veiled r.payload

theorem relates_answerOf_veiled (result : Result) :
    Run.Relates SameVeiled Eq (answerOf result) (answerOf result) := by
  cases result with
  | answer r => exact Run.relates_ofExcept _
  | problem p =>
    exact (housekeeping_sameVeiled.relates_log _ _ _).bind_eq fun _ => Run.relates_ofExcept _
  | invalid issues =>
    exact (housekeeping_sameVeiled.relates_log _ _ _).bind_eq fun _ => Run.relates_ofExcept _

/-- A request is answered the same with any token of the account. -/
theorem relates_handle_veiled (r : Request) :
    Run.Relates SameVeiled Eq (handle r) (handle r) := by
  have hwork := (relates_dispatch_veiled r).bind_eq relates_answerOf_veiled
  exact hwork.tryCatch fun _ => (housekeeping_sameVeiled.relates_log .error logger
    (Text.ofString "Unhandled error")).bind_eq fun _ => Run.relates_pure (rfl : internalError = _)

end Gateway.App

/-! ## Sessions -/

/-- Two states are the same, but for one token in the environment or in the settings that the
gateway has read. -/
structure State.Swaps (t t' : Text) (s s' : State) : Prop where
  rest_eq : s' =
    { s with environment := s'.environment, gatewaySettings := s'.gatewaySettings }
  environment : List.Forall₂ (fun e e' => e' = e ∨ e = (tokenName, t) ∧ e' = (tokenName, t'))
    s.environment.entries s'.environment.entries
  gatewaySettings : s'.gatewaySettings = s.gatewaySettings ∨
    ∃ g : GatewaySettings, s.gatewaySettings = some { g with token := some t } ∧
      s'.gatewaySettings = some { g with token := some t' }

theorem State.Swaps.sameVeiled {t t' : Text} (ht : IsSecret t) (ht' : IsSecret t') {s s' : State}
    (h : s.Swaps t t' s') : s.SameVeiled s' := by
  have htoken : veil t = veil t' := by rw [veil_of_isSecret ht, veil_of_isSecret ht']
  have henvironment : s.environment.veiled = s'.environment.veiled := by
    have hentries := h.environment
    unfold Environment.veiled Environment.mapValue
    rw [Environment.mk.injEq]
    generalize s.environment.entries = entries at hentries
    generalize s'.environment.entries = entries' at hentries
    induction hentries with
    | nil => rfl
    | cons hentry _ ih =>
      rw [List.map_cons, List.map_cons, ih]
      obtain rfl | ⟨rfl, rfl⟩ := hentry
      · rfl
      · simp [htoken]
  have hsettings : s.gatewaySettings.map GatewaySettings.veiled =
      s'.gatewaySettings.map GatewaySettings.veiled := by
    obtain hsame | ⟨g, hg, hg'⟩ := h.gatewaySettings
    · rw [hsame]
    · simp [hg, hg', GatewaySettings.veiled, htoken]
  have hrest : s'.veiled = { s.veiled with
      environment := s'.environment.veiled
      gatewaySettings := s'.gatewaySettings.map GatewaySettings.veiled } := by
    rw [h.rest_eq]
    rfl
  rw [SameVeiled, hrest, ← henvironment, ← hsettings]
  rfl

/-- Two requests are the same but for their authorization. -/
structure WireRequest.SameButAuthorization (r r' : WireRequest) : Prop where
  url_eq : r.url = r'.url
  headers_eq : r.headers.filter (fun h => h.1 != "authorization") =
    r'.headers.filter fun h => h.1 != "authorization"
  content_eq : r.content = r'.content

/-- Two posts are the same but for their passwords. -/
structure Post.SameButPassword (p p' : Post) : Prop where
  url_eq : p.url = p'.url
  payload_eq : p.payload = p'.payload
  user_eq : p.user = p'.user

theorem WireRequest.sameButAuthorization_of_veiled_eq {r r' : WireRequest}
    (h : r.veiled = r'.veiled) : r.SameButAuthorization r' := by
  have hcontent : r.content = r'.content := (congrArg WireRequest.content h :)
  have hcookie : r.cookie = r'.cookie := (congrArg WireRequest.cookie h :)
  refine ⟨(congrArg WireRequest.url h :), ?_, hcontent⟩
  simp [headers, hcontent, hcookie]

/-- Lists that are seen the same agree item by item. -/
theorem forall₂_of_map_eq {α β : Type} {view : α → β} {V : α → α → Prop}
    (h : ∀ {a a'}, view a = view a' → V a a') {as as' : List α} (hv : as.map view = as'.map view) :
    List.Forall₂ V as as' := by
  rw [← List.forall₂_eq_eq_eq, List.forall₂_map_left_iff, List.forall₂_map_right_iff] at hv
  exact hv.imp fun _ _ => h

namespace Session

/-- Two steps are the same, but for one token that is given to a client or assigned to its
variable. The variable takes no value with a NUL, so either both tokens have one or none has. -/
inductive Step.Swaps (t t' : Text) : Step → Step → Prop
  | same (step : Step) : Swaps t t' step step
  | makeClient (sid : Value) (carrier : Option Carrier) (settings : Option ClientSettings) :
      Swaps t t' (.makeClient sid (.text t) carrier settings)
        (.makeClient sid (.text t') carrier settings)
  | assign (h : (0 : CodePoint) ∈ t ↔ (0 : CodePoint) ∈ t') :
      Swaps t t' (.assign tokenName t) (.assign tokenName t')

/-- Two sessions are the same but for the tokens in them. -/
structure SameVeiled (ses ses' : Session) : Prop where
  state : ses.state.SameVeiled ses'.state
  clients : ses.clients.map Client.veiled = ses'.clients.map Client.veiled

variable {t t' : Text}

theorem Product.map_map {γ δ ε : Type} (f : γ → δ) (g : δ → ε) (p : Product γ) :
    (p.map f).map g = p.map (g ∘ f) := by
  cases p <;> rfl

/-- What a program sees of a client does not depend on what the token is. -/
theorem seen_veiled (c : Client) : seen c.veiled = seen c := by
  have hmask : Credentials.mask (veil c.credentials.token) =
      Credentials.mask c.credentials.token := by
    rw [Credentials.mask, Credentials.mask, isEmpty_veil]
  simp only [seen, Credentials.shown, Client.veiled, Client.messagesUrl, hmask]

theorem map_seen_of_map_veiled_eq {p p' : Product Client}
    (h : p.map Client.veiled = p'.map Client.veiled) : p.map seen = p'.map seen := by
  have hseen : seen ∘ Client.veiled = seen := funext seen_veiled
  have hboth := congrArg (Product.map seen) h
  rwa [Product.map_map, Product.map_map, hseen] at hboth

/-- Changes of the environment that are seen as the same. -/
theorem relates_change_veiled {edit edit' : Environment → Except Environment.Refusal Environment}
    (h : ∀ env env' : Environment, env.veiled = env'.veiled →
      (edit env).map Environment.veiled = (edit' env').map Environment.veiled) :
    Run.Relates State.SameVeiled (fun p p' => p.map Client.veiled = p'.map Client.veiled)
      (change edit) (change edit') := by
  intro s s' hs
  have hedit := h s.environment s'.environment (congrArg State.environment hs :)
  rw [exec_change, exec_change]
  cases he : edit s.environment with
  | error reason =>
    cases he' : edit' s'.environment with
    | error reason' =>
      rw [he, he'] at hedit
      cases hedit
      exact ⟨.value rfl, hs⟩
    | ok env' => simp [he, he', Except.map] at hedit
  | ok env =>
    cases he' : edit' s'.environment with
    | error reason' => simp [he, he', Except.map] at hedit
    | ok env' =>
      rw [he, he'] at hedit
      have henv : env.veiled = env'.veiled := Except.ok.inj hedit
      refine ⟨.value rfl, ?_⟩
      rw [State.SameVeiled, State.veiled, State.veiled, ← henv]
      exact (congrArg (fun s : State => { s with environment := env.veiled }) hs :)

theorem isName_tokenName : Environment.IsName tokenName :=
  ⟨by decide, by decide, by decide, by decide⟩

section

variable [Installation]

/-- One step is the same call in two sessions, if their clients are seen as the same. -/
theorem Step.relates_call_veiled (step : Step) {clients clients' : List Client}
    (hc : clients.map Client.veiled = clients'.map Client.veiled) :
    Run.Relates State.SameVeiled (fun p p' => p.map Client.veiled = p'.map Client.veiled)
      (step.call clients) (step.call clients') := by
  cases step with
  | assign name value =>
    refine relates_change_veiled fun env env' henv => ?_
    rw [Environment.assign?_eq, Environment.assign?_eq]
    cases Environment.entryOf? name value with
    | error reason => rfl
    | ok e =>
      simp only [Except.map, Environment.veiled, Environment.set_mapValue] at henv ⊢
      rw [henv]
  | remove name =>
    refine relates_change_veiled fun env env' henv => ?_
    unfold Environment.remove?
    cases Environment.octets? name with
    | error reason => rfl
    | ok octets =>
      simp only [Except.map, Environment.veiled, Environment.erase_mapValue] at henv ⊢
      rw [henv]
  | send client recipient sender body mediaUrl verbose =>
    have hclient : clients[client]?.map Client.veiled = clients'[client]?.map Client.veiled := by
      rw [← List.getElem?_map, hc, List.getElem?_map]
    dsimp only [Step.call]
    cases hfound : clients[client]? with
    | none =>
      rw [hfound, Option.map_none, eq_comm, Option.map_eq_none_iff] at hclient
      rw [hclient]
      exact Run.relates_pure rfl
    | some c =>
      rw [hfound, Option.map_some, eq_comm, Option.map_eq_some_iff] at hclient
      obtain ⟨c', hfound', hsame⟩ := hclient
      rw [hfound']
      exact (Client.relates_sendMessage_veiled hsame.symm _ _ _ _ _).bind_eq fun _ =>
        Run.relates_pure rfl
  | request r =>
    exact (Gateway.App.relates_handle_veiled r).bind_eq fun _ => Run.relates_pure rfl
  | _ =>
    refine Run.Relates.of_eq ?_ fun _ => rfl
    apply State.housekeeping_sameVeiled.relates_call
    trivial

/-- A call of either session for its step. -/
theorem Step.Swaps.relates_call (ht : IsSecret t) (ht' : IsSecret t') {step step' : Step}
    (h : step.Swaps t t' step') {clients clients' : List Client}
    (hc : clients.map Client.veiled = clients'.map Client.veiled) :
    Run.Relates State.SameVeiled (fun p p' => p.map Client.veiled = p'.map Client.veiled)
      (step.call clients) (step'.call clients') := by
  have htoken : veil t = veil t' := by rw [veil_of_isSecret ht, veil_of_isSecret ht']
  cases h with
  | makeClient sid carrier settings =>
    refine (Client.relates_new_veiled sid htoken carrier settings).bind fun c c' hc => ?_
    exact Run.relates_pure (congrArg Product.client hc)
  | assign hnul =>
    refine relates_change_veiled fun env env' henv => ?_
    rw [Environment.assign?_eq, Environment.assign?_eq]
    by_cases hzero : (0 : CodePoint) ∈ t
    · rw [Environment.entryOf?_of_nul_mem isName_tokenName ht.2 hzero,
        Environment.entryOf?_of_nul_mem isName_tokenName ht'.2 (hnul.mp hzero)]
      rfl
    · rw [Environment.entryOf?_of_nul_not_mem isName_tokenName ht.2 hzero,
        Environment.entryOf?_of_nul_not_mem isName_tokenName ht'.2 (mt hnul.mpr hzero)]
      simp only [Except.map, Environment.veiled, Environment.set_mapValue, if_pos, htoken] at henv ⊢
      rw [henv]
  | same => exact Step.relates_call_veiled _ hc

/-- One step of two sessions has one answer, and leaves them the same but for the tokens in them. -/
theorem Step.next_of_swaps (ht : IsSecret t) (ht' : IsSecret t') {step step' : Step}
    (h : step.Swaps t t' step') {ses ses' : Session} (hs : ses.SameVeiled ses') :
    step.answer ses = step'.answer ses' ∧ (step.next ses).SameVeiled (step'.next ses') := by
  obtain ⟨hagree, hafter⟩ := h.relates_call ht ht' hs.clients ses.state ses'.state hs.state
  unfold answer next Step.run
  obtain ⟨fault, hr, hr'⟩ | ⟨p, p', hr, hr', hp⟩ := hagree.fault_or_value
  · rw [hr, hr']
    exact ⟨rfl, hafter, hs.clients⟩
  · rw [hr, hr']
    refine ⟨congrArg Except.ok (map_seen_of_map_veiled_eq hp), hafter, ?_⟩
    -- only a step that makes a client adds to the list
    cases p with
    | client c =>
      cases p' with
      | client c' =>
        have hc : c.veiled = c'.veiled := Product.client.inj hp
        simp only [clientsAfter, List.map_append, List.map_cons, List.map_nil, hs.clients, hc]
      | _ => cases hp
    | _ =>
      cases p' with
      | client c' => cases hp
      | _ => exact hs.clients

theorem after_of_swaps (ht : IsSecret t) (ht' : IsSecret t') {steps steps' : List Step}
    (h : List.Forall₂ (Step.Swaps t t') steps steps') {ses ses' : Session}
    (hs : ses.SameVeiled ses') :
    ses.answers steps = ses'.answers steps' ∧
      (ses.after steps).SameVeiled (ses'.after steps') := by
  induction h generalizing ses ses' with
  | nil => exact ⟨rfl, hs⟩
  | cons hstep _ ih =>
    obtain ⟨hanswer, hnext⟩ := Step.next_of_swaps ht ht' hstep hs
    obtain ⟨hanswers, hafter⟩ := ih hnext
    exact ⟨by rw [answers, answers, hanswer, hanswers], hafter⟩

/-- **The token is told to the provider alone.** Two sessions that differ in one token, given to
clients or held by the environment, have the same answers, be it outcomes, faults, answers to
requests or credentials as they are shown, and write the same records to the log. Their requests to
the provider are the same but for the authorization, and their posts in memory but for the
password. -/
theorem tells_no_token (ht : IsSecret t) (ht' : IsSecret t') {s s' : State}
    (hs : s.Swaps t t' s') {steps steps' : List Step}
    (hsteps : List.Forall₂ (Step.Swaps t t') steps steps') :
    let ses : Session := ⟨s, []⟩
    let ses' : Session := ⟨s', []⟩
    ses.answers steps = ses'.answers steps' ∧
      (ses.after steps).state.log = (ses'.after steps').state.log ∧
      List.Forall₂ WireRequest.SameButAuthorization (ses.after steps).state.wire
        (ses'.after steps').state.wire ∧
      List.Forall₂ (fun r r' => List.Forall₂ Post.SameButPassword r.posts r'.posts)
        (ses.after steps).state.recorders (ses'.after steps').state.recorders := by
  intro ses ses'
  have hstart : ses.SameVeiled ses' := ⟨hs.sameVeiled ht ht', rfl⟩
  obtain ⟨hanswers, hstate, -⟩ := after_of_swaps ht ht' hsteps hstart
  have hpost : ∀ {p p' : Post}, p.veiled = p'.veiled → p.SameButPassword p' := by
    intro p p' h
    exact ⟨(congrArg Post.url h :), (congrArg Post.payload h :), (congrArg Post.user h :)⟩
  refine ⟨hanswers, (congrArg State.log hstate :), ?_, ?_⟩
  · exact forall₂_of_map_eq WireRequest.sameButAuthorization_of_veiled_eq
      (congrArg State.wire hstate :)
  · refine forall₂_of_map_eq (fun {r r'} hr => ?_) (congrArg State.recorders hstate :)
    exact forall₂_of_map_eq hpost (congrArg Recorder.posts hr :)

end

open scoped Installation in
/-- One token or another, given to a client and held by the environment for the gateway, and a
message sent by each. -/
theorem tells_no_token_twice :
    let t := Text.ofString "t"
    let t' := Text.ofString "other"
    let s (token : Text) : State := .initial 0
      ⟨[(Text.ofString "TWILIO_ACCOUNT_SID", Text.ofString "AC1"), (tokenName, token)]⟩ .initial
    let r : Gateway.Request := ⟨Text.ofString "POST", Text.ofString "http://testserver",
      Text.ofString "/api/v1/messages", [],
      Utf8.encodeAll (Text.ofString "\x7b\"to\":\"+1\",\"from\":\"+2\",\"body\":\"hi\"\x7d"),
      Gateway.Request.jsonType⟩
    let steps (token : Text) : List Step :=
      [.openShared none, .makeClient (.string "AC1") (.text token) none none,
        .send 0 (.string "+1") (.string "+2") (.string "hi") .null false, .request r]
    IsSecret t ∧ IsSecret t' ∧ (s t).Swaps t t' (s t') ∧
      List.Forall₂ (Step.Swaps t t') (steps t) (steps t') ∧
      answers ⟨s t, []⟩ (steps t) = answers ⟨s t', []⟩ (steps t') ∧
      (after ⟨s t, []⟩ (steps t)).state.log = (after ⟨s t', []⟩ (steps t')).state.log ∧
      (after ⟨s t, []⟩ (steps t)).state.wire.map (·.authorization) =
        List.replicate 2 (Text.ofString "Basic QUMxOnQ=") ∧
      (after ⟨s t', []⟩ (steps t')).state.wire.map (·.authorization) =
        List.replicate 2 (Text.ofString "Basic QUMxOm90aGVy") := by
  intro t t' s r steps
  have ht : IsSecret t := by decide
  have ht' : IsSecret t' := by decide
  have hs : (s t).Swaps t t' (s t') :=
    ⟨rfl, .cons (.inl rfl) (.cons (.inr ⟨rfl, rfl⟩) .nil), .inl rfl⟩
  have hsteps : List.Forall₂ (Step.Swaps t t') (steps t) (steps t') :=
    .cons (.same _) (.cons (.makeClient _ _ _) (.cons (.same _) (.cons (.same _) .nil)))
  obtain ⟨hanswers, hlog, -, -⟩ := tells_no_token ht ht' hs hsteps
  exact ⟨ht, ht', hs, hsteps, hanswers, hlog, by decide +kernel, by decide +kernel⟩

end Session

end Courier
