import Courier.Proofs.Client.Call
import Courier.Proofs.CommandLine.Order
import Courier.Proofs.Gateway.Envelope
import Courier.Proofs.Gateway.Readings

/-!
# One message by three ways

A message can be sent by a call of the library, by the program, and by a request to the gateway. The
values take different ways to the send: as they are, through the reading of a command line, and
through the check of a submission. All three make the same send, so over open transports they have
the same call to make. What transports differ in are cookies: each puts its own into a header of the
request, and cookies may keep an address from being called. So the three may differ in this, and
where they do not, they succeed or fail alike with the same reply.

Results:
* `Errand.wire_exec_send`, `Errand.succeeds_send_iff`: the send itself, over a shared transport.
* `Errand.exec_run`: the program makes this send.
* `Errand.exec_work`, `Errand.granted_iff`: the gateway makes this send, and grants what succeeds.
* `Errand.frontEnds_agree`: the three ways side by side.
-/

namespace Courier

/-- An open transport is shared. -/
def State.Shares (s : State) (t : Transport) : Prop :=
  t.isOpen = true ∧ ∃ id, s.shared = some id ∧ s.transports[id]? = some t

theorem State.Shares.exists_isOpen {s : State} {t : Transport} (h : s.Shares t) :
    ∃ id, s.shared = some id ∧ s.IsOpen id ∧ s.jarOf id = t.cookies := by
  obtain ⟨ht, id, hshared, hid⟩ := h
  refine ⟨id, hshared, ?_, ?_⟩
  · rw [State.IsOpen, hid]
    simpa using ht
  · rw [State.jarOf, hid]
    rfl

/-- A message to be sent for an account, as it is handed over. -/
structure Errand where
  sid : Text
  token : Text
  recipient : Text
  sender : Text
  body : Text
  mediaUrl : Text

namespace Errand

variable {e : Errand} {s : State} {t : Transport}

/-! ## The send -/

/-- The client of the account with settings. -/
def client (e : Errand) (settings : ClientSettings) : Client := ⟨⟨e.sid, e.token⟩, none, settings⟩

/-- The message. -/
def message (e : Errand) : Message := ⟨e.recipient, e.sender, .text e.body, some e.mediaUrl⟩

theorem carrierIn_client {id : Nat} (h : s.shared = some id) (e : Errand)
    (settings : ClientSettings) : (e.client settings).carrierIn s = some (.network id) := by
  rw [Client.carrierIn, h]
  rfl

section

variable [Installation]

/-- The call of the library: a client of the account sends the message over the shared transport. -/
def send (e : Errand) : Run Outcome := do
  let client ← Client.new (.text e.sid) (.text e.token) none none
  client.sendMessage (.text e.recipient) (.text e.sender) (.text e.body) (.text e.mediaUrl) false

/-- The call that is made with settings where there are no cookies, if there is one. -/
def call? (e : Errand) (settings : ClientSettings) : Option (Url × WireRequest) :=
  (e.client settings).call? e.message

theorem exec_send (e : Errand) (s : State) :
    e.send.exec s = ((e.client s.currentClientSettings).send e.message false).exec
      { s with clientSettings := some s.currentClientSettings } :=
  (Run.exec_bind_of_ok (Client.exec_new e.sid e.token s) _).trans
    (Client.exec_sendMessage _ e.recipient e.sender (.text e.body) (some e.mediaUrl) false _)

/-- A send over an open transport puts on the wire what its call comes to with the cookies. -/
theorem wire_exec_send (h : s.Shares t) :
    (e.send.exec s).2.wire =
      s.wire ++ Call.sent t.cookies (e.call? s.currentClientSettings) := by
  obtain ⟨id, hshared, ho, hjar⟩ := h.exists_isOpen
  rw [exec_send, call?, ← hjar]
  exact Client.wire_exec_send (s := { s with clientSettings := some s.currentClientSettings })
    (carrierIn_client hshared e _) ho e.message false

/-- A send over an open transport succeeds exactly if its call is allowed and granted. -/
theorem succeeds_send_iff (h : s.Shares t) :
    Succeeds (e.send.exec s).1 ↔
      ∃ call ∈ Call.allowed t.cookies (e.call? s.currentClientSettings),
        s.nextReply.Grants call.1 := by
  obtain ⟨id, hshared, ho, hjar⟩ := h.exists_isOpen
  rw [exec_send, call?, ← hjar]
  exact Client.succeeds_send_iff (s := { s with clientSettings := some s.currentClientSettings })
    (carrierIn_client hshared e _) ho e.message false

end

/-! ## The program -/

section

open CommandLine CommandLine.Send

/-- The options that the values are given for. -/
def values (e : Errand) : List (Key × Text) :=
  [(.sid, e.sid), (.token, e.token), (.recipient, e.recipient), (.sender, e.sender),
    (.body, e.body), (.mediaUrl, e.mediaUrl)]

/-- Account and sender are not empty, and no value is the mark after which all arguments are
words. -/
structure IsPassable (e : Errand) : Prop where
  sid_ne_nil : e.sid ≠ []
  token_ne_nil : e.token ≠ []
  sender_ne_nil : e.sender ≠ []
  ne_mark : ∀ t ∈ [e.sid, e.token, e.recipient, e.sender, e.body, e.mediaUrl],
    t ≠ Text.ofString "--"

/-- The arguments of the program, one for each value. -/
def arguments (e : Errand) : List Text :=
  [Text.ofString "--account-sid=" ++ e.sid, Text.ofString "--auth-token=" ++ e.token,
    Text.ofString "--to=" ++ e.recipient, Text.ofString "--from=" ++ e.sender,
    Text.ofString "--message=" ++ e.body, Text.ofString "--picture-url=" ++ e.mediaUrl]

/-- What these arguments ask for. -/
def request (e : Errand) : Request :=
  ⟨e.sid, e.token, e.sender, .text e.recipient, .text e.body, .text e.mediaUrl, false⟩

/-- The options that are given with the arguments. -/
def given (e : Errand) : List (Given Key) := e.values.map fun v => valued v.1 v.2

theorem arguments_eq (e : Errand) : e.arguments = e.given.map Given.argument := by
  simp [arguments, given, values, valued, option, Given.argument, Given.name, program,
    Text.ofString]

variable {given : List (Given Key)}

theorem takesValue_of_mem_values {v : Key × Text} (h : v ∈ e.values) :
    (option v.1).takesValue = true := by
  have htakes : ∀ v ∈ e.values, (option v.1).takesValue = true := by simp [values]; decide
  exact htakes v h

theorem isSingle_given (he : e.IsPassable) (hp : given.Perm e.given) : ∀ g ∈ given, IsSingle g := by
  have htexts : e.values.map (·.2) =
      [e.sid, e.token, e.recipient, e.sender, e.body, e.mediaUrl] := rfl
  intro g hg
  obtain ⟨v, hv, rfl⟩ := List.mem_map.mp (hp.mem_iff.mp hg)
  refine .value (takesValue_of_mem_values hv) (he.ne_mark v.2 ?_)
  rw [← htexts]
  exact List.mem_map_of_mem hv

/-- Of each option the value is read that was given. -/
theorem value?_arguments (he : e.IsPassable) (hp : given.Perm e.given) {key : Key} {t : Text}
    (h : (key, t) ∈ e.values) : value? (readingOf given) key = some (.text t) := by
  have hsingle := isSingle_given he hp
  have hkey : (option key).takesValue = true := takesValue_of_mem_values h
  have hkeys : e.given.map (·.switch.key) =
      [.sid, .token, .recipient, .sender, .body, .mediaUrl] := rfl
  have hn : (given.map (·.switch.key)).Nodup := by
    rw [(hp.map _).nodup_iff, hkeys]
    decide
  refine (value?_eq_some_iff hsingle hkey).mpr ⟨t, rfl, ?_⟩
  rw [isLast_iff_mem hsingle hkey fun _ _ => eq_of_nodup hn]
  exact hp.mem_iff.mpr (List.mem_map_of_mem h)

/-- The arguments are read as the request for the errand. -/
theorem ofReading_arguments (he : e.IsPassable) (hp : given.Perm e.given) (env : Environment) :
    Request.ofReading env (readingOf given) = .ok e.request := by
  have hvalues : ∀ v ∈ e.values, value? (readingOf given) v.1 = some (.text v.2) :=
    fun _ => value?_arguments he hp
  simp only [values, List.forall_mem_cons] at hvalues
  obtain ⟨hsid, htoken, hrecipient, hsender, hbody, hmediaUrl, -⟩ := hvalues
  have hverbose : isGiven (readingOf given) .verbose = false := by
    rw [isGiven_readingOf, hp.any_eq]
    rfl
  simp only [Request.ofReading, setting?_of_value? hsid he.sid_ne_nil,
    setting?_of_value? htoken he.token_ne_nil, setting?_of_value? hsender he.sender_ne_nil, partOf,
    hrecipient, hbody, hmediaUrl, hverbose]
  rfl

/-- The program ends with status 0 exactly if its send is a success. -/
theorem status_reported_iff (result : Except Fault Outcome) :
    (∃ report, result.map reported = .ok report ∧ report.status = 0) ↔ Succeeds result := by
  cases result with
  | error fault => simp [Except.map, Succeeds]
  | ok o => cases h : o.ok <;> simp [Except.map, Succeeds, reported, h]

variable [Installation]

/-- The program, run with the arguments in any order, does what the request for the errand asks
for. -/
theorem exec_run (he : e.IsPassable) {arguments : List Text} (h : arguments.Perm e.arguments)
    (s : State) : (run arguments).exec s = (perform e.request).exec s := by
  have hcomp := congrFun₂ (List.eq_map_comp_perm Given.argument) arguments e.given
  rw [arguments_eq] at h
  obtain ⟨given, rfl, hp⟩ := hcomp.mpr h
  have hparse := parse?_of_single (isSingle_given he hp)
    ⟨e.recipient, hp.mem_iff.mpr (by simp [Errand.given, values])⟩
    ⟨e.body, hp.mem_iff.mpr (by simp [Errand.given, values])⟩
  rw [run_of_ok hparse rfl, ofReading_arguments he hp]

/-- The program makes the send of the errand, in a state where the shared transport is open, and
reports its end. -/
theorem exec_run_of_shares (he : e.IsPassable) {arguments : List Text}
    (h : arguments.Perm e.arguments) (hlevel : Log.NamesLevel s.environment)
    (hs : s.Shares t ∨ s.shared = none ∧ t.cookies = []) :
    ∃ s₁ t₁, s₁.Shares t₁ ∧ t₁.cookies = t.cookies ∧
      s₁.currentClientSettings = s.currentClientSettings ∧ s₁.nextReply = s.nextReply ∧
      s₁.wire = s.wire ∧
      ((run arguments).exec s).1 = (e.send.exec s₁).1.map reported ∧
      ((run arguments).exec s).2.wire = (e.send.exec s₁).2.wire := by
  obtain ⟨id, s₁, s', -, hopens, hrun, -, -, hwire⟩ :=
    exec_perform (r := e.request) (Log.configure_of_namesLevel hlevel s.logSetup)
  rw [exec_run he h, hrun]
  have hreply : s₁.nextReply = s.nextReply := by
    rw [State.nextReply, hopens.replies_eq]
    rfl
  obtain ⟨hshared, hid⟩ | ⟨hnone, limit, hid⟩ := hopens.transport
  · obtain ⟨ht, id', hshared', hid'⟩ | ⟨hno, -⟩ := hs
    · obtain rfl := Option.some.inj (hshared.symm.trans hshared')
      exact ⟨s₁, t, ⟨ht, id, hopens.shared_eq, hid.trans hid'⟩, rfl, hopens.settings_eq, hreply,
        hopens.wire_eq, rfl, hwire⟩
    · cases hno.symm.trans hshared
  · obtain ⟨-, id', hshared', hid'⟩ | ⟨-, hcookies⟩ := hs
    · cases hnone.symm.trans hshared'
    · exact ⟨s₁, _, ⟨rfl, id, hopens.shared_eq, hid⟩, hcookies.symm, hopens.settings_eq, hreply,
        hopens.wire_eq, rfl, hwire⟩

end

/-! ## The gateway -/

section

open Gateway Gateway.App

/-- The values are among the members of an object, under names that a submission has for them, and
details are not asked for. -/
structure IsIn (e : Errand) (ms : Members) : Prop where
  recipient : ms.get? (Text.ofString "to") = some (.text e.recipient)
  sender : ∃ name, Schema.lookup? (Message.senderNames.map Text.ofString) ms =
    some (name, .text e.sender)
  body : ms.get? (Text.ofString "body") = some (.text e.body)
  mediaUrl : ms.get? (Text.ofString "media_url") = some (.text e.mediaUrl)
  verbose : ∀ v, ms.get? (Text.ofString "verbose") = some v → v = .bool false

theorem submissionOf_of_isIn {ms : Members} (h : e.IsIn ms) :
    submissionOf (.object ms) =
      .valid ⟨e.recipient, some e.sender, e.body, some e.mediaUrl, false⟩ := by
  obtain ⟨name, hsender⟩ := h.sender
  have hverbose : Schema.optional ["verbose"] Schema.truth false ms = .valid false := by
    simp only [Schema.optional, Schema.lookup?, List.map_cons, List.map_nil, List.findSome?_cons,
      List.findSome?_nil]
    cases hget : ms.get? (Text.ofString "verbose") with
    | none => rfl
    | some v =>
      obtain rfl := h.verbose v hget
      rfl
  rw [submissionOf, Schema.object, Submission.ofMembers, hverbose]
  simp only [Schema.required, Schema.optional, hsender]
  simp only [Schema.lookup?, List.map_cons, List.map_nil, List.findSome?_cons, h.recipient, h.body,
    h.mediaUrl, Option.map_some]
  rfl

/-- What did not succeed is a problem, with a status of its own. -/
theorem exists_problem_of_failed {o : Outcome} (h : o.ok = false) :
    ∃ p, resultOf o = .problem p ∧ p.status ≠ 200 := by
  unfold resultOf
  rw [h]
  split
  · contradiction
  · split
    · exact ⟨_, rfl, by simp [Problem.ofText]⟩
    · exact ⟨_, rfl, by simp [Problem.ofText]⟩
    · exact ⟨_, rfl, by simp [Problem.ofText]⟩

variable [Installation]

/-- A request hands an errand to a gateway that has the account of it. -/
structure IsPosted (e : Errand) (r : Request) (settings : GatewaySettings) : Prop where
  reaches : r.Reaches .messages
  payload_eq : ∃ ms, r.payload = .value (.object ms) ∧ e.IsIn ms
  sid_eq : settings.sid = some e.sid
  token_eq : settings.token = some e.token

variable {r : Request}

/-- Once its settings were read, the gateway makes the send of the errand. -/
theorem exec_work (he : e.IsPassable) (hr : e.IsPosted r s.currentGatewaySettings) :
    (work r .messages).exec s = (e.send >>= fun o => pure (resultOf o)).exec
      { s with gatewaySettings := some s.currentGatewaySettings } := by
  obtain ⟨-, ⟨ms, hpayload, hms⟩, hsid, htoken⟩ := hr
  have haccount := GatewaySettings.account?_of_eq_some hsid he.sid_ne_nil htoken he.token_ne_nil
  have hsender : senderOf s.currentGatewaySettings
      ⟨e.recipient, some e.sender, e.body, some e.mediaUrl, false⟩ = some e.sender := by
    simp [senderOf, GatewaySettings.nonEmpty?_eq_some_iff.mpr ⟨rfl, he.sender_ne_nil⟩]
  have hnew := Client.exec_new e.sid e.token
    { s with gatewaySettings := some s.currentGatewaySettings }
  rw [work, hpayload, exec_messages_of_valid (submissionOf_of_isIn hms) haccount, submit, hsender,
    send, bind_assoc, Run.exec_bind_of_ok hnew]
  rfl

theorem wire_exec_handle (he : e.IsPassable) (hr : e.IsPosted r s.currentGatewaySettings) :
    ((handle r).exec s).2.wire =
      (e.send.exec { s with gatewaySettings := some s.currentGatewaySettings }).2.wire := by
  obtain ⟨log, hhandle⟩ := snd_exec_handle_at hr.reaches s
  rw [hhandle, exec_work he hr, Run.exec_bind_pure]

/-- The answer for the outcome of a send without details has the status 200 exactly if the send is a
success. -/
theorem status_answerOf_iff {o : Outcome} {made : List Delivery} (h : o.Reports false made)
    (s : State) :
    (∃ resp, ((answerOf (resultOf o)).exec s).1 = .ok resp ∧ resp.status = 200) ↔ o.ok = true := by
  constructor
  · rintro ⟨resp, hresp, hstatus⟩
    by_contra hok
    obtain ⟨p, hp, hne⟩ := exists_problem_of_failed (Bool.eq_false_of_not_eq_true hok)
    rw [hp] at hresp
    exact hne ((yields_answerOf_problem p s resp _ (Prod.ext hresp rfl)).symm.trans hstatus)
  · intro hok
    obtain ⟨d, hd, status, hended, -⟩ := h.ok_iff.mp hok
    have hdetail : o.detail = [] := h.detail_of_answered d hd status hended
    have hanswer : IsAnswer o (.receipt o) := .accepted hok (h.failure_eq_none_iff.mpr hok)
    obtain ⟨s', hrun, -⟩ := exec_answerOf_of_isAnswer hanswer (by rw [hdetail]; rfl) s
    exact ⟨.receipt o, by rw [hrun], rfl⟩

/-- The gateway grants the request exactly if the send of the errand is a success. -/
theorem granted_iff (he : e.IsPassable) (hr : e.IsPosted r s.currentGatewaySettings) :
    (∃ resp, ((handle r).exec s).1 = .ok resp ∧ resp.status = 200) ↔
      Succeeds (e.send.exec { s with gatewaySettings := some s.currentGatewaySettings }).1 := by
  have hwork := exec_work he hr
  rw [exec_handle_at hr.reaches]
  rcases hsend : e.send.exec { s with gatewaySettings := some s.currentGatewaySettings } with
    ⟨fault | o, s₁⟩
  · rw [Run.exec_bind_of_error hsend] at hwork
    rw [Run.exec_bind_of_error hwork]
    simp [internalError, Response.json, Succeeds]
  · rw [Run.exec_bind_of_ok hsend] at hwork
    rw [exec_send] at hsend
    obtain ⟨made, -, hreports⟩ := Client.exists_exchanged_of_exec_send rfl hsend
    have hstatus := status_answerOf_iff hreports s₁
    rw [Run.exec_bind_of_ok hwork]
    rcases hanswer : (answerOf (resultOf o)).exec s₁ with ⟨fault | resp, s₂⟩
    · rw [hanswer] at hstatus
      simpa [internalError, Response.json, Succeeds] using hstatus
    · rw [hanswer] at hstatus
      simpa [Succeeds] using hstatus

end

/-! ## The three ways -/

/-- **One message by three ways.** Sent by a call of the library, by the program with its options in
any order, and by a request to the gateway, a message has the same call to make, none or one, over
any open transports and with the same client settings. The program may also find no shared transport
and open its own, without cookies. Each way makes this call with the cookies of its own transport:
they are one header of the request, and nothing else in it, and they may keep the address from being
called. So the requests are the same where that header is. If the cookies of all three let the
address be called, or those of none, then with the same reply the program ends with status 0 exactly
if the call is a success, and so does the gateway answer with status 200. -/
theorem frontEnds_agree [Installation] {lib cli gw : State} {t t' t'' : Transport}
    {settings : ClientSettings} {arguments : List Text} {r : Gateway.Request} (he : e.IsPassable)
    (hlib : lib.Shares t)
    (hcli : cli.Shares t' ∨ cli.shared = none ∧ t'.cookies = []) (hgw : gw.Shares t'')
    (hlibSettings : lib.currentClientSettings = settings)
    (hcliSettings : cli.currentClientSettings = settings)
    (hgwSettings : gw.currentClientSettings = settings)
    (harguments : arguments.Perm e.arguments) (hlevel : Log.NamesLevel cli.environment)
    (hr : e.IsPosted r gw.currentGatewaySettings) :
    let call := e.call? settings
    (e.send.exec lib).2.wire = lib.wire ++ Call.sent t.cookies call ∧
      ((CommandLine.Send.run arguments).exec cli).2.wire = cli.wire ++ Call.sent t'.cookies call ∧
      ((Gateway.App.handle r).exec gw).2.wire = gw.wire ++ Call.sent t''.cookies call ∧
      (Call.allowed t'.cookies call = Call.allowed t.cookies call →
        Call.allowed t''.cookies call = Call.allowed t.cookies call →
        cli.nextReply = lib.nextReply → gw.nextReply = lib.nextReply →
          ((∃ report, ((CommandLine.Send.run arguments).exec cli).1 = .ok report ∧
            report.status = 0) ↔ Succeeds (e.send.exec lib).1) ∧
          (Succeeds (e.send.exec lib).1 ↔
            ∃ resp, ((Gateway.App.handle r).exec gw).1 = .ok resp ∧ resp.status = 200)) := by
  intro call
  obtain ⟨s₁, t₁, hs₁, hcookies₁, hsettings₁, hreply₁, hwire₁, hrun, hrunWire⟩ :=
    exec_run_of_shares he harguments hlevel hcli
  let s₂ : State := { gw with gatewaySettings := some gw.currentGatewaySettings }
  have hs₂ : s₂.Shares t'' := hgw
  have hsettings₂ : s₂.currentClientSettings = settings := hgwSettings
  rw [hcliSettings] at hsettings₁
  refine ⟨?_, ?_, ?_, fun hcliCookies hgwCookies hcliReply hgwReply => ?_⟩
  · rw [wire_exec_send hlib, hlibSettings]
  · rw [hrunWire, wire_exec_send hs₁, hsettings₁, hcookies₁, hwire₁]
  · rw [wire_exec_handle he hr, wire_exec_send hs₂, hsettings₂]
  · have hreply₂ : s₂.nextReply = lib.nextReply := hgwReply
    rw [hrun, status_reported_iff, granted_iff he hr, succeeds_send_iff hlib,
      succeeds_send_iff hs₁, succeeds_send_iff hs₂, hlibSettings, hsettings₁, hsettings₂,
      hcookies₁, hcliCookies, hgwCookies, hreply₁, hcliReply, hreply₂]
    exact ⟨Iff.rfl, Iff.rfl⟩

open scoped Installation in
/-- A message whose values look like options and assignments, or are empty. The transport of the
library and the gateway was given a cookie before; the program gets its options in another order and
opens a transport of its own. -/
theorem frontEnds_agree_of_optionLike :
    let e : Errand := ⟨Text.ofString "AC1", Text.ofString "t", Text.ofString "--to",
      Text.ofString "-v", Text.ofString "a=b", []⟩
    let settings : GatewaySettings := { GatewaySettings.ofEnvironment .empty with
      sid := some (Text.ofString "AC1"), token := some (Text.ofString "t") }
    let cookies : Cookie.Jar := Cookie.Jar.insert [] ⟨⟨Text.ofString "api.twilio.com",
      Text.ofString "/", Text.ofString "k"⟩, some (Text.ofString "v"), false, none, true⟩
    let cli : State := { State.initial 0 .empty .initial with
      gatewaySettings := some settings, replies := [.response 201 [] [] none] }
    let s : State := { cli with transports := [⟨.usual, true, cookies⟩], shared := some 0 }
    let r : Gateway.Request := ⟨Text.ofString "POST", Text.ofString "http://testserver",
      Text.ofString "/api/v1/messages", [], Utf8.encodeAll (Text.ofString
        "\x7b\"to\":\"--to\",\"from\":\"-v\",\"body\":\"a=b\",\"media_url\":\"\"\x7d"),
      Gateway.Request.jsonType⟩
    (e.send.exec s).2.wire.map (·.cookie) = [some (Text.ofString "k=v")] ∧
      ((CommandLine.Send.run e.arguments.reverse).exec cli).2.wire.map (·.cookie) = [none] ∧
      ((Gateway.App.handle r).exec s).2.wire = (e.send.exec s).2.wire ∧
      (∃ report, ((CommandLine.Send.run e.arguments.reverse).exec cli).1 = .ok report ∧
        report.status = 0) ∧
      ∃ resp, ((Gateway.App.handle r).exec s).1 = .ok resp ∧ resp.status = 200 := by
  intro e settings cookies cli s r
  let own : Transport := ⟨.usual, true, []⟩
  have he : e.IsPassable := ⟨by decide, by decide, by decide, by decide⟩
  have hs : s.Shares ⟨.usual, true, cookies⟩ := ⟨rfl, 0, rfl, rfl⟩
  have hcli : cli.shared = none ∧ own.cookies = [] := ⟨rfl, rfl⟩
  have hlevel : Log.NamesLevel cli.environment := by
    intro t ht
    cases ht
  have hr : e.IsPosted r s.currentGatewaySettings :=
    ⟨Gateway.Request.reaches_messages rfl rfl,
      ⟨_, rfl, rfl, ⟨_, rfl⟩, rfl, rfl, fun _ h => by cases h⟩, rfl, rfl⟩
  obtain ⟨hlib, hprogram, hgw, hsame⟩ := frontEnds_agree he hs (.inr hcli) hs rfl rfl rfl
    (List.reverse_perm _) hlevel hr
  have hallowed : Call.allowed own.cookies (e.call? cli.currentClientSettings) =
      Call.allowed cookies (e.call? cli.currentClientSettings) := by decide +kernel
  have hsucceeds : Succeeds (e.send.exec s).1 := by
    obtain ⟨s', hrun⟩ := Run.exists_exec_of_toOption
      (show (e.send.exec s).1.toOption = some (.accepted 201 []) by decide +kernel)
    exact ⟨.accepted 201 [], by rw [hrun], rfl⟩
  obtain ⟨hstatus, hgranted⟩ := hsame hallowed rfl rfl rfl
  refine ⟨?_, ?_, hgw.trans hlib.symm, hstatus.mpr hsucceeds, hgranted.mp hsucceeds⟩
  · rw [hlib]
    decide +kernel
  · rw [hprogram]
    decide +kernel

open scoped Installation in
/-- The shared transport was given a cookie, and the settings name an address without a scheme. The
call of the library ends in a fault before there is a request, for the address is looked at as that
of a site. The program, which opens a transport of its own, makes its request. -/
theorem frontEnds_agree_foreignCookie :
    let e : Errand := ⟨Text.ofString "AC1", Text.ofString "t", Text.ofString "+1",
      Text.ofString "+2", Text.ofString "hi", []⟩
    let words := Text.ofString "Request URL is missing an 'http://' or 'https://' protocol."
    let cookies : Cookie.Jar := Cookie.Jar.insert [] ⟨⟨Text.ofString "api.twilio.com",
      Text.ofString "/", Text.ofString "k"⟩, some (Text.ofString "v"), false, none, true⟩
    let cli : State := { State.initial 0
      ⟨[(Text.ofString "TWILIO_API_BASE_URL", Text.ofString "api.example.com")]⟩ .initial with
      replies := [.failure .unsupportedProtocol words] }
    let s : State := { cli with transports := [⟨.usual, true, cookies⟩], shared := some 0 }
    e.IsPassable ∧ Log.NamesLevel cli.environment ∧
      (e.send.exec s).1.mapError Fault.message = .error (Text.ofString
        "unknown url type: '/api.example.com/2010-04-01/Accounts/AC1/Messages'") ∧
      (e.send.exec s).2.wire = [] ∧
      ((CommandLine.Send.run e.arguments).exec cli).2.wire.length = 1 := by
  intro e words cookies cli s
  have he : e.IsPassable := ⟨by decide, by decide, by decide, by decide⟩
  have hlevel : Log.NamesLevel cli.environment := by
    intro t ht
    cases ht
  exact ⟨he, hlevel, by decide +kernel, by decide +kernel, by decide +kernel⟩

end Errand

end Courier
