import Courier.Proofs.Client.Exchange
import Courier.Proofs.Gateway.Answer
import Courier.Proofs.Shared.Holdings

/-!
# The answer to a submission

A submission that can be read is sent as soon as an account and a sender are known, and the answer
tells its outcome: what was accepted is granted, and what was not is refused with the reason. So the
status of the answer says whether the provider was asked, and what it said.

Results:
* `GatewaySettings.account?_eq_none_iff`, `App.senderOf_eq`: when an account and a sender are known.
* `App.exec_withClient_of_none`, `App.exec_withClient_of_some`: the client of a submission.
* `exists_isAnswer`, `IsAnswer.tells`, `IsAnswer.accounts`: the answer for an outcome.
* `App.handle_without_account`, `App.handle_without_sender`: submissions that are not sent.
* `App.handle_tells`: the answer to a submission.
-/

namespace Courier

/-! ## What is configured -/

namespace GatewaySettings

theorem nonEmpty?_eq_some_iff {t : Option Text} {u : Text} :
    nonEmpty? t = some u ↔ t = some u ∧ u ≠ [] := by
  simp [nonEmpty?, Option.filter_eq_some_iff]

theorem nonEmpty?_eq (t : Option Text) :
    nonEmpty? t = if t.getD [] = [] then none else some (t.getD []) := by
  cases t with
  | none => rfl
  | some u => cases u <;> rfl

/-- There is no account where its name or its token is missing or empty. -/
theorem account?_eq_none_iff {s : GatewaySettings} :
    s.account? = none ↔ s.sid.getD [] = [] ∨ s.token.getD [] = [] := by
  unfold account?
  rw [nonEmpty?_eq, nonEmpty?_eq]
  by_cases hsid : s.sid.getD [] = []
  · simp [hsid]
  · by_cases htoken : s.token.getD [] = []
    · simp [hsid, htoken]
    · simp [hsid, htoken]

theorem account?_of_eq_some {s : GatewaySettings} {sid token : Text} (hs : s.sid = some sid)
    (hsid : sid ≠ []) (ht : s.token = some token) (htoken : token ≠ []) :
    s.account? = some (sid, token) := by
  have hsid' : nonEmpty? s.sid = some sid := nonEmpty?_eq_some_iff.mpr ⟨hs, hsid⟩
  have htoken' : nonEmpty? s.token = some token := nonEmpty?_eq_some_iff.mpr ⟨ht, htoken⟩
  simp [account?, hsid', htoken']

end GatewaySettings

/-- The sender of a submission, or the one configured where it has none or an empty one. -/
def Submission.senderIn (sub : Submission) (settings : GatewaySettings) : Text :=
  if sub.sender.getD [] = [] then settings.sender.getD [] else sub.sender.getD []

theorem Submission.senderIn_eq_nil_iff {sub : Submission} {settings : GatewaySettings} :
    sub.senderIn settings = [] ↔ sub.sender.getD [] = [] ∧ settings.sender.getD [] = [] := by
  unfold senderIn
  by_cases hown : sub.sender.getD [] = []
  · simp [hown]
  · simp [hown]

/-- The state in which all settings were read. -/
def State.prepared (s : State) : State :=
  { s with gatewaySettings := some s.currentGatewaySettings
           clientSettings := some s.currentClientSettings }

/-- A client of texts is made with the settings of the state. -/
theorem Client.exec_new (sid token : Text) (s : State) :
    (Client.new (.text sid) (.text token) none none).exec s =
      (.ok ⟨⟨sid, token⟩, none, s.currentClientSettings⟩,
        { s with clientSettings := some s.currentClientSettings }) := by
  have hcredentials : (Run.checked .credentials (Credentials.ofValue
      (.ofFields [("account_sid", .text sid), ("auth_token", .text token)]))).exec s =
      (.ok ⟨sid, token⟩, s) := rfl
  unfold Client.new
  rw [Run.exec_bind_of_ok hcredentials]
  exact Run.exec_bind_of_ok (Run.exec_clientSettings s) _

namespace Gateway

/-- The answer in which the outcome of a send is granted. -/
def Response.receipt (o : Outcome) : Response :=
  .json 200 (.ofFields [("ok", .bool true), ("result", .object o.fields)])

/-- The words in which a message is refused whose exchange broke off. -/
def brokenWords (o : Outcome) : Text := Text.ofString "Send error: " ++ o.detail

/-- The words in which a message is refused that the provider refused with a status. -/
def refusedWords (o : Outcome) (status : Int) : Text :=
  Text.ofString "Twilio returned HTTP " ++ Text.ofInt status
    ++ if o.detail = [] then [] else Text.ofString ": " ++ o.detail

/-- An answer tells the outcome of a send: what was accepted is granted with all its fields, and
what was not is refused with its detail. -/
structure Response.Tells (resp : Response) (o : Outcome) : Prop where
  granted_iff : resp = .receipt o ↔ o.ok = true
  validation_iff : resp = .refusal 422 o.detail ↔ o.failure = some .validation
  transport_iff : resp = .refusal 502 (brokenWords o) ↔ o.failure = some .transport
  provider_iff : (∃ status, o.status = some status ∧ resp = .refusal 502 (refusedWords o status)) ↔
    o.failure = some .provider

/-- The status of an answer says which exchanges were made for it, and what the provider said. -/
structure Response.Accounts (resp : Response) (made : List (WireRequest × Delivery)) : Prop where
  granted_iff : resp.status = 200 ↔ ∃ e, made = [e] ∧
    ∃ status, e.2.ending = .answered status ∧ (status = 200 ∨ status = 201)
  of_unprocessable : resp.status = 422 → made = []
  of_badGateway : resp.status = 502 → ∃ e, made = [e]

/-! ## The answer for an outcome -/

/-- The answer for an outcome, by the end of its send. -/
inductive IsAnswer (o : Outcome) : Response → Prop
  | accepted (h : o.ok = true) (hf : o.failure = none) : IsAnswer o (.receipt o)
  | rejected (h : o.ok = false) (hf : o.failure = some .validation) :
      IsAnswer o (.refusal 422 o.detail)
  | broken (h : o.ok = false) (hf : o.failure = some .transport) :
      IsAnswer o (.refusal 502 (brokenWords o))
  | refused {status : Int} (h : o.ok = false) (hf : o.failure = some .provider)
      (hs : o.status = some status) : IsAnswer o (.refusal 502 (refusedWords o status))

theorem Response.refusal_inj {a b : Int} {t u : Text} :
    refusal a t = refusal b u ↔ a = b ∧ t = u := by
  simp [refusal, json, Value.ofFields]

theorem Response.receipt_ne_refusal (o : Outcome) (status : Int) (words : Text) :
    receipt o ≠ refusal status words := by
  simp [receipt, refusal, json, Value.ofFields]

theorem brokenWords_ne_refusedWords (o : Outcome) (status : Int) :
    brokenWords o ≠ refusedWords o status := by
  intro h
  have hfirst : CodePoint.ofChar 'S' = CodePoint.ofChar 'T' :=
    Option.some.inj (congrArg List.head? h)
  exact absurd hfirst (by decide)

theorem IsAnswer.tells {o : Outcome} {resp : Response} (h : IsAnswer o resp) : resp.Tells o := by
  cases h with
  | accepted hok hf =>
    constructor <;> simp [hok, hf, Response.receipt_ne_refusal]
  | rejected hok hf =>
    constructor <;>
      simp [hok, hf, Response.refusal_inj, (Response.receipt_ne_refusal o _ _).symm]
  | broken hok hf =>
    constructor <;>
      simp [hok, hf, Response.refusal_inj, (Response.receipt_ne_refusal o _ _).symm,
        brokenWords_ne_refusedWords]
  | refused hok hf hs =>
    constructor <;>
      simp [hok, hf, hs, Response.refusal_inj, (Response.receipt_ne_refusal o _ _).symm,
        (brokenWords_ne_refusedWords o _).symm]

/-- There is an answer for every outcome that reports a send. -/
theorem exists_isAnswer {o : Outcome} {verbose : Bool} {made : List Delivery}
    (h : o.Reports verbose made) : ∃ resp, IsAnswer o resp := by
  have hok : o.failure ≠ none → o.ok = false := by
    intro hf
    rw [← Bool.not_eq_true]
    exact mt h.failure_eq_none_iff.mpr hf
  cases hf : o.failure with
  | none => exact ⟨_, .accepted (h.failure_eq_none_iff.mp hf) hf⟩
  | some failure =>
    rw [hf] at hok
    cases failure with
    | validation => exact ⟨_, .rejected (hok (by simp)) hf⟩
    | transport => exact ⟨_, .broken (hok (by simp)) hf⟩
    | provider =>
      obtain ⟨d, hd, status, hended, -⟩ := h.provider_iff.mp hf
      have hs : o.status = some status := (h.status_iff status).mpr ⟨d, hd, hended⟩
      exact ⟨_, .refused (hok (by simp)) hf hs⟩

theorem IsAnswer.status_cases {o : Outcome} {resp : Response} (h : IsAnswer o resp) :
    (resp.status = 200 ↔ o.ok = true) ∧ (resp.status = 422 → o.failure = some .validation) ∧
      (resp.status = 502 → o.failure ≠ some .validation) := by
  cases h with
  | accepted hok hf => simp [Response.receipt, Response.json, hok]
  | rejected hok hf => simp [Response.refusal, Response.json, hok, hf]
  | broken hok hf => simp [Response.refusal, Response.json, hok, hf]
  | refused hok hf hs => simp [Response.refusal, Response.json, hok, hf]

/-- The status of the answer goes with the exchanges that the outcome reports. -/
theorem IsAnswer.accounts {o : Outcome} {resp : Response} {verbose : Bool}
    {made : List (WireRequest × Delivery)} (h : IsAnswer o resp)
    (hr : o.Reports verbose (made.map (·.2))) : resp.Accounts made := by
  obtain ⟨hgranted, hunprocessable, hbadGateway⟩ := h.status_cases
  have hmade : made = [] ∨ ∃ e, made = [e] := by
    have hlength := hr.at_most_one
    rw [List.length_map] at hlength
    cases made with
    | nil => exact .inl rfl
    | cons e rest =>
      obtain rfl : rest = [] := List.length_eq_zero_iff.mp (by simpa using hlength)
      exact .inr ⟨e, rfl⟩
  have hnil : o.failure = some .validation ↔ made = [] := by
    rw [hr.validation_iff, List.map_eq_nil_iff]
  refine ⟨?_, fun hs => hnil.mp (hunprocessable hs), fun hs => ?_⟩
  · rw [hgranted, hr.ok_iff]
    obtain rfl | ⟨e, rfl⟩ := hmade
    · simp
    · simp
  · exact hmade.resolve_left fun hn => hbadGateway hs (hnil.mpr hn)

namespace App

theorem senderOf_eq (settings : GatewaySettings) (sub : Submission) :
    senderOf settings sub =
      if sub.senderIn settings = [] then none else some (sub.senderIn settings) := by
  unfold senderOf Submission.senderIn
  rw [GatewaySettings.nonEmpty?_eq, GatewaySettings.nonEmpty?_eq]
  by_cases hown : sub.sender.getD [] = []
  · simp [hown]
  · simp [hown]

/-! ## The client of a submission -/

/-- The words in which a message is refused without an account. -/
def noAccount : Text :=
  Text.ofString "Missing TWILIO_ACCOUNT_SID or TWILIO_AUTH_TOKEN environment variables"

/-- The words in which a message is refused without a sender. -/
def noSender : Text :=
  Text.ofString "Missing sender: provide 'from' or set TWILIO_FROM_NUMBER"

theorem exec_withClient_of_none {s : State} (h : s.currentGatewaySettings.account? = none)
    (act : GatewaySettings → Client → Run Result) :
    (withClient act).exec s = (.ok (.problem (.ofText 503 noAccount)),
      { s with gatewaySettings := some s.currentGatewaySettings }) := by
  unfold withClient
  rw [Run.exec_bind_of_ok (Run.exec_gatewaySettings s), h]
  rfl

theorem exec_withClient_of_some {s : State} {sid token : Text}
    (h : s.currentGatewaySettings.account? = some (sid, token))
    (act : GatewaySettings → Client → Run Result) :
    (withClient act).exec s =
      (act s.currentGatewaySettings ⟨⟨sid, token⟩, none, s.currentClientSettings⟩).exec
        s.prepared := by
  have hnew : (Client.new (.text sid) (.text token) none none).exec
      { s with gatewaySettings := some s.currentGatewaySettings } =
      (.ok ⟨⟨sid, token⟩, none, s.currentClientSettings⟩, s.prepared) :=
    Client.exec_new sid token _
  unfold withClient
  rw [Run.exec_bind_of_ok (Run.exec_gatewaySettings s), h]
  exact Run.exec_bind_of_ok hnew _

/-! ## The answer to a submission -/

theorem isPlain_receipt {o : Outcome} (h : o.detail.isWellFormed = true) (depth : Nat) :
    (Value.ofFields [("ok", .bool true), ("result", .object o.fields)]).IsPlain (depth + 2) := by
  have hfailure : (Value.ofOption (fun f => .text f.word) o.failure).IsPlain depth := by
    cases o.failure with
    | none => exact .null depth
    | some failure => cases failure <;> exact .text depth (Text.isWellFormed_ofString _)
  have hstatus : (Value.ofOption .int o.status).IsPlain depth := by
    cases o.status with
    | none => exact .null depth
    | some status => exact .int depth status
  have hfields : (Value.ofFields [("ok", .bool o.ok), ("detail", .text o.detail),
      ("error", Value.ofOption (fun f => .text f.word) o.failure),
      ("status_code", Value.ofOption .int o.status)]).IsPlain (depth + 1) :=
    Value.isPlain_ofFields ⟨.bool depth o.ok, .text depth h, hfailure, hstatus⟩
  exact Value.isPlain_ofFields ⟨.bool _ true, hfields⟩

theorem isWellFormed_brokenWords {o : Outcome} (h : o.detail.isWellFormed = true) :
    (brokenWords o).isWellFormed = true := by
  rw [brokenWords, Text.isWellFormed_append, Text.isWellFormed_ofString, h]
  rfl

theorem isWellFormed_refusedWords {o : Outcome} (h : o.detail.isWellFormed = true) (status : Int) :
    (refusedWords o status).isWellFormed = true := by
  have htail : Text.isWellFormed
      (if o.detail = [] then [] else Text.ofString ": " ++ o.detail) = true := by
    refine Text.isWellFormed_ite rfl ?_
    rw [Text.isWellFormed_append, Text.isWellFormed_ofString, h]
    rfl
  rw [refusedWords, Text.isWellFormed_append, Text.isWellFormed_append, Text.isWellFormed_ofString,
    Text.isWellFormed_ofInt, htail]
  rfl

section

variable [Installation]

/-- The answer for an outcome can be written, if the detail of it can. -/
theorem exec_answerOf_of_isAnswer {o : Outcome} {resp : Response} (h : IsAnswer o resp)
    (hw : o.detail.isWellFormed = true) (s : State) :
    ∃ s', (answerOf (resultOf o)).exec s = (.ok resp, s') ∧ s'.wire = s.wire := by
  cases h with
  | accepted hok hf =>
    obtain ⟨octets, hcontent⟩ := Response.exists_content?_of_isPlain (isPlain_receipt hw _) 200
    have hresult : resultOf o = .answer (.receipt o) := by
      rw [resultOf, if_pos hok]
      rfl
    rw [hresult]
    exact ⟨s, exec_answerOf_answer hcontent s, rfl⟩
  | rejected hok hf =>
    have hresult : resultOf o = .problem (.ofText 422 o.detail) := by
      simp [resultOf, hok, hf]
    rw [hresult]
    exact ⟨_, exec_answerOf_problem hw 422 s, rfl⟩
  | broken hok hf =>
    have hresult : resultOf o = .problem (.ofText 502 (brokenWords o)) := by
      simp [resultOf, hok, hf, brokenWords]
    rw [hresult]
    exact ⟨_, exec_answerOf_problem (isWellFormed_brokenWords hw) 502 s, rfl⟩
  | @refused status hok hf hs =>
    have hresult : resultOf o = .problem (.ofText 502 (refusedWords o status)) := by
      simp [resultOf, hok, hf, hs, refusedWords]
    rw [hresult]
    exact ⟨_, exec_answerOf_problem (isWellFormed_refusedWords hw status) 502 s, rfl⟩

/-- A submission with an account is sent by a client of it, when all settings were read. -/
theorem exec_messages_of_valid {v : Value} {sub : Submission} {s : State} {sid token : Text}
    (hsub : submissionOf v = .valid sub)
    (h : s.currentGatewaySettings.account? = some (sid, token)) :
    (messages (.value v)).exec s = (submit s.currentGatewaySettings
      ⟨⟨sid, token⟩, none, s.currentClientSettings⟩ sub).exec s.prepared := by
  unfold messages
  rw [exec_withClient_of_some h, hsub]

section

variable {r : Request} {v : Value} {sub : Submission} {s : State} {sid token : Text}

/-- The account is looked for before anything else of a submission. -/
theorem handle_without_account (hr : r.Reaches .messages) (hv : r.payload = .value v)
    (h : s.currentGatewaySettings.account? = none) :
    ∃ s', (handle r).exec s = (.ok (.refusal 503 noAccount), s') ∧ s'.wire = s.wire := by
  have hwords : noAccount.isWellFormed = true := Text.isWellFormed_ofString _
  have hwork : (work r .messages).exec s = (.ok (.problem (.ofText 503 noAccount)),
      { s with gatewaySettings := some s.currentGatewaySettings }) := by
    rw [work, hv]
    exact exec_withClient_of_none h _
  exact ⟨_, exec_handle_of_reaches hr hwork (exec_answerOf_problem hwords 503 _), rfl⟩

theorem handle_without_sender (hr : r.Reaches .messages) (hv : r.payload = .value v)
    (hsub : submissionOf v = .valid sub)
    (h : s.currentGatewaySettings.account? = some (sid, token))
    (hsender : sub.senderIn s.currentGatewaySettings = []) :
    ∃ s', (handle r).exec s = (.ok (.refusal 422 noSender), s') ∧ s'.wire = s.wire := by
  have hwords : noSender.isWellFormed = true := Text.isWellFormed_ofString _
  have hwork : (work r .messages).exec s = (.ok (.problem (.ofText 422 noSender)), s.prepared) := by
    rw [work, hv, exec_messages_of_valid hsub h, submit, senderOf_eq, if_pos hsender]
    rfl
  exact ⟨_, exec_handle_of_reaches hr hwork (exec_answerOf_problem hwords 422 _), rfl⟩

/-- The answer to a submission that is sent, from the outcome of its send. -/
theorem handle_of_sendMessage (hr : r.Reaches .messages) (hv : r.payload = .value v)
    (hsub : submissionOf v = .valid sub)
    (h : s.currentGatewaySettings.account? = some (sid, token))
    (hsender : sub.senderIn s.currentGatewaySettings ≠ []) {o : Outcome} {s₁ : State}
    (hsend : (Client.sendMessage ⟨⟨sid, token⟩, none, s.currentClientSettings⟩
      (.text sub.recipient) (.text (sub.senderIn s.currentGatewaySettings)) (.text sub.body)
      (Value.ofOption .text sub.mediaUrl) sub.verbose).exec s.prepared = (.ok o, s₁))
    (hw : o.detail.isWellFormed = true) :
    ∃ resp s' made, (handle r).exec s = (.ok resp, s') ∧ s.Exchanged s' made ∧ resp.Tells o ∧
      resp.Accounts made := by
  have hwork : (work r .messages).exec s = (.ok (resultOf o), s₁) := by
    rw [work, hv, exec_messages_of_valid hsub h, submit, senderOf_eq, if_neg hsender]
    exact Run.exec_bind_of_ok hsend _
  obtain ⟨made, hmade, hreports⟩ := Client.exists_exchanged_of_exec_sendMessage rfl hsend
  obtain ⟨resp, hresp⟩ := exists_isAnswer hreports
  obtain ⟨s', hanswer, hwire⟩ := exec_answerOf_of_isAnswer hresp hw s₁
  have hexchanged : s.Exchanged s' made := by
    refine ⟨?_, hmade.gives⟩
    rw [hwire]
    exact hmade.wire_eq
  exact ⟨resp, s', made, exec_handle_of_reaches hr hwork hanswer, hexchanged, hresp.tells,
    hresp.accounts hreports⟩

end

/-- **The answer to a submission.** Without an account it is refused with the status 503, and
without a sender with 422, and nothing goes over the wire. Any other is sent, and where that comes
to an outcome whose detail has octets, the answer tells the outcome and its status accounts for the
exchanges with the provider. -/
theorem handle_tells {r : Request} {v : Value} {sub : Submission} {s : State}
    {settings : GatewaySettings} (hr : r.Reaches .messages) (hv : r.payload = .value v)
    (hsub : submissionOf v = .valid sub) (hsettings : s.currentGatewaySettings = settings) :
    (settings.sid.getD [] = [] ∨ settings.token.getD [] = [] →
      ∃ s', (handle r).exec s = (.ok (.refusal 503 noAccount), s') ∧ s'.wire = s.wire) ∧
    ∀ sid token, settings.sid = some sid → sid ≠ [] → settings.token = some token → token ≠ [] →
      (sub.sender.getD [] = [] ∧ settings.sender.getD [] = [] →
        ∃ s', (handle r).exec s = (.ok (.refusal 422 noSender), s') ∧ s'.wire = s.wire) ∧
      (¬(sub.sender.getD [] = [] ∧ settings.sender.getD [] = []) → ∀ o s₁,
        (Client.sendMessage ⟨⟨sid, token⟩, none, s.currentClientSettings⟩ (.text sub.recipient)
          (.text (sub.senderIn settings)) (.text sub.body) (Value.ofOption .text sub.mediaUrl)
          sub.verbose).exec s.prepared = (.ok o, s₁) →
        o.detail.isWellFormed = true →
        ∃ resp s' made, (handle r).exec s = (.ok resp, s') ∧ s.Exchanged s' made ∧
          resp.Tells o ∧ resp.Accounts made) := by
  subst hsettings
  refine ⟨fun hmissing => ?_, fun sid token hs hsid ht htoken => ?_⟩
  · exact handle_without_account hr hv (GatewaySettings.account?_eq_none_iff.mpr hmissing)
  · have haccount := GatewaySettings.account?_of_eq_some hs hsid ht htoken
    rw [← Submission.senderIn_eq_nil_iff]
    refine ⟨fun hsender => ?_, fun hsender o s₁ hsend hw => ?_⟩
    · exact handle_without_sender hr hv hsub haccount hsender
    · exact handle_of_sendMessage hr hv hsub haccount hsender hsend hw

end

open scoped Installation in
/-- A submission without a sender of its own, whose message the provider refuses. -/
theorem handle_tells_refused :
    let r : Request := ⟨Text.ofString "POST", Text.ofString "http://testserver",
      Text.ofString "/api/v1/messages", [],
      Utf8.encodeAll (Text.ofString "\x7b\"to\":\"+1\",\"body\":\"hi\",\"verbose\":true\x7d"),
      Request.jsonType⟩
    let settings : GatewaySettings := { GatewaySettings.ofEnvironment .empty with
      sid := some (Text.ofString "AC1"), token := some (Text.ofString "t")
      sender := some (Text.ofString "+2") }
    let s : State := { State.initial 0 .empty .initial with
      gatewaySettings := some settings, transports := [⟨.usual, true, []⟩], shared := some 0
      replies := [.response 400 [] [Utf8.encodeAll (Text.ofString "no")] none] }
    let sub : Submission := ⟨Text.ofString "+1", none, Text.ofString "hi", none, true⟩
    let resp : Response := .refusal 502 (Text.ofString "Twilio returned HTTP 400: no")
    r.Reaches .messages ∧ (∃ v, r.payload = .value v ∧ submissionOf v = .valid sub) ∧
      ∃ s' made, (handle r).exec s = (.ok resp, s') ∧ s.Exchanged s' made ∧
        resp.Accounts made := by
  intro r settings s sub resp
  let v : Value := .ofFields
    [("to", .string "+1"), ("body", .string "hi"), ("verbose", .bool true)]
  let o : Outcome := .refused 400 (Text.ofString "no")
  have hr : r.Reaches .messages := Request.reaches_messages rfl rfl
  have hpayload : r.payload = .value v := rfl
  have hsub : submissionOf v = .valid sub := rfl
  have hsend : ∃ s₁, (Client.sendMessage
      ⟨⟨Text.ofString "AC1", Text.ofString "t"⟩, none, s.currentClientSettings⟩
      (.text sub.recipient) (.text (sub.senderIn settings)) (.text sub.body)
      (Value.ofOption .text sub.mediaUrl) sub.verbose).exec s.prepared = (.ok o, s₁) :=
    Run.exists_exec_of_toOption (by decide +kernel)
  obtain ⟨s₁, hsend⟩ := hsend
  obtain ⟨-, hconfigured⟩ := handle_tells (s := s) hr hpayload hsub rfl
  obtain ⟨-, hsent⟩ := hconfigured _ _ rfl (by decide) rfl (by decide)
  obtain ⟨own, s', made, hrun, hexchanged, htells, haccounts⟩ :=
    hsent (by decide) o s₁ hsend (by decide)
  obtain ⟨status, hstatus, hown⟩ := htells.provider_iff.mpr rfl
  cases hstatus
  have hwords : refusedWords o 400 = Text.ofString "Twilio returned HTTP 400: no" := by decide
  rw [hwords] at hown
  subst hown
  exact ⟨hr, ⟨v, hpayload, hsub⟩, s', made, hrun, hexchanged, haccounts⟩

end App

end Gateway

end Courier
