import Courier.Proofs.Client.Once
import Courier.Proofs.Client.Wire

/-!
# The call of a send, and when it is granted

Over an open transport of the network, a send makes one call or none. Which it is depends on the
client and the message alone, but for the cookies of the transport: they make one header of the
request, and they may keep an address that is no site of a server from being called. Whether the
send then comes to an outcome that is a success depends on the next reply alone. So sends from
states that have little in common can be compared by these.

Results:
* `Transport.exec_deliver_of_call?`: a post over an open transport.
* `Client.wire_exec_send`: what a send puts on the wire.
* `Client.succeeds_send_iff`: when a send is a success.
-/

namespace Courier

/-! ## Calls and cookies -/

namespace Call

/-- Cookies let an address be called. -/
def lets (jar : Cookie.Jar) (url : Url) : Bool := (checkCookies jar url).isOk

/-- What is left of a call, an address and its request, over a transport with cookies. -/
def allowed (jar : Cookie.Jar) (call : Option (Url × WireRequest)) : Option (Url × WireRequest) :=
  call.filter fun c => lets jar c.1

/-- The request of a call, with the header of the cookies that go along. -/
def requestWith (jar : Cookie.Jar) (call : Url × WireRequest) : WireRequest :=
  { call.2 with cookie := cookieHeader? jar call.1 }

/-- What a call puts on the wire over a transport with cookies. -/
def sent (jar : Cookie.Jar) (call : Option (Url × WireRequest)) : List WireRequest :=
  ((allowed jar call).map (requestWith jar)).toList

theorem lets_iff {jar : Cookie.Jar} {url : Url} :
    lets jar url = true ↔ checkCookies jar url = .ok () := by
  unfold lets
  cases checkCookies jar url <;> simp [Except.isOk, Except.toBool]

end Call

/-! ## The call of a post -/

namespace Transport

variable [Installation]

/-- The address that a post is made to and the request that it becomes, where there are no cookies.
If one of its parts has no octets or the address cannot be called, there is none. -/
def call? (p : Post) : Option (Url × WireRequest) :=
  match Utf8.encodeEscaped? p.payload, addressOf [] p, basicAuthorization? p.user p.password with
  | .ok content, .ok url, .ok authorization => some (url, ⟨url.text, authorization, none, content⟩)
  | _, _, _ => none

/-- A post over an open transport makes its call, if the cookies allow it, or ends in a fault at
once. -/
theorem exec_deliver_of_call? {id : Nat} {s : State} (ho : s.IsOpen id) (p : Post) :
    (Call.allowed (s.jarOf id) (call? p) = none ∧
        ∃ fault, (deliver id p).exec s = (.error fault, s)) ∨
      ∃ call, Call.allowed (s.jarOf id) (call? p) = some call ∧
        (deliver id p).exec s = (receive id call.1 s.nextReply).exec
          (s.requested (Call.requestWith (s.jarOf id) call)) := by
  rw [exec_deliver, call?]
  cases Utf8.encodeEscaped? p.payload with
  | error run => exact .inl ⟨rfl, _, rfl⟩
  | ok content =>
    cases haddress : addressOf (s.jarOf id) p with
    | error fault =>
      refine .inl ⟨?_, _, rfl⟩
      cases hplain : addressOf [] p with
      | error plain => rfl
      | ok url =>
        have hlets : Call.lets (s.jarOf id) url = false := by
          rw [← Bool.not_eq_true, Call.lets_iff]
          intro hlets
          rw [addressOf_eq_ok_iff.mpr ⟨hplain, hlets⟩] at haddress
          cases haddress
        cases basicAuthorization? p.user p.password with
        | error run => rfl
        | ok authorization => simp [Call.allowed, hlets]
    | ok url =>
      obtain ⟨hplain, hcookies⟩ := addressOf_eq_ok_iff.mp haddress
      dsimp only
      rw [if_pos ho, hplain]
      cases basicAuthorization? p.user p.password with
      | error run => exact .inl ⟨rfl, _, rfl⟩
      | ok authorization =>
        refine .inr ⟨(url, ⟨url.text, authorization, none, content⟩), ?_, rfl⟩
        simp [Call.allowed, Call.lets_iff.mpr hcookies]

end Transport

/-! ## Replies that grant a call -/

/-- A reply grants a call to an address: its status is that of an accepted message, it is complete,
its headers can be read, and the address is a site that they can come from. -/
def Reply.Grants (reply : Reply) (url : Url) : Prop :=
  ∃ status headers chunks, reply = .response status headers chunks none ∧
    (status = 200 ∨ status = 201) ∧ Transport.checkHeaders headers = .ok () ∧
    ∃ site, Call.site? url = .ok site

/-- The delivery says that the provider took the message. -/
def Delivery.Accepts (d : Delivery) : Prop :=
  ∃ status, d.ending = .answered status ∧ (status = 200 ∨ status = 201)

/-- A run of a send comes to an outcome that is a success. -/
def Succeeds (result : Except Fault Outcome) : Prop := ∃ o, result = .ok o ∧ o.ok = true

theorem Delivery.succeeds_report_iff {d : Delivery} (verbose : Bool) :
    Succeeds (d.report verbose) ↔ d.Accepts := by
  unfold Succeeds Delivery.report Delivery.Accepts
  cases d.ending with
  | failed fault => simp
  | broken reason => simp [Outcome.broken]
  | answered status =>
    by_cases h : status = 200 ∨ status = 201
    · simp [h, Outcome.accepted]
    · simp [h, Outcome.refused]

theorem ExchangeError.ending_ne_answered (e : ExchangeError) (message : Text) (status : Int) :
    e.ending message ≠ .answered status := by
  unfold ending
  split <;> simp

theorem Call.Failure.ending_ne_answered (failure : Failure) (status : Int) :
    failure.ending ≠ .answered status := by
  cases failure with
  | unreadable fault => exact ExchangeError.remoteProtocol.ending_ne_answered _ status
  | uncallable fault => simp [ending]

variable [Installation]

/-- An accepted message is no redirection. -/
theorem Call.failure?_of_accepted (jar : Cookie.Jar) (url : Url) {status : Int}
    (h : status = 200 ∨ status = 201) (headers : List (Text × Text)) :
    failure? jar url status headers = none := by
  have hno : redirections.contains status = false := by
    obtain rfl | rfl := h <;> decide
  rw [failure?, hno]
  rfl

/-- A call is answered with the status of an accepted message exactly if its reply grants it. -/
theorem Transport.accepts_receive_iff {id : Nat} {url : Url} {reply : Reply} {s : State} :
    (∃ d, ((receive id url reply).exec s).1 = .ok d ∧ d.Accepts) ↔ reply.Grants url := by
  rw [exec_receive]
  cases reply with
  | failure e message =>
    simp [Reply.Grants, Delivery.Accepts, ExchangeError.ending_ne_answered]
  | response status headers chunks error =>
    dsimp only
    cases hheaders : checkHeaders headers with
    | error fault => simp [Reply.Grants, hheaders]
    | ok _ =>
      cases hsite : Call.site? url with
      | error fault => simp [Reply.Grants, hsite]
      | ok site =>
        simp only [Except.ok.injEq, exists_eq_left']
        constructor
        · intro h
          cases hf : Call.failure? ((s.keeping id site headers).jarOf id) url status headers with
          | some failure =>
            rw [hf] at h
            obtain ⟨status', hended, -⟩ := h
            exact absurd hended (failure.ending_ne_answered status')
          | none =>
            rw [hf] at h
            obtain ⟨status', hended, haccepted⟩ := h
            cases error with
            | none =>
              cases hended
              exact ⟨status, headers, chunks, rfl, haccepted, hheaders, site, hsite⟩
            | some raised => exact absurd hended (raised.1.ending_ne_answered raised.2 status')
        · rintro ⟨status', headers', chunks', heq, haccepted, -, -⟩
          cases heq
          rw [Call.failure?_of_accepted _ url haccepted]
          exact ⟨status, rfl, haccepted⟩

/-! ## The call of a send -/

namespace Client

/-- The address that a send calls for a message, and its request, where there are no cookies, if it
calls any. -/
def call? (c : Client) (m : Message) : Option (Url × WireRequest) :=
  match objection? m.body, m.formPayload? with
  | none, .ok payload => Transport.call? (c.post payload)
  | _, _ => none

/-- A send over an open transport comes to no success and puts nothing on the wire, or makes its
call, and then all depends on the reply. -/
theorem exec_send_of_call? {c : Client} {s : State} {id : Nat}
    (hk : c.carrierIn s = some (.network id)) (ho : s.IsOpen id) (m : Message) (verbose : Bool) :
    (Call.allowed (s.jarOf id) (c.call? m) = none ∧
        ((c.send m verbose).exec s).2.wire = s.wire ∧
        ¬Succeeds ((c.send m verbose).exec s).1) ∨
      ∃ call, Call.allowed (s.jarOf id) (c.call? m) = some call ∧
        (c.send m verbose).exec s =
          (Transport.receive id call.1 s.nextReply >>= conclude m verbose).exec
            ((c.announcing m s).requested (Call.requestWith (s.jarOf id) call)) := by
  cases hobj : objection? m.body with
  | some reason =>
    rw [exec_send_of_objection? hobj]
    exact .inl ⟨by simp [call?, hobj, Call.allowed], rfl, by simp [Succeeds, Outcome.rejected]⟩
  | none =>
    obtain ⟨t, ht, hw⟩ := objection?_eq_none_iff.mp hobj
    obtain ⟨payload, hp, hrun⟩ := exec_send_of_denotes ht hw c verbose s
    have hcall : c.call? m = Transport.call? (c.post payload) := by
      simp only [call?, hobj, hp]
    rw [hcall]
    rw [hk] at hrun
    have ho' : (c.announcing m s).IsOpen id := ho
    obtain ⟨hnone, fault, hd⟩ | ⟨call, hsome, hd⟩ :=
      Transport.exec_deliver_of_call? ho' (c.post payload)
    · have hfault := hrun.trans (Run.exec_bind_of_error hd _)
      rw [hfault]
      exact .inl ⟨hnone, rfl, by simp [Succeeds]⟩
    · refine .inr ⟨call, hsome, hrun.trans ?_⟩
      dsimp only
      rw [Carrier.deliver, Run.exec_bind, Run.exec_bind, hd]
      rfl

/-- **The wire of a send.** Over an open transport it gets the request of the call, with the cookies
of the transport and if these allow it, and nothing else. -/
theorem wire_exec_send {c : Client} {s : State} {id : Nat}
    (hk : c.carrierIn s = some (.network id)) (ho : s.IsOpen id) (m : Message) (verbose : Bool) :
    ((c.send m verbose).exec s).2.wire =
      s.wire ++ Call.sent (s.jarOf id) (c.call? m) := by
  obtain ⟨hcall, hwire, -⟩ | ⟨call, hcall, hrun⟩ := exec_send_of_call? hk ho m verbose
  · rw [Call.sent, hcall, hwire]
    exact (List.append_nil _).symm
  · rw [Call.sent, hcall, hrun, Run.view_exec_bind fun d => keeps_wire_conclude m verbose d,
      Transport.wire_exec_receive]
    rfl

/-- A message in parts has the same call to make from every state. -/
theorem exists_wire_exec_sendMessage (c : Client) (recipient sender body mediaUrl : Value)
    (verbose : Bool) :
    ∃ call, ∀ {s : State} {id : Nat}, c.carrierIn s = some (.network id) → s.IsOpen id →
      ((c.sendMessage recipient sender body mediaUrl verbose).exec s).2.wire =
        s.wire ++ Call.sent (s.jarOf id) call := by
  unfold sendMessage
  cases Message.ofValue (.ofFields [("to", recipient), ("from_", sender), ("body", body),
    ("media_url", mediaUrl)]) with
  | invalid issues => exact ⟨none, fun _ _ => (List.append_nil _).symm⟩
  | valid m => exact ⟨c.call? m, fun hk ho => wire_exec_send hk ho m verbose⟩

/-- **The success of a send.** Over an open transport a send is a success exactly if a call is made
and the next reply grants it. -/
theorem succeeds_send_iff {c : Client} {s : State} {id : Nat}
    (hk : c.carrierIn s = some (.network id)) (ho : s.IsOpen id) (m : Message) (verbose : Bool) :
    Succeeds ((c.send m verbose).exec s).1 ↔
      ∃ call ∈ Call.allowed (s.jarOf id) (c.call? m), s.nextReply.Grants call.1 := by
  obtain ⟨hcall, -, hno⟩ | ⟨call, hcall, hrun⟩ := exec_send_of_call? hk ho m verbose
  · simp [hcall, hno]
  · simp only [hcall, Option.mem_def, Option.some.injEq, exists_eq_left']
    rw [hrun, ← Transport.accepts_receive_iff]
    rcases hd : (Transport.receive id call.1 s.nextReply).exec
      ((c.announcing m s).requested (Call.requestWith (s.jarOf id) call)) with ⟨fault | d, s₁⟩
    · rw [Run.exec_bind_of_error hd]
      simp [Succeeds]
    · obtain ⟨entries, hconclude⟩ := exec_conclude m verbose d s₁
      rw [Run.exec_bind_of_ok hd, hconclude, Delivery.succeeds_report_iff]
      simp

end Client

end Courier
