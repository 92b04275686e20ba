import Courier.Proofs.Client.Send

/-!
# When a send ends in a fault

Not every failure of a send is reported in its outcome. The payload, the address and the credentials
are put into a request as they were given, and what cannot be put there ends the send in a fault.

Results:
* `Message.any_isStray_payload`: which payloads have no octets.
* `Transport.exec_deliver_of_unsendable`, `Transport.exec_deliver_of_not_unsendable`: the posts that
  end in a fault, and those that come back with what the reply gives.
* `Client.sendMessage_faults_iff`: the messages and clients for which a send ends in a fault.
-/

namespace Courier

/-! ## Payloads without octets -/

theorem Percent.any_isStray_encode (bs : Bytes) :
    (Percent.encode bs).any Utf8.isStray = false := by
  rw [List.any_eq_false]
  intro c hc
  simp [Utf8.isStray, Text.isWellFormed_iff.mp (isWellFormed_encode bs) c hc]

theorem Message.getD_attachment? (m : Message) : m.attachment?.getD [] = m.mediaUrl.getD [] := by
  unfold attachment?
  cases m.mediaUrl with
  | none => rfl
  | some url => cases url <;> rfl

/-- A surrogate that stands for no octet comes into a payload from the addresses alone. -/
theorem Message.any_isStray_payload {m : Message} {t payload : Text} (h : m.body.Denotes t)
    (hp : m.formPayload? = .ok payload) :
    payload.any Utf8.isStray =
      (m.recipient ++ m.sender ++ m.mediaUrl.getD []).any Utf8.isStray := by
  have hnames : ∀ name ∈ ["To=", "&From=", "&Body=", "&MediaUrl="],
      (Text.ofString name).any Utf8.isStray = false := by decide
  rw [formPayload?, Body.percentForm?_of_denotes h] at hp
  obtain rfl := Except.ok.inj hp
  have hbody := Percent.any_isStray_encode (Utf8.encodeAll t)
  rw [← getD_attachment?]
  cases m.attachment? <;> simp [List.any_append, hnames, hbody]

/-! ## Posts that cannot be sent -/

section

variable [Installation]

/-- The exchange with an address comes to what the next reply gives: a status with a body, or an
error of the request. -/
def State.Completes (s : State) (id : Nat) (url : Url) : Prop :=
  ∃ d, s.nextReply.Gives d ∧ ((Transport.receive id url s.nextReply).exec s).1 = .ok d

namespace Transport

theorem exec_deliver_of_unsendable {id : Nat} {p : Post} {s : State}
    (h : Unsendable (s.jarOf id) p) : ∃ fault, (deliver id p).exec s = (.error fault, s) := by
  obtain ⟨-, hd⟩ | ⟨hsend, -⟩ := exec_deliver_cases id p s
  · exact hd
  · exact absurd h hsend.1

/-- What a reply comes to depends on the transports and the time, not on the wire or the log. -/
theorem fst_exec_receive_congr {s s' : State} (ht : s'.transports = s.transports)
    (hn : s'.now = s.now) (id : Nat) (url : Url) (reply : Reply) :
    ((receive id url reply).exec s').1 = ((receive id url reply).exec s).1 := by
  have hjar : ∀ site headers,
      (s'.keeping id site headers).jarOf id = (s.keeping id site headers).jarOf id := by
    intro site headers
    simp only [State.jarOf, State.keeping, ht, hn]
  rw [exec_receive, exec_receive]
  cases reply with
  | failure e message => rfl
  | response status headers chunks error =>
    dsimp only
    cases checkHeaders headers with
    | error fault => rfl
    | ok _ =>
      cases Call.site? url with
      | error fault => rfl
      | ok site =>
        dsimp only
        rw [hjar]

theorem exec_deliver_of_not_unsendable {id : Nat} {p : Post} {s : State} (ho : s.IsOpen id)
    (h : ¬Unsendable (s.jarOf id) p)
    (hx : ∀ url, addressOf (s.jarOf id) p = .ok url → s.Completes id url) :
    ∃ d s', (deliver id p).exec s = (.ok d, s') ∧ s.nextReply.Gives d := by
  obtain ⟨hbad, -⟩ | ⟨-, url, request, haddress, -, hd⟩ := exec_deliver_cases id p s
  · exact absurd hbad (not_or.mpr ⟨h, not_not.mpr ho⟩)
  · obtain ⟨d, hgives, hreceive⟩ := hx url haddress
    have htransports : (s.requested request).transports = s.transports := rfl
    refine ⟨d, _, Prod.ext ?_ rfl, hgives⟩
    rw [hd]
    exact (fst_exec_receive_congr htransports rfl id url s.nextReply).trans hreceive

end Transport

theorem State.Completes.noted {s : State} {id : Nat} {url : Url} (h : s.Completes id url)
    (level : Log.Level) (logger : String) (message : Text) :
    (s.noted level logger message).Completes id url := by
  obtain ⟨d, hd, hreceive⟩ := h
  have htransports : (s.noted level logger message).transports = s.transports := rfl
  exact ⟨d, hd,
    (Transport.fst_exec_receive_congr htransports rfl id url s.nextReply).trans hreceive⟩

theorem Reply.Gives.exists_report {reply : Reply} {d : Delivery} (h : reply.Gives d)
    (verbose : Bool) : ∃ r, d.report verbose = .ok r := by
  cases h with
  | answered chunks _ => exact ⟨_, rfl⟩
  | broken _ _ => exact ⟨_, rfl⟩

end

/-! ## Sends that end in a fault -/

namespace Client

section

variable [Installation]

/-- The address that a client posts to, or why it cannot be called. -/
def addressIn (c : Client) (jar : Cookie.Jar) : Except Fault Url :=
  Transport.addressOf jar (c.post [])

/-- Addresses, and a body of text or octets, always make a message. -/
theorem exec_sendMessage (c : Client) (recipient sender : Text) (body : Body)
    (mediaUrl : Option Text) (verbose : Bool) (s : State) :
    (c.sendMessage (.text recipient) (.text sender) (Message.bodyValue body)
        (Value.ofOption .text mediaUrl) verbose).exec s =
      (c.send ⟨recipient, sender, body, mediaUrl⟩ verbose).exec s := by
  cases body <;> cases mediaUrl <;> rfl

/-- A send over an open transport of the network ends in a fault exactly if its body is not turned
down and its post cannot be sent. -/
theorem send_faults_iff {c : Client} {s : State} {id : Nat}
    (hk : c.carrierIn s = some (.network id)) (ho : s.IsOpen id)
    (hx : ∀ url, c.addressIn (s.jarOf id) = .ok url → s.Completes id url) (m : Message)
    (verbose : Bool) :
    (∃ fault s', (c.send m verbose).exec s = (.error fault, s')) ↔
      ∃ t payload, m.body.Denotes t ∧ Utf16.width t ≤ 1600 ∧ m.formPayload? = .ok payload ∧
        Transport.Unsendable (s.jarOf id) (c.post payload) := by
  cases hobj : objection? m.body with
  | some reason =>
    rw [exec_send_of_objection? hobj]
    constructor
    · rintro ⟨fault, s', h⟩
      cases h
    · rintro ⟨t, payload, ht, hw, -, -⟩
      rw [objection?_eq_none_iff.mpr ⟨t, ht, hw⟩] at hobj
      cases hobj
  | none =>
    obtain ⟨t, ht, hw⟩ := objection?_eq_none_iff.mp hobj
    obtain ⟨payload, hp, hrun⟩ := exec_send_of_denotes ht hw c verbose s
    rw [hrun, hk]
    constructor
    · rintro ⟨fault, s', h⟩
      by_contra hno
      have hsend : ¬Transport.Unsendable (s.jarOf id) (c.post payload) :=
        fun hu => hno ⟨t, payload, ht, hw, hp, hu⟩
      obtain ⟨d, s₁, hd, hgives⟩ := Transport.exec_deliver_of_not_unsendable
        (s := c.announcing m s) ho hsend fun url hurl => (hx url hurl).noted _ _ _
      obtain ⟨r, hr⟩ := hgives.exists_report verbose
      obtain ⟨entries, hc⟩ := exec_conclude m verbose d s₁
      have hd' : ((Carrier.network id).deliver (c.post payload)).exec (c.announcing m s) =
          (.ok d, s₁) := hd
      dsimp only at h
      rw [Run.exec_bind_of_ok hd', hc, hr] at h
      cases h
    · rintro ⟨t', payload', -, -, hp', hu⟩
      obtain rfl := Except.ok.inj (hp.symm.trans hp')
      obtain ⟨fault, hd⟩ := Transport.exec_deliver_of_unsendable (s := c.announcing m s) hu
      exact ⟨fault, _, Run.exec_bind_of_error hd _⟩

/-- **When a send ends in a fault.** Over an open transport of the network, where the exchange ends
in a status with a body or in an error of the request, a send ends in a fault exactly if its body is
not turned down and one of these holds: an address of the message holds a surrogate that stands for
no octet, the address of the provider cannot be called, or the credentials hold a surrogate. -/
theorem sendMessage_faults_iff {c : Client} {s : State} {id : Nat}
    (hk : c.carrierIn s = some (.network id)) (ho : s.IsOpen id)
    (hx : ∀ url, c.addressIn (s.jarOf id) = .ok url → s.Completes id url)
    (recipient sender : Text) (body : Body) (mediaUrl : Option Text) (verbose : Bool) :
    (∃ fault s', (c.sendMessage (.text recipient) (.text sender) (Message.bodyValue body)
        (Value.ofOption .text mediaUrl) verbose).exec s = (.error fault, s')) ↔
      (∃ t, body.Denotes t ∧ Utf16.width t ≤ 1600) ∧
        ((recipient ++ sender ++ mediaUrl.getD []).any Utf8.isStray = true ∨
          (∃ fault, c.addressIn (s.jarOf id) = .error fault) ∨
          c.credentials.sid.isWellFormed = false ∨ c.credentials.token.isWellFormed = false) := by
  rw [exec_sendMessage, send_faults_iff hk ho hx]
  constructor
  · rintro ⟨t, payload, ht, hw, hp, hu⟩
    rw [Transport.Unsendable, post, Message.any_isStray_payload ht hp] at hu
    exact ⟨⟨t, ht, hw⟩, hu⟩
  · rintro ⟨⟨t, ht, hw⟩, hu⟩
    have hp := Message.formPayload?_of_denotes
      (m := ⟨recipient, sender, body, mediaUrl⟩) (t := t) ht
    refine ⟨t, _, ht, hw, hp, ?_⟩
    rw [Transport.Unsendable, post, Message.any_isStray_payload ht hp]
    exact hu

end

open scoped Installation in
/-- A recipient that is a lone surrogate, with a provider that does not answer in time. -/
theorem sendMessage_faults_unanswered :
    let c : Client := ⟨⟨Text.ofString "AC1", Text.ofString "t"⟩, none, .ofEnvironment .empty⟩
    let s : State := { State.initial 0 .empty .initial with
      transports := [⟨.usual, true, []⟩], shared := some 0,
      replies := [.failure .readTimeout []] }
    c.carrierIn s = some (.network 0) ∧ s.IsOpen 0 ∧
      (∀ url, c.addressIn (s.jarOf 0) = .ok url → s.Completes 0 url) ∧
      ∃ fault s', (c.sendMessage (.text [CodePoint.ofNat 0xD800]) (.text (Text.ofString "+1"))
        (.text (Text.ofString "hi")) .null false).exec s = (.error fault, s') := by
  intro c s
  have hk : c.carrierIn s = some (.network 0) := rfl
  have ho : s.IsOpen 0 := rfl
  have hx : ∀ url, c.addressIn (s.jarOf 0) = .ok url → s.Completes 0 url :=
    fun _ _ => ⟨_, .broken (.failure .readTimeout []) rfl, rfl⟩
  have hbody : ∃ t, Body.Denotes (.text (Text.ofString "hi")) t ∧ Utf16.width t ≤ 1600 :=
    ⟨Text.ofString "hi", ⟨by decide, rfl⟩, by decide⟩
  refine ⟨hk, ho, hx, ?_⟩
  exact (sendMessage_faults_iff hk ho hx [CodePoint.ofNat 0xD800] (Text.ofString "+1")
    (.text (Text.ofString "hi")) none false).mpr ⟨hbody, .inl (by decide)⟩

open scoped Installation in
/-- The same recipient, with a provider that would accept everything: the fault is that of the
payload, whose fourth character has no octets. -/
theorem sendMessage_lone_surrogate :
    let c : Client := ⟨⟨Text.ofString "AC1", Text.ofString "t"⟩, none, .ofEnvironment .empty⟩
    let s : State := { State.initial 0 .empty .initial with
      transports := [⟨.usual, true, []⟩], shared := some 0 }
    c.carrierIn s = some (.network 0) ∧ s.IsOpen 0 ∧ s.nextReply.Gives ⟨[], .answered 201⟩ ∧
      ((c.sendMessage (.text [CodePoint.ofNat 0xD800]) (.text (Text.ofString "+1"))
        (.text (Text.ofString "hi")) .null false).exec s).1 =
        .error (.unencodable ⟨3, 1, CodePoint.ofNat 0xD800⟩) := by
  have hread : ∀ fault, ¬Reply.Misdirects 201 [] fault := by
    rintro fault ⟨hstatus, -⟩
    exact absurd hstatus (by decide)
  exact ⟨rfl, rfl, .answered [] hread, rfl⟩

end Client

end Courier
