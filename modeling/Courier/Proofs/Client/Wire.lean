import Courier.Proofs.Client.Faults
import Courier.Proofs.Text.Pieces

/-!
# What goes over the network

Addresses are texts, but they may have been octets before that are no UTF-8. Read with escapes, such
octets go out again just as they were: the payload of a message is put together as text, and its
octets are those that were read, with the names of the parameters and the body in percent form
between them.

Results:
* `Message.encodeEscaped?_payload`: the octets of a payload.
* `Transport.wire_exec_deliver`: the request of a post that can be sent, whatever its reply is.
* `Client.sendMessage_sends_octets`: the request of a send.
-/

namespace Courier

/-! ## The octets of a payload -/

namespace Message

/-- The octets of a name in a payload, with the delimiters around it. -/
def nameOctets (name : String) : Bytes := Utf8.encodeAll (Text.ofString name)

/-- The payload of a message whose parts are octets. An empty media address is none. -/
def formOctets (recipient sender body mediaUrl : Bytes) : Bytes :=
  nameOctets "To=" ++ recipient ++ nameOctets "&From=" ++ sender ++ nameOctets "&Body=" ++ body
    ++ if mediaUrl = [] then [] else nameOctets "&MediaUrl=" ++ mediaUrl

theorem attachment?_of_decoded {m : Message} {mediaUrl : Option Bytes}
    (hm : m.mediaUrl = mediaUrl.map Utf8.decodeEscaped) :
    m.attachment? =
      if mediaUrl.getD [] = [] then none else some (Utf8.decodeEscaped (mediaUrl.getD [])) := by
  rw [attachment?, hm]
  cases mediaUrl with
  | none => rfl
  | some bs =>
    by_cases h : bs = []
    · rw [h]
      rfl
    · simp [h, Utf8.decodeEscaped_eq_nil_iff]

/-- The octets of the payload are those that the addresses were read from, with the percent form of
the body between them. -/
theorem encodeEscaped?_payload {m : Message} {t payload : Text} (recipient sender : Bytes)
    (mediaUrl : Option Bytes) (hr : m.recipient = Utf8.decodeEscaped recipient)
    (hs : m.sender = Utf8.decodeEscaped sender) (hm : m.mediaUrl = mediaUrl.map Utf8.decodeEscaped)
    (h : m.body.Denotes t) (hp : m.formPayload? = .ok payload) :
    Utf8.encodeEscaped? payload = .ok (formOctets recipient sender
      (Utf8.encodeAll (Percent.encode (Utf8.encodeAll t))) (mediaUrl.getD [])) := by
  have hname : ∀ name, Utf8.encodeEscaped? (Text.ofString name) = .ok (nameOctets name) :=
    fun name => Utf8.encodeEscaped?_of_isWellFormed (Text.isWellFormed_ofString name)
  have hto := Utf8.encodeEscaped?_append (hname "To=") (Utf8.encodeEscaped?_decodeEscaped recipient)
  have hfrom := Utf8.encodeEscaped?_append (Utf8.encodeEscaped?_append hto (hname "&From="))
    (Utf8.encodeEscaped?_decodeEscaped sender)
  have hbody := Utf8.encodeEscaped?_append (Utf8.encodeEscaped?_append hfrom (hname "&Body="))
    (Utf8.encodeEscaped?_of_isWellFormed (Percent.isWellFormed_encode (Utf8.encodeAll t)))
  rw [formPayload?, Body.percentForm?_of_denotes h, hr, hs, attachment?_of_decoded hm] at hp
  obtain rfl := Except.ok.inj hp
  apply Utf8.encodeEscaped?_append hbody
  by_cases hurl : mediaUrl.getD [] = []
  · simp only [if_pos hurl]
    rfl
  · simp only [if_neg hurl]
    exact Utf8.encodeEscaped?_append (hname "&MediaUrl=") (Utf8.encodeEscaped?_decodeEscaped _)

end Message

/-! ## The request of a post -/

namespace Transport

theorem exists_basicAuthorization? {user password : Text} (hu : user.isWellFormed = true)
    (hp : password.isWellFormed = true) :
    ∃ authorization, basicAuthorization? user password = .ok authorization := by
  cases h : basicAuthorization? user password with
  | ok authorization => exact ⟨authorization, rfl⟩
  | error run =>
    have hno := basicAuthorization?_eq_error_iff.mp ⟨run, h⟩
    simp [hu, hp] at hno

variable [Installation]

/-- A post that can be sent is put on the wire, and what comes back leaves it there. -/
theorem wire_exec_deliver {id : Nat} {p : Post} {s : State} {content : Bytes} {url : Url}
    (hc : Utf8.encodeEscaped? p.payload = .ok content) (ha : addressOf (s.jarOf id) p = .ok url)
    (ho : s.IsOpen id) {authorization : Text}
    (hb : basicAuthorization? p.user p.password = .ok authorization) :
    ((deliver id p).exec s).2.wire =
      s.wire ++ [⟨url.text, authorization, Call.cookieHeader? (s.jarOf id) url, content⟩] := by
  have hrun : (deliver id p).exec s = (receive id url s.nextReply).exec (s.requested
      ⟨url.text, authorization, Call.cookieHeader? (s.jarOf id) url, content⟩) := by
    simp only [exec_deliver, hc, ha, hb, if_pos ho]
  rw [hrun, wire_exec_receive]
  rfl

end Transport

/-! ## The request of a send -/

namespace Client

theorem keeps_wire_conclude (m : Message) (verbose : Bool) (d : Delivery) :
    Run.Keeps State.wire (conclude m verbose d) := by
  intro s
  obtain ⟨entries, hrun⟩ := exec_conclude m verbose d s
  rw [hrun]

section

variable [Installation]

/-- **Octets go out as they are.** Recipient, sender and media address are any octets, read with
escapes. If the body is sent, the address of the provider can be called and the credentials have
octets, then one request is put on the wire, whatever the provider replies: its content is made of
these octets and the percent form of the body, with the media address only if that is not empty, and
the length in its headers is the number of octets of the content. -/
theorem sendMessage_sends_octets {c : Client} {s : State} {id : Nat} {url : Url} {body : Body}
    {t : Text} (hk : c.carrierIn s = some (.network id)) (ho : s.IsOpen id)
    (hurl : c.addressIn (s.jarOf id) = .ok url) (hsid : c.credentials.sid.isWellFormed = true)
    (htoken : c.credentials.token.isWellFormed = true) (ht : body.Denotes t)
    (hw : Utf16.width t ≤ 1600) (recipient sender : Bytes) (mediaUrl : Option Bytes)
    (verbose : Bool) :
    ∃ request form,
      ((c.sendMessage (.text (Utf8.decodeEscaped recipient)) (.text (Utf8.decodeEscaped sender))
          (Message.bodyValue body) (Value.ofOption .text (mediaUrl.map Utf8.decodeEscaped))
          verbose).exec s).2.wire = s.wire ++ [request] ∧
        request.url = url.text ∧
        body.percentForm? = .ok form ∧
        request.content =
          Message.formOctets recipient sender (Utf8.encodeAll form) (mediaUrl.getD []) ∧
        request.headers.lookup "content-length" = some (Text.ofNat request.content.length) := by
  obtain ⟨payload, hp, hrun⟩ := exec_send_of_denotes
    (m := ⟨Utf8.decodeEscaped recipient, Utf8.decodeEscaped sender, body,
      mediaUrl.map Utf8.decodeEscaped⟩) ht hw c verbose s
  have hcontent := Message.encodeEscaped?_payload recipient sender mediaUrl rfl rfl rfl ht hp
  obtain ⟨authorization, hauth⟩ := Transport.exists_basicAuthorization? hsid htoken
  rw [exec_sendMessage, hrun, hk]
  refine ⟨⟨url.text, authorization, Call.cookieHeader? (s.jarOf id) url,
    Message.formOctets recipient sender _ _⟩, _, ?_, rfl, Body.percentForm?_of_denotes ht, rfl, rfl⟩
  dsimp only
  rw [Run.view_exec_bind fun d => keeps_wire_conclude _ verbose d]
  exact Transport.wire_exec_deliver (p := c.post payload) (s := c.announcing _ s) hcontent hurl ho
    hauth

end

open scoped Installation in
/-- Addresses with an octet that begins no character, a surrogate and half a character in them. -/
theorem sendMessage_sends_octets_illFormed :
    let c : Client := ⟨⟨Text.ofString "AC1", Text.ofString "t"⟩, none, .ofEnvironment .empty⟩
    let s : State := { State.initial 0 .empty .initial with
      transports := [⟨.usual, true, []⟩], shared := some 0 }
    c.carrierIn s = some (.network 0) ∧ s.IsOpen 0 ∧
      (∃ url, c.addressIn (s.jarOf 0) = .ok url) ∧
      c.credentials.sid.isWellFormed = true ∧ c.credentials.token.isWellFormed = true ∧
      ∃ request form,
        ((c.sendMessage (.text (Utf8.decodeEscaped [0x2B, 0xFF]))
            (.text (Utf8.decodeEscaped [0xED, 0xA0, 0x80]))
            (Message.bodyValue (.text (Text.ofString "Hi")))
            (Value.ofOption .text ((some [0xC3] : Option Bytes).map Utf8.decodeEscaped))
            false).exec s).2.wire = s.wire ++ [request] ∧
        Body.percentForm? (.text (Text.ofString "Hi")) = .ok form ∧
        request.content = Message.nameOctets "To=" ++ [0x2B, 0xFF]
          ++ Message.nameOctets "&From=" ++ [0xED, 0xA0, 0x80]
          ++ Message.nameOctets "&Body=" ++ Utf8.encodeAll form
          ++ (Message.nameOctets "&MediaUrl=" ++ [0xC3]) ∧
        request.headers.lookup "content-length" = some (Text.ofNat request.content.length) := by
  intro c s
  have hk : c.carrierIn s = some (.network 0) := rfl
  have ho : s.IsOpen 0 := rfl
  have hcallable : (c.addressIn (s.jarOf 0)).toOption.isSome = true := by decide +kernel
  obtain ⟨url, hurl⟩ : ∃ url, c.addressIn (s.jarOf 0) = .ok url := by
    cases h : c.addressIn (s.jarOf 0) with
    | ok url => exact ⟨url, rfl⟩
    | error fault => simp [h, Except.toOption] at hcallable
  have ht : Body.Denotes (.text (Text.ofString "Hi")) (Text.ofString "Hi") := ⟨by decide, rfl⟩
  have hsid : c.credentials.sid.isWellFormed = true := by decide
  have htoken : c.credentials.token.isWellFormed = true := by decide
  obtain ⟨request, form, hwire, -, hform, hcontent, hlength⟩ := sendMessage_sends_octets hk ho hurl
    hsid htoken ht (by decide) [0x2B, 0xFF] [0xED, 0xA0, 0x80] (some [0xC3]) false
  exact ⟨hk, ho, ⟨url, hurl⟩, hsid, htoken, request, form, hwire, hform, hcontent, hlength⟩

end Client

end Courier
