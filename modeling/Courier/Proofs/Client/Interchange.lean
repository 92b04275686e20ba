import Courier.Proofs.Client.Send

/-!
# Text and its octets are interchangeable as a body

Of the body of a message a send sees the reason to turn it down, if there is one, and its percent
form, and both depend on the text alone that the body stands for. So it makes no difference whether
a text or its UTF-8 form is given.

Results:
* `Client.send_congr`: what a send sees of a body.
* `Client.send_of_denotes`: bodies that stand for the same text.
* `Client.sendMessage_interchangeable`: a text and its octets, in messages and among their parts.
-/

namespace Courier

/-- The parts of a message are checked one by one. -/
theorem Message.ofValue_ofFields (recipient sender body mediaUrl : Value) :
    Message.ofValue (.ofFields
        [("to", recipient), ("from_", sender), ("body", body), ("media_url", mediaUrl)]) =
      Message.mk <$> (Schema.text recipient).within (Text.ofString "to")
        <*> (Schema.text sender).within (Text.ofString "from_")
        <*> (bodyOfValue body).within (Text.ofString "body")
        <*> (Schema.nullable Schema.text mediaUrl).within (Text.ofString "media_url") := rfl

namespace Client

section

variable [Installation]

/-- A send sees of a body why it is turned down and what stands for it in the payload. -/
theorem send_congr {b b' : Body} (ho : objection? b = objection? b')
    (hf : b.percentForm? = b'.percentForm?) (c : Client) (m : Message) (verbose : Bool) :
    c.send { m with body := b } verbose = c.send { m with body := b' } verbose := by
  have hpayload : Message.formPayload? { m with body := b } =
      Message.formPayload? { m with body := b' } := by
    simp only [Message.formPayload?, Message.attachment?, hf]
  have hconclude : ∀ d, conclude { m with body := b } verbose d =
      conclude { m with body := b' } verbose d := fun _ => rfl
  have hkind : Message.kind { m with body := b } = Message.kind { m with body := b' } := rfl
  simp only [send, ho, hkind, hpayload, hconclude]

/-- Bodies that stand for the same text are sent alike. -/
theorem send_of_denotes {b b' : Body} {t : Text} (h : b.Denotes t) (h' : b'.Denotes t) (c : Client)
    (m : Message) (verbose : Bool) :
    c.send { m with body := b } verbose = c.send { m with body := b' } verbose := by
  apply send_congr
  · rw [objection?_of_denotes h, objection?_of_denotes h']
  · rw [Body.percentForm?_of_denotes h, Body.percentForm?_of_denotes h']

/-- The other parts of a message are found faulty or not whatever its body is, so that only the send
depends on it. -/
theorem sendMessage_of_denotes {b b' : Body} {t : Text} (h : b.Denotes t) (h' : b'.Denotes t)
    (c : Client) (recipient sender mediaUrl : Value) (verbose : Bool) :
    c.sendMessage recipient sender (Message.bodyValue b) mediaUrl verbose =
      c.sendMessage recipient sender (Message.bodyValue b') mediaUrl verbose := by
  have hbody : ∀ b : Body, Message.bodyOfValue (Message.bodyValue b) = .valid b := by
    intro b
    cases b <;> rfl
  unfold sendMessage
  rw [Message.ofValue_ofFields, Message.ofValue_ofFields, hbody, hbody]
  cases Schema.text recipient with
  | invalid issues =>
    cases Schema.text sender <;> cases Schema.nullable Schema.text mediaUrl <;> rfl
  | valid address =>
    cases Schema.text sender with
    | invalid issues => cases Schema.nullable Schema.text mediaUrl <;> rfl
    | valid own =>
      cases Schema.nullable Schema.text mediaUrl with
      | invalid issues => rfl
      | valid url => exact send_of_denotes h h' c ⟨address, own, b, url⟩ verbose

/-- **Text and octets are interchangeable.** A proper text and its UTF-8 form, given as the body of
a message or among the parts of one, come to the same in every state: the same outcome or fault, and
the same state afterwards, with all that was posted, put on the wire and written to the log. -/
theorem sendMessage_interchangeable {t : Text} (ht : t.isWellFormed = true) (c : Client)
    (verbose : Bool) (s : State) :
    (∀ m : Message,
      (c.send { m with body := .octets (Utf8.encodeAll t) } verbose).exec s =
        (c.send { m with body := .text t } verbose).exec s) ∧
    ∀ recipient sender mediaUrl : Value,
      (c.sendMessage recipient sender (.bytes (Utf8.encodeAll t)) mediaUrl verbose).exec s =
        (c.sendMessage recipient sender (.text t) mediaUrl verbose).exec s := by
  have htext : (Body.text t).Denotes t := ⟨ht, rfl⟩
  have hoctets : (Body.octets (Utf8.encodeAll t)).Denotes t := ⟨ht, rfl⟩
  constructor
  · intro m
    rw [send_of_denotes hoctets htext]
  · intro recipient sender mediaUrl
    exact congrArg (fun act : Run Outcome => act.exec s)
      (sendMessage_of_denotes hoctets htext c recipient sender mediaUrl verbose)

end

open scoped Installation in
/-- A character of four octets, sent over the network. -/
theorem sendMessage_interchangeable_beyondPlane :
    let t := Text.ofString "😀"
    let c : Client := ⟨⟨Text.ofString "AC1", Text.ofString "t"⟩, none, .ofEnvironment .empty⟩
    let s : State := { State.initial 0 .empty .initial with
      transports := [⟨.usual, true, []⟩], shared := some 0 }
    t.isWellFormed = true ∧ Utf8.encodeAll t = [0xF0, 0x9F, 0x98, 0x80] ∧
      (c.sendMessage (.text (Text.ofString "+1")) (.text (Text.ofString "+2"))
          (.bytes [0xF0, 0x9F, 0x98, 0x80]) .null true).exec s =
        (c.sendMessage (.text (Text.ofString "+1")) (.text (Text.ofString "+2"))
          (.text t) .null true).exec s := by
  intro t c s
  have ht : t.isWellFormed = true := by decide
  have hoctets : Utf8.encodeAll t = [0xF0, 0x9F, 0x98, 0x80] := by decide
  have h := (sendMessage_interchangeable ht c true s).2 (.text (Text.ofString "+1"))
    (.text (Text.ofString "+2")) .null
  rw [hoctets] at h
  exact ⟨ht, hoctets, h⟩

end Client

end Courier
