import Courier.Message.Basic
import Courier.Proofs.Message.Body
import Courier.Proofs.Text.Split
import Mathlib.Data.List.Basic

/-!
# The form payload can be read back

The payload of a message is the list of its parameters, each written as a name, `=` and a value,
with `&` between them. The percent form of a body holds no `&`, so cutting the payload at every `&`
and each part at its first `=` gives the parameters again, whatever the body is.

Results:
* `formPayload?_of_denotes`: the payload as its parameters in a row.
* `cut_payload`: the parameters are read back.
* `formPayload?_readable`: what that means for a message, and for two messages of one payload.
-/

namespace Courier

/-! ## Parameters in a row -/

namespace Text

/-- The parts of a form payload, each cut at its first `=`. -/
def cutForm (payload : Text) : List (Option (Text × Text)) :=
  (splitAll (CodePoint.ofChar '&') payload).map (splitFirst (CodePoint.ofChar '='))

/-- A parameter as it stands in a form payload. -/
def formPart (name value : Text) : Text := name ++ CodePoint.ofChar '=' :: value

theorem splitAll_joinWith {sep : CodePoint} {part : Text} {parts : List Text}
    (h : ∀ p ∈ part :: parts, sep ∉ p) :
    splitAll sep (joinWith [sep] (part :: parts)) = part :: parts := by
  induction parts generalizing part with
  | nil => exact splitAll_of_not_mem (h part List.mem_cons_self)
  | cons next parts ih =>
    have hnext := ih fun p hp => h p (List.mem_cons_of_mem _ hp)
    rw [joinWith, List.append_assoc, List.singleton_append,
      splitAll_append (h part List.mem_cons_self), hnext]
    simp

/-- Parameters whose names hold neither delimiter, and whose values hold no `&`, are read back from
their payload. -/
theorem cutForm_joinWith {ps : List (Text × Text)} (hne : ps ≠ [])
    (hname : ∀ p ∈ ps, CodePoint.ofChar '&' ∉ p.1 ∧ CodePoint.ofChar '=' ∉ p.1)
    (hvalue : ∀ p ∈ ps, CodePoint.ofChar '&' ∉ p.2) :
    cutForm (joinWith [CodePoint.ofChar '&'] (ps.map fun p => formPart p.1 p.2)) = ps.map some := by
  have hpart : ∀ q ∈ ps.map fun p => formPart p.1 p.2, CodePoint.ofChar '&' ∉ q := by
    intro q hq
    obtain ⟨p, hp, rfl⟩ := List.mem_map.mp hq
    simp only [formPart, List.mem_append, List.mem_cons, not_or]
    exact ⟨(hname p hp).1, by decide, hvalue p hp⟩
  have hsplit : splitAll (CodePoint.ofChar '&')
      (joinWith [CodePoint.ofChar '&'] (ps.map fun p => formPart p.1 p.2))
        = ps.map fun p => formPart p.1 p.2 := by
    cases ps with
    | nil => exact absurd rfl hne
    | cons p ps => exact splitAll_joinWith hpart
  rw [cutForm, hsplit, List.map_map]
  apply List.map_congr_left
  intro p hp
  exact splitFirst_append (hname p hp).2 p.2

end Text

/-! ## The payload of a message -/

namespace Message

/-- The names and values in the payload of a message, when the body is written as given. -/
def parameters (m : Message) (body : Text) : List (Text × Text) :=
  [(Text.ofString "To", m.recipient), (Text.ofString "From", m.sender),
      (Text.ofString "Body", body)]
    ++ (m.attachment?.map fun url => (Text.ofString "MediaUrl", url)).toList

theorem mem_parameters {m : Message} {body : Text} {p : Text × Text} :
    p ∈ m.parameters body ↔
      p = (Text.ofString "To", m.recipient) ∨ p = (Text.ofString "From", m.sender)
        ∨ p = (Text.ofString "Body", body)
        ∨ ∃ url, m.attachment? = some url ∧ (Text.ofString "MediaUrl", url) = p := by
  simp only [parameters, List.mem_append, List.mem_cons, List.not_mem_nil, or_false,
    Option.mem_toList, Option.map_eq_some_iff, or_assoc]

/-- No name of a parameter holds a delimiter. -/
theorem delimiter_not_mem_name {m : Message} {body : Text} {p : Text × Text}
    (hp : p ∈ m.parameters body) :
    CodePoint.ofChar '&' ∉ p.1 ∧ CodePoint.ofChar '=' ∉ p.1 := by
  have hnames : ∀ name ∈ ["To", "From", "Body", "MediaUrl"].map Text.ofString,
      CodePoint.ofChar '&' ∉ name ∧ CodePoint.ofChar '=' ∉ name := by decide
  obtain rfl | rfl | rfl | ⟨url, -, rfl⟩ := mem_parameters.mp hp <;> exact hnames _ (by simp)

/-- The payload of a message with a proper body is made of its parameters. -/
theorem formPayload?_of_denotes {m : Message} {t : Text} (h : m.body.Denotes t) :
    m.formPayload? = .ok (Text.joinWith [CodePoint.ofChar '&']
      ((m.parameters (Percent.encode (Utf8.encodeAll t))).map fun p => Text.formPart p.1 p.2)) := by
  rw [formPayload?, Body.percentForm?_of_denotes h]
  have hto : Text.ofString "To=" = Text.ofString "To" ++ [CodePoint.ofChar '='] := by decide
  have hfrom : Text.ofString "&From=" =
      CodePoint.ofChar '&' :: (Text.ofString "From" ++ [CodePoint.ofChar '=']) := by decide
  have hbody : Text.ofString "&Body=" =
      CodePoint.ofChar '&' :: (Text.ofString "Body" ++ [CodePoint.ofChar '=']) := by decide
  have hmedia : Text.ofString "&MediaUrl=" =
      CodePoint.ofChar '&' :: (Text.ofString "MediaUrl" ++ [CodePoint.ofChar '=']) := by decide
  cases ha : m.attachment? <;>
    simp [Except.map, parameters, ha, Text.joinWith, Text.formPart, hto, hfrom, hbody, hmedia]

/-- A message that stands for a text, with addresses in which no `&` stands. -/
structure IsSeparable (m : Message) (t : Text) : Prop where
  body : m.body.Denotes t
  recipient : CodePoint.ofChar '&' ∉ m.recipient
  sender : CodePoint.ofChar '&' ∉ m.sender
  mediaUrl : ∀ url, m.mediaUrl = some url → CodePoint.ofChar '&' ∉ url

theorem mediaUrl_of_attachment? {m : Message} {url : Text} (h : m.attachment? = some url) :
    m.mediaUrl = some url :=
  (Option.filter_eq_some_iff.mp h).1

/-- The parameters of a message are read back from its payload. -/
theorem cut_payload {m : Message} {t payload : Text} (h : m.IsSeparable t)
    (hp : m.formPayload? = .ok payload) :
    payload.cutForm = (m.parameters (Percent.encode (Utf8.encodeAll t))).map some := by
  rw [formPayload?_of_denotes h.body] at hp
  obtain rfl := Except.ok.inj hp
  refine Text.cutForm_joinWith (by simp [parameters]) (fun p => delimiter_not_mem_name) ?_
  intro p hp
  obtain rfl | rfl | rfl | ⟨url, hu, rfl⟩ := mem_parameters.mp hp
  · exact h.recipient
  · exact h.sender
  · exact Percent.amp_not_mem_encode _
  · exact h.mediaUrl url (mediaUrl_of_attachment? hu)

/-- The parameters of a message say all about it but how its body was given. -/
theorem parameters_inj {m m' : Message} {body body' : Text}
    (h : m.parameters body = m'.parameters body') :
    m.recipient = m'.recipient ∧ m.sender = m'.sender ∧ body = body' ∧
      m.attachment? = m'.attachment? := by
  simp only [parameters, List.cons_append, List.nil_append, List.cons.injEq, Prod.mk.injEq,
    true_and] at h
  obtain ⟨hto, hfrom, hbody, hmedia⟩ := h
  refine ⟨hto, hfrom, hbody, ?_⟩
  cases ha : m.attachment? <;> cases ha' : m'.attachment? <;> simp_all

/-- An MMS has the parameter of its media address, and no other message has it. -/
theorem toList_attachment? (m : Message) :
    (m.attachment?.map fun url => some (Text.ofString "MediaUrl", url)).toList =
      if m.kind = .mms then [some (Text.ofString "MediaUrl", m.mediaUrl.getD [])] else [] := by
  cases ha : m.attachment? with
  | none => simp [kind, ha]
  | some url => simp [kind, ha, mediaUrl_of_attachment? ha]

/-- **The payload can be read back.** Cutting the payload of a message at every `&` and each part
at its first `=` gives its parameters: recipient and sender as they are, the body in percent form,
and the media address if the message is an MMS. Two messages with one payload differ at most in how
their body and an empty media address were given. -/
theorem formPayload?_readable {m : Message} {t : Text} (h : m.IsSeparable t) :
    ∃ payload body, m.formPayload? = .ok payload ∧
      payload.cutForm =
        [some (Text.ofString "To", m.recipient), some (Text.ofString "From", m.sender),
          some (Text.ofString "Body", body)]
          ++ (if m.kind = .mms then [some (Text.ofString "MediaUrl", m.mediaUrl.getD [])] else []) ∧
      Percent.decode body = Utf8.encodeAll t ∧
      ∀ (m' : Message) (t' : Text), m'.IsSeparable t' → m'.formPayload? = .ok payload →
        m'.recipient = m.recipient ∧ m'.sender = m.sender ∧
          Utf8.encodeAll t' = Utf8.encodeAll t ∧ m'.attachment? = m.attachment? := by
  have hp := formPayload?_of_denotes h.body
  refine ⟨_, Percent.encode (Utf8.encodeAll t), hp, ?_, Percent.decode_encode _, ?_⟩
  · rw [cut_payload h hp, parameters, List.map_append, ← toList_attachment?]
    cases m.attachment? <;> rfl
  · intro m' t' h' hp'
    have hcut := (cut_payload h' hp').symm.trans (cut_payload h hp)
    obtain ⟨hto, hfrom, hbody, hmedia⟩ :=
      parameters_inj (List.map_injective_iff.mpr (Option.some_injective _) hcut)
    exact ⟨hto, hfrom, Percent.encode_inj hbody, hmedia⟩

/-- A body full of delimiters, in a message with an attachment. -/
theorem formPayload?_readable_delimiters :
    let m : Message := ⟨Text.ofString "+1=%", Text.ofString "+2",
      .text (Text.ofString "a&To=b%26+\n"), some (Text.ofString "http://x/?q=1")⟩
    m.IsSeparable (Text.ofString "a&To=b%26+\n") ∧ ∃ payload body,
      m.formPayload? = .ok payload ∧
      payload.cutForm =
        [some (Text.ofString "To", Text.ofString "+1=%"),
          some (Text.ofString "From", Text.ofString "+2"), some (Text.ofString "Body", body),
          some (Text.ofString "MediaUrl", Text.ofString "http://x/?q=1")] ∧
      Percent.decode body = Utf8.encodeAll (Text.ofString "a&To=b%26+\n") := by
  intro m
  have hm : m.IsSeparable (Text.ofString "a&To=b%26+\n") :=
    ⟨⟨by decide, rfl⟩, by decide, by decide, by
      rintro url ⟨⟩
      decide⟩
  obtain ⟨payload, body, hp, hcut, hbody, -⟩ := formPayload?_readable hm
  exact ⟨hm, payload, body, hp, hcut, hbody⟩

end Message

end Courier
