import Courier.Proofs.Client.Alongside
import Courier.Proofs.Client.Faults
import Courier.Proofs.Text.Pieces

/-!
# Of a body only the verdict on it is told

The body of a message is looked at once, to decide whether it is sent. What comes of that is the
verdict on it: accepted, no proper text for a reason and from a position on, or too long by its
count. The log and the outcome tell the verdict and nothing else of the body. Its text is in the
request alone, in percent form after the name of the parameter.

Results:
* `Client.objection?_of_verdict_eq`: the reason to turn a body down says no more than the verdict.
* `Post.DifferInBody.makes`: the requests of posts that differ in the form of the body.
* `Client.send_tells_verdict`: two sends that differ in their bodies alone.
-/

namespace Courier

/-! ## The payload around the body -/

namespace Message

/-- The payload of a message up to its body. -/
def beforeBody (m : Message) : Text :=
  Text.ofString "To=" ++ m.recipient ++ Text.ofString "&From=" ++ m.sender ++ Text.ofString "&Body="

/-- The payload of a message after its body. -/
def afterBody (m : Message) : Text :=
  match m.attachment? with
  | some url => Text.ofString "&MediaUrl=" ++ url
  | none => []

theorem formPayload?_of_percentForm? {m : Message} {form : Text}
    (h : m.body.percentForm? = .ok form) :
    m.formPayload? = .ok (m.beforeBody ++ form ++ m.afterBody) := by
  rw [formPayload?, h]
  rfl

end Message

/-! ## Posts and requests that differ in the form of a body -/

/-- Two posts of a message that differ only in what stands for its body, which is the percent form
of either body. -/
structure Post.DifferInBody (m : Message) (b b' : Body) (p p' : Post) : Prop where
  url_eq : p'.url = p.url
  user_eq : p'.user = p.user
  password_eq : p'.password = p.password
  payload : ∃ form form', b.percentForm? = .ok form ∧ b'.percentForm? = .ok form' ∧
    p.payload = m.beforeBody ++ form ++ m.afterBody ∧
    p'.payload = m.beforeBody ++ form' ++ m.afterBody

/-- Two requests for a message that differ only in what stands for its body, which is the percent
form of either body, and in the length of the content. -/
structure WireRequest.DifferInBody (m : Message) (b b' : Body) (r r' : WireRequest) : Prop where
  url_eq : r'.url = r.url
  headers_eq : r'.headers.filter (fun h => h.1 != "content-length") =
    r.headers.filter fun h => h.1 != "content-length"
  content : ∃ before form form' after, Utf8.encodeEscaped? m.beforeBody = .ok before ∧
    b.percentForm? = .ok form ∧ b'.percentForm? = .ok form' ∧
    Utf8.encodeEscaped? m.afterBody = .ok after ∧
    r.content = before ++ Utf8.encodeAll form ++ after ∧
    r'.content = before ++ Utf8.encodeAll form' ++ after

theorem Body.isWellFormed_of_percentForm? {b : Body} {form : Text} (h : b.percentForm? = .ok form) :
    form.isWellFormed = true := by
  cases b with
  | text t =>
    rw [percentForm?, Percent.encodeText?] at h
    cases ht : Utf8.encode? t with
    | error run => simp [ht, Except.map] at h
    | ok bs =>
      rw [ht] at h
      obtain rfl := Except.ok.inj h
      exact Percent.isWellFormed_encode bs
  | octets bs =>
    obtain rfl := Except.ok.inj h
    exact Percent.isWellFormed_encode bs

/-- The octets of a text that a form stands in. -/
theorem Utf8.exists_of_encodeEscaped?_around {before form after : Text} {bs : Bytes}
    (hform : form.isWellFormed = true) (h : encodeEscaped? (before ++ form ++ after) = .ok bs) :
    ∃ own rest, encodeEscaped? before = .ok own ∧ encodeEscaped? after = .ok rest ∧
      bs = own ++ encodeAll form ++ rest := by
  obtain ⟨_, rest, hfirst, hrest, rfl⟩ := exists_of_encodeEscaped?_append h
  obtain ⟨own, octets, hown, hoctets, rfl⟩ := exists_of_encodeEscaped?_append hfirst
  rw [encodeEscaped?_of_isWellFormed hform] at hoctets
  obtain rfl := Except.ok.inj hoctets
  exact ⟨own, rest, hown, hrest, rfl⟩

/-- Posts that differ in what stands for a body become requests that do. -/
theorem Post.DifferInBody.makes {m : Message} {b b' : Body} {p p' : Post} {jar : Cookie.Jar}
    {url : Url} {request request' : WireRequest} (h : p.DifferInBody m b b' p')
    (hm : p.Makes jar url request) (hm' : p'.Makes jar url request') :
    request.DifferInBody m b b' request' := by
  obtain ⟨form, form', hform, hform', hpayload, hpayload'⟩ := h.payload
  have hcontent := hm.content_eq
  have hcontent' := hm'.content_eq
  rw [hpayload] at hcontent
  rw [hpayload'] at hcontent'
  obtain ⟨before, after, hbefore, hafter, hr⟩ :=
    Utf8.exists_of_encodeEscaped?_around (Body.isWellFormed_of_percentForm? hform) hcontent
  obtain ⟨before', after', hbefore', hafter', hr'⟩ :=
    Utf8.exists_of_encodeEscaped?_around (Body.isWellFormed_of_percentForm? hform') hcontent'
  obtain rfl := Except.ok.inj (hbefore.symm.trans hbefore')
  obtain rfl := Except.ok.inj (hafter.symm.trans hafter')
  have hauthorization : request'.authorization = request.authorization := by
    have hsame := hm'.authorization_eq
    rw [h.user_eq, h.password_eq, hm.authorization_eq] at hsame
    exact (Except.ok.inj hsame).symm
  refine ⟨hm'.url_eq.trans hm.url_eq.symm, ?_,
    ⟨before, form, form', after, hbefore, hform, hform', hafter, hr, hr'⟩⟩
  have hcookie : request'.cookie = request.cookie := hm'.cookie_eq.trans hm.cookie_eq.symm
  simp [WireRequest.headers, hauthorization, hcookie]

/-! ## The verdict on a body -/

namespace Client

/-- What a send comes to know of a body. -/
inductive Verdict where
  | accepted
  | invalid (failure : EncodingFailure)
  | tooLong (units : Nat)
  deriving DecidableEq, Repr

/-- The verdict on a body. -/
def verdict (b : Body) : Verdict :=
  match b.units? with
  | .error failure => .invalid failure
  | .ok units => if maxBodyUnits < units.length then .tooLong units.length else .accepted

/-- What is said of a body that is turned down. -/
def Verdict.objection? : Verdict → Option Text
  | .accepted => none
  | .invalid failure => some failure.describe
  | .tooLong units => some (Client.tooLong units)

theorem objection?_eq (b : Body) : objection? b = (verdict b).objection? := by
  unfold objection? verdict
  cases b.units? with
  | error failure => rfl
  | ok units =>
    dsimp only
    split <;> rfl

theorem objection?_of_verdict_eq {b b' : Body} (h : verdict b = verdict b') :
    objection? b = objection? b' := by
  rw [objection?_eq, objection?_eq, h]

/-! ## Two sends -/

/-- What can be seen of two runs that began in one state with one message, but for its body. -/
structure TellsNoBody (m : Message) (b b' : Body) (s : State)
    (run run' : Except Fault Outcome × State) : Prop where
  log_eq : run.2.log = run'.2.log
  ends : run.1 = run'.1 ∨
    ∃ part part', run.1 = .error (.unencodable part) ∧ run'.1 = .error (.unencodable part')
  wire : ∃ made made', run.2.wire = s.wire ++ made ∧ run'.2.wire = s.wire ++ made' ∧
    List.Forall₂ (WireRequest.DifferInBody m b b') made made'
  posts : ∀ id, ∃ made made', run.2.postsOf id = s.postsOf id ++ made ∧
    run'.2.postsOf id = s.postsOf id ++ made' ∧ List.Forall₂ (Post.DifferInBody m b b') made made'

section

variable [Installation]

/-- Over the network a payload without octets is a fault before anything is sent. -/
theorem exec_send_of_isStray {m : Message} {t : Text} (ht : m.body.Denotes t)
    (hw : Utf16.width t ≤ 1600)
    (hstray : (m.recipient ++ m.sender ++ m.mediaUrl.getD []).any Utf8.isStray = true) {c : Client}
    {s : State} {id : Nat} (hk : c.carrierIn s = some (.network id)) (verbose : Bool) :
    ∃ part, (c.send m verbose).exec s = (.error (.unencodable part), c.announcing m s) := by
  obtain ⟨payload, hp, hrun⟩ := exec_send_of_denotes ht hw c verbose s
  rw [← Message.any_isStray_payload ht hp, ← Utf8.encodeEscaped?_eq_error_iff] at hstray
  obtain ⟨part, hpart⟩ := hstray
  have hpost : Utf8.encodeEscaped? (c.post payload).payload = .error part := hpart
  have hdeliver : ((Carrier.network id).deliver (c.post payload)).exec (c.announcing m s) =
      (.error (.unencodable part), c.announcing m s) := by
    rw [Carrier.deliver, Transport.exec_deliver, hpost]
  rw [hk] at hrun
  exact ⟨part, hrun.trans (Run.exec_bind_of_error hdeliver _)⟩

/-- Where the payloads have octets, or go to memory, all that two sends do belongs together. -/
theorem relates_send_verdict {b b' : Body} (h : verdict b = verdict b') (c : Client) (m : Message)
    (verbose : Bool) (s : State)
    (hsend : ∀ id, c.carrierIn s = some (.network id) → objection? b = none →
      (m.recipient ++ m.sender ++ m.mediaUrl.getD []).any Utf8.isStray = false) :
    Run.Relates
      (State.Alongside (fun k => c.carrierIn s = some k) (Post.DifferInBody m b b')
        (WireRequest.DifferInBody m b b') s s)
      Eq (c.send { m with body := b } verbose) (c.send { m with body := b' } verbose) := by
  have hlikeness : Likeness (fun k => c.carrierIn s = some k) id (Post.DifferInBody m b b')
      (State.Alongside (fun k => c.carrierIn s = some k) (Post.DifferInBody m b b')
        (WireRequest.DifferInBody m b b') s s) :=
    State.likeness_alongside fun hp hm hm' => hp.makes hm hm'
  refine hlikeness.relates_send rfl ?_ rfl rfl rfl (objection?_of_verdict_eq h).symm ?_
    (fun _ => rfl) ?_
  · intro t t' ht k hk
    rw [← hk, carrierIn, carrierIn, ht.shared_eq.1]
  · intro ho
    have ho' := (objection?_of_verdict_eq h).symm.trans ho
    obtain ⟨text, htext, -⟩ := objection?_eq_none_iff.mp ho
    obtain ⟨text', htext', -⟩ := objection?_eq_none_iff.mp ho'
    have hform := Body.percentForm?_of_denotes htext
    have hform' := Body.percentForm?_of_denotes htext'
    have hpayload := Message.formPayload?_of_percentForm? (m := { m with body := b }) hform
    have hpayload' := Message.formPayload?_of_percentForm? (m := { m with body := b' }) hform'
    refine ⟨_, _, hpayload, hpayload', ⟨rfl, rfl, rfl, _, _, hform, hform', rfl, rfl⟩, ?_⟩
    intro id hk
    have hno := hsend id hk ho
    have hok := Message.any_isStray_payload (m := { m with body := b }) htext hpayload
    have hok' := Message.any_isStray_payload (m := { m with body := b' }) htext' hpayload'
    exact ⟨rfl, .inr ⟨_, _, Utf8.encodeEscaped?_eq_ok_iff.mpr ⟨hok.trans hno, rfl⟩,
      Utf8.encodeEscaped?_eq_ok_iff.mpr ⟨hok'.trans hno, rfl⟩⟩, .refl _⟩
  · intro d d' hd
    obtain rfl : d' = d := hd
    exact hlikeness.relates_conclude { m with body := b } verbose d'

/-- **Of a body only the verdict is told.** Two sends of one message with two bodies write the same
records to the log, if both bodies are accepted, or both are no proper text for the same reason and
from the same position on, or both are too long and of the same number of units. They come to the
same outcome or fault, or both to the fault of a payload without octets. What they put on the wire,
or post in memory, differs only in the percent form that stands for the body after `Body=`, and in
the length of the content. -/
theorem send_tells_verdict {b b' : Body} (h : verdict b = verdict b') (c : Client) (m : Message)
    (verbose : Bool) (s : State) :
    TellsNoBody m b b' s ((c.send { m with body := b } verbose).exec s)
      ((c.send { m with body := b' } verbose).exec s) := by
  by_cases hfault : (∃ id, c.carrierIn s = some (.network id)) ∧ objection? b = none ∧
      (m.recipient ++ m.sender ++ m.mediaUrl.getD []).any Utf8.isStray = true
  · obtain ⟨⟨id, hk⟩, ho, hstray⟩ := hfault
    have ho' := (objection?_of_verdict_eq h).symm.trans ho
    obtain ⟨text, htext, hw⟩ := objection?_eq_none_iff.mp ho
    obtain ⟨text', htext', hw'⟩ := objection?_eq_none_iff.mp ho'
    obtain ⟨part, hrun⟩ :=
      exec_send_of_isStray (m := { m with body := b }) htext hw hstray hk verbose
    obtain ⟨part', hrun'⟩ :=
      exec_send_of_isStray (m := { m with body := b' }) htext' hw' hstray hk verbose
    rw [hrun, hrun']
    exact ⟨rfl, .inr ⟨part, part', rfl, rfl⟩, ⟨[], [], by simp [announcing, State.noted]⟩,
      fun id => ⟨[], [], by simp [announcing, State.noted, State.postsOf]⟩⟩
  · have hsend : ∀ id, c.carrierIn s = some (.network id) → objection? b = none →
        (m.recipient ++ m.sender ++ m.mediaUrl.getD []).any Utf8.isStray = false := by
      intro id hk ho
      rw [← Bool.not_eq_true]
      exact fun hstray => hfault ⟨⟨id, hk⟩, ho, hstray⟩
    obtain ⟨hagree, hafter⟩ :=
      relates_send_verdict h c m verbose s hsend s s (State.alongside_refl s)
    obtain ⟨entries, hlog, hlog'⟩ := hafter.log
    exact ⟨hlog.trans hlog'.symm, .inl hagree.eq, hafter.wire, hafter.posts⟩

end

open scoped Installation in
/-- Two bodies of different lengths, one of them given as octets, that the provider accepts. -/
theorem send_tells_verdict_accepted :
    let c : Client := ⟨⟨Text.ofString "AC1", Text.ofString "t"⟩, none, .ofEnvironment .empty⟩
    let m (b : Body) : Message := ⟨Text.ofString "+1", Text.ofString "+2", b, none⟩
    let s : State := { State.initial 0 .empty .initial with
      transports := [⟨.usual, true, []⟩], shared := some 0 }
    let b : Body := .text (Text.ofString "hi")
    let b' : Body := .octets [0xC3, 0xA9]
    verdict b = verdict b' ∧
      ((c.send (m b) true).exec s).2.log = ((c.send (m b') true).exec s).2.log ∧
      ((c.send (m b) true).exec s).1 = .ok (.accepted 201 []) ∧
      ((c.send (m b') true).exec s).1 = .ok (.accepted 201 []) ∧
      ((c.send (m b) true).exec s).2.wire.map (·.content) =
        [Utf8.encodeAll (Text.ofString "To=+1&From=+2&Body=hi")] ∧
      ((c.send (m b') true).exec s).2.wire.map (·.content) =
        [Utf8.encodeAll (Text.ofString "To=+1&From=+2&Body=%C3%A9")] := by
  intro c m s b b'
  have hverdict : verdict b = verdict b' := by decide
  have htells : TellsNoBody (m b) b b' s ((c.send (m b) true).exec s)
      ((c.send (m b') true).exec s) := send_tells_verdict hverdict c (m b) true s
  have hends := htells.ends
  obtain ⟨s₁, hrun⟩ : ∃ s₁, (c.send (m b) true).exec s = (.ok (.accepted 201 []), s₁) :=
    Run.exists_exec_of_toOption (by decide +kernel)
  rw [hrun] at hends
  refine ⟨hverdict, htells.log_eq, congrArg Prod.fst hrun, ?_, by decide +kernel,
    by decide +kernel⟩
  obtain hsame | ⟨part, part', hpart, -⟩ := hends
  · exact hsame.symm
  · cases hpart

end Client

end Courier
