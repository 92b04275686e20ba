import Courier.Proofs.Gateway.Envelope
import Courier.Proofs.Gateway.Submission
import Courier.Proofs.Schema.Issues

/-!
# Content that is no submission

Where the content of a request is no submission, nothing is sent. The issues found in it are listed
in the answer, each with the value it was found in, and such a value was given by the caller: it may
be one that no answer can hold. Then the work on the request ends in a fault, and the answer is that
of a fault.

Results:
* `finds_submissionOf`, `Request.isFoundIn_of_issues?`: the issues in the content of a request.
* `exists_content?_invalidRequest_iff`: which lists of issues can be written.
* `Request.IsTurnedDown`: the answers to content that is no submission.
* `App.handle_of_isPlain`, `App.handle_of_octets`: content whose issues are listed, and content
  whose issues never are.
* `App.handle_invalid`: when the caller is told what is wrong, and when the gateway fails.
-/

namespace Courier.Gateway

/-! ## Issues in the content of a request -/

/-- What is found wrong with content that can be read, unless it is a submission. -/
def Request.Payload.issues? : Request.Payload → Option (List Schema.Issue)
  | .unreadable => none
  | .malformed reason position =>
    some [⟨[.name App.bodyName, .index position], .notJson reason, .object []⟩]
  | .absent => some [⟨[.name App.bodyName], .missing, .null⟩]
  | .octets bs => some [⟨[.name App.bodyName], .objectExpected, .bytes bs⟩]
  | .value v => match App.submissionOf v with
    | .valid _ => none
    | .invalid issues => some issues

theorem Request.Payload.issues?_eq_none {payload : Request.Payload} (h : payload.issues? = none) :
    payload = .unreadable ∨ ∃ v sub, payload = .value v ∧ App.submissionOf v = .valid sub := by
  cases payload with
  | unreadable => exact .inl rfl
  | value v =>
    cases hsub : App.submissionOf v with
    | valid sub => exact .inr ⟨v, sub, rfl, hsub⟩
    | invalid issues => simp [issues?, hsub] at h
  | _ => cases h

theorem isWellFormed_bodyName : App.bodyName.isWellFormed = true :=
  Text.isWellFormed_ofString "body"

/-- The issues of a value that is no submission are found in its members, or in all of it. -/
theorem finds_submissionOf {Q : Value → Prop} {v : Value} (hv : Q v)
    (hms : ∀ members, v = .object members → ∀ m ∈ members, Q m.2) :
    Schema.Finds Q (App.submissionOf v) := by
  refine Schema.Finds.within ?_ isWellFormed_bodyName
  cases v with
  | object members => exact Schema.finds_submission hv (hms members rfl)
  | _ => exact Schema.finds_fault rfl hv

/-- An issue of the content as a whole. -/
theorem isFoundIn_body {rest : List Schema.Key} {cause : Schema.Cause} {input : Value}
    (hr : ∀ name, Schema.Key.name name ∉ rest)
    (hc : ∀ word ∈ cause.words, word.isWellFormed = true) :
    Schema.Issue.IsFoundIn (fun _ => True) ⟨.name App.bodyName :: rest, cause, input⟩ := by
  refine ⟨fun name hname => ?_, hc, trivial⟩
  obtain hname | hname := List.mem_cons.mp hname
  · cases hname
    exact isWellFormed_bodyName
  · exact absurd hname (hr name)

section

variable [Installation]

theorem Request.Payload.ofValue_ne_malformed (v : Value) (reason : Text) (position : Nat) :
    ofValue v ≠ .malformed reason position := by
  unfold ofValue
  split
  · split <;> nofun
  · nofun

/-- The reason why content is no JSON is one of the reader's. -/
theorem Request.isWellFormed_of_malformed {r : Request} {reason : Text} {position : Nat}
    (h : r.payload = .malformed reason position) : reason.isWellFormed = true := by
  unfold payload at h
  split_ifs at h
  split at h
  · cases h
  · split at h
    · exact absurd h (Payload.ofValue_ne_malformed _ _ _)
    · cases h
      exact Text.isWellFormed_ofString _
    · cases h
    · cases h

/-- All that is said of an issue has octets, but for the value it was found in. -/
theorem Request.isFoundIn_of_issues? {r : Request} {issues : List Schema.Issue}
    (h : r.payload.issues? = some issues) : ∀ i ∈ issues, i.IsFoundIn fun _ => True := by
  cases hp : r.payload with
  | unreadable => simp [hp, Payload.issues?] at h
  | malformed reason position =>
    rw [hp] at h
    cases h
    have hreason : ∀ word ∈ (Schema.Cause.notJson reason).words, word.isWellFormed = true := by
      simpa [Schema.Cause.words] using isWellFormed_of_malformed hp
    exact List.forall_mem_singleton.mpr (isFoundIn_body (by simp) hreason)
  | absent =>
    rw [hp] at h
    cases h
    exact List.forall_mem_singleton.mpr (isFoundIn_body (by simp) (by simp [Schema.Cause.words]))
  | octets bs =>
    rw [hp] at h
    cases h
    exact List.forall_mem_singleton.mpr (isFoundIn_body (by simp) (by simp [Schema.Cause.words]))
  | value v =>
    rw [hp, Payload.issues?] at h
    cases hsub : App.submissionOf v with
    | valid sub => simp [hsub] at h
    | invalid own =>
      rw [hsub] at h
      cases h
      exact finds_submissionOf trivial (fun _ _ _ _ => trivial) issues hsub

/-- In a document that could be written itself where a value of an issue stands, all issues are
found in such values. -/
theorem Request.isPlain_of_issues? {r : Request} {v : Value} {issues : List Schema.Issue}
    (hp : r.payload = .value v) (hv : v.IsPlain Installation.inputDepth)
    (h : r.payload.issues? = some issues) :
    ∀ i ∈ issues, i.input.IsPlain Installation.inputDepth := by
  have hms : ∀ members, v = .object members →
      ∀ m ∈ members, m.2.IsPlain Installation.inputDepth := by
    rintro members rfl
    cases hv with
    | object _ hv => exact fun m hm => (hv m hm).succ
  rw [hp, Payload.issues?] at h
  cases hsub : App.submissionOf v with
  | valid sub => simp [hsub] at h
  | invalid own =>
    rw [hsub] at h
    cases h
    exact fun i hi => (finds_submissionOf hv hms issues hsub i hi).input

end

/-! ## Answers that list issues -/

theorem isPlain_keyValue {place : List Schema.Key}
    (h : ∀ name, Schema.Key.name name ∈ place → name.isWellFormed = true) (depth : Nat) :
    (Value.list (place.map keyValue)).IsPlain (depth + 1) := by
  rw [Value.isPlain_list_iff]
  intro v hv
  obtain ⟨key, hkey, rfl⟩ := List.mem_map.mp hv
  cases key with
  | name t => exact .text depth (h t hkey)
  | index n => exact .int depth n

/-- What is said about an issue is as plain as the value it was found in. The other parts of it need
two levels at most. -/
theorem isPlain_issueValue_iff {Q : Value → Prop} {i : Schema.Issue} (h : i.IsFoundIn Q)
    (depth : Nat) : (issueValue i).IsPlain (depth + 2) ↔ i.input.IsPlain (depth + 1) := by
  have hkind : (Value.string i.cause.kind).IsPlain (depth + 1) :=
    .text _ (Text.isWellFormed_ofString _)
  have hplace := isPlain_keyValue h.place depth
  have hmessage : (Value.text i.cause.message).IsPlain (depth + 1) :=
    .text _ (Schema.Cause.isWellFormed_message h.words)
  have hreason : ∀ reason, i.cause = .notJson reason →
      (Value.ofFields [("error", .text reason)]).IsPlain (depth + 1) := by
    intro reason hcause
    have hwf : reason.isWellFormed = true := h.words reason (by simp [hcause, Schema.Cause.words])
    have htext : (Value.text reason).IsPlain depth := .text depth hwf
    exact Value.isPlain_ofFields htext
  rw [issueValue, Value.isPlain_ofFields_iff, List.forall_append]
  split
  next reason hcause => simp [List.Forall, hkind, hplace, hmessage, hreason reason hcause]
  next => simp [List.Forall, hkind, hplace, hmessage]

section

variable [Installation]

/-- The issues that can be listed are those whose values are plain, nested as deep as such values
are followed. -/
theorem exists_content?_invalidRequest_iff {Q : Value → Prop} {issues : List Schema.Issue}
    (h : ∀ i ∈ issues, i.IsFoundIn Q) :
    (∃ octets, (invalidRequest issues).content? = .ok octets) ↔
      ∀ i ∈ issues, i.input.IsPlain Installation.inputDepth := by
  have hok : ∀ depth, (Value.bool false).IsPlain depth := fun depth => .bool depth false
  have herror : ∀ depth, (Value.string "Invalid request").IsPlain depth := fun depth =>
    .text depth (Text.isWellFormed_ofString _)
  rw [invalidRequest, Response.exists_content?_iff, Installation.answerDepth,
    Value.isPlain_ofFields_iff]
  simp only [hok, herror, List.Forall, true_and, Value.isPlain_list_iff,
    List.forall_mem_map]
  exact forall₂_congr fun i hi => isPlain_issueValue_iff (h i hi) _

/-! ## The answer -/

/-- The answers to content that is no submission: it cannot be read, or the issues in it are listed,
or they cannot be. -/
inductive Request.IsTurnedDown (r : Request) : Response → Prop
  | unreadable (h : r.payload = .unreadable) :
      IsTurnedDown r (.notServed 400 "There was an error parsing the body")
  | listed {issues : List Schema.Issue} (h : r.payload.issues? = some issues)
      (hi : ∀ i ∈ issues, i.input.IsPlain Installation.inputDepth) :
      IsTurnedDown r (invalidRequest issues)
  | unlisted {issues : List Schema.Issue} (h : r.payload.issues? = some issues)
      (hi : ¬∀ i ∈ issues, i.input.IsPlain Installation.inputDepth) : IsTurnedDown r internalError

namespace App

theorem exec_messages_of_issues? {payload : Request.Payload} {issues : List Schema.Issue}
    {s : State} {sid token : Text} (h : payload.issues? = some issues)
    (ha : s.currentGatewaySettings.account? = some (sid, token)) :
    ∃ s', (messages payload).exec s = (.ok (.invalid issues), s') ∧ s'.wire = s.wire := by
  cases payload with
  | unreadable => cases h
  | malformed reason position =>
    cases h
    exact ⟨s, rfl, rfl⟩
  | absent =>
    cases h
    exact ⟨s.prepared, exec_withClient_of_some ha _, rfl⟩
  | octets bs =>
    cases h
    exact ⟨s.prepared, exec_withClient_of_some ha _, rfl⟩
  | value v =>
    refine ⟨s.prepared, (exec_withClient_of_some ha _).trans ?_, rfl⟩
    rw [Request.Payload.issues?] at h
    cases hsub : submissionOf v with
    | valid sub => simp [hsub] at h
    | invalid own =>
      rw [hsub] at h
      cases h
      rfl

/-- Issues are answered, unless the answer has no octets. -/
theorem exec_answerOf_invalid (issues : List Schema.Issue) (s : State) :
    (answerOf (.invalid issues)).exec s =
      ((invalidRequest issues).content?.map fun _ => invalidRequest issues,
        s.noted .debug logger (Text.ofString "validation error")) := by
  unfold answerOf written
  rw [Run.exec_bind_of_ok (Run.exec_log _ _ _ _), Run.exec_ofExcept]
  rfl

/-- The issues that are found are listed if all their values can be written. -/
theorem handle_of_issues? {r : Request} {issues : List Schema.Issue} {s : State} {sid token : Text}
    (hr : r.Reaches .messages) (h : r.payload.issues? = some issues)
    (ha : s.currentGatewaySettings.account? = some (sid, token)) :
    ∃ resp s', (handle r).exec s = (.ok resp, s') ∧ s'.wire = s.wire ∧ r.IsTurnedDown resp := by
  obtain ⟨s₁, hwork, hwire⟩ := exec_messages_of_issues? h ha
  have hanswer := exec_answerOf_invalid issues s₁
  have hiff := exists_content?_invalidRequest_iff (Request.isFoundIn_of_issues? h)
  cases hcontent : (invalidRequest issues).content? with
  | ok octets =>
    rw [hcontent] at hanswer
    exact ⟨_, _, exec_handle_of_reaches hr hwork hanswer, hwire,
      .listed h (hiff.mp ⟨octets, hcontent⟩)⟩
  | error fault =>
    rw [hcontent] at hanswer
    have hno : ¬∀ i ∈ issues, i.input.IsPlain Installation.inputDepth := by
      rw [← hiff, hcontent]
      simp
    exact ⟨_, _, exec_handle_of_fault hr hwork hanswer, hwire, .unlisted h hno⟩

theorem handle_of_unreadable {r : Request} (hr : r.Reaches .messages)
    (h : r.payload = .unreadable) (s : State) :
    (handle r).exec s = (.ok (.notServed 400 "There was an error parsing the body"), s) := by
  obtain ⟨octets, hcontent⟩ :=
    Response.exists_content?_notServed 400 "There was an error parsing the body"
  have hwork : (work r .messages).exec s =
      (.ok (.answer (.notServed 400 "There was an error parsing the body")), s) := by
    rw [work, h]
    rfl
  exact exec_handle_of_reaches hr hwork (exec_answerOf_answer hcontent s)

end App

namespace Request.IsTurnedDown

variable {r : Request} {resp : Response}

theorem of_issues? {issues : List Schema.Issue} (h : r.IsTurnedDown resp)
    (hr : r.payload.issues? = some issues) :
    (resp = invalidRequest issues ∧ ∀ i ∈ issues, i.input.IsPlain Installation.inputDepth) ∨
      (resp = internalError ∧ ¬∀ i ∈ issues, i.input.IsPlain Installation.inputDepth) := by
  cases h with
  | unreadable h => simp [h, Payload.issues?] at hr
  | listed h hi =>
    obtain rfl := Option.some.inj (h.symm.trans hr)
    exact .inl ⟨rfl, hi⟩
  | unlisted h hi =>
    obtain rfl := Option.some.inj (h.symm.trans hr)
    exact .inr ⟨rfl, hi⟩

/-- The caller is told in the common form what is wrong exactly if the issues can be listed. -/
theorem tells_iff (h : r.IsTurnedDown resp) :
    (400 ≤ resp.status ∧ resp.status < 500 ∧ resp.HasEnvelope) ↔
      ∃ issues, r.payload.issues? = some issues ∧
        ∀ i ∈ issues, i.input.IsPlain Installation.inputDepth := by
  cases h with
  | unreadable h =>
    have hno : ¬(Response.notServed 400 "There was an error parsing the body").HasEnvelope :=
      Response.not_hasEnvelope_notServed _ _
    simp [h, Payload.issues?, hno]
  | @listed issues h hi =>
    have hstatus : (invalidRequest issues).status = 422 := rfl
    exact iff_of_true ⟨by omega, by omega, invalidRequest_hasEnvelope issues⟩ ⟨issues, h, hi⟩
  | @unlisted issues h hi =>
    refine iff_of_false (fun hlow => absurd hlow.2.1 (by decide)) ?_
    rintro ⟨own, hown, hplain⟩
    obtain rfl := Option.some.inj (h.symm.trans hown)
    exact hi hplain

/-- The gateway fails exactly if the issues cannot be listed. -/
theorem fails_iff (h : r.IsTurnedDown resp) :
    resp.status = 500 ↔
      ∃ issues, r.payload.issues? = some issues ∧
        ∃ i ∈ issues, ¬i.input.IsPlain Installation.inputDepth := by
  cases h with
  | unreadable h =>
    refine iff_of_false (by decide) ?_
    simp [h, Payload.issues?]
  | @listed issues h hi =>
    have hstatus : (invalidRequest issues).status = 422 := rfl
    refine iff_of_false (by omega) ?_
    rintro ⟨own, hown, i, hmem, hplain⟩
    obtain rfl := Option.some.inj (h.symm.trans hown)
    exact hplain (hi i hmem)
  | @unlisted issues h hi =>
    push Not at hi
    exact iff_of_true rfl ⟨issues, h, hi⟩

end Request.IsTurnedDown

end

namespace App

section

variable [Installation]

section

variable {r : Request} {s : State} {sid token : Text}

/-- A document that could be written itself is answered by the issues in it. -/
theorem handle_of_isPlain {v : Value} {issues : List Schema.Issue} (hr : r.Reaches .messages)
    (hp : r.payload = .value v) (hv : v.IsPlain Installation.inputDepth)
    (h : submissionOf v = .invalid issues)
    (ha : s.currentGatewaySettings.account? = some (sid, token)) :
    ∃ s', (handle r).exec s = (.ok (invalidRequest issues), s') ∧ s'.wire = s.wire := by
  have hissues : r.payload.issues? = some issues := by
    rw [hp, Request.Payload.issues?, h]
  obtain ⟨resp, s', hrun, hwire, hdown⟩ := handle_of_issues? hr hissues ha
  obtain ⟨rfl, -⟩ | ⟨-, hno⟩ := hdown.of_issues? hissues
  · exact ⟨s', hrun, hwire⟩
  · exact absurd (Request.isPlain_of_issues? hp hv hissues) hno

/-- Octets that are not sent as JSON make the gateway fail. -/
theorem handle_of_octets {bs : Bytes} (hr : r.Reaches .messages) (h : r.payload = .octets bs)
    (ha : s.currentGatewaySettings.account? = some (sid, token)) :
    ∃ s', (handle r).exec s = (.ok internalError, s') := by
  have hissues : r.payload.issues? =
      some [⟨[.name bodyName], .objectExpected, .bytes bs⟩] := by
    rw [h]
    rfl
  obtain ⟨resp, s', hrun, -, hdown⟩ := handle_of_issues? hr hissues ha
  obtain ⟨-, hall⟩ | ⟨rfl, -⟩ := hdown.of_issues? hissues
  · cases hall _ (List.mem_singleton.mpr rfl)
  · exact ⟨s', hrun⟩

end

/-- **The answer to content that is no submission.** Where an account is configured, nothing goes
over the wire, and content that can be read is answered by the issues found in it, each with the
value it was found in. The caller is told so in the common form exactly if all these values can be
written: finite numbers, and texts and names that have octets. One that cannot, such as octets that
were not read as JSON, makes the gateway fail. -/
theorem handle_invalid {r : Request} {s : State} {sid token : Text} (hr : r.Reaches .messages)
    (ha : s.currentGatewaySettings.account? = some (sid, token))
    (hc : ∀ v sub, r.payload = .value v → submissionOf v ≠ .valid sub) :
    ∃ resp s', (handle r).exec s = (.ok resp, s') ∧ s'.wire = s.wire ∧ r.IsTurnedDown resp ∧
      ((400 ≤ resp.status ∧ resp.status < 500 ∧ resp.HasEnvelope) ↔
        ∃ issues, r.payload.issues? = some issues ∧
          ∀ i ∈ issues, i.input.IsPlain Installation.inputDepth) ∧
      (resp.status = 500 ↔
        ∃ issues, r.payload.issues? = some issues ∧
          ∃ i ∈ issues, ¬i.input.IsPlain Installation.inputDepth) := by
  have hanswer : ∃ resp s', (handle r).exec s = (.ok resp, s') ∧ s'.wire = s.wire ∧
      r.IsTurnedDown resp := by
    cases hissues : r.payload.issues? with
    | some issues => exact handle_of_issues? hr hissues ha
    | none =>
      obtain hread | ⟨v, sub, hv, hsub⟩ := Request.Payload.issues?_eq_none hissues
      · exact ⟨_, s, handle_of_unreadable hr hread s, rfl, .unreadable hread⟩
      · exact absurd hsub (hc v sub hv)
  obtain ⟨resp, s', hrun, hwire, hdown⟩ := hanswer
  exact ⟨resp, s', hrun, hwire, hdown, hdown.tells_iff, hdown.fails_iff⟩

end

open scoped Installation in
/-- A document without a body. -/
theorem handle_invalid_noBody :
    let r : Request := ⟨Text.ofString "POST", Text.ofString "http://testserver",
      Text.ofString "/api/v1/messages", [],
      Utf8.encodeAll (Text.ofString "\x7b\"to\":\"+1\"\x7d"), Request.jsonType⟩
    let settings : GatewaySettings := { GatewaySettings.ofEnvironment .empty with
      sid := some (Text.ofString "AC1"), token := some (Text.ofString "t") }
    let s : State := { State.initial 0 .empty .initial with gatewaySettings := some settings }
    r.Reaches .messages ∧
      s.currentGatewaySettings.account? = some (Text.ofString "AC1", Text.ofString "t") ∧
      (∀ v sub, r.payload = .value v → submissionOf v ≠ .valid sub) ∧
      ∃ resp s', (handle r).exec s = (.ok resp, s') ∧ s'.wire = s.wire ∧
        400 ≤ resp.status ∧ resp.status < 500 ∧ resp.HasEnvelope := by
  intro r settings s
  have hr : r.Reaches .messages := Request.reaches_messages rfl rfl
  have ha : s.currentGatewaySettings.account? = some (Text.ofString "AC1", Text.ofString "t") := by
    decide
  let v : Value := .ofFields [("to", .string "+1")]
  have hpayload : r.payload = .value v := rfl
  have hc : ∀ v sub, r.payload = .value v → submissionOf v ≠ .valid sub := by
    intro u sub hu hsub
    rw [hpayload] at hu
    cases hu
    cases hsub
  have hrecipient : (Value.string "+1").IsPlain Installation.spareDepth :=
    .text _ (Text.isWellFormed_ofString "+1")
  have hv : v.IsPlain Installation.inputDepth := Value.isPlain_ofFields hrecipient
  obtain ⟨issues, hissues⟩ : ∃ issues, r.payload.issues? = some issues := ⟨_, rfl⟩
  obtain ⟨resp, s', hrun, hwire, -, htells, -⟩ := handle_invalid hr ha hc
  exact ⟨hr, ha, hc, resp, s', hrun, hwire,
    htells.mpr ⟨issues, hissues, Request.isPlain_of_issues? hpayload hv hissues⟩⟩

open scoped Installation in
/-- Text that is not sent as JSON is not even called invalid. -/
theorem handle_invalid_plainText :
    let r : Request := ⟨Text.ofString "POST", Text.ofString "http://testserver",
      Text.ofString "/api/v1/messages", [],
      Utf8.encodeAll (Text.ofString "hi"), Text.ofString "text/plain"⟩
    let settings : GatewaySettings := { GatewaySettings.ofEnvironment .empty with
      sid := some (Text.ofString "AC1"), token := some (Text.ofString "t") }
    let s : State := { State.initial 0 .empty .initial with gatewaySettings := some settings }
    s.currentGatewaySettings.account? = some (Text.ofString "AC1", Text.ofString "t") ∧
      (∀ v sub, r.payload = .value v → submissionOf v ≠ .valid sub) ∧
      ∃ resp s', (handle r).exec s = (.ok resp, s') ∧
        ¬(400 ≤ resp.status ∧ resp.status < 500 ∧ resp.HasEnvelope) := by
  intro r settings s
  have hr : r.Reaches .messages := Request.reaches_messages rfl rfl
  have hpayload : r.payload = .octets (Utf8.encodeAll (Text.ofString "hi")) := rfl
  have ha : s.currentGatewaySettings.account? = some (Text.ofString "AC1", Text.ofString "t") := by
    decide
  obtain ⟨s', hrun⟩ := handle_of_octets hr hpayload ha
  refine ⟨ha, fun v sub hv => ?_, internalError, s', hrun, fun hlow => ?_⟩
  · rw [hpayload] at hv
    cases hv
  · exact absurd hlow.2.1 (by decide)

end App

end Courier.Gateway
