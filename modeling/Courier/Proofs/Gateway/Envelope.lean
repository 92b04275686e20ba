import Courier.Proofs.Gateway.Answer

/-!
# The form of the answers that refuse

An answer that grants nothing is meant to have one form: an object where `ok` is false and `error`
says why (`Response.HasEnvelope`). Whatever a route comes to is answered in this form unless it is
granted, and so are faults of the work on a request. A request that no route takes, or whose content
cannot be read at all, is answered in another form (`Request.Misses`).

Results:
* `App.yields_messages`, `App.yields_work`: what the routes come to.
* `App.yields_answerOf`: what is answered for that.
* `App.handle_envelope_iff`: which requests are refused in the common form.
-/

namespace Courier.Gateway

/-! ## Forms of answers -/

/-- An answer holds an object where `ok` is false and `error` is a text. -/
def Response.HasEnvelope (resp : Response) : Prop :=
  ∃ members words, resp.body = .document (.object members) ∧
    Members.get? (Text.ofString "ok") members = some (.bool false) ∧
    Members.get? (Text.ofString "error") members = some (.text words)

theorem Response.hasEnvelope_refusal (status : Int) (words : Text) :
    (refusal status words).HasEnvelope := ⟨_, words, rfl, rfl, rfl⟩

/-- A detail alone is not the common form. -/
theorem Response.not_hasEnvelope_notServed (status : Int) (reason : String) :
    ¬(notServed status reason).HasEnvelope := by
  rintro ⟨members, words, hbody, hok, -⟩
  cases hbody
  cases hok

theorem invalidRequest_hasEnvelope (issues : List Schema.Issue) :
    (invalidRequest issues).HasEnvelope := ⟨_, _, rfl, rfl, rfl⟩

theorem internalError_hasEnvelope : internalError.HasEnvelope := ⟨_, _, rfl, rfl, rfl⟩

/-- An answer refuses nothing, or has the common form. -/
def Response.IsRegular (resp : Response) : Prop := resp.status < 400 ∨ resp.HasEnvelope

section

variable [Installation]

theorem Response.exists_content?_notServed (status : Int) (reason : String) :
    ∃ octets, (notServed status reason).content? = .ok octets := by
  have hreason : ∀ depth, (Value.string reason).IsPlain depth := fun depth =>
    .text depth (Text.isWellFormed_ofString reason)
  have hbody : (Value.ofFields [("detail", .string reason)]).IsPlain Installation.answerDepth :=
    Value.isPlain_ofFields (hreason _)
  exact exists_content?_of_isPlain hbody status

/-- Whatever is answered for a problem refuses the request with its status. -/
theorem Problem.exists_refusal_of_response? {p : Problem} {resp : Response}
    (h : p.response? = .ok resp) : ∃ words, resp = .refusal p.status words := by
  unfold response? at h
  cases hwords : p.words? with
  | error fault => simp [hwords, bind, Except.bind] at h
  | ok words =>
    simp only [hwords, bind, Except.bind] at h
    split at h
    · cases h
    · cases h
      exact ⟨words, rfl⟩

theorem Problem.hasEnvelope_of_response? {p : Problem} {resp : Response}
    (h : p.response? = .ok resp) : resp.HasEnvelope := by
  obtain ⟨words, rfl⟩ := exists_refusal_of_response? h
  exact Response.hasEnvelope_refusal p.status words

/-! ## Requests that miss the routes -/

/-- A request misses the routes: its path is that of none, also when slashes at the end are put
right, or no route at its path takes its method, or the content of a message cannot be read. It is
answered with a detail alone. -/
inductive Request.Misses (r : Request) : Response → Prop
  | path (hp : Route.isKnown r.path = false) (ho : Route.otherPath? r.path = none) :
      Misses r (.notServed 404 "Not Found")
  | method (hp : Route.isKnown r.path = true) (hr : r.route? = none) :
      Misses r (.notServed 405 "Method Not Allowed")
  | content (hr : r.Reaches .messages) (hc : r.payload = .unreadable) :
      Misses r (.notServed 400 "There was an error parsing the body")

theorem Request.Misses.eq_notServed {r : Request} {miss : Response} (h : r.Misses miss) :
    ∃ status reason, miss = .notServed status reason := by
  cases h <;> exact ⟨_, _, rfl⟩

end

namespace App

/-! ## What the routes come to -/

/-- What a request comes to refuses nothing, or it is a problem or issues. -/
def Result.IsSettled : Result → Prop
  | .answer resp => resp.status < 400
  | .problem _ => True
  | .invalid _ => True

theorem isSettled_granted (v : Value) : (Result.answer (.json 200 v)).IsSettled :=
  show (200 : Int) < 400 by decide

theorem isSettled_resultOf (o : Outcome) : (resultOf o).IsSettled := by
  unfold resultOf
  split
  · exact isSettled_granted _
  · split <;> trivial

theorem yields_health : Run.Yields Result.IsSettled health :=
  Run.Yields.after fun _ => Run.Yields.after fun _ => Run.yields_pure (isSettled_granted _)

theorem yields_withClient {act : GatewaySettings → Client → Run Result}
    (h : ∀ settings c, Run.Yields Result.IsSettled (act settings c)) :
    Run.Yields Result.IsSettled (withClient act) := by
  refine Run.Yields.after fun settings => ?_
  cases settings.account? with
  | none => exact Run.yields_pure trivial
  | some account => exact Run.Yields.after fun c => h settings c

section

variable [Installation]

theorem yields_submit (settings : GatewaySettings) (c : Client) (sub : Submission) :
    Run.Yields Result.IsSettled (submit settings c sub) := by
  unfold submit
  cases senderOf settings sub with
  | none => exact Run.yields_pure trivial
  | some sender => exact Run.Yields.after fun o => Run.yields_pure (isSettled_resultOf o)

theorem yields_messages {payload : Request.Payload} (h : payload ≠ .unreadable) :
    Run.Yields Result.IsSettled (messages payload) := by
  cases payload with
  | unreadable => exact absurd rfl h
  | malformed reason position => exact Run.yields_pure trivial
  | absent => exact yields_withClient fun _ _ => Run.yields_pure trivial
  | octets bs => exact yields_withClient fun _ _ => Run.yields_pure trivial
  | value v =>
    refine yields_withClient fun settings c => ?_
    cases submissionOf v with
    | invalid issues => exact Run.yields_pure trivial
    | valid sub => exact yields_submit settings c sub

theorem yields_work {r : Request} {route : Route}
    (h : route = .messages → r.payload ≠ .unreadable) :
    Run.Yields Result.IsSettled (work r route) := by
  have hpage : ∀ octets, (Result.answer (.page octets)).IsSettled := fun _ =>
    show (200 : Int) < 400 by decide
  cases route with
  | schema => exact Run.yields_pure (isSettled_granted _)
  | page => exact Run.yields_pure (hpage _)
  | pageReturn => exact Run.yields_pure (hpage _)
  | health => exact yields_health
  | liveness => exact Run.yields_pure (isSettled_granted _)
  | messages => exact yields_messages (h rfl)

/-! ## What is answered -/

theorem yields_written {P : Response → Prop} {r : Except Fault Response}
    (h : ∀ resp, r = .ok resp → P resp) : Run.Yields P (written r) := by
  refine Run.yields_ofExcept fun resp hresp => ?_
  cases r with
  | error fault => cases hresp
  | ok own =>
    simp only [Except.bind] at hresp
    cases hcontent : own.content? with
    | error fault => simp [hcontent, Except.map] at hresp
    | ok octets =>
      simp only [hcontent, Except.map] at hresp
      cases hresp
      exact h resp rfl

theorem yields_answerOf {result : Result} (h : result.IsSettled) :
    Run.Yields Response.IsRegular (answerOf result) := by
  cases result with
  | answer own =>
    refine yields_written fun resp hresp => ?_
    obtain rfl := Except.ok.inj hresp
    exact .inl h
  | problem p =>
    exact Run.Yields.after fun _ => yields_written fun resp hresp =>
      .inr (Problem.hasEnvelope_of_response? hresp)
  | invalid issues =>
    refine Run.Yields.after fun _ => yields_written fun resp hresp => ?_
    cases hresp
    exact .inr (invalidRequest_hasEnvelope issues)

theorem yields_answerOf_problem (p : Problem) :
    Run.Yields (fun resp => resp.status = p.status) (answerOf (.problem p)) := by
  refine Run.Yields.after fun _ => yields_written fun resp hresp => ?_
  obtain ⟨words, rfl⟩ := Problem.exists_refusal_of_response? hresp
  rfl

/-! ## The answer -/

theorem dispatch_of_misses {r : Request} {miss : Response} (h : r.Misses miss) :
    dispatch r = pure (.answer miss) := by
  cases h with
  | path hp ho =>
    have hroute : r.route? = none := by
      rw [Request.route?, Route.find?, List.find?_eq_none]
      intro route hmem hboth
      rw [Bool.and_eq_true] at hboth
      exact Bool.false_ne_true (hp.symm.trans (List.any_eq_true.mpr ⟨route, hmem, hboth.1⟩))
    rw [dispatch, hroute]
    simp only [turnedAway, hp, ho, Bool.false_eq_true, if_false]
  | method hp hr =>
    rw [dispatch, hr]
    simp only [turnedAway, hp, if_true]
  | content hr hc =>
    rw [dispatch_of_reaches hr, work, hc]
    rfl

/-- The answer to a request that misses the routes. -/
theorem exec_handle_of_misses {r : Request} {miss : Response} (h : r.Misses miss) (s : State) :
    (handle r).exec s = (.ok miss, s) := by
  obtain ⟨status, reason, hmiss⟩ := h.eq_notServed
  obtain ⟨octets, hcontent⟩ := Response.exists_content?_notServed status reason
  rw [← hmiss] at hcontent
  have hresult : (dispatch r).exec s = (.ok (.answer miss), s) := by
    rw [dispatch_of_misses h, Run.exec_pure]
  exact exec_handle_of_ok hresult (exec_answerOf_answer hcontent s)

/-- A request that misses no route comes to something regular: what its route comes to, or the path
that it was meant for. -/
theorem yields_dispatch_of_not_misses {r : Request} (h : ¬∃ miss, r.Misses miss) :
    Run.Yields Result.IsSettled (dispatch r) := by
  cases hroute : r.route? with
  | some route =>
    rw [dispatch_of_reaches hroute]
    refine yields_work ?_
    rintro rfl hc
    exact h ⟨_, .content hroute hc⟩
  | none =>
    rw [dispatch, hroute]
    dsimp only
    unfold turnedAway
    cases hp : Route.isKnown r.path with
    | true => exact absurd ⟨_, .method hp hroute⟩ h
    | false =>
      cases ho : Route.otherPath? r.path with
      | none => exact absurd ⟨_, .path hp ho⟩ h
      | some path =>
        have hredirection : ∀ location, (Result.answer (.redirection location)).IsSettled :=
          fun _ => show (307 : Int) < 400 by decide
        exact Run.Yields.after fun location => Run.yields_pure (hredirection location)

/-- **Which requests are refused in the common form.** There is an answer to every request in every
state. If its status is 400 or above, it has that form exactly if the request does not miss the
routes: a route takes it, and content that a message is to be taken from can be read, or its path is
that of a route but for slashes at the end. To all others a detail alone is answered. -/
theorem handle_envelope_iff (r : Request) (s : State) :
    ∃ resp s', (handle r).exec s = (.ok resp, s') ∧ (∀ miss, r.Misses miss → resp = miss) ∧
      (400 ≤ resp.status → (resp.HasEnvelope ↔ ¬∃ miss, r.Misses miss)) := by
  by_cases hmissed : ∃ miss, r.Misses miss
  · obtain ⟨miss, hmiss⟩ := hmissed
    have hrun := exec_handle_of_misses hmiss s
    refine ⟨miss, s, hrun, fun other hother => ?_, fun _ => ⟨fun henvelope => ?_, fun hno => ?_⟩⟩
    · have hboth := hrun.symm.trans (exec_handle_of_misses hother s)
      exact Except.ok.inj (Prod.mk.inj hboth).1
    · obtain ⟨status, reason, rfl⟩ := hmiss.eq_notServed
      exact absurd henvelope (Response.not_hasEnvelope_notServed status reason)
    · exact absurd ⟨miss, hmiss⟩ hno
  · obtain ⟨resp, s', hrun⟩ := exists_exec_handle r s
    have hdone := (yields_dispatch_of_not_misses hmissed).bind fun _ => yields_answerOf
    have hregular : resp.IsRegular :=
      yields_handle hdone (.inr internalError_hasEnvelope) s resp s' hrun
    refine ⟨resp, s', hrun, fun miss hmiss => absurd ⟨miss, hmiss⟩ hmissed, fun hs => ?_⟩
    obtain hlow | henvelope := hregular
    · omega
    · exact iff_of_true henvelope hmissed

end

open scoped Installation in
/-- The gateway has no route for this path, and answers so in another form. -/
theorem handle_envelope_unknownPath :
    let r : Request := ⟨Text.ofString "GET", Text.ofString "http://testserver",
      Text.ofString "/api/v1/nope", [], [], []⟩
    let s : State := .initial 0 .empty .initial
    let resp : Response := .notServed 404 "Not Found"
    (handle r).exec s = (.ok resp, s) ∧ 400 ≤ resp.status ∧ ¬resp.HasEnvelope := by
  intro r s resp
  have hmiss : r.Misses resp := .path (by decide +kernel) (by decide +kernel)
  exact ⟨exec_handle_of_misses hmiss s, by decide,
    Response.not_hasEnvelope_notServed 404 "Not Found"⟩

end App

end Courier.Gateway
