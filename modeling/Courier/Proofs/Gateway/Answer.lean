import Courier.Gateway.App
import Courier.Proofs.Json.Writer
import Courier.Proofs.Run
import Courier.Proofs.Text.Utf8

/-!
# The answer to a request

The path and the method of a request decide which route does the work. What comes of it is answered
as soon as it can be written; a fault before that is answered in its place. So there is an answer to
every request, whatever the installation.

Results:
* `Response.exists_content?_iff`: which answers with a document have octets.
* `Problem.response?_of_words?`: the answer for a problem in words that have octets.
* `App.exec_handle`: the run of a request.
* `App.exec_handle_of_reaches`, `App.exec_handle_of_fault`: the answer to a request that a route
  takes.
* `Request.reaches_messages`: the requests that bring a message.
-/

namespace Courier.Gateway

/-! ## Answers that have octets -/

namespace Response

/-- The answer in which a request is refused in words. -/
def refusal (status : Int) (words : Text) : Response :=
  .json status (.ofFields [("ok", .bool false), ("error", .text words)])

theorem isPlain_refusal {words : Text} (h : words.isWellFormed = true) (depth : Nat) :
    (Value.ofFields [("ok", .bool false), ("error", .text words)]).IsPlain (depth + 1) :=
  Value.isPlain_ofFields ⟨.bool depth false, .text depth h⟩

variable [Installation]

/-- The answers that have octets are those with a plain document, nested as deep as answers are
followed. -/
theorem exists_content?_iff {v : Value} {status : Int} :
    (∃ octets, (Response.json status v).content? = .ok octets) ↔
      v.IsPlain Installation.answerDepth := by
  rw [← Json.writes_compact_iff, Json.Writes]
  cases hwrite : Json.write? Json.compact Installation.answerDepth v with
  | error e => simp [content?, json, hwrite, Except.mapError, bind, Except.bind]
  | ok t =>
    cases hencode : Utf8.encode? t with
    | error run =>
      have ht := Utf8.encode?_eq_error_iff.mp ⟨run, hencode⟩
      simp [content?, json, hwrite, hencode, Except.mapError, bind, Except.bind, ht]
    | ok octets =>
      have ht := (Utf8.encode?_eq_ok_iff.mp hencode).1
      simp [content?, json, hwrite, hencode, Except.mapError, bind, Except.bind, ht]

theorem exists_content?_of_isPlain {v : Value} (h : v.IsPlain Installation.answerDepth)
    (status : Int) : ∃ octets, (Response.json status v).content? = .ok octets :=
  exists_content?_iff.mpr h

theorem exists_content?_refusal {words : Text} (h : words.isWellFormed = true) (status : Int) :
    ∃ octets, (refusal status words).content? = .ok octets :=
  exists_content?_of_isPlain (isPlain_refusal h _) status

end Response

variable [Installation]

/-- A problem in words is answered with them. -/
theorem Problem.response?_of_words? {p : Problem} {words : Text} (hp : p.words? = .ok words)
    (h : words.isWellFormed = true) : p.response? = .ok (.refusal p.status words) := by
  obtain ⟨octets, hcontent⟩ := Response.exists_content?_refusal h p.status
  rw [Response.refusal] at hcontent ⊢
  simp only [response?, hp, bind, Except.bind, hcontent, pure, Except.pure]

/-! ## The route of a request -/

namespace Request

/-- A route takes a request. -/
def Reaches (r : Request) (route : Route) : Prop := r.route? = some route

/-- A request by the method of messages at their path gets to that route, whatever it contains: no
other route takes this method. -/
theorem reaches_messages {r : Request} (hm : r.method = Text.ofString "POST")
    (hp : r.path = Text.ofString "/api/v1/messages") : r.Reaches .messages := by
  have htakes : ∀ route : Route, route.takes r.method = (route = .messages) := by
    intro route
    rw [hm]
    cases route <;> decide
  have hat : Route.messages.isAt r.path = true := by
    rw [hp]
    rfl
  simp [Reaches, route?, Route.find?, Route.all, htakes, hat]

end Request

namespace App

/-! ## The run of a request -/

/-- What comes of a request is answered, and a fault is logged and answered in its place. -/
theorem exec_handle (r : Request) (s : State) :
    (handle r).exec s =
      match (dispatch r >>= answerOf).exec s with
      | (.ok resp, s') => (.ok resp, s')
      | (.error _, s') =>
        (.ok internalError, s'.noted .error logger (Text.ofString "Unhandled error")) := by
  have hcaught := Run.exec_tryCatch (dispatch r >>= answerOf)
    (fun _ => do
      Run.log .error logger (Text.ofString "Unhandled error")
      pure internalError) s
  unfold handle
  rcases hrun : (dispatch r >>= answerOf).exec s with ⟨fault | resp, s'⟩
  · rw [hrun] at hcaught
    exact hcaught
  · rw [hrun] at hcaught
    exact hcaught

/-- There is an answer to every request. -/
theorem exists_exec_handle (r : Request) (s : State) :
    ∃ resp s', (handle r).exec s = (.ok resp, s') := by
  rw [exec_handle]
  rcases (dispatch r >>= answerOf).exec s with ⟨fault | resp, s'⟩
  · exact ⟨_, _, rfl⟩
  · exact ⟨resp, s', rfl⟩

/-- What comes of a request and can be written is the answer. -/
theorem exec_handle_of_ok {r : Request} {s s₁ s' : State} {result : Result} {resp : Response}
    (hresult : (dispatch r).exec s = (.ok result, s₁))
    (hresp : (answerOf result).exec s₁ = (.ok resp, s')) : (handle r).exec s = (.ok resp, s') := by
  rw [exec_handle, Run.exec_bind_of_ok hresult, hresp]

/-- What holds of every answer for what comes of a request, and of the answer to a fault, holds of
the answer to the request. -/
theorem yields_handle {P : Response → Prop} {r : Request}
    (h : Run.Yields P (dispatch r >>= answerOf)) (hfault : P internalError) :
    Run.Yields P (handle r) :=
  h.tryCatch fun _ => Run.Yields.after fun _ => Run.yields_pure hfault

/-! ## The work on a request -/

theorem dispatch_of_reaches {r : Request} {route : Route} (h : r.Reaches route) :
    dispatch r = work r route := by
  unfold dispatch
  rw [h]

theorem exec_answerOf_answer {resp : Response} {octets : Bytes} (h : resp.content? = .ok octets)
    (s : State) : (answerOf (.answer resp)).exec s = (.ok resp, s) := by
  unfold answerOf written
  rw [Run.exec_ofExcept]
  simp only [Except.bind, h, Except.map]

theorem exec_answerOf_of_words? {p : Problem} {words : Text} (hp : p.words? = .ok words)
    (h : words.isWellFormed = true) (s : State) :
    (answerOf (.problem p)).exec s =
      (.ok (.refusal p.status words), s.noted .debug logger (Text.ofString "http error")) := by
  obtain ⟨octets, hcontent⟩ := Response.exists_content?_refusal h p.status
  unfold answerOf written
  rw [Run.exec_bind_of_ok (Run.exec_log _ _ _ _), Problem.response?_of_words? hp h,
    Run.exec_ofExcept]
  simp only [Except.bind, hcontent, Except.map]

theorem exec_answerOf_problem {words : Text} (h : words.isWellFormed = true) (status : Int)
    (s : State) : (answerOf (.problem (.ofText status words))).exec s =
      (.ok (.refusal status words), s.noted .debug logger (Text.ofString "http error")) :=
  exec_answerOf_of_words? rfl h s

/-- The answer to a request that a route takes: that of the work there, or of a fault in it. -/
theorem exec_handle_at {r : Request} {route : Route} (h : r.Reaches route) (s : State) :
    (handle r).exec s =
      match (work r route >>= answerOf).exec s with
      | (.ok resp, s') => (.ok resp, s')
      | (.error _, s') =>
        (.ok internalError, s'.noted .error logger (Text.ofString "Unhandled error")) := by
  rw [exec_handle, dispatch_of_reaches h]

/-- The answer to a request that a route takes, where the work ends in an answer. -/
theorem exec_handle_of_reaches {r : Request} {route : Route} {s s₁ s' : State} {result : Result}
    {resp : Response} (h : r.Reaches route) (hresult : (work r route).exec s = (.ok result, s₁))
    (hresp : (answerOf result).exec s₁ = (.ok resp, s')) : (handle r).exec s = (.ok resp, s') := by
  rw [exec_handle_at h, Run.exec_bind_of_ok hresult, hresp]

/-- The answer to a request that a route takes, where what the work comes to cannot be written. -/
theorem exec_handle_of_fault {r : Request} {route : Route} {s s₁ s' : State} {result : Result}
    {fault : Fault} (h : r.Reaches route) (hresult : (work r route).exec s = (.ok result, s₁))
    (hfault : (answerOf result).exec s₁ = (.error fault, s')) :
    (handle r).exec s =
      (.ok internalError, s'.noted .error logger (Text.ofString "Unhandled error")) := by
  rw [exec_handle_at h, Run.exec_bind_of_ok hresult, hfault]

end App

end Courier.Gateway
