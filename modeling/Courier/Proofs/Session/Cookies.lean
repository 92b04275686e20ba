import Courier.Proofs.Client.Once
import Courier.Proofs.Gateway.Readings
import Courier.Proofs.Session.Housekeeping

/-!
# Cookies in a session

Replies are taken by requests to the provider alone, and cookies come from replies alone. So as long
as no reply sets a cookie, all transports keep the cookies that they had.

Results:
* `Session.takesReplies_next`: the replies that a step takes, and the cookies that are kept after
  it.
* `Session.jarOf_after_of_isQuiet`: replies that set no cookies.
-/

namespace Courier

namespace State

theorem jarOf_opened (s : State) (limit : TimeLimit) (id : Nat) :
    jarOf { s with transports := s.transports ++ [⟨limit, true, []⟩] } id = s.jarOf id := by
  unfold jarOf
  by_cases h : id < s.transports.length
  · rw [List.getElem?_append_left h]
  · have hnone : s.transports[id]? = none := List.getElem?_eq_none (by omega)
    rw [List.getElem?_append_right (by omega), hnone, List.getElem?_singleton]
    split <;> rfl

theorem jarOf_closed (s : State) (i id : Nat) :
    jarOf { s with transports := s.transports.modify i fun t => { t with isOpen := false } } id =
      s.jarOf id := by
  unfold jarOf
  rw [List.getElem?_modify]
  cases s.transports[id]? with
  | none => rfl
  | some t => by_cases h : i = id <;> simp [h]

/-- The replies to come and the cookies of all transports. -/
def jars (s : State) : List Reply × (Nat → Cookie.Jar) := (s.replies, s.jarOf)

theorem takesReplies_of_jars_eq {s s' : State} (h : s'.jars = s.jars) : s.TakesReplies s' := by
  obtain ⟨hreplies, hjars⟩ := Prod.mk.inj h
  exact ⟨[], hreplies.symm, fun _ id => congrFun hjars id⟩

/-- Housekeeping does not show in the replies to come and the cookies. -/
theorem housekeeping_jars (s₀ : State) : Housekeeping fun s s' => s' = s ∧ s.jars = s₀.jars where
  shared_eq h := by rw [h.1]
  length_eq h := by rw [h.1]
  clientSettings_eq h := by rw [h.1]
  hasCredentials_eq h := by rw [h.1]
  noted h _ _ _ := ⟨by rw [h.1], h.2⟩
  read h _ := ⟨by rw [h.1], h.2⟩
  readGateway h := ⟨by rw [h.1], h.2⟩
  forgot h := ⟨by rw [h.1], h.2⟩
  opened {s _} h limit := ⟨by rw [h.1], by
    rw [← h.2]
    exact congrArg (Prod.mk s.replies) (funext (s.jarOf_opened limit))⟩
  closed {s _} h i := ⟨by rw [h.1], by
    rw [← h.2]
    exact congrArg (Prod.mk s.replies) (funext (s.jarOf_closed i))⟩
  sharing h _ := ⟨by rw [h.1], h.2⟩

end State

namespace Session

variable [Installation]

/-- Housekeeping takes no replies and changes no cookies. -/
theorem jars_next_of_keepsHouse {step : Step} (h : step.KeepsHouse) {ses : Session} :
    (step.next ses).state.jars = ses.state.jars := by
  have hcall : Run.Relates _ Eq (step.call ses.clients) (step.call ses.clients) :=
    (State.housekeeping_jars ses.state).relates_call h
  exact (hcall ses.state ses.state ⟨rfl, rfl⟩).2.2

/-- Every step takes some replies, or none, and changes no cookies but by those in them. -/
theorem takesReplies_next (step : Step) (ses : Session) :
    ses.state.TakesReplies (step.next ses).state := by
  have hchange : ∀ edit, ((change edit).exec ses.state).2.jars = ses.state.jars := by
    intro edit
    rw [exec_change]
    cases edit ses.state.environment <;> rfl
  cases step with
  | assign name value => exact State.takesReplies_of_jars_eq (hchange _)
  | remove name => exact State.takesReplies_of_jars_eq (hchange _)
  | send client recipient sender body mediaUrl verbose =>
    rw [Step.next, Step.run_send]
    cases ses.clients[client]? with
    | none => exact ses.state.takesReplies_refl
    | some c => exact c.takesReplies_sendMessage _ _ _ _ _ _
  | request r =>
    have hreadings : (r.readings ses.state).jars = ses.state.jars := by
      obtain h | h | h := r.readings_cases ses.state <;>
      exact (congrArg State.jars h :)
    rw [Step.next, Step.run_request]
    exact (State.takesReplies_of_jars_eq hreadings).trans
      (Gateway.App.related_handle State.overlooksLog_takesReplies
        (fun c _ _ _ _ _ => c.takesReplies_sendMessage _ _ _ _ _) r ses.state)
  | _ =>
    apply State.takesReplies_of_jars_eq
    apply jars_next_of_keepsHouse
    trivial

theorem takesReplies_after (steps : List Step) (ses : Session) :
    ses.state.TakesReplies (ses.after steps).state := by
  induction steps generalizing ses with
  | nil => exact ses.state.takesReplies_refl
  | cons step steps ih => exact (takesReplies_next step ses).trans (ih (step.next ses))

/-- Replies that set no cookies leave all transports with those that they had. -/
theorem jarOf_after_of_isQuiet {ses : Session} (h : ∀ reply ∈ ses.state.replies, reply.IsQuiet)
    (steps : List Step) (id : Nat) : (ses.after steps).state.jarOf id = ses.state.jarOf id := by
  obtain ⟨taken, hreplies, hquiet⟩ := takesReplies_after steps ses
  exact hquiet (fun reply hr => h reply (hreplies ▸ List.mem_append_left _ hr)) id

end Session

end Courier
