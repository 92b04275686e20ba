import Courier.Proofs.Run
import Courier.Gateway.App

/-!
# Sessions

A program that uses the library changes its environment, opens and closes transports, makes clients
and sends with them, and serves requests. Its session is the state of the process with the clients
made so far, which are known by their place in the list. What the program does are steps, and each
step has an answer.

* `Session.Step.call`: a step as a call.
* `Session.after`, `Session.answers`: what a run of steps leaves behind and what it answers.
* `Session.clients_next`: only a step that makes a client adds to the clients.
-/

namespace Courier

/-- A process and the clients that were made in it. -/
structure Session where
  state : State
  clients : List Client

namespace Session

/-- What a program does. -/
inductive Step where
  | assign (name value : Text)
  | remove (name : Text)
  | readSettings
  | forgetSettings
  | openShared (settings : Option ClientSettings)
  | closeShared
  | openOwn (limit : TimeLimit)
  | closeOwn (id : Nat)
  | makeClient (sid token : Value) (carrier : Option Carrier) (settings : Option ClientSettings)
  | send (client : Nat) (recipient sender body mediaUrl : Value) (verbose : Bool)
  | start
  | stop
  | request (r : Gateway.Request)

/-- What a step comes to, where clients are seen as `γ`. -/
inductive Product (γ : Type) where
  | nothing
  | refusal (reason : Environment.Refusal)
  | settings (s : ClientSettings)
  | transport (id : Nat)
  | client (c : γ)
  | outcome (o : Outcome)
  | response (r : Gateway.Response)

/-- The product with its client seen in another way. -/
def Product.map {γ δ : Type} (f : γ → δ) : Product γ → Product δ
  | .nothing => .nothing
  | .refusal reason => .refusal reason
  | .settings s => .settings s
  | .transport id => .transport id
  | .client c => .client (f c)
  | .outcome o => .outcome o
  | .response r => .response r

/-- The environment after a change that may be refused. -/
def change (edit : Environment → Except Environment.Refusal Environment) :
    Run (Product Client) := do
  let s ← get
  match edit s.environment with
  | .error reason => pure (.refusal reason)
  | .ok env =>
    set { s with environment := env }
    pure .nothing

theorem exec_change (edit : Environment → Except Environment.Refusal Environment) (s : State) :
    (change edit).exec s =
      match edit s.environment with
      | .error reason => (.ok (.refusal reason), s)
      | .ok env => (.ok .nothing, { s with environment := env }) := by
  unfold change
  rw [Run.exec_bind_of_ok (Run.exec_get s)]
  cases edit s.environment <;> rfl

theorem yields_change (edit : Environment → Except Environment.Refusal Environment) :
    Run.Yields (fun p => ∀ c, p ≠ Product.client c) (change edit) := by
  intro s p s' hrun
  rw [exec_change] at hrun
  split at hrun <;> cases hrun <;> simp

variable [Installation]

/-- A step as a call of a program that has made some clients. Who sends with a client that was not
made gets nothing. -/
def Step.call (clients : List Client) : Step → Run (Product Client)
  | .assign name value => change fun env => env.assign? name value
  | .remove name => change fun env => env.remove? name
  | .readSettings => do pure (.settings (← Run.clientSettings))
  | .forgetSettings => do
    Run.forgetSettings
    pure .nothing
  | .openShared settings => do pure (.transport (← Transport.openShared settings))
  | .closeShared => do
    Transport.closeShared
    pure .nothing
  | .openOwn limit => do pure (.transport (← Transport.new limit))
  | .closeOwn id => do
    Transport.close id
    pure .nothing
  | .makeClient sid token carrier settings => do
    pure (.client (← Client.new sid token carrier settings))
  | .send client recipient sender body mediaUrl verbose =>
    match clients[client]? with
    | none => pure .nothing
    | some c => do pure (.outcome (← c.sendMessage recipient sender body mediaUrl verbose))
  | .start => do
    Gateway.App.start
    pure .nothing
  | .stop => do
    Gateway.App.stop
    pure .nothing
  | .request r => do pure (.response (← Gateway.App.handle r))

/-- The clients after a step that comes to something. -/
def clientsAfter (clients : List Client) : Except Fault (Product Client) → List Client
  | .ok (.client c) => clients ++ [c]
  | _ => clients

variable (ses : Session)

/-- The run of a step. -/
def Step.run (step : Step) : Except Fault (Product Client) × State :=
  (step.call ses.clients).exec ses.state

/-- The session after a step, also after one that ends in a fault. -/
def Step.next (step : Step) : Session :=
  ⟨(step.run ses).2, clientsAfter ses.clients (step.run ses).1⟩

/-- What a program sees of a client that it makes: the address that is posted to, and the
credentials as they are shown. -/
def seen (c : Client) : Text × Text := (c.messagesUrl, c.credentials.shown)

/-- The answer to a step: what it comes to, or the fault it ends in. -/
def Step.answer (step : Step) : Except Fault (Product (Text × Text)) :=
  (step.run ses).1.map (Product.map seen)

/-- The session after steps. -/
def after (steps : List Step) : Session := steps.foldl (fun ses step => step.next ses) ses

/-- The answers to steps. -/
def answers (ses : Session) : List Step → List (Except Fault (Product (Text × Text)))
  | [] => []
  | step :: steps => step.answer ses :: answers (step.next ses) steps

theorem after_append (steps more : List Step) :
    ses.after (steps ++ more) = (ses.after steps).after more := List.foldl_append

/-- All steps but those that make a client come to something else. -/
theorem Step.yields_call {step : Step}
    (h : ∀ sid token carrier settings, step ≠ .makeClient sid token carrier settings)
    (clients : List Client) :
    Run.Yields (fun p => ∀ c, p ≠ Product.client c) (step.call clients) := by
  cases step with
  | makeClient sid token carrier settings => exact absurd rfl (h sid token carrier settings)
  | assign name value => exact yields_change fun env => env.assign? name value
  | remove name => exact yields_change fun env => env.remove? name
  | send client recipient sender body mediaUrl verbose =>
    dsimp only [call]
    cases clients[client]? with
    | none => exact Run.yields_pure (by simp)
    | some c => exact Run.Yields.after fun _ => Run.yields_pure (by simp)
  | _ => exact Run.Yields.after fun _ => Run.yields_pure (by simp)

theorem Step.clients_next_of_ne {step : Step}
    (h : ∀ sid token carrier settings, step ≠ .makeClient sid token carrier settings)
    (ses : Session) : (step.next ses).clients = ses.clients := by
  unfold next
  rcases hrun : step.run ses with ⟨fault | p, s'⟩
  · rfl
  · have hp := yields_call h ses.clients ses.state p s' hrun
    cases p with
    | client c => exact absurd rfl (hp c)
    | _ => rfl

/-- Only a step that makes a client adds to the clients of a session. -/
theorem clients_next (step : Step) :
    (step.next ses).clients = ses.clients ∨
      ∃ sid token carrier settings c, step = .makeClient sid token carrier settings ∧
        (step.run ses).1 = .ok (.client c) ∧ (step.next ses).clients = ses.clients ++ [c] := by
  cases step with
  | makeClient sid token carrier settings =>
    rcases hrun : (Step.makeClient sid token carrier settings).run ses with ⟨fault | p, s'⟩
    · exact .inl (by rw [Step.next, hrun]; rfl)
    · obtain ⟨c, _, -, hdone⟩ := Run.exec_bind_eq_ok_iff.mp hrun
      cases hdone
      exact .inr ⟨sid, token, carrier, settings, c, rfl, rfl, by rw [Step.next, hrun]; rfl⟩
  | _ => exact .inl (Step.clients_next_of_ne (by simp) ses)

/-- The run of a send; one by a client that was not made leaves everything as it was. -/
theorem Step.run_send (client : Nat) (recipient sender body mediaUrl : Value) (verbose : Bool) :
    (Step.send client recipient sender body mediaUrl verbose).run ses =
      match ses.clients[client]? with
      | none => (.ok .nothing, ses.state)
      | some c =>
        let sent := (c.sendMessage recipient sender body mediaUrl verbose).exec ses.state
        (sent.1.map .outcome, sent.2) := by
  unfold run
  dsimp only [call]
  cases ses.clients[client]? with
  | none => rfl
  | some c => exact Run.exec_bind_pure _ _ _

theorem Step.run_request (r : Gateway.Request) :
    (Step.request r).run ses =
      let answered := (Gateway.App.handle r).exec ses.state
      (answered.1.map .response, answered.2) :=
  Run.exec_bind_pure _ _ _

/-- A step sends a message. -/
def Step.IsSend : Step → Prop
  | .send _ _ _ _ _ _ => True
  | _ => False

end Session

end Courier
