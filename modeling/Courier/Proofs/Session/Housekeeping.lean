import Courier.Proofs.Session.Basic
import Courier.Proofs.Shared.Holdings

/-!
# Housekeeping side by side

Between its sends a program reads and forgets settings, opens and closes transports and makes
clients. All of that looks at few things in a state: the settings that are current, how many
transports there are, and which of them is shared. A `Housekeeping` is a relation between states
that are alike in these things and stay alike in what is done. From such states housekeeping comes
to the same.

Results:
* `Housekeeping.relates_openShared`, `Housekeeping.relates_closeShared`: the shared transport.
* `Housekeeping.relates_start`, `Housekeeping.relates_stop`: the life cycle of the gateway.
* `Housekeeping.relates_call`: all steps of a session that keep house.
-/

namespace Courier

/-- Every step keeps house, but for changes of the environment, sends and requests to the gateway.
-/
def Session.Step.KeepsHouse : Step → Prop
  | .assign _ _ | .remove _ | .send _ _ _ _ _ _ | .request _ => False
  | .readSettings | .forgetSettings | .openShared _ | .closeShared | .openOwn _ | .closeOwn _
  | .makeClient _ _ _ _ | .start | .stop => True

/-- A relation between states that housekeeping cannot tell apart. -/
structure Housekeeping (R : State → State → Prop) : Prop where
  shared_eq : ∀ {s s' : State}, R s s' → s'.shared = s.shared
  length_eq : ∀ {s s' : State}, R s s' → s'.transports.length = s.transports.length
  clientSettings_eq : ∀ {s s' : State}, R s s' → s'.currentClientSettings = s.currentClientSettings
  hasCredentials_eq : ∀ {s s' : State}, R s s' →
    s'.currentGatewaySettings.hasCredentials = s.currentGatewaySettings.hasCredentials
  noted : ∀ {s s' : State}, R s s' → ∀ level logger message,
    R (s.noted level logger message) (s'.noted level logger message)
  read : ∀ {s s' : State}, R s s' → ∀ settings,
    R { s with clientSettings := some settings } { s' with clientSettings := some settings }
  readGateway : ∀ {s s' : State}, R s s' →
    R { s with gatewaySettings := some s.currentGatewaySettings }
      { s' with gatewaySettings := some s'.currentGatewaySettings }
  forgot : ∀ {s s' : State}, R s s' →
    R { s with clientSettings := none, gatewaySettings := none }
      { s' with clientSettings := none, gatewaySettings := none }
  opened : ∀ {s s' : State}, R s s' → ∀ limit,
    R { s with transports := s.transports ++ [⟨limit, true, []⟩] }
      { s' with transports := s'.transports ++ [⟨limit, true, []⟩] }
  closed : ∀ {s s' : State}, R s s' → ∀ id,
    R { s with transports := s.transports.modify id fun t => { t with isOpen := false } }
      { s' with transports := s'.transports.modify id fun t => { t with isOpen := false } }
  sharing : ∀ {s s' : State}, R s s' → ∀ shared,
    R { s with shared := shared } { s' with shared := shared }

namespace Housekeeping

variable {R : State → State → Prop} (h : Housekeeping R)

include h

/-! ## Settings and transports -/

theorem relates_log (level : Log.Level) (logger : String) (message : Text) :
    Run.Relates R Eq (Run.log level logger message) (Run.log level logger message) :=
  Run.relates_modify fun _ _ hs => h.noted hs level logger message

theorem relates_clientSettings : Run.Relates R Eq Run.clientSettings Run.clientSettings := by
  intro s s' hs
  rw [Run.exec_clientSettings, Run.exec_clientSettings, h.clientSettings_eq hs]
  exact ⟨.value rfl, h.read hs _⟩

theorem relates_gatewaySettings :
    Run.Relates R (fun g g' => g'.hasCredentials = g.hasCredentials) Run.gatewaySettings
      Run.gatewaySettings := by
  intro s s' hs
  rw [Run.exec_gatewaySettings, Run.exec_gatewaySettings]
  exact ⟨.value (h.hasCredentials_eq hs), h.readGateway hs⟩

theorem relates_new (limit : TimeLimit) :
    Run.Relates R Eq (Transport.new limit) (Transport.new limit) := by
  intro s s' hs
  have hexec : ∀ s : State, (Transport.new limit).exec s = (.ok s.transports.length,
      { s with transports := s.transports ++ [⟨limit, true, []⟩] }) := fun _ => rfl
  rw [hexec, hexec, h.length_eq hs]
  exact ⟨.value rfl, h.opened hs limit⟩

theorem relates_close (id : Nat) : Run.Relates R Eq (Transport.close id) (Transport.close id) :=
  Run.relates_modify fun _ _ hs => h.closed hs id

theorem relates_openWith (settings : ClientSettings) :
    Run.Relates R Eq (Transport.openWith settings) (Transport.openWith settings) := by
  refine (h.relates_new _).bind_eq fun id => ?_
  refine Run.Relates.bind_eq (Run.relates_modify fun _ _ hs => h.sharing hs (some id)) fun _ => ?_
  exact (h.relates_log _ _ _).bind_eq fun _ => Run.relates_pure rfl

theorem relates_openShared (settings : Option ClientSettings) :
    Run.Relates R Eq (Transport.openShared settings) (Transport.openShared settings) := by
  rw [Transport.openShared_eq]
  refine Run.relates_get.bind fun s s' hs => ?_
  rw [h.shared_eq hs]
  cases s.shared with
  | some id => exact Run.relates_pure rfl
  | none =>
    cases settings with
    | some own => exact h.relates_openWith own
    | none => exact h.relates_clientSettings.bind_eq h.relates_openWith

theorem relates_closeShared : Run.Relates R Eq Transport.closeShared Transport.closeShared := by
  refine Run.relates_get.bind fun s s' hs => ?_
  rw [h.shared_eq hs]
  cases s.shared with
  | none => exact Run.relates_pure rfl
  | some id =>
    refine (h.relates_close id).bind_eq fun _ => ?_
    refine Run.Relates.bind_eq (Run.relates_modify fun _ _ ht => h.sharing ht none) fun _ => ?_
    exact h.relates_log _ _ _

theorem relates_isReady : Run.Relates R Eq Transport.isReady Transport.isReady :=
  fun _ _ hs => ⟨.value (congrArg Option.isSome (h.shared_eq hs).symm), hs⟩

/-- A client is made alike of the same credentials. -/
theorem relates_newClient (sid token : Value) (carrier : Option Carrier)
    (settings : Option ClientSettings) :
    Run.Relates R Eq (Client.new sid token carrier settings)
      (Client.new sid token carrier settings) := by
  unfold Client.new
  refine (Run.relates_checked _ _).bind_eq fun credentials => ?_
  cases settings with
  | some own => exact Run.relates_pure rfl
  | none => exact h.relates_clientSettings.bind_eq fun _ => Run.relates_pure rfl

/-! ## The gateway -/

open Gateway.App

theorem relates_start : Run.Relates R Eq start start := by
  refine (h.relates_log _ _ _).bind_eq fun _ => ?_
  refine (h.relates_openShared none).bind_eq fun _ => ?_
  refine h.relates_gatewaySettings.bind fun g g' hg => ?_
  dsimp only
  rw [hg]
  split
  · exact (h.relates_log _ _ _).bind_eq fun _ => h.relates_log _ _ _
  · exact h.relates_log _ _ _

theorem relates_stop : Run.Relates R Eq stop stop :=
  (h.relates_log _ _ _).bind_eq fun _ =>
    h.relates_closeShared.bind_eq fun _ => h.relates_log _ _ _

/-! ## Steps of a session -/

open Session in
theorem relates_call [Installation] {step : Step} (hstep : step.KeepsHouse)
    {clients clients' : List Client} :
    Run.Relates R Eq (step.call clients) (step.call clients') := by
  cases step with
  | assign _ _ | remove _ | send _ _ _ _ _ _ | request _ => exact hstep.elim
  | readSettings => exact h.relates_clientSettings.bind_eq fun _ => Run.relates_pure rfl
  | forgetSettings =>
    exact Run.Relates.bind_eq (Run.relates_modify fun _ _ hs => h.forgot hs) fun _ =>
      Run.relates_pure rfl
  | openShared settings =>
    exact (h.relates_openShared settings).bind_eq fun _ => Run.relates_pure rfl
  | closeShared => exact h.relates_closeShared.bind_eq fun _ => Run.relates_pure rfl
  | openOwn limit => exact (h.relates_new limit).bind_eq fun _ => Run.relates_pure rfl
  | closeOwn id => exact (h.relates_close id).bind_eq fun _ => Run.relates_pure rfl
  | makeClient sid token carrier settings =>
    exact (h.relates_newClient sid token carrier settings).bind_eq fun _ => Run.relates_pure rfl
  | start => exact h.relates_start.bind_eq fun _ => Run.relates_pure rfl
  | stop => exact h.relates_stop.bind_eq fun _ => Run.relates_pure rfl

end Housekeeping

end Courier
