import Courier.CommandLine.Send
import Courier.Proofs.Client.Untouched
import Courier.Proofs.Gateway.Answer

/-!
# The transports that a process holds

Of its transports a process cares for their time limits, for whether they are open, and for which of
them is shared. Only opening and closing change that: reading settings, preparing the log and
sending messages leave it alone, however they end.

Results:
* `exec_openShared_of_none`, `exec_closeShared_of_some`: what opening and closing do to it.
* `keeps_holdings_sendMessage`: a send leaves it alone.
-/

namespace Courier

/-- The time limits of all transports and whether each is open, and which of them is shared. -/
def State.holdings (s : State) : List (TimeLimit × Bool) × Option Nat :=
  (s.transports.map fun t => (t.timeout, t.isOpen), s.shared)

/-- The settings that a client without settings of its own takes in a state. -/
def State.currentClientSettings (s : State) : ClientSettings :=
  s.clientSettings.getD (.ofEnvironment s.environment)

/-- The settings that the gateway takes in a state. -/
def State.currentGatewaySettings (s : State) : GatewaySettings :=
  s.gatewaySettings.getD (.ofEnvironment s.environment)

/-! ## Settings and the log -/

namespace Run

theorem exec_clientSettings (s : State) :
    clientSettings.exec s = (.ok s.currentClientSettings,
      { s with clientSettings := some s.currentClientSettings }) := by
  unfold clientSettings State.currentClientSettings
  rw [exec_bind_of_ok (exec_get s)]
  cases h : s.clientSettings with
  | none => rfl
  | some settings =>
    obtain ⟨⟩ := s
    cases h
    rfl

theorem exec_gatewaySettings (s : State) :
    gatewaySettings.exec s = (.ok s.currentGatewaySettings,
      { s with gatewaySettings := some s.currentGatewaySettings }) := by
  unfold gatewaySettings State.currentGatewaySettings
  rw [exec_bind_of_ok (exec_get s)]
  cases h : s.gatewaySettings with
  | none => rfl
  | some settings =>
    obtain ⟨⟩ := s
    cases h
    rfl

theorem keeps_holdings_log (level : Log.Level) (logger : String) (message : Text) :
    Keeps State.holdings (Run.log level logger message) := fun _ => rfl

theorem keeps_holdings_clientSettings : Keeps State.holdings clientSettings := by
  intro s
  rw [exec_clientSettings]
  rfl

theorem keeps_holdings_gatewaySettings : Keeps State.holdings gatewaySettings := by
  intro s
  rw [exec_gatewaySettings]
  rfl

theorem keeps_holdings_configureLog (level : Option Text) :
    Keeps State.holdings (configureLog level) := by
  intro s
  unfold configureLog
  rw [exec_bind_of_ok (exec_get s)]
  rcases s.logSetup.configure s.environment level with ⟨setup, fault | fault⟩ <;> rfl

end Run

/-! ## Opening and closing -/

namespace Transport

/-- Open and share a transport with the time limit of settings. -/
def openWith (settings : ClientSettings) : Run Nat := do
  let id ← new (.seconds settings.timeout)
  modify fun s => { s with shared := some id }
  Run.log .info logger
    (Text.ofString "HTTP transport initialized (timeout=" ++ Shortest.text settings.timeout
      ++ Text.ofString "s)")
  pure id

/-- Where there is no shared transport, one is opened, with the settings given or those read. -/
theorem openShared_eq (settings : Option ClientSettings) :
    openShared settings = get >>= fun s => match s.shared with
      | some id => pure id
      | none => match settings with
        | some own => openWith own
        | none => Run.clientSettings >>= openWith := by
  cases settings <;> rfl

theorem exec_openShared_of_some {s : State} {id : Nat} (h : s.shared = some id)
    (settings : Option ClientSettings) : (openShared settings).exec s = (.ok id, s) := by
  unfold openShared
  rw [Run.exec_bind_of_ok (Run.exec_get s), h]
  rfl

/-- Where there is no shared transport, opening makes a new one. -/
theorem exec_openShared_of_none {s : State} (h : s.shared = none)
    (settings : Option ClientSettings) :
    ∃ s', (openShared settings).exec s = (.ok s.transports.length, s') ∧
      s'.holdings =
        (s.holdings.1 ++ [(.seconds (settings.getD s.currentClientSettings).timeout, true)],
          some s.transports.length) := by
  unfold openShared
  rw [Run.exec_bind_of_ok (Run.exec_get s), h]
  dsimp only
  cases settings with
  | some own =>
    refine ⟨_, rfl, ?_⟩
    simp [State.holdings]
  | none =>
    rw [Run.exec_bind_of_ok (Run.exec_clientSettings s)]
    refine ⟨_, rfl, ?_⟩
    simp [State.holdings]

theorem exec_closeShared_of_none {s : State} (h : s.shared = none) :
    closeShared.exec s = (.ok ⟨⟩, s) := by
  unfold closeShared
  rw [Run.exec_bind_of_ok (Run.exec_get s), h]
  rfl

/-- Closing closes the shared transport, and there is none from then on. -/
theorem exec_closeShared_of_some {s : State} {id : Nat} (h : s.shared = some id) :
    ∃ s', closeShared.exec s = (.ok ⟨⟩, s') ∧
      s'.holdings = (s.holdings.1.modify id fun t => (t.1, false), none) := by
  unfold closeShared
  rw [Run.exec_bind_of_ok (Run.exec_get s), h]
  refine ⟨_, rfl, ?_⟩
  simp only [State.holdings, Prod.mk.injEq, and_true]
  exact map_modify (fun t : Transport => (t.timeout, t.isOpen))
    (fun t => { t with isOpen := false })
    (fun t => (t.1, false)) (fun _ => rfl) s.transports id

theorem exec_shared (s : State) :
    shared.exec s =
      match s.shared with
      | some id => (.ok id, s)
      | none => (.error .notReady, s) := by
  unfold shared
  rw [Run.exec_bind_of_ok (Run.exec_get s)]
  cases s.shared <;> rfl

theorem exec_isReady (s : State) : isReady.exec s = (.ok s.shared.isSome, s) := rfl

end Transport

/-! ## Sends -/

namespace State

theorem holdings_keeping (s : State) (id : Nat) (site : Cookie.Site)
    (headers : List (Text × Text)) : (s.keeping id site headers).holdings = s.holdings := by
  have hsame := map_modify (fun t : Transport => (t.timeout, t.isOpen))
    (fun t => { t with cookies := t.cookies.receive s.now site headers }) (fun t => t)
    (fun _ => rfl) s.transports id
  have hself : ∀ items : List (TimeLimit × Bool), items.modify id (fun t => t) = items :=
    fun items => List.modify_id id items
  rw [hself] at hsame
  exact congrArg (·, s.shared) hsame

/-- A send does not show in the transports that a process holds. -/
theorem overlooks_holdings : Overlooks holdings where
  logged _ _ := rfl
  requested _ _ := rfl
  keeping := holdings_keeping
  recorded _ _ _ := rfl

end State

namespace Client

theorem keeps_holdings_sendMessage [Installation] (c : Client)
    (recipient sender body mediaUrl : Value) (verbose : Bool) :
    Run.Keeps State.holdings (c.sendMessage recipient sender body mediaUrl verbose) :=
  c.keeps_sendMessage State.overlooks_holdings recipient sender body mediaUrl verbose

theorem keeps_holdings_new (sid token : Value) (carrier : Option Carrier)
    (settings : Option ClientSettings) :
    Run.Keeps State.holdings (Client.new sid token carrier settings) := by
  unfold Client.new
  refine (Run.keeps_checked _ _).bind fun credentials => ?_
  cases settings with
  | some own => exact (Run.keeps_pure _).bind fun _ => Run.keeps_pure _
  | none => exact Run.keeps_holdings_clientSettings.bind fun _ => Run.keeps_pure _

end Client

end Courier
