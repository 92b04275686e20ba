import Courier.Proofs.Gateway.Readings
import Courier.Proofs.Session.Basic
import Mathlib.Data.List.Induction

/-!
# When the settings of the client are read

The settings of the client are read from the environment when a call first needs them, and held from
then on, until they are forgotten. So what is held is the environment as it was at the first reading
after the last time of forgetting, whatever was assigned since.

Results:
* `Step.Reads`: the steps that need the settings.
* `Step.clientSettings_next_of_reads`, `Step.clientSettings_next_of_not_reads`: what one step does
  to the settings that are held.
* `exists_firstReading`: what is held after a run of steps.
-/

namespace Courier

/-- The settings that are held, and the environment that they are read from. -/
def State.sources (s : State) : Option ClientSettings × Environment :=
  (s.clientSettings, s.environment)

theorem State.currentClientSettings_congr {s s' : State} (h : s'.sources = s.sources) :
    s'.currentClientSettings = s.currentClientSettings := by
  obtain ⟨hsettings, henvironment⟩ := Prod.mk.inj h
  rw [currentClientSettings, currentClientSettings, hsettings, henvironment]

theorem State.overlooks_sources : Overlooks sources :=
  ⟨fun _ _ => rfl, fun _ _ => rfl, fun _ _ _ _ => rfl, fun _ _ _ => rfl⟩

/-! ## Calls that read -/

namespace Run

variable {α β : Type} {P : State → Prop}

/-- In the states of a kind a call reads the settings, and they are held after it; in all others it
leaves them alone. It never changes the environment. -/
def ReadsIn (P : State → Prop) (act : Run α) : Prop :=
  ∀ s, (P s → (act.exec s).2.sources = (some s.currentClientSettings, s.environment)) ∧
    (¬P s → (act.exec s).2.sources = s.sources)

theorem Keeps.readsIn {act : Run α} (h : Keeps State.sources act) : act.ReadsIn fun _ => False :=
  fun s => ⟨False.elim, fun _ => h s⟩

theorem ReadsIn.congr {Q : State → Prop} {act : Run α} (h : act.ReadsIn P) (hPQ : ∀ s, P s ↔ Q s) :
    act.ReadsIn Q :=
  fun s => ⟨fun hs => (h s).1 ((hPQ s).mpr hs), fun hs => (h s).2 (mt (hPQ s).mp hs)⟩

theorem ReadsIn.bind_keeps {act : Run α} {next : α → Run β} (h : act.ReadsIn P)
    (hn : ∀ a, Keeps State.sources (next a)) : (act >>= next).ReadsIn P := by
  intro s
  rw [view_exec_bind hn]
  exact h s

/-- A call that has a value in every state, and leaves the settings alone, goes before one that may
read them. -/
theorem ReadsIn.after {act : Run α} {next : α → Run β} {f : State → α} {Q : α → Prop}
    (ha : ∀ s, ∃ s', act.exec s = (.ok (f s), s') ∧ s'.sources = s.sources)
    (hn : ∀ a, (next a).ReadsIn fun _ => Q a) : (act >>= next).ReadsIn fun s => Q (f s) := by
  intro s
  obtain ⟨s', hact, hsources⟩ := ha s
  obtain ⟨hread, hkept⟩ := hn (f s) s'
  rw [exec_bind_of_ok hact]
  rw [State.currentClientSettings_congr hsources,
    show s'.environment = s.environment from (Prod.mk.inj hsources).2] at hread
  exact ⟨hread, fun hq => (hkept hq).trans hsources⟩

theorem readsIn_clientSettings : clientSettings.ReadsIn fun _ => True := by
  intro s
  rw [exec_clientSettings]
  exact ⟨fun _ => rfl, fun h => absurd trivial h⟩

theorem exists_exec_gatewaySettings (s : State) : ∃ s',
    gatewaySettings.exec s = (.ok s.currentGatewaySettings, s') ∧ s'.sources = s.sources :=
  ⟨_, exec_gatewaySettings s, rfl⟩

end Run

namespace Transport

theorem keeps_sources_openWith (settings : ClientSettings) :
    Run.Keeps State.sources (openWith settings) := by
  have hnew : Run.Keeps State.sources (new (.seconds settings.timeout)) := fun _ => rfl
  exact hnew.bind fun id => fun _ => rfl

/-- Opening without settings reads them, if there is no shared transport. -/
theorem readsIn_openShared (settings : Option ClientSettings) :
    (openShared settings).ReadsIn fun s => settings = none ∧ s.shared = none := by
  rw [openShared_eq]
  refine Run.ReadsIn.after (f := fun s => s)
    (Q := fun s => settings = none ∧ s.shared = none) (fun s => ⟨s, Run.exec_get s, rfl⟩)
    fun s => ?_
  cases hs : s.shared with
  | some id => exact (Run.keeps_pure id).readsIn.congr (by simp)
  | none =>
    cases settings with
    | some own => exact (keeps_sources_openWith own).readsIn.congr (by simp)
    | none =>
      exact (Run.readsIn_clientSettings.bind_keeps keeps_sources_openWith).congr (by simp)

theorem keeps_sources_closeShared : Run.Keeps State.sources closeShared := by
  intro s
  cases hs : s.shared with
  | none => rw [exec_closeShared_of_none hs]
  | some id =>
    unfold closeShared
    rw [Run.exec_bind_of_ok (Run.exec_get s), hs]
    rfl

end Transport

/-- A client of checked credentials reads the settings, if it has none of its own. -/
theorem Client.readsIn_new (sid token : Value) (carrier : Option Carrier)
    (settings : Option ClientSettings) :
    (Client.new sid token carrier settings).ReadsIn fun _ => settings = none ∧
      ∃ credentials, Credentials.ofValue
        (.ofFields [("account_sid", sid), ("auth_token", token)]) = .valid credentials := by
  unfold Client.new
  cases Credentials.ofValue (.ofFields [("account_sid", sid), ("auth_token", token)]) with
  | invalid issues => exact (Run.keeps_throw _).readsIn.congr (by simp)
  | valid credentials =>
    cases settings with
    | some own => exact (Run.keeps_pure _).readsIn.congr (by simp)
    | none =>
      refine Run.ReadsIn.congr (P := fun _ => True) ?_ (by simp)
      exact Run.readsIn_clientSettings.bind_keeps fun own => Run.keeps_pure _

/-! ## The life cycle of the gateway -/

namespace Gateway.App

/-- The gateway reads the settings when it starts, if there is no shared transport. -/
theorem readsIn_start : start.ReadsIn fun s => s.shared = none := by
  have hrest : ∀ id : Nat, Run.Keeps State.sources (do
      let settings ← Run.gatewaySettings
      if !settings.hasCredentials then
        Run.log .warning logger <| Text.ofString
          "TWILIO_ACCOUNT_SID/TWILIO_AUTH_TOKEN not set; /messages will return 503"
      Run.log .info logger (Text.ofString "SMS gateway started successfully")) := by
    intro _ s
    obtain ⟨s', hrun, hsources⟩ := Run.exists_exec_gatewaySettings s
    rw [Run.exec_bind_of_ok hrun, ← hsources]
    dsimp only
    split <;> rfl
  have hopen : Run.ReadsIn (fun s => s.shared = none) (Transport.openShared none >>= _) :=
    ((Transport.readsIn_openShared none).bind_keeps hrest).congr (by simp)
  intro s
  exact hopen (s.noted .info logger (Text.ofString "Starting SMS gateway"))

theorem keeps_sources_stop : Run.Keeps State.sources stop := by
  have hlog := fun message => Run.keeps_log State.overlooks_sources .info logger message
  exact (hlog _).bind fun _ => Transport.keeps_sources_closeShared.bind fun _ => hlog _

end Gateway.App

/-! ## Requests that read -/

namespace Gateway

/-- The content of a request can be read at all. -/
def Request.Payload.IsTaken : Request.Payload → Prop
  | .unreadable | .malformed _ _ => False
  | .absent | .octets _ | .value _ => True

variable [Installation]

/-- For a request a client is made: it gets to the route for messages with content that can be read,
and there is an account to send for. -/
def Request.MakesClient (r : Request) (s : State) : Prop :=
  r.Reaches .messages ∧ r.payload.IsTaken ∧ s.currentGatewaySettings.account?.isSome = true

theorem Request.sources_readings_of_makesClient {r : Request} {s : State} (h : r.MakesClient s) :
    (r.readings s).sources = (some s.currentClientSettings, s.environment) := by
  obtain ⟨hreaches, htaken, haccount⟩ := h
  have hroute : r.route? = some .messages := hreaches
  obtain ⟨account, ha⟩ := Option.isSome_iff_exists.mp haccount
  have haccounted : s.accounted.sources = (some s.currentClientSettings, s.environment) := by
    rw [State.accounted, ha]
    rfl
  simp only [readings, hroute]
  cases hpayload : r.payload with
  | unreadable | malformed reason position =>
    rw [hpayload] at htaken
    exact htaken.elim
  | absent | octets bs | value v => exact haccounted

theorem Request.sources_readings_of_not_makesClient {r : Request} {s : State}
    (h : ¬r.MakesClient s) : (r.readings s).sources = s.sources := by
  unfold readings
  cases hroute : r.route? with
  | none => rfl
  | some route =>
    cases route with
    | schema | page | pageReturn | health | liveness => rfl
    | messages =>
      have haccounted : r.payload.IsTaken → s.accounted.sources = s.sources := by
        intro htaken
        unfold State.accounted
        cases ha : s.currentGatewaySettings.account? with
        | none => rfl
        | some account => exact absurd ⟨hroute, htaken, by rw [ha]; rfl⟩ h
      cases hpayload : r.payload with
      | unreadable | malformed reason position => rfl
      | absent | octets bs | value v => exact haccounted (hpayload ▸ trivial)

namespace App

/-- A request reads the settings if a client is made for it. -/
theorem readsIn_handle (r : Request) : (handle r).ReadsIn r.MakesClient := by
  intro s
  have hhandle : ((handle r).exec s).2.sources = (r.readings s).sources :=
    related_handle State.overlooks_sources.overlooksLog
      (fun c _ _ _ _ _ => c.keeps_sendMessage State.overlooks_sources _ _ _ _ _) r s
  rw [hhandle]
  exact ⟨Request.sources_readings_of_makesClient, Request.sources_readings_of_not_makesClient⟩

end App

end Gateway

/-! ## Steps of a session -/

namespace Session

theorem clientSettings_exec_change (edit : Environment → Except Environment.Refusal Environment)
    (s : State) : ((change edit).exec s).2.clientSettings = s.clientSettings := by
  rw [exec_change]
  cases edit s.environment <;> rfl

/-- A step of a longer run is the last one, or one of the run before. -/
theorem eq_or_exists_of_concat_eq {steps pre post : List Step} {step last : Step}
    (h : steps ++ [last] = pre ++ step :: post) :
    (pre = steps ∧ step = last) ∨ ∃ rest, post = rest ++ [last] ∧ steps = pre ++ step :: rest := by
  induction post using List.reverseRecOn with
  | nil =>
    obtain ⟨hpre, hlast⟩ := List.append_inj' h rfl
    exact .inl ⟨hpre.symm, (List.singleton_inj.mp hlast).symm⟩
  | append_singleton rest other _ =>
    rw [← List.cons_append, ← List.append_assoc] at h
    obtain ⟨hsteps, hlast⟩ := List.append_inj' h rfl
    exact .inr ⟨rest, by rw [List.singleton_inj.mp hlast], hsteps⟩

variable [Installation]

/-- A step needs the settings of the client. -/
def Step.Reads (ses : Session) : Step → Prop
  | .readSettings => True
  | .openShared settings => settings = none ∧ ses.state.shared = none
  | .makeClient sid token _ settings => settings = none ∧ ∃ credentials, Credentials.ofValue
      (.ofFields [("account_sid", sid), ("auth_token", token)]) = .valid credentials
  | .start => ses.state.shared = none
  | .request r => r.MakesClient ses.state
  | _ => False

theorem Step.not_reads_forgetSettings (ses : Session) : ¬Step.forgetSettings.Reads ses := id

/-- The steps that leave the environment as it is read settings as calls do. -/
theorem Step.readsIn_call (clients : List Client) {step : Step} (hf : step ≠ .forgetSettings)
    (ha : ∀ name value, step ≠ .assign name value) (hr : ∀ name, step ≠ .remove name) :
    (step.call clients).ReadsIn fun s => step.Reads ⟨s, clients⟩ := by
  have hpure : ∀ p : Product Client, Run.Keeps State.sources (pure p : Run (Product Client)) :=
    fun p => Run.keeps_pure p
  cases step with
  | assign name value => exact absurd rfl (ha name value)
  | remove name => exact absurd rfl (hr name)
  | readSettings => exact Run.readsIn_clientSettings.bind_keeps fun _ => hpure _
  | forgetSettings => exact absurd rfl hf
  | openShared settings =>
    exact (Transport.readsIn_openShared settings).bind_keeps fun _ => hpure _
  | closeShared => exact (Transport.keeps_sources_closeShared.bind fun _ => hpure _).readsIn
  | openOwn limit =>
    have hnew : Run.Keeps State.sources (Transport.new limit) := fun _ => rfl
    exact (hnew.bind fun _ => hpure _).readsIn
  | closeOwn id =>
    have hclose : Run.Keeps State.sources (Transport.close id) := fun _ => rfl
    exact (hclose.bind fun _ => hpure _).readsIn
  | makeClient sid token carrier settings =>
    exact (Client.readsIn_new sid token carrier settings).bind_keeps fun _ => hpure _
  | send client recipient sender body mediaUrl verbose =>
    dsimp only [call]
    cases clients[client]? with
    | none => exact (hpure _).readsIn
    | some c =>
      exact ((c.keeps_sendMessage State.overlooks_sources recipient sender body mediaUrl
        verbose).bind fun _ => hpure _).readsIn
  | start => exact Gateway.App.readsIn_start.bind_keeps fun _ => hpure _
  | stop => exact (Gateway.App.keeps_sources_stop.bind fun _ => hpure _).readsIn
  | request r => exact (Gateway.App.readsIn_handle r).bind_keeps fun _ => hpure _

theorem Step.clientSettings_next_of_reads {ses : Session} {step : Step} (h : step.Reads ses) :
    (step.next ses).state.clientSettings = some ses.state.currentClientSettings := by
  have hsources := (step.readsIn_call ses.clients (by rintro rfl; exact h)
    (by rintro _ _ rfl; exact h) (by rintro _ rfl; exact h) ses.state).1 h
  exact (Prod.mk.inj hsources).1

theorem Step.clientSettings_next_of_not_reads {ses : Session} {step : Step}
    (hf : step ≠ .forgetSettings) (h : ¬step.Reads ses) :
    (step.next ses).state.clientSettings = ses.state.clientSettings := by
  by_cases hchange : (∃ name value, step = .assign name value) ∨ ∃ name, step = .remove name
  · obtain ⟨name, value, rfl⟩ | ⟨name, rfl⟩ := hchange
    · exact clientSettings_exec_change _ _
    · exact clientSettings_exec_change _ _
  · simp only [not_or, not_exists] at hchange
    have hsources := (step.readsIn_call ses.clients hf hchange.1 hchange.2 ses.state).2 h
    exact (Prod.mk.inj hsources).1

/-! ## Runs of steps -/

/-- No step has read the settings since they were last forgotten. -/
def Unread (ses : Session) (steps : List Step) : Prop :=
  ∀ pre step post, steps = pre ++ step :: post → step.Reads (ses.after pre) →
    Step.forgetSettings ∈ post

/-- The steps `pre` lead to the first step, since the settings were last forgotten, that reads
them. -/
def FirstReading (ses : Session) (steps pre : List Step) : Prop :=
  ∃ step post, steps = pre ++ step :: post ∧ step.Reads (ses.after pre) ∧
    Step.forgetSettings ∉ post ∧ ses.Unread pre

variable {ses : Session} {steps pre : List Step} {step : Step}

theorem after_concat (ses : Session) (steps : List Step) (step : Step) :
    ses.after (steps ++ [step]) = step.next (ses.after steps) := ses.after_append steps [step]

theorem Unread.concat (h : ses.Unread steps) (hr : ¬step.Reads (ses.after steps)) :
    ses.Unread (steps ++ [step]) := by
  intro pre first post hsplit hreads
  obtain ⟨rfl, rfl⟩ | ⟨rest, rfl, rfl⟩ := eq_or_exists_of_concat_eq hsplit
  · exact absurd hreads hr
  · exact List.mem_append_left _ (h pre first rest rfl hreads)

theorem unread_forget (ses : Session) (steps : List Step) :
    ses.Unread (steps ++ [.forgetSettings]) := by
  intro pre first post hsplit hreads
  obtain ⟨rfl, rfl⟩ | ⟨rest, rfl, -⟩ := eq_or_exists_of_concat_eq hsplit
  · exact absurd hreads (Step.not_reads_forgetSettings _)
  · exact List.mem_append_right _ (List.mem_singleton_self _)

theorem FirstReading.concat (h : ses.FirstReading steps pre) (hf : step ≠ .forgetSettings) :
    ses.FirstReading (steps ++ [step]) pre := by
  obtain ⟨first, post, rfl, hreads, hno, hunread⟩ := h
  refine ⟨first, post ++ [step], by simp, hreads, ?_, hunread⟩
  simp only [List.mem_append, List.mem_singleton, not_or]
  exact ⟨hno, Ne.symm hf⟩

/-- What the settings that are held come from, after a run of steps. -/
def HoldsFirst (ses : Session) (steps : List Step) : Prop :=
  match (ses.after steps).state.clientSettings with
  | none => ses.Unread steps
  | some held => ∃ pre, ses.FirstReading steps pre ∧
      held = .ofEnvironment (ses.after pre).state.environment

theorem HoldsFirst.concat (h : ses.HoldsFirst steps) (step : Step) :
    ses.HoldsFirst (steps ++ [step]) := by
  unfold HoldsFirst at h ⊢
  rw [after_concat]
  by_cases hf : step = .forgetSettings
  · subst hf
    exact unread_forget ses steps
  · by_cases hreads : step.Reads (ses.after steps)
    · rw [Step.clientSettings_next_of_reads hreads]
      cases hheld : (ses.after steps).state.clientSettings with
      | none =>
        rw [hheld] at h
        refine ⟨steps, ⟨step, [], rfl, hreads, List.not_mem_nil, h⟩, ?_⟩
        rw [State.currentClientSettings, hheld]
        rfl
      | some held =>
        rw [hheld] at h
        obtain ⟨pre, hfirst, hfrom⟩ := h
        refine ⟨pre, hfirst.concat hf, ?_⟩
        rw [State.currentClientSettings, hheld]
        exact hfrom
    · rw [Step.clientSettings_next_of_not_reads hf hreads]
      cases hheld : (ses.after steps).state.clientSettings with
      | none =>
        rw [hheld] at h
        exact h.concat hreads
      | some held =>
        rw [hheld] at h
        obtain ⟨pre, hfirst, hfrom⟩ := h
        exact ⟨pre, hfirst.concat hf, hfrom⟩

/-- In a run that begins without settings, those held are what the environment was at the first
reading since they were last forgotten. The induction is on the steps, from the last one. -/
theorem holdsFirst (h : ses.state.clientSettings = none) (steps : List Step) :
    ses.HoldsFirst steps := by
  induction steps using List.reverseRecOn with
  | nil =>
    have hstart : (ses.after []).state.clientSettings = none := h
    unfold HoldsFirst
    rw [hstart]
    intro pre step post hsplit
    simp at hsplit
  | append_singleton steps step ih => exact ih.concat step

/-- The settings that a step reads are those of the environment at the first reading. -/
theorem exists_firstReading (h : ses.state.clientSettings = none) {steps : List Step} {step : Step}
    (hr : step.Reads (ses.after steps)) :
    ∃ pre, ses.FirstReading (steps ++ [step]) pre ∧
      (ses.after steps).state.currentClientSettings =
        .ofEnvironment (ses.after pre).state.environment := by
  have hheld := holdsFirst h (steps ++ [step])
  unfold HoldsFirst at hheld
  rw [after_concat, Step.clientSettings_next_of_reads hr] at hheld
  exact hheld

end Session

end Courier
