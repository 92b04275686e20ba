import Courier.Proofs.Client.Once
import Courier.Proofs.Gateway.Submission
import Courier.Proofs.Log.Calls
import Courier.Proofs.Shared.Lifecycle

/-!
# Runs of the program

A run either stops before anything is done, or prepares the log, opens the shared transport, sends
over it and closes it. The send may end in a fault, which is let through after the transport was
closed. So what a run leaves behind can be said by two equations (`exec_withShared`,
`exec_perform`), and whether it sends at all by the values that its options and variables have.

Results:
* `exists_ofReading_iff`: when an account and a sender are known.
* `exec_perform`: a run that sends.
* `run_cases`: what every run does, and how it ends.
* `run_not_always_refused`: a run that is asked for help does not mind a missing value.
-/

namespace Courier

/-! ## Preparing the log -/

namespace Log

/-- The log can be prepared: its level is not set, or is the name of a standard level, in capitals
or not. -/
def NamesLevel (env : Environment) : Prop :=
  ∀ t, env.get? (Text.ofString "LOG_LEVEL") = some t →
    ∃ level ∈ namedLevels, Capital.ofText t = Text.ofString level.1

theorem exists_levelOf_eq_weight {t : Text}
    (h : ∃ level ∈ namedLevels, Capital.ofText t = Text.ofString level.1) :
    ∃ n, levelOf t = .weight n := by
  obtain ⟨level, hlevel, hname⟩ := h
  exact ⟨level.2, by simp only [levelOf, find?_namedLevels_of_spells hlevel hname]⟩

/-- Where no other level is asked for, a standard one can be set. -/
theorem configure_of_namesLevel {env : Environment} (h : NamesLevel env) (setup : Setup) :
    (setup.configure env none).2 = none := by
  have hweight : ∃ n, levelOf (Setup.effectiveLevel env none) = .weight n := by
    unfold Setup.effectiveLevel Environment.getD
    cases hget : env.get? (Text.ofString "LOG_LEVEL") with
    | none => exact exists_levelOf_eq_weight ⟨("INFO", 20), by decide, by decide⟩
    | some t => exact exists_levelOf_eq_weight (h t hget)
  obtain ⟨n, hn⟩ := hweight
  unfold Setup.configure
  split
  · rfl
  · simp only [hn]

end Log

/-- The state after the log was prepared. -/
def State.logging (s : State) (level : Option Text) : State :=
  { s with logSetup := (s.logSetup.configure s.environment level).1 }

theorem Run.exec_configureLog (level : Option Text) (s : State) :
    (configureLog level).exec s =
      match (s.logSetup.configure s.environment level).2 with
      | some fault => (.error (.badLogLevel fault), s.logging level)
      | none => (.ok ⟨⟩, s.logging level) := by
  unfold configureLog State.logging
  rw [exec_bind_of_ok (exec_get s)]
  rcases s.logSetup.configure s.environment level with ⟨setup, fault | fault⟩ <;> rfl

/-! ## The shared transport around a call -/

/-- A later state in which the shared transport is open: the one that was shared before, or a new
one. Of what a send looks at nothing else has changed. -/
structure State.OpensTo (s s₁ : State) (id : Nat) : Prop where
  shared_eq : s₁.shared = some id
  wire_eq : s₁.wire = s.wire
  replies_eq : s₁.replies = s.replies
  settings_eq : s₁.currentClientSettings = s.currentClientSettings
  transport : s.shared = some id ∧ s₁.transports[id]? = s.transports[id]? ∨
    s.shared = none ∧ ∃ limit, s₁.transports[id]? = some ⟨limit, true, []⟩

namespace Transport

/-- Opening the shared transport always gives one. -/
theorem exists_exec_openShared (s : State) :
    ∃ id s₁, (openShared none).exec s = (.ok id, s₁) ∧ s.OpensTo s₁ id := by
  cases hs : s.shared with
  | some id => exact ⟨id, s, exec_openShared_of_some hs none, hs, rfl, rfl, rfl, .inl ⟨hs, rfl⟩⟩
  | none =>
    unfold openShared
    rw [Run.exec_bind_of_ok (Run.exec_get s), hs]
    dsimp only
    rw [Run.exec_bind_of_ok (Run.exec_clientSettings s)]
    refine ⟨s.transports.length, _, rfl, rfl, rfl, rfl, rfl,
      .inr ⟨hs, .seconds s.currentClientSettings.timeout, ?_⟩⟩
    exact List.getElem?_concat_length

/-- Closing the shared transport leaves none, and makes no request. -/
theorem exec_closeShared_after {s : State} {id : Nat} (h : s.shared = some id) :
    ∃ s', closeShared.exec s = (.ok ⟨⟩, s') ∧ s'.shared = none ∧ ¬s'.IsOpen id ∧
      s'.wire = s.wire := by
  obtain ⟨s', hrun, hitems⟩ := exec_closeShared_of_some h
  have hwire : (closeShared.exec s).2.wire = s.wire := by
    unfold closeShared
    rw [Run.exec_bind_of_ok (Run.exec_get s), h]
    rfl
  rw [hrun] at hwire
  refine ⟨s', hrun, congrArg Prod.snd hitems, ?_, hwire⟩
  intro ho
  exact (State.isOpen_of_closed hitems ho).1 rfl

theorem exec_lift {α : Type} (act : Run α) (s : State) :
    Run.exec (ExceptT.lift act.run) s = (.ok (act.exec s).1, (act.exec s).2) := rfl

/-- A call with the shared transport open comes to what it comes to, also to a fault, and then the
transport is closed. -/
theorem exec_withShared {α : Type} {act : Run α} {s s₁ s' : State} {id : Nat}
    (hopen : (openShared none).exec s = (.ok id, s₁))
    (hclose : closeShared.exec (act.exec s₁).2 = (.ok ⟨⟩, s')) :
    (withShared act).exec s = ((act.exec s₁).1, s') := by
  unfold withShared
  rw [Run.exec_bind_of_ok hopen, Run.exec_bind_of_ok (exec_lift act s₁), Run.exec_bind_of_ok hclose]
  cases (act.exec s₁).1 <;> rfl

end Transport

namespace CommandLine.Send

/-! ## Account and sender -/

/-- No value counts for an option: it was given without one or with an empty one, or was not given
and its variable is empty or not set. -/
def Lacks (env : Environment) (r : Reading Key) (key : Key) (name : String) : Prop :=
  match value? r key with
  | some (.text t) => t = []
  | some .nothing => True
  | none => env.get? (Text.ofString name) = none ∨ env.get? (Text.ofString name) = some []

theorem setting?_eq_none_iff {env : Environment} {r : Reading Key} {key : Key} {name : String} :
    setting? env r key name = none ↔ Lacks env r key name := by
  unfold setting? Lacks
  cases value? r key with
  | some value => cases value <;> simp
  | none => cases env.get? (Text.ofString name) <;> simp

/-- An account and a sender are known exactly if none of their options lacks a value. -/
theorem exists_ofReading_iff {env : Environment} {r : Reading Key} :
    (∃ request, Request.ofReading env r = .ok request) ↔ ∀ o ∈ needed, ¬Lacks env r o.1 o.2.2 := by
  simp only [needed, List.forall_mem_cons, ← setting?_eq_none_iff, Request.ofReading]
  cases setting? env r .sid "TWILIO_ACCOUNT_SID" <;>
  cases setting? env r .token "TWILIO_AUTH_TOKEN" <;>
  cases setting? env r .sender "TWILIO_FROM_NUMBER" <;> simp

/-! ## A run that sends -/

namespace Request

/-- The level that the log is prepared with. -/
def level (r : Request) : Option Text := if r.verbose then some (Text.ofString "DEBUG") else none

variable [Installation]

/-- The send that a run makes. -/
def send (r : Request) : Run Outcome := do
  let client ← Client.new (.text r.sid) (.text r.token) none none
  client.sendMessage r.recipient (.text r.sender) r.body r.mediaUrl r.verbose

theorem exec_send (r : Request) (s : State) :
    r.send.exec s =
      (Client.sendMessage ⟨⟨r.sid, r.token⟩, none, s.currentClientSettings⟩ r.recipient
        (.text r.sender) r.body r.mediaUrl r.verbose).exec
          { s with clientSettings := some s.currentClientSettings } :=
  Run.exec_bind_of_ok (Client.exec_new r.sid r.token s) _

/-- The send makes at most one request, and leaves the transports as they are. -/
theorem after_exec_send (r : Request) (s : State) :
    (r.send.exec s).2.holdings = s.holdings ∧
      ∃ made, (r.send.exec s).2.wire = s.wire ++ made ∧ made.length ≤ 1 := by
  rw [exec_send]
  generalize Client.mk ⟨r.sid, r.token⟩ none s.currentClientSettings = c
  refine ⟨c.keeps_holdings_sendMessage _ _ _ _ _ _, ?_⟩
  obtain ⟨hwire, -⟩ | ⟨request, -, hwire, -⟩ :=
    (c.postsOnce_sendMessage r.recipient (.text r.sender) r.body r.mediaUrl r.verbose
      { s with clientSettings := some s.currentClientSettings }).network
  · exact ⟨[], by rw [hwire, List.append_nil], Nat.zero_le 1⟩
  · exact ⟨[request], hwire, Nat.le_refl 1⟩

end Request

/-- How a run reports the end of its send: on the output if the message was sent, else as an error.
A fault is let through. -/
inductive Tells : Except Fault Outcome → Except Fault Report → Prop
  | sent {o : Outcome} (h : o.ok = true) :
      Tells (.ok o) (.ok ⟨0, false, headed "Message sent." o.detail, []⟩)
  | failed {o : Outcome} (h : o.ok = false) :
      Tells (.ok o) (.ok ⟨1, false, [], headed "Message failed." o.detail⟩)
  | fault (fault : Fault) : Tells (.error fault) (.error fault)

theorem tells_reported (r : Except Fault Outcome) : Tells r (r.map reported) := by
  cases r with
  | error fault => exact .fault fault
  | ok o =>
    rw [Except.map, reported]
    cases h : o.ok with
    | true => exact .sent h
    | false => exact .failed h

section

variable [Installation]

/-- From a state whose log is prepared: a run opens the shared transport, sends over it, and tells
what came of that. Then the transport is closed, none is shared, and at most one request was
made. -/
structure SendsOnce (r : Request) (s s' : State) (result : Except Fault Report) (id : Nat) :
    Prop where
  opens : ∃ s₁, (Transport.openShared none).exec s = (.ok id, s₁) ∧ s₁.shared = some id ∧
    Tells (r.send.exec s₁).1 result
  shared_eq : s'.shared = none
  not_isOpen : ¬s'.IsOpen id
  at_most_one : ∃ made, s'.wire = s.wire ++ made ∧ made.length ≤ 1

theorem exec_perform_of_fault {r : Request} {s : State} {fault : Log.Fault}
    (h : (s.logSetup.configure s.environment r.level).2 = some fault) :
    (perform r).exec s = (.error (.badLogLevel fault), s.logging r.level) := by
  have hlog := Run.exec_configureLog r.level s
  rw [h] at hlog
  exact Run.exec_bind_of_error hlog _

/-- A run that sends, once the log is prepared: between opening and closing the shared transport
stands the send, whose end it reports. -/
theorem exec_perform {r : Request} {s : State}
    (h : (s.logSetup.configure s.environment r.level).2 = none) :
    ∃ id s₁ s', (Transport.openShared none).exec (s.logging r.level) = (.ok id, s₁) ∧
      (s.logging r.level).OpensTo s₁ id ∧
      (perform r).exec s = ((r.send.exec s₁).1.map reported, s') ∧
      s'.shared = none ∧ ¬s'.IsOpen id ∧ s'.wire = (r.send.exec s₁).2.wire := by
  have hlog := Run.exec_configureLog r.level s
  rw [h] at hlog
  obtain ⟨id, s₁, hopen, hopens⟩ := Transport.exists_exec_openShared (s.logging r.level)
  have hshared : (r.send.exec s₁).2.shared = some id := by
    rw [← hopens.shared_eq]
    exact congrArg Prod.snd (r.after_exec_send s₁).1
  obtain ⟨s', hclose, hnone, hclosed, hwire⟩ := Transport.exec_closeShared_after hshared
  refine ⟨id, s₁, s', hopen, hopens, ?_, hnone, hclosed, hwire⟩
  refine (Run.exec_bind_of_ok hlog _).trans ?_
  refine (Run.exec_bind_pure (Transport.withShared r.send) reported _).trans ?_
  rw [Transport.exec_withShared hopen hclose]

theorem sendsOnce_perform {r : Request} {s : State}
    (h : (s.logSetup.configure s.environment r.level).2 = none) :
    ∃ id, SendsOnce r (s.logging r.level) ((perform r).exec s).2 ((perform r).exec s).1 id := by
  obtain ⟨id, s₁, s', hopen, hopens, hrun, hnone, hclosed, hwire⟩ := exec_perform h
  obtain ⟨-, made, hmade, hlength⟩ := r.after_exec_send s₁
  rw [hrun]
  refine ⟨id, ⟨s₁, hopen, hopens.shared_eq, tells_reported _⟩, hnone, hclosed, made, ?_, hlength⟩
  rw [hwire, hmade, hopens.wire_eq]

/-! ## All runs -/

/-- A run is refused: it ends with status 2 and no output, and the state is as it was. -/
def Refused (arguments : List Text) (s : State) : Prop :=
  ∃ report, (run arguments).exec s = (.ok report, s) ∧ report.status = 2 ∧ report.output = []

theorem run_of_ok {arguments : List Text} {reading : Reading Key}
    (h : program.parse? (fun o => o.key = .help) arguments = .ok reading)
    (he : reading.ended = false) (s : State) :
    (run arguments).exec s =
      match Request.ofReading s.environment reading with
      | .error e => (.ok (mistaken e), s)
      | .ok request => (perform request).exec s := by
  unfold run
  rw [h]
  simp only [he, Bool.false_eq_true, if_false]
  rw [Run.exec_bind_of_ok (Run.exec_get s)]
  cases Request.ofReading s.environment reading <;> rfl

/-- **What a run does.** Mistaken arguments, and a missing or empty account, token or sender, end it
with status 2 before anything is done; an option that was given counts before a variable. Asked for
help it shows that, with status 0. Any other run prepares the log, which may be at fault, and then
sends once over the shared transport, which is closed and given up however the send ends. -/
theorem run_cases (arguments : List Text) (s : State) :
    (∀ e, program.parse? (fun o => o.key = .help) arguments = .error e → Refused arguments s) ∧
      ∀ reading, program.parse? (fun o => o.key = .help) arguments = .ok reading →
        (reading.ended = true →
          (run arguments).exec s = (.ok ⟨0, true, program.help columns, []⟩, s)) ∧
        (reading.ended = false → (∃ o ∈ needed, Lacks s.environment reading o.1 o.2.2) →
          Refused arguments s) ∧
        (reading.ended = false → (∀ o ∈ needed, ¬Lacks s.environment reading o.1 o.2.2) →
          ∃ request, Request.ofReading s.environment reading = .ok request ∧
            match (s.logSetup.configure s.environment request.level).2 with
            | some fault =>
              (run arguments).exec s = (.error (.badLogLevel fault), s.logging request.level)
            | none =>
              ∃ id, SendsOnce request (s.logging request.level) ((run arguments).exec s).2
                ((run arguments).exec s).1 id) := by
  refine ⟨fun e he => ?_, fun reading hreading => ⟨fun hended => ?_, fun hended hlacks => ?_,
    fun hended hneeded => ?_⟩⟩
  · refine ⟨mistaken e, ?_, rfl, rfl⟩
    unfold run
    rw [he]
    rfl
  · unfold run
    rw [hreading]
    simp only [hended, if_true]
    rfl
  · have hnot : ¬∃ request, Request.ofReading s.environment reading = .ok request := by
      rw [exists_ofReading_iff]
      intro hall
      obtain ⟨o, ho, hl⟩ := hlacks
      exact hall o ho hl
    have hrun := run_of_ok hreading hended s
    cases hr : Request.ofReading s.environment reading with
    | ok request => exact absurd ⟨request, hr⟩ hnot
    | error e =>
      rw [hr] at hrun
      exact ⟨mistaken e, hrun, rfl, rfl⟩
  · obtain ⟨request, hrequest⟩ := exists_ofReading_iff.mpr hneeded
    have hrun := run_of_ok hreading hended s
    rw [hrequest] at hrun
    refine ⟨request, hrequest, ?_⟩
    rw [hrun]
    cases hlog : (s.logSetup.configure s.environment request.level).2 with
    | some fault => exact exec_perform_of_fault hlog
    | none => exact sendsOnce_perform hlog

end

open scoped Installation in
/-- A run that is asked for help ends with status 0, though it has no account. -/
theorem run_not_always_refused :
    ¬∀ (arguments : List Text) (s : State) (reading : Reading Key),
      program.parse? (fun o => o.key = .help) arguments = .ok reading →
        (∃ o ∈ needed, Lacks s.environment reading o.1 o.2.2) →
          ∃ report, (run arguments).exec s = (.ok report, s) ∧ report.status = 2 := by
  intro h
  have hparse : program.parse? (fun o => o.key = .help) [Text.ofString "-h"] =
      .ok ⟨[⟨⟨.help, "-h", "--help", none, false, "show this help message and exit"⟩, none⟩], [],
        true⟩ := by rfl
  obtain ⟨report, hrun, hstatus⟩ := h [Text.ofString "-h"] (State.initial 0 .empty .initial) _
    hparse ⟨_, List.mem_cons_self, .inl rfl⟩
  have hhelped : (run [Text.ofString "-h"]).exec (State.initial 0 .empty .initial) =
      (.ok helped, State.initial 0 .empty .initial) := by
    unfold run
    rw [hparse]
    rfl
  rw [hhelped] at hrun
  cases hrun
  cases hstatus

end CommandLine.Send

end Courier
