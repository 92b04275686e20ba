import Courier.Proofs.Gateway.Readings

/-!
# The life cycle of the shared transport

Several owners open and close the shared transport: a caller of the library, the gateway, and the
program, which closes it also after a fault. Each step of theirs is made of openings, closings and
calls that leave the transports alone, so that one invariant (`State.IsTended`) and one relation
between an earlier and a later state (`State.Leads`) say what any sequence of such steps can do.

Results:
* `Lifecycle.Step.tends`: what one step preserves.
* `Lifecycle.isTended_after`: what a run of steps preserves.
* `Lifecycle.shared_upheld`: the life cycle of the shared transport along every run.
-/

namespace Courier

/-! ## What holds of a state -/

namespace State

/-- The time limit of a transport, if there is such a transport. -/
def limit? (s : State) (id : Nat) : Option TimeLimit := s.transports[id]?.map (·.timeout)

/-- The shared transport is open, and of the transports from the `n`th on no other is open. -/
structure IsTended (n : Nat) (s : State) : Prop where
  le_length : n ≤ s.transports.length
  isOpen_of_shared : ∀ id, s.shared = some id → n ≤ id ∧ s.IsOpen id
  shared_of_isOpen : ∀ id, n ≤ id → s.IsOpen id → s.shared = some id

/-- In a later state all transports are still there, with the same time limits, and those that were
closed are closed. -/
structure Leads (s s' : State) : Prop where
  length_le : s.transports.length ≤ s'.transports.length
  limit_eq : ∀ id, id < s.transports.length → s'.limit? id = s.limit? id
  isOpen_of_isOpen : ∀ id, id < s.transports.length → s'.IsOpen id → s.IsOpen id

variable {s s' s'' : State} {n id : Nat}

theorem isOpen_iff : s.IsOpen id ↔ ∃ limit, s.holdings.1[id]? = some (limit, true) := by
  simp only [IsOpen, holdings, List.getElem?_map]
  cases s.transports[id]? with
  | none => simp
  | some t => simp

theorem limit?_eq : s.limit? id = s.holdings.1[id]?.map (·.1) := by
  simp only [limit?, holdings, List.getElem?_map, Option.map_map]
  rfl

theorem length_eq : s.transports.length = s.holdings.1.length := by
  simp [holdings]

theorem lt_length_of_isOpen (h : s.IsOpen id) : id < s.transports.length := by
  obtain ⟨limit, hid⟩ := isOpen_iff.mp h
  rw [length_eq]
  exact (List.getElem?_eq_some_iff.mp hid).1

theorem Leads.refl (s : State) : s.Leads s := ⟨Nat.le_refl _, fun _ _ => rfl, fun _ _ h => h⟩

theorem Leads.trans (h : s.Leads s') (h' : s'.Leads s'') : s.Leads s'' := by
  refine ⟨h.length_le.trans h'.length_le, ?_, ?_⟩
  · intro id hid
    have hid' : id < s'.transports.length := Nat.lt_of_lt_of_le hid h.length_le
    exact (h'.limit_eq id hid').trans (h.limit_eq id hid)
  · intro id hid ho
    have hid' : id < s'.transports.length := Nat.lt_of_lt_of_le hid h.length_le
    exact h.isOpen_of_isOpen id hid (h'.isOpen_of_isOpen id hid' ho)

theorem Leads.of_holdings_eq (h : s'.holdings = s.holdings) : s.Leads s' := by
  refine ⟨?_, ?_, ?_⟩
  · rw [length_eq, length_eq, h]
  · intro id _
    rw [limit?_eq, limit?_eq, h]
  · intro id _ ho
    rw [isOpen_iff] at ho ⊢
    rwa [h] at ho

theorem IsTended.of_holdings_eq (ht : s.IsTended n) (h : s'.holdings = s.holdings) :
    s'.IsTended n := by
  have hshared : s'.shared = s.shared := congrArg Prod.snd h
  have hopen : ∀ id, s'.IsOpen id ↔ s.IsOpen id := by
    intro id
    rw [isOpen_iff, isOpen_iff, h]
  have hlength : s'.transports.length = s.transports.length := by
    rw [length_eq, length_eq, h]
  refine ⟨?_, ?_, ?_⟩
  · rw [hlength]
    exact ht.le_length
  · intro id hid
    rw [hshared] at hid
    rw [hopen]
    exact ht.isOpen_of_shared id hid
  · intro id hid ho
    rw [hopen] at ho
    rw [hshared]
    exact ht.shared_of_isOpen id hid ho

/-! ### Opening and closing -/

variable {limit : TimeLimit}

/-- The state after a transport was added and shared, where none was. -/
theorem IsTended.opened (ht : s.IsTended n) (hs : s.shared = none)
    (h : s'.holdings = (s.holdings.1 ++ [(limit, true)], some s.transports.length)) :
    s'.IsTended n ∧ s.Leads s' := by
  have hshared : s'.shared = some s.transports.length := congrArg Prod.snd h
  have hitems : s'.holdings.1 = s.holdings.1 ++ [(limit, true)] := congrArg Prod.fst h
  have hold : ∀ id, id < s.transports.length → s'.holdings.1[id]? = s.holdings.1[id]? := by
    intro id hid
    rw [hitems, List.getElem?_append_left (by rwa [← length_eq])]
  have hnew : s'.holdings.1[s.transports.length]? = some (limit, true) := by
    rw [hitems, length_eq, List.getElem?_concat_length]
  have hlength : s'.transports.length = s.transports.length + 1 := by
    rw [length_eq, hitems, List.length_append, ← length_eq]
    rfl
  refine ⟨⟨?_, ?_, ?_⟩, ⟨?_, ?_, ?_⟩⟩
  · rw [hlength]
    exact Nat.le_succ_of_le ht.le_length
  · intro id hid
    obtain rfl := Option.some.inj (hshared.symm.trans hid)
    exact ⟨ht.le_length, isOpen_iff.mpr ⟨limit, hnew⟩⟩
  · intro id hid ho
    have hlt := lt_length_of_isOpen ho
    rw [hlength] at hlt
    by_cases hlast : id = s.transports.length
    · rw [hshared, hlast]
    · -- an open one among the others would be shared already
      rw [isOpen_iff, hold id (by omega), ← isOpen_iff] at ho
      rw [ht.shared_of_isOpen id hid ho] at hs
      cases hs
  · rw [hlength]
    exact Nat.le_succ _
  · intro id hid
    rw [limit?_eq, limit?_eq, hold id hid]
  · intro id hid ho
    rwa [isOpen_iff, hold id hid, ← isOpen_iff] at ho

/-- What is open after one transport was closed is another one that was open before. -/
theorem isOpen_of_closed {j : Nat} {shared : Option Nat}
    (h : s'.holdings = (s.holdings.1.modify id fun t => (t.1, false), shared)) (ho : s'.IsOpen j) :
    j ≠ id ∧ s.IsOpen j := by
  have hitems : s'.holdings.1 = s.holdings.1.modify id fun t => (t.1, false) :=
    congrArg Prod.fst h
  rw [isOpen_iff, hitems, List.getElem?_modify] at ho
  by_cases hj : id = j
  · obtain ⟨limit, ho⟩ := ho
    simp [hj] at ho
  · rw [isOpen_iff]
    simpa [hj, Ne.symm hj] using ho

/-- The state after the shared transport was closed and given up. -/
theorem IsTended.closed (ht : s.IsTended n) (hs : s.shared = some id)
    (h : s'.holdings = (s.holdings.1.modify id fun t => (t.1, false), none)) :
    s'.IsTended n ∧ s.Leads s' := by
  have hshared : s'.shared = none := congrArg Prod.snd h
  have hitems : s'.holdings.1 = s.holdings.1.modify id fun t => (t.1, false) :=
    congrArg Prod.fst h
  have hlength : s'.transports.length = s.transports.length := by
    rw [length_eq, hitems, List.length_modify, ← length_eq]
  have hopen : ∀ j, s'.IsOpen j → j ≠ id ∧ s.IsOpen j := fun j ho => isOpen_of_closed h ho
  refine ⟨⟨?_, ?_, ?_⟩, ⟨?_, ?_, ?_⟩⟩
  · rw [hlength]
    exact ht.le_length
  · intro j hj
    rw [hshared] at hj
    cases hj
  · intro j hj ho
    obtain ⟨hne, ho'⟩ := hopen j ho
    have hid := hs.symm.trans (ht.shared_of_isOpen j hj ho')
    exact absurd (Option.some.inj hid).symm hne
  · rw [hlength]
  · intro j _
    rw [limit?_eq, limit?_eq, hitems, List.getElem?_modify]
    by_cases hj : id = j
    · simp [hj, Option.map_map, Function.comp_def]
    · simp [hj]
  · intro j _ ho
    exact (hopen j ho).2

end State

/-! ## What calls preserve -/

namespace Run

variable {α β : Type}

/-- A call preserves the invariant, and leads from the state before to the one after it, also where
it ends in a fault. -/
def Tends (act : Run α) : Prop :=
  ∀ n s, s.IsTended n → (act.exec s).2.IsTended n ∧ s.Leads (act.exec s).2

theorem Keeps.tends {act : Run α} (h : Keeps State.holdings act) : act.Tends :=
  fun _ s ht => ⟨ht.of_holdings_eq (h s), .of_holdings_eq (h s)⟩

theorem Tends.bind {act : Run α} {next : α → Run β} (ha : act.Tends)
    (hn : ∀ a, (next a).Tends) : (act >>= next).Tends := by
  intro n s ht
  have hs := ha n s ht
  rcases h : act.exec s with ⟨a | a, s'⟩
  · rw [exec_bind_of_error h]
    rwa [h] at hs
  · rw [exec_bind_of_ok h]
    rw [h] at hs
    have hs' := hn a n s' hs.1
    exact ⟨hs'.1, hs.2.trans hs'.2⟩

theorem tends_log (level : Log.Level) (logger : String) (message : Text) :
    (Run.log level logger message).Tends := (keeps_holdings_log level logger message).tends

end Run

namespace Transport

theorem tends_openShared (settings : Option ClientSettings) : (openShared settings).Tends := by
  intro n s ht
  cases hs : s.shared with
  | some id =>
    rw [exec_openShared_of_some hs]
    exact ⟨ht, .refl s⟩
  | none =>
    obtain ⟨s', hrun, hitems⟩ := exec_openShared_of_none hs settings
    rw [hrun]
    exact ht.opened hs hitems

theorem tends_closeShared : closeShared.Tends := by
  intro n s ht
  cases hs : s.shared with
  | none =>
    rw [exec_closeShared_of_none hs]
    exact ⟨ht, .refl s⟩
  | some id =>
    obtain ⟨s', hrun, hitems⟩ := exec_closeShared_of_some hs
    rw [hrun]
    exact ht.closed hs hitems

theorem keeps_holdings_shared : Run.Keeps State.holdings shared := by
  intro s
  rw [exec_shared]
  cases s.shared <;> rfl

/-- The transport is closed after a fault as it is after a value. -/
theorem tends_withShared {α : Type} {act : Run α} (h : act.Tends) : (withShared act).Tends := by
  unfold withShared
  refine (tends_openShared none).bind fun _ => ?_
  have hlift : Run.Tends (ExceptT.lift act.run) := fun n s ht => h n s ht
  refine hlift.bind fun result => tends_closeShared.bind fun _ => ?_
  cases result with
  | ok a => exact (Run.keeps_pure a).tends
  | error fault => exact (Run.keeps_throw fault).tends

end Transport

namespace Gateway.App

theorem tends_start : start.Tends := by
  refine (Run.tends_log _ _ _).bind fun _ => ?_
  refine (Transport.tends_openShared none).bind fun _ => ?_
  refine Run.keeps_holdings_gatewaySettings.tends.bind fun settings => ?_
  dsimp only
  split
  · exact (Run.tends_log _ _ _).bind fun _ => Run.tends_log _ _ _
  · exact Run.tends_log _ _ _

theorem tends_stop : stop.Tends :=
  (Run.tends_log _ _ _).bind fun _ => Transport.tends_closeShared.bind fun _ => Run.tends_log _ _ _

end Gateway.App

namespace CommandLine.Send

variable [Installation]

theorem tends_perform (r : Request) : (perform r).Tends := by
  refine (Run.keeps_holdings_configureLog _).tends.bind fun _ => ?_
  have hsend : Run.Keeps State.holdings (do
      let client ← Client.new (.text r.sid) (.text r.token) none none
      client.sendMessage r.recipient (.text r.sender) r.body r.mediaUrl r.verbose) :=
    (Client.keeps_holdings_new _ _ _ _).bind fun c => c.keeps_holdings_sendMessage _ _ _ _ _
  exact (Transport.tends_withShared hsend.tends).bind fun _ => (Run.keeps_pure _).tends

theorem tends_run (arguments : List Text) : (run arguments).Tends := by
  unfold run
  cases program.parse? (fun s => s.key = .help) arguments with
  | error e => exact (Run.keeps_pure _).tends
  | ok reading =>
    dsimp only
    split
    · exact (Run.keeps_pure _).tends
    · have hget : Run.Keeps State.holdings (get : Run State) := Run.keeps_get
      refine hget.tends.bind fun s => ?_
      cases Request.ofReading s.environment reading with
      | error e => exact (Run.keeps_pure _).tends
      | ok request => exact tends_perform request

end CommandLine.Send

/-! ## Runs of steps -/

namespace Lifecycle

/-- What the owners of the shared transport do, in between with any call that leaves the transports
alone, such as a send or a request to the gateway. -/
inductive Step where
  | openShared (settings : Option ClientSettings)
  | closeShared
  | shared
  | isReady
  | start
  | stop
  | commandLine (arguments : List Text)
  | aside (act : Run Unit) (h : Run.Keeps State.holdings act)

theorem isTended_start {s₀ : State} (h : s₀.shared = none) : s₀.IsTended s₀.transports.length := by
  refine ⟨Nat.le_refl _, ?_, ?_⟩
  · intro id hid
    rw [h] at hid
    cases hid
  · intro id hid ho
    exact absurd (State.lt_length_of_isOpen ho) (Nat.not_lt.mpr hid)

section

variable [Installation]

/-- A step as a call. It comes to the transport that its caller gets, if it gets one. -/
def Step.call : Step → Run (Option Nat)
  | .openShared settings => do pure (some (← Transport.openShared settings))
  | .closeShared => do
    Transport.closeShared
    pure none
  | .shared => do pure (some (← Transport.shared))
  | .isReady => do
    let _ ← Transport.isReady
    pure none
  | .start => do
    Gateway.App.start
    pure none
  | .stop => do
    Gateway.App.stop
    pure none
  | .commandLine arguments => do
    let _ ← CommandLine.Send.run arguments
    pure none
  | .aside act _ => do
    act
    pure none

/-- The state after a step, also after one that ends in a fault. -/
def Step.next (step : Step) (s : State) : State := (step.call.exec s).2

/-- The state after steps. -/
def after (s : State) (steps : List Step) : State := steps.foldl (fun s step => step.next s) s

/-- The caller of a step gets a transport. -/
def Step.Returns (step : Step) (s : State) (id : Nat) : Prop :=
  (step.call.exec s).1 = .ok (some id)

variable {s s₀ : State} {n id : Nat}

theorem Step.tends (step : Step) : step.call.Tends := by
  have hdone : ∀ r : Option Nat, Run.Tends (pure r : Run (Option Nat)) :=
    fun r => (Run.keeps_pure r).tends
  cases step with
  | openShared settings => exact (Transport.tends_openShared settings).bind fun _ => hdone _
  | closeShared => exact Transport.tends_closeShared.bind fun _ => hdone _
  | shared => exact Transport.keeps_holdings_shared.tends.bind fun _ => hdone _
  | isReady =>
    have hready : Run.Keeps State.holdings Transport.isReady := fun _ => rfl
    exact hready.tends.bind fun _ => hdone _
  | start => exact Gateway.App.tends_start.bind fun _ => hdone _
  | stop => exact Gateway.App.tends_stop.bind fun _ => hdone _
  | commandLine arguments => exact (CommandLine.Send.tends_run arguments).bind fun _ => hdone _
  | aside act h => exact h.tends.bind fun _ => hdone _

/-- The transport that a caller gets is the shared one. -/
theorem Step.shared_of_returns {step : Step} (h : step.Returns s id) :
    (step.next s).shared = some id := by
  have hsplit : step.call.exec s = (.ok (some id), step.next s) := Prod.ext h rfl
  -- all other steps give no transport to their caller
  have hnone : ∀ {α : Type} (act : Run α),
      (act >>= fun _ => pure none).exec s ≠ (.ok (some id), step.next s) := by
    intro α act hact
    obtain ⟨_, _, -, hdone⟩ := Run.exec_bind_eq_ok_iff.mp hact
    cases hdone
  cases step with
  | openShared settings =>
    obtain ⟨opened, s', hrun, hdone⟩ := Run.exec_bind_eq_ok_iff.mp hsplit
    rw [Run.exec_pure] at hdone
    obtain ⟨hid, hs'⟩ := Prod.mk.inj hdone
    obtain rfl : opened = id := Option.some.inj (Except.ok.inj hid)
    rw [← hs']
    cases hs : s.shared with
    | some held =>
      rw [Transport.exec_openShared_of_some hs] at hrun
      cases hrun
      exact hs
    | none =>
      obtain ⟨s'', hrun', hitems⟩ := Transport.exec_openShared_of_none hs settings
      rw [hrun'] at hrun
      cases hrun
      exact congrArg Prod.snd hitems
  | shared =>
    obtain ⟨held, s', hrun, hdone⟩ := Run.exec_bind_eq_ok_iff.mp hsplit
    rw [Run.exec_pure] at hdone
    obtain ⟨hid, hs'⟩ := Prod.mk.inj hdone
    obtain rfl : held = id := Option.some.inj (Except.ok.inj hid)
    rw [← hs']
    rw [Transport.exec_shared] at hrun
    cases hs : s.shared with
    | none => simp [hs] at hrun
    | some shared =>
      rw [hs] at hrun
      cases hrun
      exact hs
  | closeShared => exact absurd hsplit (hnone _)
  | isReady => exact absurd hsplit (hnone _)
  | start => exact absurd hsplit (hnone _)
  | stop => exact absurd hsplit (hnone _)
  | commandLine arguments => exact absurd hsplit (hnone _)
  | aside act h => exact absurd hsplit (hnone _)

theorem after_append (s : State) (steps more : List Step) :
    after s (steps ++ more) = after (after s steps) more := List.foldl_append

/-- A run of steps preserves the invariant. -/
theorem isTended_after (ht : s.IsTended n) (steps : List Step) :
    (after s steps).IsTended n ∧ s.Leads (after s steps) := by
  induction steps generalizing s with
  | nil => exact ⟨ht, .refl s⟩
  | cons step steps ih =>
    obtain ⟨htended, hleads⟩ := step.tends n s ht
    obtain ⟨hend, hleads'⟩ := ih htended
    exact ⟨hend, hleads.trans hleads'⟩

/-- The transport that a caller gets is open from then on, or closed for good. -/
theorem isOpen_of_returns (ht : s.IsTended n) {step : Step} (h : step.Returns s id) :
    (step.next s).IsOpen id :=
  ((step.tends n s ht).1.isOpen_of_shared id (Step.shared_of_returns h)).2

/-- A transport that is closed is given to no caller any more. -/
theorem not_returns_of_not_isOpen (ht : s.IsTended n) (hid : id < s.transports.length)
    (hc : ¬s.IsOpen id) (more : List Step) (step : Step) : ¬step.Returns (after s more) id := by
  intro h
  obtain ⟨htended, hleads⟩ := isTended_after ht more
  obtain ⟨-, hstep⟩ := step.tends n _ htended
  exact hc ((hleads.trans hstep).isOpen_of_isOpen id hid (isOpen_of_returns htended h))

/-! ## The life cycle -/

/-- The life cycle of the shared transport, in the state after a run of steps. The transports that
were made since the run began are those that were shared at some time of it. -/
structure Upheld (s₀ : State) (steps : List Step) : Prop where
  isOpen_of_shared : ∀ id, (after s₀ steps).shared = some id → (after s₀ steps).IsOpen id
  isReady_eq : Transport.isReady.exec (after s₀ steps) =
    (.ok (after s₀ steps).shared.isSome, after s₀ steps)
  shared_eq : Transport.shared.exec (after s₀ steps) =
    match (after s₀ steps).shared with
    | some id => (.ok id, after s₀ steps)
    | none => (.error .notReady, after s₀ steps)
  openShared_of_some : ∀ id settings, (after s₀ steps).shared = some id →
    (Transport.openShared settings).exec (after s₀ steps) = (.ok id, after s₀ steps)
  openShared_of_none : (after s₀ steps).shared = none → ∀ settings own s₁,
    Run.clientSettings.exec (after s₀ steps) = (.ok own, s₁) →
      ∃ id s', (Transport.openShared settings).exec (after s₀ steps) = (.ok id, s') ∧
        s'.shared = some id ∧ s'.limit? id = some (.seconds (settings.getD own).timeout) ∧
        (∀ before, before <+: steps → (after s₀ before).shared ≠ some id) ∧
        ∀ before (step : Step), before ++ [step] <+: steps →
          ¬step.Returns (after s₀ before) id
  closeShared_of_none : (after s₀ steps).shared = none →
    Transport.closeShared.exec (after s₀ steps) = (.ok ⟨⟩, after s₀ steps)
  made_of_shared : ∀ before, before <+: steps → ∀ id, (after s₀ before).shared = some id →
    s₀.transports.length ≤ id ∧ id < (after s₀ steps).transports.length ∧
      (after s₀ steps).limit? id = (after s₀ before).limit? id
  closed_of_made : ∀ id, s₀.transports.length ≤ id → id < (after s₀ steps).transports.length →
    (after s₀ steps).shared ≠ some id →
      ¬(after s₀ steps).IsOpen id ∧
        ∀ more (step : Step), ¬step.Returns (after s₀ (steps ++ more)) id
  isOpen_unique : ∀ i j, s₀.transports.length ≤ i → s₀.transports.length ≤ j →
    (after s₀ steps).IsOpen i → (after s₀ steps).IsOpen j → i = j

/-- **The life cycle of the shared transport.** From a state without a shared transport on, after
any steps: the shared transport is open, if there is one, and opening gives it back as it is,
whatever settings are asked for. Where there is none, opening makes a new one with the time limit
asked for, or else with that of the client's settings, and closing changes nothing. All transports
that were shared before are closed and come back to no caller, so one of them at most is open. -/
theorem shared_upheld (h₀ : s₀.shared = none) (steps : List Step) : Upheld s₀ steps := by
  have hstart := isTended_start h₀
  obtain ⟨htended, -⟩ := isTended_after hstart steps
  have hprefix : ∀ before, before <+: steps →
      (after s₀ before).IsTended s₀.transports.length ∧
        (after s₀ before).Leads (after s₀ steps) := by
    rintro before ⟨more, rfl⟩
    obtain ⟨hbefore, -⟩ := isTended_after hstart before
    rw [after_append]
    exact ⟨hbefore, (isTended_after hbefore more).2⟩
  -- what was shared at some time was there from then on
  have hlt : ∀ before, before <+: steps → ∀ id, (after s₀ before).shared = some id →
      id < (after s₀ before).transports.length ∧ id < (after s₀ steps).transports.length := by
    intro before hb id hid
    obtain ⟨hbefore, hleads⟩ := hprefix before hb
    have hid' := State.lt_length_of_isOpen (hbefore.isOpen_of_shared id hid).2
    exact ⟨hid', Nat.lt_of_lt_of_le hid' hleads.length_le⟩
  constructor
  case isOpen_of_shared => exact fun id hid => (htended.isOpen_of_shared id hid).2
  case isReady_eq => exact Transport.exec_isReady _
  case shared_eq => exact Transport.exec_shared _
  case openShared_of_some => exact fun id settings hid => Transport.exec_openShared_of_some hid _
  case openShared_of_none =>
    intro hs settings own s₁ hown
    obtain ⟨s', hrun, hitems⟩ := Transport.exec_openShared_of_none hs settings
    rw [Run.exec_clientSettings] at hown
    obtain rfl := Except.ok.inj (Prod.mk.inj hown).1
    refine ⟨_, s', hrun, congrArg Prod.snd hitems, ?_, ?_, ?_⟩
    · rw [State.limit?_eq, hitems, State.length_eq, List.getElem?_concat_length]
      rfl
    · intro before hb hid
      exact absurd (hlt before hb _ hid).2 (Nat.lt_irrefl _)
    · intro before step hb hret
      have hid := Step.shared_of_returns hret
      have hnext : step.next (after s₀ before) = after s₀ (before ++ [step]) :=
        (after_append s₀ before [step]).symm
      rw [hnext] at hid
      exact absurd (hlt _ hb _ hid).2 (Nat.lt_irrefl _)
  case closeShared_of_none => exact Transport.exec_closeShared_of_none
  case made_of_shared =>
    intro before hb id hid
    obtain ⟨hbefore, hleads⟩ := hprefix before hb
    obtain ⟨hthen, hnow⟩ := hlt before hb id hid
    exact ⟨(hbefore.isOpen_of_shared id hid).1, hnow, hleads.limit_eq id hthen⟩
  case closed_of_made =>
    intro id hmade hid hne
    have hclosed : ¬(after s₀ steps).IsOpen id :=
      fun ho => hne (htended.shared_of_isOpen id hmade ho)
    refine ⟨hclosed, ?_⟩
    intro more step
    rw [after_append]
    exact not_returns_of_not_isOpen htended hid hclosed more step
  case isOpen_unique =>
    intro i j hi hj hoi hoj
    have hsi := htended.shared_of_isOpen i hi hoi
    have hsj := htended.shared_of_isOpen j hj hoj
    exact Option.some.inj (hsi.symm.trans hsj)

end

open scoped Installation in
/-- A caller, the gateway and the program one after another: the program takes over the transport of
the gateway and closes it. -/
theorem shared_upheld_takenOver :
    let s₀ := State.initial 0 .empty .initial
    let steps := [.openShared none, .closeShared, .start,
      .aside (do let _ ← Gateway.App.handle ⟨Text.ofString "GET", [], [], [], [], []⟩)
        ((Gateway.App.keeps_holdings_handle _).bind fun _ => Run.keeps_pure _),
      .commandLine (["-a", "AC1", "-s", "t", "-f", "+1", "-t", "+2", "-m", "hi"].map Text.ofString)]
    s₀.shared = none ∧ Upheld s₀ steps ∧ (after s₀ (steps.take 4)).shared = some 1 ∧
      (after s₀ steps).shared = none ∧ ¬(after s₀ steps).IsOpen 1 := by
  intro s₀ steps
  have h : Upheld s₀ steps := shared_upheld rfl steps
  refine ⟨rfl, h, ?_, ?_, ?_⟩
  · decide +kernel
  · decide +kernel
  · decide +kernel

end Lifecycle

end Courier
