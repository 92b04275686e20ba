import Courier.State

/-!
# Running calls

A call, run in a state, comes to a value or a fault and leaves a state behind (`Run.exec`). The
lemmas on `exec` say what each kind of step does. A call of several steps is run step by step
(`exec_bind`), and a run that is over is taken apart the same way.

* `exec_bind_of_ok`, `exec_bind_of_error`: a run goes on after a value and is over after a fault.
* `exec_bind_eq_ok_iff`: a run of two steps has a value.
* `Keeps`: what a call leaves as it was, whatever it comes to.
* `Yields`: what holds of the value of a call, if it has one.
* `Relates`: what two calls have in common when they are run in states that belong together.
-/

namespace Courier

/-- The state with one more record in the log. -/
def State.noted (s : State) (level : Log.Level) (logger : String) (message : Text) : State :=
  { s with log := s.log ++ [⟨level, logger, message⟩] }

namespace Run

variable {α β : Type}

/-- What a call comes to in a state, and the state it leaves. -/
def exec (act : Run α) (s : State) : Except Fault α × State := act.run.run s

/-! ## Single steps -/

@[simp] theorem exec_pure (a : α) (s : State) : (pure a : Run α).exec s = (.ok a, s) := rfl

@[simp] theorem exec_throw (fault : Fault) (s : State) :
    (throw fault : Run α).exec s = (.error fault, s) := rfl

@[simp] theorem exec_get (s : State) : (get : Run State).exec s = (.ok s, s) := rfl

@[simp] theorem exec_set (s s' : State) : (set s' : Run PUnit).exec s = (.ok ⟨⟩, s') := rfl

@[simp] theorem exec_modify (f : State → State) (s : State) :
    (modify f : Run PUnit).exec s = (.ok ⟨⟩, f s) := rfl

@[simp] theorem exec_log (level : Log.Level) (logger : String) (message : Text) (s : State) :
    (Run.log level logger message).exec s = (.ok ⟨⟩, s.noted level logger message) := rfl

@[simp] theorem exec_ofExcept (r : Except Fault α) (s : State) :
    (Run.ofExcept r).exec s = (r, s) := by
  cases r <;> rfl

@[simp] theorem exec_encoded (r : Except Utf8.Unencodable α) (s : State) :
    (Run.encoded r).exec s = (r.mapError .unencodable, s) := by
  cases r <;> rfl

theorem exec_tryCatch (act : Run α) (handler : Fault → Run α) (s : State) :
    (tryCatch act handler).exec s =
      match act.exec s with
      | (.ok a, s') => (.ok a, s')
      | (.error fault, s') => (handler fault).exec s' := by
  rcases h : act.exec s with ⟨r, s'⟩
  have h' : act s = (r, s') := h
  show (tryCatch act handler) s = _
  simp only [tryCatch, tryCatchThe, MonadExceptOf.tryCatch, ExceptT.tryCatch, ExceptT.mk, bind,
    StateT.bind, h']
  cases r <;> rfl

/-- A run that has a value leaves some state behind. -/
theorem exists_exec_of_toOption {act : Run α} {s : State} {a : α}
    (h : (act.exec s).1.toOption = some a) : ∃ s', act.exec s = (.ok a, s') := by
  rcases hrun : act.exec s with ⟨r | r, s'⟩
  · rw [hrun] at h
    cases h
  · rw [hrun] at h
    cases h
    exact ⟨s', rfl⟩

/-! ## Steps in a row -/

theorem exec_bind (act : Run α) (next : α → Run β) (s : State) :
    (act >>= next).exec s =
      match act.exec s with
      | (.ok a, s') => (next a).exec s'
      | (.error fault, s') => (.error fault, s') := by
  rcases h : act.exec s with ⟨r, s'⟩
  have h' : act s = (r, s') := h
  show (act >>= next) s = _
  simp only [bind, ExceptT.bind, ExceptT.mk, StateT.bind, h']
  cases r <;> rfl

theorem exec_bind_of_ok {act : Run α} {s s' : State} {a : α} (h : act.exec s = (.ok a, s'))
    (next : α → Run β) : (act >>= next).exec s = (next a).exec s' := by
  rw [exec_bind, h]

theorem exec_bind_of_error {act : Run α} {s s' : State} {fault : Fault}
    (h : act.exec s = (.error fault, s')) (next : α → Run β) :
    (act >>= next).exec s = (.error fault, s') := by
  rw [exec_bind, h]

theorem exec_bind_eq_ok_iff {act : Run α} {next : α → Run β} {s s' : State} {b : β} :
    (act >>= next).exec s = (.ok b, s') ↔
      ∃ a s₁, act.exec s = (.ok a, s₁) ∧ (next a).exec s₁ = (.ok b, s') := by
  constructor
  · intro h
    rcases ha : act.exec s with ⟨a | a, s₁⟩
    · rw [exec_bind_of_error ha] at h
      cases h
    · rw [exec_bind_of_ok ha] at h
      exact ⟨a, s₁, rfl, h⟩
  · rintro ⟨a, s₁, ha, h⟩
    rw [exec_bind_of_ok ha, h]

/-! ## What a call keeps -/

variable {γ : Type} {view : State → γ}

/-- A part of the state is the same after a call, also after one that ends in a fault. -/
def Keeps (view : State → γ) (act : Run α) : Prop := ∀ s, view (act.exec s).2 = view s

theorem keeps_pure (a : α) : Keeps view (pure a : Run α) := fun _ => rfl

theorem keeps_throw (fault : Fault) : Keeps view (throw fault : Run α) := fun _ => rfl

theorem keeps_get : Keeps view (get : Run State) := fun _ => rfl

theorem keeps_checked (record : Schema.Record) (c : Schema.Checked α) :
    Keeps view (Run.checked record c) := by
  cases c with
  | valid a => exact keeps_pure a
  | invalid issues => exact keeps_throw _

/-- What comes after a call, and keeps a part of the state, leaves it as the call did. -/
theorem view_exec_bind {act : Run α} {next : α → Run β} (hn : ∀ a, Keeps view (next a))
    (s : State) : view ((act >>= next).exec s).2 = view (act.exec s).2 := by
  rcases h : act.exec s with ⟨a | a, s'⟩
  · rw [exec_bind_of_error h]
  · rw [exec_bind_of_ok h, hn a s']

/-- What a call comes to may be seen in another way, which changes no state. -/
theorem exec_bind_pure (act : Run α) (f : α → β) (s : State) :
    (act >>= fun a => pure (f a)).exec s = ((act.exec s).1.map f, (act.exec s).2) := by
  rcases h : act.exec s with ⟨a | a, s'⟩
  · rw [exec_bind_of_error h]
    rfl
  · rw [exec_bind_of_ok h, exec_pure]
    rfl

theorem Keeps.bind {act : Run α} {next : α → Run β} (ha : Keeps view act)
    (hn : ∀ a, Keeps view (next a)) : Keeps view (act >>= next) :=
  fun s => (view_exec_bind hn s).trans (ha s)

theorem Keeps.tryCatch {act : Run α} {handler : Fault → Run α} (ha : Keeps view act)
    (hh : ∀ fault, Keeps view (handler fault)) :
    Keeps view (MonadExcept.tryCatch act handler) := by
  intro s
  have hs := ha s
  rw [exec_tryCatch]
  rcases h : act.exec s with ⟨a | a, s'⟩
  · rw [h] at hs
    exact (hh a s').trans hs
  · rwa [h] at hs

/-! ## What a call yields -/

variable {P : α → Prop} {Q : β → Prop}

/-- Every value that a call comes to, in whatever state, is of a kind. -/
def Yields (P : α → Prop) (act : Run α) : Prop :=
  ∀ s a s', act.exec s = (.ok a, s') → P a

theorem yields_pure {a : α} (h : P a) : Yields P (pure a : Run α) := by
  intro s a' s' hrun
  cases hrun
  exact h

theorem yields_ofExcept {r : Except Fault α} (h : ∀ a, r = .ok a → P a) :
    Yields P (Run.ofExcept r) := by
  intro s a s' hrun
  rw [exec_ofExcept] at hrun
  exact h a (Prod.mk.inj hrun).1

theorem Yields.bind {act : Run α} {next : α → Run β} (ha : Yields P act)
    (hn : ∀ a, P a → Yields Q (next a)) : Yields Q (act >>= next) := by
  intro s b s' hrun
  obtain ⟨a, s₁, hact, hnext⟩ := exec_bind_eq_ok_iff.mp hrun
  exact hn a (ha s a s₁ hact) s₁ b s' hnext

/-- Nothing needs to be known of the first of two calls. -/
theorem Yields.after {act : Run α} {next : α → Run β} (hn : ∀ a, Yields Q (next a)) :
    Yields Q (act >>= next) :=
  Yields.bind (P := fun _ => True) (fun _ _ _ _ => trivial) fun a _ => hn a

theorem Yields.tryCatch {act : Run α} {handler : Fault → Run α} (ha : Yields P act)
    (hh : ∀ fault, Yields P (handler fault)) :
    Yields P (MonadExcept.tryCatch act handler) := by
  intro s a s' hrun
  rw [exec_tryCatch] at hrun
  rcases h : act.exec s with ⟨r | r, s₁⟩
  · rw [h] at hrun
    exact hh r s₁ a s' hrun
  · rw [h] at hrun
    cases hrun
    exact ha s a s' h

/-! ## What two calls have in common -/

variable {V : α → α → Prop} {W : β → β → Prop} {R : State → State → Prop}

/-- Two calls come to values that belong together, or end in one fault. -/
inductive Agree (V : α → α → Prop) : Except Fault α → Except Fault α → Prop
  | value {a a' : α} (h : V a a') : Agree V (.ok a) (.ok a')
  | fault (fault : Fault) : Agree V (.error fault) (.error fault)

theorem Agree.eq {r r' : Except Fault α} (h : Agree Eq r r') : r = r' := by
  cases h with
  | value h => rw [h]
  | fault fault => rfl

theorem Agree.fault_or_value {r r' : Except Fault α} (h : Agree V r r') :
    (∃ fault, r = .error fault ∧ r' = .error fault) ∨
      ∃ a a', r = .ok a ∧ r' = .ok a' ∧ V a a' := by
  cases h with
  | value h => exact .inr ⟨_, _, rfl, rfl, h⟩
  | fault fault => exact .inl ⟨fault, rfl, rfl⟩

/-- From states that belong together two calls come to what belongs together, and leave such states
behind. -/
def Relates (R : State → State → Prop) (V : α → α → Prop) (act act' : Run α) : Prop :=
  ∀ s s', R s s' → Agree V (act.exec s).1 (act'.exec s').1 ∧ R (act.exec s).2 (act'.exec s').2

/-- A call comes to one thing in one state. -/
theorem relates_refl (act : Run α) : Relates Eq Eq act act := by
  rintro s _ rfl
  refine ⟨?_, rfl⟩
  cases (act.exec s).1 with
  | ok a => exact .value rfl
  | error fault => exact .fault fault

theorem relates_pure {a a' : α} (h : V a a') : Relates R V (pure a) (pure a') :=
  fun _ _ hs => ⟨.value h, hs⟩

theorem relates_throw (fault : Fault) : Relates R V (throw fault) (throw fault) :=
  fun _ _ hs => ⟨.fault fault, hs⟩

theorem relates_modify {f f' : State → State} (h : ∀ s s', R s s' → R (f s) (f' s')) :
    Relates R Eq (modify f : Run PUnit) (modify f') :=
  fun s s' hs => ⟨.value rfl, h s s' hs⟩

theorem relates_get : Relates R R (get : Run State) get := fun _ _ hs => ⟨.value hs, hs⟩

theorem relates_ofExcept (r : Except Fault α) : Relates R Eq (Run.ofExcept r) (Run.ofExcept r) := by
  cases r with
  | ok a => exact relates_pure rfl
  | error fault => exact relates_throw _

theorem relates_checked (record : Schema.Record) (c : Schema.Checked α) :
    Relates R Eq (Run.checked record c) (Run.checked record c) := by
  cases c with
  | valid a => exact relates_pure rfl
  | invalid issues => exact relates_throw _

theorem Relates.bind {act act' : Run α} {next next' : α → Run β} (ha : Relates R V act act')
    (hn : ∀ a a', V a a' → Relates R W (next a) (next' a')) :
    Relates R W (act >>= next) (act' >>= next') := by
  intro s s' hs
  obtain ⟨hagree, hafter⟩ := ha s s' hs
  rcases h : act.exec s with ⟨r, s₁⟩
  rcases h' : act'.exec s' with ⟨r', s₁'⟩
  rw [h, h'] at hagree hafter
  cases hagree with
  | value hv =>
    rw [exec_bind_of_ok h, exec_bind_of_ok h']
    exact hn _ _ hv s₁ s₁' hafter
  | fault fault =>
    rw [exec_bind_of_error h, exec_bind_of_error h']
    exact ⟨.fault fault, hafter⟩

/-- What is one thing belongs together. -/
theorem Relates.of_eq {act act' : Run α} (ha : Relates R Eq act act') (hv : ∀ a, V a a) :
    Relates R V act act' := by
  intro s s' hs
  obtain ⟨hagree, hafter⟩ := ha s s' hs
  refine ⟨?_, hafter⟩
  rw [hagree.eq]
  cases (act'.exec s').1 with
  | ok a => exact .value (hv a)
  | error fault => exact .fault fault

/-- After two calls that come to the same value, the same is done. -/
theorem Relates.bind_eq {act act' : Run α} {next next' : α → Run β} (ha : Relates R Eq act act')
    (hn : ∀ a, Relates R W (next a) (next' a)) : Relates R W (act >>= next) (act' >>= next') :=
  ha.bind fun a _ h => h ▸ hn a

/-- Faults that are caught are the same, so the same is done after them. -/
theorem Relates.tryCatch {act act' : Run α} {handler handler' : Fault → Run α}
    (ha : Relates R V act act') (hh : ∀ fault, Relates R V (handler fault) (handler' fault)) :
    Relates R V (MonadExcept.tryCatch act handler) (MonadExcept.tryCatch act' handler') := by
  intro s s' hs
  obtain ⟨hagree, hafter⟩ := ha s s' hs
  rw [exec_tryCatch, exec_tryCatch]
  rcases h : act.exec s with ⟨r, s₁⟩
  rcases h' : act'.exec s' with ⟨r', s₁'⟩
  rw [h, h'] at hagree hafter
  cases hagree with
  | value hv => exact ⟨.value hv, hafter⟩
  | fault fault => exact hh fault s₁ s₁' hafter

end Run

end Courier
