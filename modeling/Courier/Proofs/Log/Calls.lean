import Courier.Log.Setup
import Mathlib.Tactic.Common

/-!
# Calls that prepare the log

A program may prepare its log again and again, and take away the places it is written to in between.
A call acts only on a log that is written nowhere: it adds a place and then sets the levels, those
of the noisy parts too. A text that names no level stands for INFO. But two texts name other
settings of the log, and these stop the call when the place is there and no level is set. The noisy
parts then stay as they were until a later call, on a log that is written nowhere again, sets the
levels.

Results:
* `effectiveLevel_eq_iff`: the text that counts for a call.
* `levelOf_of_setsLevel`, `levelOf_of_spells`: what it stands for.
* `configure_eq_iff`: what a call does.
* `quiet_after_iff`: when the noisy parts are quiet after calls.
* `after_calls`: what calls do one after another, and which of them fail.
* `after_recordFormat`: a call that fails, and leaves the noisy parts as they were.
-/

namespace Courier.Log

/-! ## The level that counts -/

/-- The text that names the level of a call: the one given unless it is empty, or else that of the
environment, or else INFO. -/
inductive IsEffective (env : Environment) (level : Option Text) : Text → Prop
  | given {t : Text} (hlevel : level = some t) (ht : t ≠ []) : IsEffective env level t
  | variable {t : Text} (hlevel : level = none ∨ level = some [])
      (hget : env.get? (Text.ofString "LOG_LEVEL") = some t) : IsEffective env level t
  | usual (hlevel : level = none ∨ level = some [])
      (hget : env.get? (Text.ofString "LOG_LEVEL") = none) :
      IsEffective env level (Text.ofString "INFO")

theorem effectiveLevel_eq_iff {env : Environment} {level : Option Text} {t : Text} :
    Setup.effectiveLevel env level = t ↔ IsEffective env level t := by
  have hnone (hlevel : level = none ∨ level = some []) :
      Setup.effectiveLevel env level = env.getD "LOG_LEVEL" "INFO" := by
    obtain rfl | rfl := hlevel <;> rfl
  constructor
  · rintro rfl
    have hvariable (hlevel : level = none ∨ level = some []) :
        IsEffective env level (Setup.effectiveLevel env level) := by
      rw [hnone hlevel, Environment.getD]
      cases hget : env.get? (Text.ofString "LOG_LEVEL") with
      | none => exact .usual hlevel hget
      | some t => exact .variable hlevel hget
    match level with
    | none => exact hvariable (.inl rfl)
    | some [] => exact hvariable (.inr rfl)
    | some (c :: t) => exact .given rfl (List.cons_ne_nil c t)
  · rintro (⟨rfl, ht⟩ | ⟨hlevel, hget⟩ | ⟨hlevel, hget⟩)
    · cases t with
      | nil => exact absurd rfl ht
      | cons c t => rfl
    · rw [hnone hlevel, Environment.getD, hget]
      rfl
    · rw [hnone hlevel, Environment.getD, hget]
      rfl

/-- A text is a name, in capitals or not. -/
def Spells (t : Text) (name : String) : Prop := Capital.ofText t = Text.ofString name

instance (t : Text) (name : String) : Decidable (Spells t name) :=
  inferInstanceAs (Decidable (_ = _))

/-- The level that a text asks for: the standard one of its name, or INFO if there is none. -/
inductive SetsLevel (t : Text) : Int → Prop
  | standard {name : String} {n : Int} (hmem : (name, n) ∈ namedLevels) (h : Spells t name) :
      SetsLevel t n
  | usual (h : ∀ level ∈ namedLevels, ¬Spells t level.1) : SetsLevel t 20

/-- The names of settings of the log that are no levels, and the fault of asking for each. -/
def otherSettings : List (String × Fault) :=
  [("BASIC_FORMAT", .recordFormat), ("_STYLES", .formatStyles)]

/-- A text names no other setting of the log. -/
def IsProper (t : Text) : Prop := ∀ setting ∈ otherSettings, ¬Spells t setting.1

instance (t : Text) : Decidable (IsProper t) :=
  inferInstanceAs (Decidable (∀ setting ∈ otherSettings, ¬Spells t setting.1))

/-- A fault in the place of a level. -/
def Fault.namedLevel : Fault → NamedLevel
  | .recordFormat => .recordFormat
  | .formatStyles => .formatStyles

theorem find?_namedLevels_of_spells {t : Text} {name : String} {n : Int}
    (hmem : (name, n) ∈ namedLevels) (h : Spells t name) :
    (namedLevels.find? fun (m, _) => Text.ofString m = Capital.ofText t) = some (name, n) := by
  have hnames : ∀ level ∈ namedLevels, (namedLevels.find? fun (m, _) =>
      Text.ofString m = Text.ofString level.1) = some level := by decide
  rw [h]
  exact hnames _ hmem

theorem find?_namedLevels_of_forall {t : Text} (h : ∀ level ∈ namedLevels, ¬Spells t level.1) :
    (namedLevels.find? fun (m, _) => Text.ofString m = Capital.ofText t) = none := by
  rw [List.find?_eq_none]
  intro level hlevel hname
  exact h level hlevel (of_decide_eq_true hname).symm

theorem levelOf_of_setsLevel {t : Text} {n : Int} (hproper : IsProper t) (h : SetsLevel t n) :
    levelOf t = .weight n := by
  cases h with
  | standard hmem h => simp only [levelOf, find?_namedLevels_of_spells hmem h]
  | usual h =>
    simp only [IsProper, otherSettings, List.forall_mem_cons] at hproper
    obtain ⟨hformat, hstyles, -⟩ := hproper
    simp only [levelOf, find?_namedLevels_of_forall h]
    exact (if_neg hformat).trans (if_neg hstyles)

theorem levelOf_of_spells {t : Text} {name : String} {fault : Fault}
    (hmem : (name, fault) ∈ otherSettings) (h : Spells t name) :
    levelOf t = fault.namedLevel := by
  have hother : ∀ setting ∈ otherSettings, ∀ level ∈ namedLevels,
      Text.ofString setting.1 ≠ Text.ofString level.1 := by decide
  have hnone := find?_namedLevels_of_forall fun level hlevel hname =>
    hother _ hmem level hlevel (h.symm.trans hname)
  simp only [otherSettings, List.mem_cons, List.not_mem_nil, or_false, Prod.mk.injEq] at hmem
  simp only [levelOf, hnone]
  obtain ⟨rfl, rfl⟩ | ⟨rfl, rfl⟩ := hmem
  · rw [h]
    rfl
  · rw [h]
    rfl

theorem exists_setsLevel (t : Text) : ∃ n, SetsLevel t n := by
  by_cases h : ∃ level ∈ namedLevels, Spells t level.1
  · obtain ⟨level, hlevel, hname⟩ := h
    exact ⟨level.2, .standard hlevel hname⟩
  · exact ⟨20, .usual fun level hlevel hname => h ⟨level, hlevel, hname⟩⟩

/-! ## A single call -/

/-- What a call that prepares the log makes of it, and the fault that it ends with. -/
inductive Prepares (env : Environment) (level : Option Text) (s : Setup) :
    Setup × Option Fault → Prop
  | kept (h : 0 < s.handlers) : Prepares env level s (s, none)
  | set {t : Text} {n : Int} (h : s.handlers = 0) (ht : IsEffective env level t)
      (hproper : IsProper t) (hn : SetsLevel t n) : Prepares env level s (⟨n, 1, (30, 30)⟩, none)
  | stopped {t : Text} {name : String} {fault : Fault} (h : s.handlers = 0)
      (ht : IsEffective env level t) (hmem : (name, fault) ∈ otherSettings)
      (hname : Spells t name) :
      Prepares env level s ({ s with handlers := 1 }, some fault)

variable {env : Environment} {level : Option Text} {s : Setup} {r : Setup × Option Fault}

theorem configure_eq_of_prepares (h : Prepares env level s r) : s.configure env level = r := by
  cases h with
  | kept h => exact if_pos h
  | set h ht hproper hn =>
    rw [Setup.configure, if_neg (by omega), effectiveLevel_eq_iff.mpr ht,
      levelOf_of_setsLevel hproper hn, h]
  | @stopped _ _ fault h ht hmem hname =>
    rw [Setup.configure, if_neg (by omega), effectiveLevel_eq_iff.mpr ht,
      levelOf_of_spells hmem hname, h]
    cases fault <;> rfl

theorem exists_prepares (env : Environment) (level : Option Text) (s : Setup) :
    ∃ r, Prepares env level s r := by
  obtain hs | hs := Nat.eq_zero_or_pos s.handlers
  · have ht : IsEffective env level (Setup.effectiveLevel env level) :=
      effectiveLevel_eq_iff.mp rfl
    by_cases hproper : IsProper (Setup.effectiveLevel env level)
    · obtain ⟨n, hn⟩ := exists_setsLevel (Setup.effectiveLevel env level)
      exact ⟨_, .set hs ht hproper hn⟩
    · simp only [IsProper, not_forall, not_not] at hproper
      obtain ⟨setting, hmem, hname⟩ := hproper
      exact ⟨_, .stopped hs ht hmem hname⟩
  · exact ⟨_, .kept hs⟩

/-- What a call does: nothing on a log that is written somewhere, and on any other all of its work
or none of it but the place that it adds. -/
theorem configure_eq_iff : s.configure env level = r ↔ Prepares env level s r := by
  refine ⟨?_, configure_eq_of_prepares⟩
  rintro rfl
  obtain ⟨r, hr⟩ := exists_prepares env level s
  rw [configure_eq_of_prepares hr]
  exact hr

/-- A call fails exactly if the log is written nowhere and the text that counts names another
setting. -/
theorem snd_configure_eq_some_iff {fault : Fault} :
    (s.configure env level).2 = some fault ↔
      s.handlers = 0 ∧ ∃ t, IsEffective env level t ∧
        ∃ name, (name, fault) ∈ otherSettings ∧ Spells t name := by
  constructor
  · intro h
    generalize hr : s.configure env level = r at h
    cases configure_eq_iff.mp hr with
    | kept => cases h
    | set => cases h
    | stopped hs ht hmem hname =>
      cases h
      exact ⟨hs, _, ht, _, hmem, hname⟩
  · rintro ⟨hs, t, ht, name, hmem, hname⟩
    rw [configure_eq_of_prepares (.stopped hs ht hmem hname)]

/-! ## Calls one after another -/

/-- A call that prepares the log. The places that the log is written to may be taken away before
it. -/
structure Call where
  cleared : Bool
  environment : Environment
  level : Option Text

namespace Call

/-- The log that the call finds. -/
def finds (c : Call) (s : Setup) : Setup := if c.cleared then s.clear else s

/-- What the call makes of the log, and the fault that it ends with. -/
def result (c : Call) (s : Setup) : Setup × Option Fault :=
  (c.finds s).configure c.environment c.level

/-- The call sets the levels. -/
def Sets (c : Call) (s : Setup) : Prop := (c.finds s).handlers = 0 ∧ (c.result s).2 = none

theorem quiet_finds (c : Call) (s : Setup) : (c.finds s).quiet = s.quiet := by
  unfold finds
  split <;> rfl

/-- A call that sets the levels makes the noisy parts quiet, and any other leaves them as they
are. -/
theorem quiet_result_iff (c : Call) (s : Setup) :
    (c.result s).1.quiet = (30, 30) ↔ s.quiet = (30, 30) ∨ c.Sets s := by
  unfold Sets
  generalize hr : c.result s = r
  cases configure_eq_iff.mp hr with
  | kept h => simp [quiet_finds, Nat.ne_of_gt h]
  | set h => simp [h]
  | stopped => simp [quiet_finds]

end Call

/-- The log after calls, also those that failed. -/
def Setup.after (s : Setup) (calls : List Call) : Setup :=
  calls.foldl (fun s c => (c.result s).1) s

theorem Setup.after_cons (s : Setup) (c : Call) (calls : List Call) :
    s.after (c :: calls) = (c.result s).1.after calls := rfl

theorem Setup.after_concat (s : Setup) (calls : List Call) (c : Call) :
    s.after (calls ++ [c]) = (c.result (s.after calls)).1 := List.foldl_append

/-- The noisy parts are quiet exactly if they were so from the beginning, or one of the calls has
set the levels. -/
theorem quiet_after_iff (s : Setup) (calls : List Call) :
    (s.after calls).quiet = (30, 30) ↔
      s.quiet = (30, 30) ∨
        ∃ before c rest, calls = before ++ c :: rest ∧ c.Sets (s.after before) := by
  induction calls generalizing s with
  | nil => simp [Setup.after]
  | cons c calls ih =>
    rw [Setup.after_cons, ih, Call.quiet_result_iff, or_assoc]
    refine or_congr_right ⟨?_, ?_⟩
    · rintro (h | ⟨before, c', rest, rfl, h⟩)
      · exact ⟨[], c, calls, rfl, h⟩
      · exact ⟨c :: before, c', rest, rfl, h⟩
    · rintro ⟨before, c', rest, hcalls, h⟩
      obtain ⟨rfl, hfirst⟩ | ⟨before, rfl, hlater⟩ := List.cons_eq_append_iff.mp hcalls
      · obtain ⟨rfl, rfl⟩ := List.cons.inj hfirst
        exact .inl h
      · exact .inr ⟨before, c', rest, hlater, h⟩

/-- The log is written in one place at most, and where it is written the noisy parts are quiet. -/
structure Setup.IsTidy (s : Setup) : Prop where
  handlers_le : s.handlers ≤ 1
  quiet_eq : 0 < s.handlers → s.quiet = (30, 30)

namespace Call

/-- The text that counts for the call names no other setting of the log. -/
def IsProper (c : Call) : Prop := ∀ t, IsEffective c.environment c.level t → Log.IsProper t

variable {c : Call} {s : Setup}

theorem snd_result_of_isProper (h : c.IsProper) (s : Setup) : (c.result s).2 = none := by
  cases hfault : (c.result s).2 with
  | none => rfl
  | some fault =>
    obtain ⟨-, t, ht, name, hmem, hname⟩ := snd_configure_eq_some_iff.mp hfault
    exact absurd hname (h t ht _ hmem)

theorem isTidy_result (h : c.IsProper) (hs : s.IsTidy) : (c.result s).1.IsTidy := by
  have hfinds : (c.finds s).IsTidy := by
    unfold finds
    split
    · exact ⟨Nat.zero_le 1, fun h => absurd h (Nat.lt_irrefl 0)⟩
    · exact hs
  have hfault := snd_result_of_isProper h s
  generalize hr : c.result s = r at hfault
  cases configure_eq_iff.mp hr with
  | kept => exact hfinds
  | set => exact ⟨Nat.le_refl 1, fun _ => rfl⟩
  | stopped => cases hfault

end Call

/-- Calls whose texts name no other setting keep the log tidy. -/
theorem isTidy_after {s : Setup} {calls : List Call} (h : ∀ c ∈ calls, c.IsProper)
    (hs : s.IsTidy) : (s.after calls).IsTidy := by
  induction calls generalizing s with
  | nil => exact hs
  | cons c calls ih =>
    obtain ⟨hc, hcalls⟩ := List.forall_mem_cons.mp h
    exact ih hcalls (Call.isTidy_result hc hs)

/-- **What calls do to the log.** Each call leaves a log that is written somewhere as it is. On any
other it adds one place, sets the level that its text asks for and makes the noisy parts quiet,
without a fault, unless the text names another setting: then it ends with the fault of that setting,
and only the place is added. So the noisy parts are quiet exactly if they were so before or some
call has set the levels. Where no text names another setting no call fails, and a log that is
written nowhere at first has quiet parts whenever it is written somewhere. -/
theorem after_calls (start : Setup) (calls : List Call) :
    (∀ before c rest, calls = before ++ c :: rest →
      start.after (before ++ [c]) = (c.result (start.after before)).1 ∧
      Prepares c.environment c.level (c.finds (start.after before))
        (c.result (start.after before)) ∧
      ∀ fault, (c.result (start.after before)).2 = some fault ↔
        (c.finds (start.after before)).handlers = 0 ∧
          ∃ t, IsEffective c.environment c.level t ∧
            ∃ name, (name, fault) ∈ otherSettings ∧ Spells t name) ∧
    ((start.after calls).quiet = (30, 30) ↔
      start.quiet = (30, 30) ∨
        ∃ before c rest, calls = before ++ c :: rest ∧ c.Sets (start.after before)) ∧
    ((∀ c ∈ calls, c.IsProper) →
      (∀ before c rest, calls = before ++ c :: rest → (c.result (start.after before)).2 = none) ∧
      (start.handlers = 0 →
        (start.after calls).handlers ≤ 1 ∧
        (0 < (start.after calls).handlers → (start.after calls).quiet = (30, 30)))) := by
  refine ⟨fun before c rest hcalls => ⟨?_, ?_, ?_⟩, quiet_after_iff start calls,
    fun hproper => ⟨fun before c rest hcalls => ?_, fun hnone => ?_⟩⟩
  · exact start.after_concat before c
  · exact configure_eq_iff.mp rfl
  · exact fun fault => snd_configure_eq_some_iff
  · exact Call.snd_result_of_isProper (hproper c (by simp [hcalls])) _
  · have htidy : (start.after calls).IsTidy :=
      isTidy_after hproper ⟨by omega, fun h => absurd h (by omega)⟩
    exact ⟨htidy.handlers_le, htidy.quiet_eq⟩

/-- A small letter and a text that is no level: the first call sets its level, and the second one
INFO, since the place was taken away before it. -/
theorem after_calls_twice :
    let calls : List Call := [⟨false, .empty, some (Text.ofString "debug")⟩,
      ⟨true, .empty, some (Text.ofString "loud")⟩]
    (∀ c ∈ calls, c.IsProper) ∧ Setup.initial.handlers = 0 ∧
      0 < (Setup.initial.after calls).handlers ∧
      (Setup.initial.after calls).quiet = (30, 30) ∧
      Prepares .empty (some (Text.ofString "loud")) ⟨10, 0, (30, 30)⟩
        (⟨20, 1, (30, 30)⟩, none) := by
  intro calls
  have hproper : ∀ c ∈ calls, c.IsProper := by
    intro c hc t ht
    rw [← effectiveLevel_eq_iff] at ht
    subst ht
    revert c
    decide
  have hall := after_calls .initial calls
  have hpositive : 0 < (Setup.initial.after calls).handlers := by decide
  refine ⟨hproper, rfl, hpositive, ((hall.2.2 hproper).2 rfl).2 hpositive, ?_⟩
  exact (hall.1 [⟨false, .empty, some (Text.ofString "debug")⟩] _ [] rfl).2.1

/-- A call may fail, and the next one then does not make the noisy parts quiet, though the log is
written somewhere. -/
theorem after_recordFormat :
    Call.result ⟨false, .empty, some (Text.ofString "BASIC_FORMAT")⟩ .initial =
        (⟨30, 1, (0, 0)⟩, some .recordFormat) ∧
      Setup.after .initial [⟨false, .empty, some (Text.ofString "BASIC_FORMAT")⟩,
        ⟨false, .empty, none⟩] = ⟨30, 1, (0, 0)⟩ := by
  decide

end Courier.Log
