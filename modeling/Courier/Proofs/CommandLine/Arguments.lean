import Courier.CommandLine.Send
import Courier.Proofs.Text.Split
import Mathlib.Data.List.Nodup
import Mathlib.Data.List.Perm.Basic
import Mathlib.Tactic.FinCases

/-!
# Options that stand for themselves

An option can be given in one argument of its own: with its value after the long name and `=`, or by
its short name if it takes none. Such arguments are read for what they are, whatever the values look
like, and in the order in which they stand. No value is taken for an option, none is cut.

Results:
* `Program.classify_argument`, `Program.gather_given`: a single argument, and all of them.
* `Program.parse?_given`: what is read of a command line of such arguments.
* `Send.option`, `Send.valued`: the options of the sending program, and how they are given.
-/

namespace Courier.CommandLine

variable {κ : Type}

/-- An option that is given in one argument, with its value if it takes one. -/
structure Given (κ : Type) where
  switch : Switch κ
  value : Option Text

namespace Given

/-- The name under which the option is given. -/
def name (g : Given κ) : Text :=
  Text.ofString (if g.value.isSome then g.switch.long else g.switch.short)

/-- The argument: the value stands after the name and `=`. -/
def argument (g : Given κ) : Text :=
  match g.value with
  | some t => g.name ++ CodePoint.ofChar '=' :: t
  | none => g.name

/-- What is read of it. -/
def occurrence (g : Given κ) : Occurrence κ := ⟨g.switch, g.value.map .ofText⟩

/-- The option is one of a program and does not end it, and a value is there exactly if it takes
one. -/
structure Suits (g : Given κ) (p : Program κ) (ends : Switch κ → Bool) : Prop where
  mem : g.switch ∈ p.switches
  takesValue_eq : g.switch.takesValue = g.value.isSome
  goesOn : ends g.switch = false

end Given

namespace Program

variable {p : Program κ} {ends : Switch κ → Bool}

/-- The names of a program are as usual: each names one option, short ones are a letter after a dash
and long ones come after two, and no `=` stands in them. -/
structure IsPlain (p : Program κ) : Prop where
  named?_short : ∀ s ∈ p.switches, p.named? (Text.ofString s.short) = some s
  named?_long : ∀ s ∈ p.switches, p.named? (Text.ofString s.long) = some s
  short_eq : ∀ s ∈ p.switches, ∃ c, c ≠ CodePoint.ofChar '-' ∧
    Text.ofString s.short = [CodePoint.ofChar '-', c]
  long_eq : ∀ s ∈ p.switches, ∃ rest,
    Text.ofString s.long = CodePoint.ofChar '-' :: CodePoint.ofChar '-' :: rest
  equals_not_mem : ∀ entry ∈ p.table, CodePoint.ofChar '=' ∉ entry.1

theorem mem_table_of_named? {name : Text} {s : Switch κ} (h : p.named? name = some s) :
    (name, s) ∈ p.table := by
  obtain ⟨⟨n, s'⟩, hfind, rfl⟩ := Option.map_eq_some_iff.mp h
  have hname : n = name := by simpa using List.find?_some hfind
  rw [← hname]
  exact List.mem_of_find?_eq_some hfind

theorem named?_of_equals_mem (hp : p.IsPlain) {t : Text} (h : CodePoint.ofChar '=' ∈ t) :
    p.named? t = none := by
  cases hn : p.named? t with
  | none => rfl
  | some s => exact absurd h (hp.equals_not_mem _ (mem_table_of_named? hn))

/-- An argument with a value is read as the option and its value. -/
theorem classify_long (hp : p.IsPlain) {s : Switch κ} (hs : s ∈ p.switches) (t : Text) :
    p.classify (Text.ofString s.long ++ CodePoint.ofChar '=' :: t) =
      .ok (.option s (Text.ofString s.long) (some t)) := by
  obtain ⟨rest, hlong⟩ := hp.long_eq s hs
  have hnamed := hp.named?_long s hs
  have hequals := hp.equals_not_mem _ (mem_table_of_named? hnamed)
  have hnone : p.named? (Text.ofString s.long ++ CodePoint.ofChar '=' :: t) = none :=
    named?_of_equals_mem hp (by simp)
  have hcut : cutJoined (Text.ofString s.long ++ CodePoint.ofChar '=' :: t) =
      (Text.ofString s.long, some t) := by
    rw [cutJoined, Text.splitFirst_append hequals]
  rw [classify, hnone, hcut, hlong]
  rw [hlong] at hnamed
  simp only [hnamed]
  rfl

/-- An option by its short name. -/
theorem classify_short (hp : p.IsPlain) {s : Switch κ} (hs : s ∈ p.switches) :
    p.classify (Text.ofString s.short) = .ok (.option s (Text.ofString s.short) none) := by
  obtain ⟨c, -, hshort⟩ := hp.short_eq s hs
  rw [classify, hp.named?_short s hs, hshort]
  rfl

/-- An argument by itself is no mark after which all are words, and is read as its option. -/
theorem classify_argument (hp : p.IsPlain) {g : Given κ} (hg : g.Suits p ends) :
    g.argument ≠ [CodePoint.ofChar '-', CodePoint.ofChar '-'] ∧
      p.classify g.argument = .ok (.option g.switch g.name g.value) := by
  obtain ⟨s, value⟩ := g
  have hs : s ∈ p.switches := hg.mem
  cases value with
  | some t =>
    refine ⟨fun h => ?_, classify_long hp hs t⟩
    have hequals : CodePoint.ofChar '=' ∈ [CodePoint.ofChar '-', CodePoint.ofChar '-'] := by
      rw [← h]
      simp [Given.argument]
    exact absurd hequals (by decide)
  | none =>
    obtain ⟨c, hc, hshort⟩ := hp.short_eq s hs
    refine ⟨fun h => hc ?_, classify_short hp hs⟩
    have hname : [CodePoint.ofChar '-', c] = [CodePoint.ofChar '-', CodePoint.ofChar '-'] :=
      hshort.symm.trans h
    exact (List.cons_eq_cons.mp (List.cons_eq_cons.mp hname).2).1

theorem tokens_cons {argument : Text}
    (h : argument ≠ [CodePoint.ofChar '-', CodePoint.ofChar '-']) (rest : List Text) :
    p.tokens (argument :: rest) = p.classify argument >>= fun token =>
      p.tokens rest >>= fun others => pure ((argument, token) :: others) := if_neg h

theorem tokens_given (hp : p.IsPlain) {given : List (Given κ)} (h : ∀ g ∈ given, g.Suits p ends) :
    p.tokens (given.map Given.argument) =
      .ok (given.map fun g => (g.argument, .option g.switch g.name g.value)) := by
  induction given with
  | nil => rfl
  | cons g given ih =>
    obtain ⟨hg, hrest⟩ := List.forall_mem_cons.mp h
    obtain ⟨hmark, hclassify⟩ := classify_argument hp hg
    rw [List.map_cons, tokens_cons hmark, hclassify, ih hrest]
    rfl

/-- An argument gives one occurrence of its option, which needs no further value. -/
theorem unfold_given {g : Given κ} (hg : g.Suits p ends) :
    p.unfold g.switch g.name g.value = .ok ([g.occurrence], false) := by
  obtain ⟨s, value⟩ := g
  have htakes : s.takesValue = value.isSome := hg.takesValue_eq
  cases value with
  | some t => cases t <;> simp [unfold, spread, htakes, Given.occurrence]
  | none => simp [unfold, htakes, Given.occurrence]

/-- All occurrences are read, in the order of the arguments. -/
theorem gather_given {given : List (Given κ)} (h : ∀ g ∈ given, g.Suits p ends) :
    p.gather ends (given.map fun g => (g.argument, .option g.switch g.name g.value)) =
      .ok ⟨given.map Given.occurrence, [], false⟩ := by
  induction given with
  | nil => rfl
  | cons g given ih =>
    obtain ⟨hg, hrest⟩ := List.forall_mem_cons.mp h
    have hends : ends g.occurrence.switch = false := hg.goesOn
    rw [List.map_cons, gather, unfold_given hg]
    dsimp only
    rw [ih hrest]
    simp [Reading.after, hends, Except.map]

/-- **Arguments for options are read as these.** If all options are given that a program requires,
its command line is read without a mistake. -/
theorem parse?_given (hp : p.IsPlain) {given : List (Given κ)} (h : ∀ g ∈ given, g.Suits p ends)
    (hrequired : ∀ s ∈ p.switches, s.required = true → ∃ g ∈ given, g.switch = s) :
    p.parse? ends (given.map Given.argument) = .ok ⟨given.map Given.occurrence, [], false⟩ := by
  have habsent : (p.switches.filter fun s => s.required &&
      !(given.map Given.occurrence).any fun o => o.switch.long = s.long) = [] := by
    rw [List.filter_eq_nil_iff]
    intro s hs hno
    simp only [Bool.and_eq_true, Bool.not_eq_true', List.any_eq_false] at hno
    obtain ⟨g, hg, rfl⟩ := hrequired s hs hno.1
    exact hno.2 g.occurrence (List.mem_map_of_mem hg) (by simp [Given.occurrence])
  simp only [parse?, tokens_given hp h, gather_given h, bind, Except.bind, Bool.false_eq_true,
    if_false]
  rw [habsent]
  rfl

end Program

/-! ## The options of the sending program -/

namespace Send

theorem isPlain_program : program.IsPlain := by
  constructor
  case named?_short =>
    intro s hs
    fin_cases hs <;> rfl
  case named?_long =>
    intro s hs
    fin_cases hs <;> rfl
  case short_eq =>
    intro s hs
    fin_cases hs <;> exact ⟨_, by decide, rfl⟩
  case long_eq =>
    intro s hs
    fin_cases hs <;> exact ⟨_, rfl⟩
  case equals_not_mem => decide

/-- The option of a key. -/
def option : Key → Switch Key
  | .help => program.switches[0]
  | .sid => program.switches[1]
  | .token => program.switches[2]
  | .recipient => program.switches[3]
  | .sender => program.switches[4]
  | .body => program.switches[5]
  | .mediaUrl => program.switches[6]
  | .verbose => program.switches[7]

theorem option_mem (key : Key) : option key ∈ program.switches := by
  cases key <;> exact List.getElem_mem _

theorem key_option (key : Key) : (option key).key = key := by cases key <;> rfl

theorem option_key {s : Switch Key} (hs : s ∈ program.switches) : option s.key = s := by
  fin_cases hs <;> rfl

/-- An option that is given with a value. -/
def valued (key : Key) (t : Text) : Given Key := ⟨option key, some t⟩

theorem suits_valued {key : Key} (h : (option key).takesValue = true) (t : Text) :
    (valued key t).Suits program fun o => o.key = .help := by
  refine ⟨option_mem key, h, ?_⟩
  rw [valued, key_option]
  cases key <;> first | rfl | cases h

variable {given : List (Given Key)} {left : List Text} {ended : Bool}

/-- A text that is not empty is the setting, whatever the environment. -/
theorem setting?_of_value? {r : Reading Key} {key : Key} {t : Text}
    (h : value? r key = some (.text t)) (ht : t ≠ []) (env : Environment) (name : String) :
    setting? env r key name = some t := by
  rw [setting?, h]
  simpa using ht

theorem isGiven_given (key : Key) :
    isGiven ⟨given.map Given.occurrence, left, ended⟩ key =
      given.any fun g => g.switch.key = key := by
  rw [isGiven, List.any_map]
  rfl

end Send

end Courier.CommandLine
