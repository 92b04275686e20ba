import Courier.Message.Submission
import Courier.Proofs.Text.WellFormed
import Mathlib.Tactic.SplitIfs

/-!
# What is found in values

Every issue that a check finds has its place, its cause and the value it was found in. What all of
them have in common goes through the check part by part: places are made of the names of fields,
most causes have no words of their own, and the value is a part of the one that was checked.

Results:
* `Cause.isWellFormed_message`: the sentence for a cause.
* `Finds.seq`, `Finds.within`: issues of several parts.
* `finds_text`, `finds_truth`, `finds_required`, `finds_optional`: issues of fields.
* `finds_submission`: issues of a submission.
-/

namespace Courier.Schema

/-! ## Causes -/

/-- The words of a cause that are not among those of this library. -/
def Cause.words : Cause → List Text
  | .choiceExpected choices => choices
  | .notJson reason => [reason]
  | _ => []

theorem isWellFormed_enumeration {choices : List Text}
    (h : ∀ choice ∈ choices, choice.isWellFormed = true) :
    (enumeration choices).isWellFormed = true := by
  have hquoted : ∀ choice ∈ choices, (enumeration.quoted choice).isWellFormed = true := by
    intro choice hchoice
    simp [enumeration.quoted, h choice hchoice]
  fun_induction enumeration choices with
  | case1 => rfl
  | case2 c => exact hquoted c (by simp)
  | case3 c d => simp [hquoted]
  | case4 c rest _ _ ih =>
    rw [List.forall_mem_cons] at h hquoted
    simp [hquoted.1, ih h.2 hquoted.2]

/-- The sentence for a cause has octets if its words have. -/
theorem Cause.isWellFormed_message {c : Cause}
    (h : ∀ word ∈ c.words, word.isWellFormed = true) : c.message.isWellFormed = true := by
  cases c with
  | choiceExpected choices =>
    have hchoices : (enumeration choices).isWellFormed = true := isWellFormed_enumeration h
    simp [message, hchoices]
  | _ => simp [message]

/-! ## Issues that have something in common -/

/-- The place and the words of an issue have octets, and the value it was found in is of a kind. -/
structure Issue.IsFoundIn (Q : Value → Prop) (i : Issue) : Prop where
  place : ∀ name, Key.name name ∈ i.place → name.isWellFormed = true
  words : ∀ word ∈ i.cause.words, word.isWellFormed = true
  input : Q i.input

/-- Every issue that a check finds is in a value of a kind. -/
def Finds (Q : Value → Prop) (c : Checked α) : Prop :=
  ∀ issues, c = .invalid issues → ∀ i ∈ issues, i.IsFoundIn Q

variable {α β : Type} {Q : Value → Prop}

theorem finds_valid (a : α) : Finds Q (.valid a) := by
  intro issues h
  cases h

theorem finds_fault {c : Cause} {v : Value} (hc : c.words = []) (hv : Q v) :
    Finds Q (Checked.fault c v : Checked α) := by
  intro issues h i hi
  cases h
  obtain rfl := List.mem_singleton.mp hi
  exact ⟨by simp, by simp [hc], hv⟩

theorem Finds.seq {f : Checked (α → β)} {a : Checked α} (hf : Finds Q f) (ha : Finds Q a) :
    Finds Q (f <*> a) := by
  intro issues h i hi
  cases f with
  | valid f =>
    cases a with
    | valid a => cases h
    | invalid js =>
      cases h
      exact ha _ rfl i hi
  | invalid is =>
    cases a with
    | valid a =>
      cases h
      exact hf _ rfl i hi
    | invalid js =>
      cases h
      exact (List.mem_append.mp hi).elim (hf _ rfl i) (ha _ rfl i)

theorem Finds.map {a : Checked α} (ha : Finds Q a) (f : α → β) : Finds Q (f <$> a) :=
  (finds_valid f).seq ha

theorem Finds.within {c : Checked α} (hc : Finds Q c) {name : Text}
    (hn : name.isWellFormed = true) : Finds Q (c.within name) := by
  intro issues h i hi
  cases c with
  | valid a => cases h
  | invalid js =>
    cases h
    obtain ⟨j, hj, rfl⟩ := List.mem_map.mp hi
    obtain ⟨hplace, hwords, hinput⟩ := hc _ rfl j hj
    refine ⟨fun key hkey => ?_, hwords, hinput⟩
    obtain hkey | hkey := List.mem_cons.mp hkey
    · cases hkey
      exact hn
    · exact hplace key hkey

/-! ## Kinds of values -/

variable {v : Value}

theorem finds_text (hv : Q v) : Finds Q (text v) := by
  unfold text
  split
  · exact finds_valid _
  · split
    · exact finds_valid _
    · exact finds_fault rfl hv
  · exact finds_fault rfl hv

theorem finds_readable? {unreadable : Cause} (hc : unreadable.words = []) (hv : Q v)
    {c : Checked Text} (h : readable? unreadable v = some c) : Finds Q c := by
  unfold readable? at h
  split at h
  · obtain rfl := Option.some.inj h
    split
    · exact finds_valid _
    · exact finds_fault rfl hv
  · obtain rfl := Option.some.inj h
    split
    · exact finds_valid _
    · exact finds_fault hc hv
  · cases h

theorem finds_truth (hv : Q v) : Finds Q (truth v) := by
  have hint : ∀ n, Finds Q (truthOfInt v n) := by
    intro n
    unfold truthOfInt
    split_ifs
    · exact finds_valid _
    · exact finds_valid _
    · exact finds_fault rfl hv
  unfold truth
  split
  · exact finds_valid _
  · split
    · exact hint _
    · exact finds_fault rfl hv
  · split
    · exact hint _
    · exact finds_fault rfl hv
  · split
    · exact finds_fault rfl hv
    next issues h =>
      intro own hown
      cases hown
      exact finds_readable? rfl hv h issues rfl
    next t h =>
      split
      · exact finds_valid _
      · exact finds_fault rfl hv

theorem finds_nullable {kind : Value → Checked α} (hk : Finds Q (kind v)) :
    Finds Q (nullable kind v) := by
  unfold nullable
  split
  · exact finds_valid _
  · exact hk.map some

/-! ## Fields -/

variable {kind : Value → Checked α} {members : Members}

theorem Members.mem_of_get? {name : Text} (h : members.get? name = some v) :
    (name, v) ∈ members := by
  induction members with
  | nil => cases h
  | cons m rest ih =>
    obtain ⟨own, u⟩ := m
    unfold Members.get? at h
    split at h
    next hname =>
      cases h
      rw [hname]
      exact List.mem_cons_self
    next => exact List.mem_cons_of_mem _ (ih h)

/-- A field that is there has one of the names looked for, and stands among the members. -/
theorem of_lookup? {names : List String} {name : Text}
    (h : lookup? (names.map Text.ofString) members = some (name, v)) :
    name.isWellFormed = true ∧ (name, v) ∈ members := by
  obtain ⟨own, hown, hfound⟩ := List.exists_of_findSome?_eq_some h
  obtain ⟨string, -, rfl⟩ := List.mem_map.mp hown
  obtain ⟨u, hget, hpair⟩ := Option.map_eq_some_iff.mp hfound
  cases hpair
  exact ⟨Text.isWellFormed_ofString string, Members.mem_of_get? hget⟩

theorem finds_optional (names : List String) (default : α)
    (hk : ∀ m ∈ members, Finds Q (kind m.2)) : Finds Q (optional names kind default members) := by
  unfold optional
  split
  next name v h =>
    obtain ⟨hname, hmem⟩ := of_lookup? h
    exact (hk _ hmem).within hname
  next => exact finds_valid default

/-- A field that is not there is found missing in the object. -/
theorem finds_required (names : List String) (hk : ∀ m ∈ members, Finds Q (kind m.2))
    (hm : Q (.object members)) : Finds Q (required names kind members) := by
  unfold required
  split
  next name v h =>
    obtain ⟨hname, hmem⟩ := of_lookup? h
    exact (hk _ hmem).within hname
  next =>
    intro issues h i hi
    cases h
    obtain rfl := List.mem_singleton.mp hi
    refine ⟨fun name hname => ?_, by simp [Cause.words], hm⟩
    obtain ⟨string, -, hstring⟩ := List.mem_map.mp hname
    cases hstring
    exact Text.isWellFormed_ofString string

/-- The issues of a submission are found in its members, or in all of it. -/
theorem finds_submission (hm : Q (.object members)) (hms : ∀ m ∈ members, Q m.2) :
    Finds Q (Submission.ofMembers members) := by
  have htext : ∀ m ∈ members, Finds Q (text m.2) := fun m h => finds_text (hms m h)
  have hnullable : ∀ m ∈ members, Finds Q (nullable text m.2) :=
    fun m h => finds_nullable (htext m h)
  have htruth : ∀ m ∈ members, Finds Q (truth m.2) := fun m h => finds_truth (hms m h)
  have hto := (finds_required ["to"] htext hm).map Submission.mk
  have hfrom := hto.seq (finds_optional Message.senderNames none hnullable)
  have hbody := hfrom.seq (finds_required ["body"] htext hm)
  have hmedia := hbody.seq (finds_optional ["media_url"] none hnullable)
  exact hmedia.seq (finds_optional ["verbose"] false htruth)

end Courier.Schema
