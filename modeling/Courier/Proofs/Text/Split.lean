import Courier.Text.Basic

/-!
# Cutting at a separator

A part in which the separator does not stand is cut off whole, whatever follows the separator.
-/

namespace Courier.Text

variable {sep : CodePoint} {part : Text}

theorem splitFirst_append (h : sep ∉ part) (rest : Text) :
    splitFirst sep (part ++ sep :: rest) = some (part, rest) := by
  induction part with
  | nil => simp [splitFirst]
  | cons c part ih =>
    obtain ⟨hc, hpart⟩ := List.ne_and_not_mem_of_not_mem_cons h
    rw [List.cons_append, splitFirst, if_neg hc.symm, ih hpart]
    rfl

/-- What stands around the first separator. -/
theorem splitFirst_eq_some_iff {t before after : Text} :
    splitFirst sep t = some (before, after) ↔ t = before ++ sep :: after ∧ sep ∉ before := by
  constructor
  · intro h
    induction t generalizing before with
    | nil => cases h
    | cons c t ih =>
      rw [splitFirst] at h
      by_cases hc : c = sep
      · rw [if_pos hc] at h
        cases h
        exact ⟨congrArg (· :: after) hc, List.not_mem_nil⟩
      · rw [if_neg hc, Option.map_eq_some_iff] at h
        obtain ⟨⟨before', after'⟩, hrest, hpair⟩ := h
        cases hpair
        obtain ⟨rfl, hnot⟩ := ih hrest
        refine ⟨rfl, ?_⟩
        rw [List.mem_cons, not_or]
        exact ⟨Ne.symm hc, hnot⟩
  · rintro ⟨rfl, h⟩
    exact splitFirst_append h after

theorem splitAll_of_not_mem (h : sep ∉ part) : splitAll sep part = [part] := by
  induction part with
  | nil => rfl
  | cons c part ih =>
    obtain ⟨hc, hpart⟩ := List.ne_and_not_mem_of_not_mem_cons h
    rw [splitAll, if_neg hc.symm, ih hpart]

theorem splitAll_append (h : sep ∉ part) (rest : Text) :
    splitAll sep (part ++ sep :: rest) = part :: splitAll sep rest := by
  induction part with
  | nil => simp [splitAll]
  | cons c part ih =>
    obtain ⟨hc, hpart⟩ := List.ne_and_not_mem_of_not_mem_cons h
    rw [List.cons_append, splitAll, if_neg hc.symm, ih hpart]

end Courier.Text
