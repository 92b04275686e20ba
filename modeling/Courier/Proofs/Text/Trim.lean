import Courier.Text.Basic

/-!
# Trimming

The trimmed text is what lies between two runs of characters that are dropped, and begins and ends
with a character that is kept.

* `trim_eq_iff`: what trimming a text gives.
-/

namespace Courier.Text

variable {p : CodePoint → Bool} {t u : Text}

/-- A text lies between two runs of characters that satisfy a test, and neither begins nor ends with
such a character. -/
structure Trims (p : CodePoint → Bool) (t u : Text) : Prop where
  between : ∃ before after, t = before ++ u ++ after ∧
    (∀ c ∈ before, p c = true) ∧ ∀ c ∈ after, p c = true
  head : ∀ c, u.head? = some c → p c = false
  last : ∀ c, u.getLast? = some c → p c = false

theorem dropWhile_eq_self_of_head (h : ∀ c, u.head? = some c → p c = false) :
    u.dropWhile p = u := by
  cases u with
  | nil => rfl
  | cons c u =>
    have hc := h c rfl
    simp [hc]

theorem head_dropWhile (c : CodePoint) (h : (t.dropWhile p).head? = some c) : p c = false := by
  have hnot := List.head?_dropWhile_not p t
  rw [h] at hnot
  simpa using hnot

/-- All characters that are dropped at the end satisfy the test. -/
theorem exists_append_dropTrailing (p : CodePoint → Bool) (t : Text) :
    ∃ after, t = dropTrailing p t ++ after ∧ ∀ c ∈ after, p c = true := by
  refine ⟨(t.reverse.takeWhile p).reverse, ?_, ?_⟩
  · rw [dropTrailing, ← List.reverse_append, List.takeWhile_append_dropWhile, List.reverse_reverse]
  · intro c hc
    have hall := List.all_takeWhile (p := p) (l := t.reverse)
    exact List.all_eq_true.mp hall c (List.mem_reverse.mp hc)

theorem trim_eq_iff : trim p t = u ↔ Trims p t u := by
  constructor
  · rintro rfl
    obtain ⟨after, ht, hafter⟩ := exists_append_dropTrailing p (t.dropWhile p)
    refine ⟨⟨t.takeWhile p, after, ?_, ?_, hafter⟩, ?_, ?_⟩
    · calc t = t.takeWhile p ++ t.dropWhile p := List.takeWhile_append_dropWhile.symm
        _ = t.takeWhile p ++ (trim p t ++ after) := congrArg (t.takeWhile p ++ ·) ht
        _ = t.takeWhile p ++ trim p t ++ after := (List.append_assoc _ _ _).symm
    · exact List.all_eq_true.mp List.all_takeWhile
    · intro c hc
      -- what is kept begins where the leading run ends
      apply head_dropWhile c
      rw [ht]
      change (trim p t ++ after).head? = some c
      rw [List.head?_append, hc]
      rfl
    · intro c hc
      rw [trim, dropTrailing, List.getLast?_reverse] at hc
      exact head_dropWhile c hc
  · rintro ⟨⟨before, after, rfl, hbefore, hafter⟩, hhead, hlast⟩
    have hafter' : ∀ c ∈ after.reverse, p c = true :=
      fun c hc => hafter c (List.mem_reverse.mp hc)
    have hu : dropTrailing p (u ++ after) = u := by
      rw [dropTrailing, List.reverse_append, List.dropWhile_append_of_pos hafter',
        dropWhile_eq_self_of_head (by simpa using hlast), List.reverse_reverse]
    rw [trim, dropLeading, List.append_assoc, List.dropWhile_append_of_pos hbefore]
    cases u with
    | nil =>
      have hnil : after.dropWhile p = [] := by
        rw [← List.append_nil after, List.dropWhile_append_of_pos hafter, List.dropWhile_nil]
      rw [List.nil_append, hnil]
      rfl
    | cons c u =>
      have hkept : (c :: u ++ after).dropWhile p = c :: u ++ after := by
        apply dropWhile_eq_self_of_head
        intro d hd
        exact hhead d hd
      rw [hkept, hu]

theorem mem_of_mem_trim {c : CodePoint} (h : c ∈ trim p t) : c ∈ t := by
  obtain ⟨⟨before, after, ht, -, -⟩, -, -⟩ := trim_eq_iff.mp (rfl : trim p t = trim p t)
  rw [ht]
  exact List.mem_append_left _ (List.mem_append_right _ h)

end Courier.Text
