import Courier.Text.Blank

/-!
# The lines of a text

A text is cut at every line boundary, where a carriage return and the line feed after it are one.
Making every carriage return a line feed first, and cutting at single characters then, comes to the
same lines.

* `cutsInto_iff`: the lines of a text are those into which it is cut.
-/

namespace Courier.Blank

/-- What ends a line before the rest of a text: a line boundary, which is both characters where a
line feed follows a carriage return. -/
inductive EndsLine : Text → Text → Prop
  | pair (rest : Text) : EndsLine [0x0D, 0x0A] rest
  | single {c : CodePoint} {rest : Text} (hc : isLineBoundary c = true)
      (hr : c = 0x0D → rest.head? ≠ some 0x0A) : EndsLine [c] rest

/-- A text is cut into lines at its line boundaries. There is no line after a boundary at its
end. -/
inductive CutsInto : Text → List Text → Prop
  | nil : CutsInto [] []
  | last {line : Text} (hne : line ≠ []) (h : ∀ c ∈ line, isLineBoundary c = false) :
      CutsInto line [line]
  | cons {line boundary rest : Text} {more : List Text}
      (h : ∀ c ∈ line, isLineBoundary c = false) (hb : EndsLine boundary rest)
      (hr : CutsInto rest more) : CutsInto (line ++ boundary ++ rest) (line :: more)

/-! ## Newlines -/

theorem normalizeNewlines_cons_of_ne {c : CodePoint} (hc : c ≠ 0x0D) (t : Text) :
    normalizeNewlines (c :: t) = c :: normalizeNewlines t := by
  cases t with
  | nil => simp [normalizeNewlines, hc]
  | cons d t => rw [normalizeNewlines, if_neg hc]

theorem normalizeNewlines_carriageReturn {t : Text} (ht : t.head? ≠ some 0x0A) :
    normalizeNewlines (0x0D :: t) = 0x0A :: normalizeNewlines t := by
  cases t with
  | nil => rfl
  | cons d t =>
    have hd : d ≠ 0x0A := fun h => ht (congrArg some h)
    rw [normalizeNewlines, if_pos rfl, if_neg hd]

theorem normalizeNewlines_append {line : Text} (h : ∀ c ∈ line, isLineBoundary c = false)
    (t : Text) : normalizeNewlines (line ++ t) = line ++ normalizeNewlines t := by
  induction line with
  | nil => rfl
  | cons c line ih =>
    have hc : c ≠ 0x0D := by
      rintro rfl
      exact absurd (h _ List.mem_cons_self) (by decide)
    have hline := ih fun d hd => h d (List.mem_cons_of_mem c hd)
    rw [List.cons_append, normalizeNewlines_cons_of_ne hc, hline]
    rfl

/-- A line boundary becomes one of a single character. -/
theorem exists_normalizeNewlines_append {boundary rest : Text} (h : EndsLine boundary rest) :
    ∃ c, isLineBoundary c = true ∧
      normalizeNewlines (boundary ++ rest) = c :: normalizeNewlines rest := by
  cases h with
  | pair => exact ⟨0x0A, by decide, rfl⟩
  | @single c _ hc hr =>
    by_cases hcr : c = 0x0D
    · subst hcr
      exact ⟨0x0A, by decide, normalizeNewlines_carriageReturn (hr rfl)⟩
    · exact ⟨c, hc, normalizeNewlines_cons_of_ne hcr rest⟩

theorem mem_of_mem_normalizeNewlines {c : CodePoint} {t : Text} (h : c ∈ normalizeNewlines t) :
    c = 0x0A ∨ c ∈ t := by
  induction t using normalizeNewlines.induct with
  | case1 => exact .inr h
  | case2 => exact .inl (List.mem_singleton.mp h)
  | case3 d hd =>
    rw [normalizeNewlines, if_neg hd] at h
    exact .inr h
  | case4 rest ih =>
    rw [normalizeNewlines, if_pos rfl, if_pos rfl] at h
    obtain rfl | h := List.mem_cons.mp h
    · exact .inl rfl
    · exact (ih h).imp_right fun h => List.mem_cons_of_mem _ (List.mem_cons_of_mem _ h)
  | case5 d rest hd ih =>
    rw [normalizeNewlines, if_pos rfl, if_neg hd] at h
    obtain rfl | h := List.mem_cons.mp h
    · exact .inl rfl
    · exact (ih h).imp_right (List.mem_cons_of_mem _)
  | case6 d e rest hd ih =>
    rw [normalizeNewlines, if_neg hd] at h
    obtain rfl | h := List.mem_cons.mp h
    · exact .inr List.mem_cons_self
    · exact (ih h).imp_right (List.mem_cons_of_mem _)

/-! ## Lines -/

theorem lines_of_no_boundary {line : Text} (hne : line ≠ [])
    (h : ∀ c ∈ line, isLineBoundary c = false) : lines line = [line] := by
  induction line with
  | nil => exact absurd rfl hne
  | cons c line ih =>
    have hc := h c List.mem_cons_self
    rw [lines, hc]
    cases line with
    | nil => rfl
    | cons d line =>
      rw [ih (List.cons_ne_nil d line) fun e he => h e (List.mem_cons_of_mem c he)]
      rfl

theorem lines_append_cons {line : Text} {b : CodePoint}
    (h : ∀ c ∈ line, isLineBoundary c = false) (hb : isLineBoundary b = true) (rest : Text) :
    lines (line ++ b :: rest) = line :: lines rest := by
  induction line with
  | nil => rw [List.nil_append, lines, if_pos hb]
  | cons c line ih =>
    have hc := h c List.mem_cons_self
    rw [List.cons_append, lines, hc, ih fun d hd => h d (List.mem_cons_of_mem c hd)]
    rfl

theorem mem_of_mem_lines {c : CodePoint} {line t : Text} (hline : line ∈ lines t) (h : c ∈ line) :
    c ∈ t := by
  induction t generalizing line with
  | nil => cases hline
  | cons d t ih =>
    rw [lines] at hline
    split at hline
    · obtain rfl | hline := List.mem_cons.mp hline
      · cases h
      · exact List.mem_cons_of_mem _ (ih hline h)
    · cases hl : lines t with
      | nil =>
        rw [hl] at hline
        obtain rfl := List.mem_singleton.mp hline
        obtain rfl := List.mem_singleton.mp h
        exact List.mem_cons_self
      | cons first more =>
        rw [hl] at hline ih
        obtain rfl | hline := List.mem_cons.mp hline
        · obtain rfl | h := List.mem_cons.mp h
          · exact List.mem_cons_self
          · exact List.mem_cons_of_mem _ (ih List.mem_cons_self h)
        · exact List.mem_cons_of_mem _ (ih (List.mem_cons_of_mem _ hline) h)

theorem CutsInto.lines_eq {t : Text} {ls : List Text} (h : CutsInto t ls) :
    lines (normalizeNewlines t) = ls := by
  induction h with
  | nil => rfl
  | @last line hne h =>
    have hsame := normalizeNewlines_append h []
    rw [List.append_nil] at hsame
    rw [hsame, normalizeNewlines, List.append_nil, lines_of_no_boundary hne h]
  | @cons line boundary rest more h hb _ ih =>
    obtain ⟨c, hc, hnormal⟩ := exists_normalizeNewlines_append hb
    rw [List.append_assoc, normalizeNewlines_append h, hnormal, lines_append_cons h hc, ih]

/-- Every text can be cut into lines: up to its first boundary, and on from there. -/
theorem exists_cutsInto (t : Text) : ∃ ls, CutsInto t ls := by
  induction hn : t.length using Nat.strongRecOn generalizing t with
  | _ n ih =>
    have hfree : ∀ c ∈ t.takeWhile fun c => !isLineBoundary c, isLineBoundary c = false := by
      intro c hc
      have hall := List.all_takeWhile (p := fun c => !isLineBoundary c) (l := t)
      simpa using List.all_eq_true.mp hall c hc
    have hsplit := List.takeWhile_append_dropWhile (p := fun c => !isLineBoundary c) (l := t)
    have hnot := List.head?_dropWhile_not (fun c => !isLineBoundary c) t
    generalize t.takeWhile (fun c => !isLineBoundary c) = line at hfree hsplit
    generalize t.dropWhile (fun c => !isLineBoundary c) = tail at hsplit hnot
    subst hsplit
    cases tail with
    | nil =>
      rw [List.append_nil]
      by_cases hne : line = []
      · exact ⟨[], hne ▸ .nil⟩
      · exact ⟨[line], .last hne hfree⟩
    | cons b rest =>
      have hb : isLineBoundary b = true := by simpa using hnot
      rw [List.length_append, List.length_cons] at hn
      by_cases hpair : b = 0x0D ∧ rest.head? = some 0x0A
      · obtain ⟨rfl, hhead⟩ := hpair
        cases rest with
        | nil => cases hhead
        | cons d rest =>
          obtain rfl : d = 0x0A := Option.some.inj hhead
          rw [List.length_cons] at hn
          obtain ⟨more, hmore⟩ := ih rest.length (by omega) rest rfl
          have hcut := CutsInto.cons hfree (.pair rest) hmore
          rw [List.append_assoc] at hcut
          exact ⟨_, hcut⟩
      · obtain ⟨more, hmore⟩ := ih rest.length (by omega) rest rfl
        have hsingle : EndsLine [b] rest := .single hb fun hcr hlf => hpair ⟨hcr, hlf⟩
        have hcut := CutsInto.cons hfree hsingle hmore
        rw [List.append_assoc] at hcut
        exact ⟨_, hcut⟩

theorem cutsInto_iff {t : Text} {ls : List Text} :
    CutsInto t ls ↔ lines (normalizeNewlines t) = ls := by
  constructor
  · exact CutsInto.lines_eq
  · rintro rfl
    obtain ⟨ls, hls⟩ := exists_cutsInto t
    rw [hls.lines_eq]
    exact hls

end Courier.Blank
