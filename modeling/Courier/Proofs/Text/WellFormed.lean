import Courier.Text.Basic

/-!
# Text that has octets

Characters are no surrogates, so a text that is made of characters has a UTF-8 form. Strings, digits
and hexadecimal digits are such texts, and so is what they are joined to.

Results:
* `isWellFormed_ofString`, `isWellFormed_ofInt`, `isWellFormed_lowerHex`: texts made of characters.
* `isWellFormed_append`, `isWellFormed_flatMap`, `isWellFormed_joinWith`: texts put together.
* `isWellFormed_of_joinWith`: what a text is put together of.
-/

namespace Courier

theorem CodePoint.isSurrogate_ofChar (c : Char) : (CodePoint.ofChar c).isSurrogate = false := by
  have hval : (CodePoint.ofChar c).val = c.toNat := rfl
  have hvalid : c.toNat < 0xD800 ∨ 0xDFFF < c.toNat := by
    obtain h | h := c.valid
    · exact .inl h
    · exact .inr h.1
  simp only [isSurrogate, hval, Bool.and_eq_false_iff, decide_eq_false_iff_not]
  omega

namespace Text

/-! ## Texts made of characters -/

theorem isWellFormed_iff {t : Text} : t.isWellFormed = true ↔ ∀ c ∈ t, c.isSurrogate = false := by
  simp [isWellFormed]

theorem isWellFormed_map_ofChar (cs : List Char) :
    isWellFormed (cs.map CodePoint.ofChar) = true := by
  rw [isWellFormed_iff]
  intro c hc
  obtain ⟨x, -, rfl⟩ := List.mem_map.mp hc
  exact CodePoint.isSurrogate_ofChar x

@[simp] theorem isWellFormed_ofString (s : String) : (ofString s).isWellFormed = true :=
  isWellFormed_map_ofChar s.toList

theorem isWellFormed_ofNat (n : Nat) : (ofNat n).isWellFormed = true :=
  isWellFormed_map_ofChar (Nat.toDigits 10 n)

@[simp] theorem isWellFormed_ofInt (n : Int) : (ofInt n).isWellFormed = true := by
  cases n with
  | ofNat n => exact isWellFormed_ofNat n
  | negSucc n =>
    exact isWellFormed_map_ofChar ('-' :: Nat.toDigits 10 (n + 1))

theorem isWellFormed_lowerHex (width n : Nat) : (lowerHex width n).isWellFormed = true := by
  have hmap : lowerHex width n = (List.replicate (width - (Nat.toDigits 16 n).length) '0'
      ++ Nat.toDigits 16 n).map CodePoint.ofChar := by
    simp [lowerHex]
  rw [hmap]
  exact isWellFormed_map_ofChar _

/-! ## Texts put together -/

@[simp] theorem isWellFormed_nil : Text.isWellFormed [] = true := rfl

@[simp] theorem isWellFormed_append (t u : Text) :
    (t ++ u).isWellFormed = (t.isWellFormed && u.isWellFormed) := List.all_append

theorem isWellFormed_take {t : Text} (h : t.isWellFormed = true) (n : Nat) :
    Text.isWellFormed (t.take n) = true := by
  rw [isWellFormed_iff] at *
  exact fun c hc => h c (List.mem_of_mem_take hc)

theorem isWellFormed_drop {t : Text} (h : t.isWellFormed = true) (n : Nat) :
    Text.isWellFormed (t.drop n) = true := by
  rw [isWellFormed_iff] at *
  exact fun c hc => h c (List.mem_of_mem_drop hc)

theorem isWellFormed_replicate (n : Nat) (c : Char) :
    Text.isWellFormed (List.replicate n (CodePoint.ofChar c)) = true := by
  rw [← List.map_replicate]
  exact isWellFormed_map_ofChar _

theorem isWellFormed_ite {p : Prop} [Decidable p] {t u : Text} (ht : t.isWellFormed = true)
    (hu : u.isWellFormed = true) : isWellFormed (if p then t else u) = true := by
  split
  · exact ht
  · exact hu

theorem isWellFormed_flatMap {t : Text} {f : CodePoint → Text}
    (h : ∀ c ∈ t, (f c).isWellFormed = true) : isWellFormed (t.flatMap f) = true := by
  rw [isWellFormed_iff]
  intro c hc
  obtain ⟨x, hx, hcx⟩ := List.mem_flatMap.mp hc
  exact isWellFormed_iff.mp (h x hx) c hcx

theorem isWellFormed_joinWith {sep : Text} (hsep : sep.isWellFormed = true) {parts : List Text}
    (h : ∀ part ∈ parts, part.isWellFormed = true) : (joinWith sep parts).isWellFormed = true := by
  induction parts with
  | nil => rfl
  | cons part parts ih =>
    have hpart := h part List.mem_cons_self
    have hrest := ih fun p hp => h p (List.mem_cons_of_mem part hp)
    cases parts with
    | nil => exact hpart
    | cons next parts =>
      rw [joinWith, isWellFormed_append, isWellFormed_append, hpart, hsep, hrest]
      · rfl
      · exact List.cons_ne_nil _ _

/-- A text has octets only if what it is joined of has. -/
theorem isWellFormed_of_joinWith {sep : Text} {parts : List Text}
    (h : (joinWith sep parts).isWellFormed = true) :
    ∀ part ∈ parts, part.isWellFormed = true := by
  induction parts with
  | nil => simp
  | cons part parts ih =>
    cases parts with
    | nil => simpa [joinWith] using h
    | cons next parts =>
      rw [joinWith, isWellFormed_append, isWellFormed_append, Bool.and_eq_true,
        Bool.and_eq_true] at h
      · exact List.forall_mem_cons.mpr ⟨h.1.1, ih h.2⟩
      · exact List.cons_ne_nil _ _

end Text

end Courier
