import Courier.Json.Reader
import Courier.Json.Writer
import Courier.Proofs.Text.Utf8
import Courier.Proofs.Text.WellFormed
import Mathlib.Data.List.Chain
import Mathlib.Tactic.SplitIfs

/-!
# Reading a string that was written

A string is written character by character, and the reader takes one escape or one character at a
time, so that each step of the reader undoes one of the writer. Characters beyond U+FFFF are escaped
as two surrogates. That is why two surrogates that stand side by side in a text are not read as they
were: escaped, they look like one character. In text without surrogates none do.

Results:
* `lowerHex_four`, `fourHex?_lowerHex`: the digits of an escape.
* `escapes_escape`: the forms of a character in a string.
* `stringFrom_escapes`: one character is read back from any of its forms.
* `stringAt_writeString`: a string is read back from its quotes.
* `isPlainAscii_writeString`: an escaped string is written in ASCII.
-/

namespace Courier

/-! ## Pairs of surrogates, and ASCII -/

namespace Text

/-- The first half of a pair of surrogates is nowhere followed by a second half. -/
def IsUnpaired (t : Text) : Prop :=
  t.IsChain fun c d => c.isHighSurrogate = true → d.isLowSurrogate = false

instance (t : Text) : Decidable t.IsUnpaired := inferInstanceAs (Decidable (List.IsChain _ t))

/-- Only the characters from U+0020 to U+007E stand in a text. -/
def IsPlainAscii (t : Text) : Prop := ∀ c ∈ t, 0x20 ≤ c.val ∧ c.val ≤ 0x7E

instance (t : Text) : Decidable t.IsPlainAscii :=
  List.decidableBAll (fun c : CodePoint => 0x20 ≤ c.val ∧ c.val ≤ 0x7E) t

theorem isPlainAscii_append {t u : Text} :
    IsPlainAscii (t ++ u) ↔ t.IsPlainAscii ∧ u.IsPlainAscii := List.forall_mem_append

theorem isWellFormed_of_isPlainAscii {t : Text} (h : t.IsPlainAscii) : t.isWellFormed = true := by
  rw [isWellFormed_iff]
  intro c hc
  have hle := (h c hc).2
  rw [Utf8.isSurrogate_eq_false_iff]
  omega

end Text

theorem CodePoint.not_isHighSurrogate {c : CodePoint} (h : c.isSurrogate = false) :
    c.isHighSurrogate = false := by
  simp only [isSurrogate, isHighSurrogate, Bool.and_eq_false_iff, decide_eq_false_iff_not] at *
  omega

/-- In a text without surrogates there are no pairs of them. -/
theorem Text.isUnpaired_of_isWellFormed {t : Text} (h : t.isWellFormed = true) : t.IsUnpaired := by
  rw [isWellFormed_iff] at h
  rw [IsUnpaired, List.isChain_iff_getElem]
  intro i hi hhigh
  rw [CodePoint.not_isHighSurrogate (h _ (List.getElem_mem _))] at hhigh
  cases hhigh

namespace Json

/-! ## The digits of an escape -/

/-- The digit of a number below 16. -/
def hexDigit (n : Nat) : CodePoint := CodePoint.ofChar n.digitChar

theorem hexValue?_hexDigit : ∀ n < 16, (hexDigit n).hexValue? = some n := by decide

theorem lowerHex_succ {k : Nat} (hk : 0 < k) (n : Nat) :
    Text.lowerHex (k + 1) n = Text.lowerHex k (n / 16) ++ [hexDigit (n % 16)] := by
  by_cases hn : n < 16
  · have hzeros : List.replicate k (CodePoint.ofChar '0') =
        List.replicate (k - 1) (CodePoint.ofChar '0') ++ [CodePoint.ofChar '0'] := by
      rw [← List.replicate_succ', Nat.sub_add_cancel hk]
    have hzero : Nat.toDigits 16 (n / 16) = ['0'] := by
      rw [Nat.div_eq_of_lt hn]
      rfl
    rw [Text.lowerHex, Text.lowerHex, Nat.toDigits_of_lt_base hn, hzero, Nat.mod_eq_of_lt hn]
    simp [hexDigit, hzeros]
  · rw [Text.lowerHex, Text.lowerHex, Nat.toDigits_of_base_le (by omega) (by omega)]
    simp [hexDigit]

/-- A unit is written with four digits. -/
theorem lowerHex_four {n : Nat} (h : n < 0x10000) :
    Text.lowerHex 4 n = [hexDigit (n / 16 / 16 / 16), hexDigit (n / 16 / 16 % 16),
      hexDigit (n / 16 % 16), hexDigit (n % 16)] := by
  have hone : Text.lowerHex 1 (n / 16 / 16 / 16) = [hexDigit (n / 16 / 16 / 16)] := by
    rw [Text.lowerHex, Nat.toDigits_of_lt_base (by omega)]
    rfl
  rw [lowerHex_succ (by decide), lowerHex_succ (by decide), lowerHex_succ (by decide), hone]
  rfl

theorem fourHex?_lowerHex {n : Nat} (h : n < 0x10000) : fourHex? (Text.lowerHex 4 n) = some n := by
  rw [lowerHex_four h]
  simp only [fourHex?, hexValue?_hexDigit _ (show n / 16 / 16 / 16 < 16 by omega),
    hexValue?_hexDigit _ (show n / 16 / 16 % 16 < 16 by omega),
    hexValue?_hexDigit _ (show n / 16 % 16 < 16 by omega),
    hexValue?_hexDigit _ (show n % 16 < 16 by omega), Option.bind_eq_bind, Option.bind_some,
    Option.pure_def, Option.some.injEq]
  omega

theorem length_lowerHex_four {n : Nat} (h : n < 0x10000) : (Text.lowerHex 4 n).length = 4 := by
  rw [lowerHex_four h]
  rfl

theorem isPlainAscii_lowerHex_four {n : Nat} (h : n < 0x10000) :
    (Text.lowerHex 4 n).IsPlainAscii := by
  have hdigit : ∀ d < 16, 0x20 ≤ (hexDigit d).val ∧ (hexDigit d).val ≤ 0x7E := by decide
  rw [lowerHex_four h]
  simp only [Text.IsPlainAscii, List.forall_mem_cons]
  exact ⟨hdigit _ (by omega), hdigit _ (by omega), hdigit _ (by omega), hdigit _ (by omega),
    List.forall_mem_nil _⟩

/-! ## The forms of a character -/

/-- The forms of a character in a string: a letter after a backslash, the escape of a unit, the
escapes of two surrogates, or the character itself. -/
inductive Escapes (asciiOnly : Bool) (c : CodePoint) : Text → Prop
  | letter {e : CodePoint} (hu : e ≠ CodePoint.ofChar 'u') (he : shortEscape? e = some c)
      (hascii : 0x20 ≤ e.val ∧ e.val ≤ 0x7E) : Escapes asciiOnly c [CodePoint.ofChar '\\', e]
  | unit (h : c.val < 0x10000) : Escapes asciiOnly c (escapeUnit c.val)
  | pair {high low : Nat} (hhigh : 0xD800 ≤ high ∧ high ≤ 0xDBFF)
      (hlow : 0xDC00 ≤ low ∧ low ≤ 0xDFFF)
      (hc : 0x10000 + (high - 0xD800) * 0x400 + (low - 0xDC00) = c.val) :
      Escapes asciiOnly c (escapeUnit high ++ escapeUnit low)
  | itself (hquote : c ≠ CodePoint.ofChar '"') (hbackslash : c ≠ CodePoint.ofChar '\\')
      (hlow : 0x20 ≤ c.val) (hhigh : asciiOnly = true → c.val ≤ 0x7E) : Escapes asciiOnly c [c]

theorem Escapes.length_pos {asciiOnly : Bool} {c : CodePoint} {form : Text}
    (h : Escapes asciiOnly c form) : 0 < form.length := by
  cases h with
  | letter => exact Nat.succ_pos _
  | unit => exact Nat.succ_pos _
  | pair => exact Nat.succ_pos _
  | itself => exact Nat.succ_pos _

theorem Escapes.ite {asciiOnly : Bool} {c : CodePoint} {p : Prop} [Decidable p] {t u : Text}
    (ht : p → Escapes asciiOnly c t) (hu : ¬p → Escapes asciiOnly c u) :
    Escapes asciiOnly c (if p then t else u) := by
  by_cases h : p
  · rw [if_pos h]
    exact ht h
  · rw [if_neg h]
    exact hu h

/-- A character is written in one of these forms. -/
theorem escapes_escape (asciiOnly : Bool) (c : CodePoint) :
    Escapes asciiOnly c (escape asciiOnly c) := by
  have hletter : ∀ d e : CodePoint, (e ≠ CodePoint.ofChar 'u' ∧ shortEscape? e = some d ∧
      0x20 ≤ e.val ∧ e.val ≤ 0x7E) → c.val = d.val →
      Escapes asciiOnly c [CodePoint.ofChar '\\', e] := by
    rintro d e ⟨hu, he, hascii⟩ hc
    obtain rfl := Fin.ext hc
    exact .letter hu he hascii
  unfold escape
  dsimp only
  refine .ite (hletter 0x22 (CodePoint.ofChar '"') (by decide)) fun hquote => ?_
  refine .ite (hletter 0x5C (CodePoint.ofChar '\\') (by decide)) fun hbackslash => ?_
  refine .ite (hletter 0x0A (CodePoint.ofChar 'n') (by decide)) fun _ => ?_
  refine .ite (hletter 0x0D (CodePoint.ofChar 'r') (by decide)) fun _ => ?_
  refine .ite (hletter 0x09 (CodePoint.ofChar 't') (by decide)) fun _ => ?_
  refine .ite (hletter 0x0C (CodePoint.ofChar 'f') (by decide)) fun _ => ?_
  refine .ite (hletter 0x08 (CodePoint.ofChar 'b') (by decide)) fun _ => ?_
  refine .ite (fun hcontrol => .unit (by omega)) fun hcontrol => ?_
  refine .ite (fun _ => .ite (fun hplane => .unit hplane) fun hplane => ?_) fun hascii => ?_
  · have hlt := c.isLt
    exact .pair (by omega) (by omega) (by omega)
  · refine .itself (fun h => hquote (congrArg Fin.val h)) (fun h => hbackslash (congrArg Fin.val h))
      (by omega) fun hstyle => ?_
    simp only [hstyle, Bool.true_and, decide_eq_true_eq] at hascii
    omega

/-! ## Reading one character -/

/-- An escape at the front of a text is not that of a second half of a pair. -/
def NoSecondHalf (u : Text) : Prop :=
  Text.startsWith u (Text.ofString "\\u") = true →
    ∃ n, fourHex? ((u.drop 2).take 4) = some n ∧ (CodePoint.ofNat n).isLowSurrogate = false

theorem escapeUnit_append (n : Nat) (u : Text) :
    escapeUnit n ++ u = CodePoint.ofChar '\\' :: CodePoint.ofChar 'u' :: (Text.lowerHex 4 n ++ u) :=
  rfl

theorem length_escapeUnit {n : Nat} (h : n < 0x10000) : (escapeUnit n).length = 6 := by
  rw [escapeUnit, List.length_append, length_lowerHex_four h]
  rfl

theorem startsWith_escapeUnit (n : Nat) (u : Text) :
    Text.startsWith (escapeUnit n ++ u) (Text.ofString "\\u") = true :=
  rfl

theorem fourHex?_escapeUnit {n : Nat} (h : n < 0x10000) (u : Text) :
    fourHex? (((escapeUnit n ++ u).drop 2).take 4) = some n := by
  have hdrop : (escapeUnit n ++ u).drop 2 = Text.lowerHex 4 n ++ u := rfl
  rw [hdrop, List.take_left' (length_lowerHex_four h), fourHex?_lowerHex h]

/-- The digits of an escape stand for their unit, if they are not the first half of a pair. -/
theorem unicodeEscape_unit {n : Nat} {u : Text} (hn : n < 0x10000) (hne : u ≠ [])
    (hu : (CodePoint.ofNat n).isHighSurrogate = true → NoSecondHalf u) :
    unicodeEscape (Text.lowerHex 4 n ++ u) = .ok (CodePoint.ofNat n, 4) := by
  have hlength := length_lowerHex_four hn
  have hdrop : (Text.lowerHex 4 n ++ u).drop 4 = u := List.drop_left' hlength
  have hdrop' : (Text.lowerHex 4 n ++ u).drop 6 = u.drop 2 := by
    rw [show 6 = 4 + 2 from rfl, ← List.drop_drop, hdrop]
  rw [unicodeEscape, List.take_left' hlength, fourHex?_lowerHex hn]
  simp only [hdrop, hdrop', List.isEmpty_iff, hne, if_false]
  split_ifs with hpair
  · simp only [Bool.and_eq_true] at hpair
    obtain ⟨low, hlow, hno⟩ := hu hpair.1.1 hpair.2
    rw [hlow]
    simp [hno]
  · rfl

/-- The digits of two escaped surrogates stand for one character. -/
theorem unicodeEscape_pair {high low : Nat} {c : CodePoint} {u : Text}
    (hhigh : 0xD800 ≤ high ∧ high ≤ 0xDBFF) (hlow : 0xDC00 ≤ low ∧ low ≤ 0xDFFF)
    (hc : 0x10000 + (high - 0xD800) * 0x400 + (low - 0xDC00) = c.val) (hne : u ≠ []) :
    unicodeEscape (Text.lowerHex 4 high ++ (escapeUnit low ++ u)) = .ok (c, 10) := by
  have hfour := length_lowerHex_four (show high < 0x10000 by omega)
  have hsix := length_escapeUnit (show low < 0x10000 by omega)
  have hdrop : (Text.lowerHex 4 high ++ (escapeUnit low ++ u)).drop 4 = escapeUnit low ++ u :=
    List.drop_left' hfour
  have hdrop6 : (Text.lowerHex 4 high ++ (escapeUnit low ++ u)).drop 6 =
      (escapeUnit low ++ u).drop 2 := by
    rw [show 6 = 4 + 2 from rfl, ← List.drop_drop, hdrop]
  have hdrop10 : (Text.lowerHex 4 high ++ (escapeUnit low ++ u)).drop 10 = u := by
    rw [show 10 = 4 + 6 from rfl, ← List.drop_drop, hdrop, List.drop_left' hsix]
  have hfirst : (CodePoint.ofNat high).isHighSurrogate = true := by
    rw [CodePoint.isHighSurrogate, Utf8.val_ofNat (by omega)]
    simpa using hhigh
  have hsecond : (CodePoint.ofNat low).isLowSurrogate = true := by
    rw [CodePoint.isLowSurrogate, Utf8.val_ofNat (by omega)]
    simpa using hlow
  rw [unicodeEscape, List.take_left' hfour, fourHex?_lowerHex (by omega)]
  simp only [hdrop, hdrop6, hdrop10, hfirst, hsecond, startsWith_escapeUnit,
    fourHex?_escapeUnit (show low < 0x10000 by omega), hc, Utf8.ofNat_val]
  simp [hne, escapeUnit]

variable {asciiOnly : Bool} {c : CodePoint} {form u : Text}

/-- One step of the reader takes one character in any of its forms. -/
theorem stringFrom_escapes (h : Escapes asciiOnly c form) (hne : u ≠ [])
    (hu : c.isHighSurrogate = true → NoSecondHalf u) (start fuel pos : Nat) (read : Text) :
    stringFrom start (fuel + 1) read ⟨pos, form ++ u⟩ =
      stringFrom start fuel (c :: read) ⟨pos + form.length, u⟩ := by
  have hquote : CodePoint.ofChar '\\' ≠ CodePoint.ofChar '"' := by decide
  cases h with
  | @letter e hnot he =>
    simp only [stringFrom, List.cons_append, List.nil_append, if_neg hquote, if_true, if_neg hnot,
      he]
    rfl
  | unit hc =>
    have hunit := unicodeEscape_unit hc hne (by rwa [Utf8.ofNat_val])
    rw [Utf8.ofNat_val] at hunit
    simp only [escapeUnit_append, stringFrom, if_neg hquote, if_true, hunit, length_escapeUnit hc]
    rw [Cursor.advance, ← escapeUnit_append, List.drop_left' (length_escapeUnit hc)]
  | @pair high low hhigh hlow hc =>
    have hpair := unicodeEscape_pair hhigh hlow hc hne
    have hlength : (escapeUnit high ++ escapeUnit low).length = 12 := by
      rw [List.length_append, length_escapeUnit (by omega), length_escapeUnit (by omega)]
    have hform : (escapeUnit high ++ escapeUnit low ++ u).drop 12 = u := List.drop_left' hlength
    rw [List.append_assoc] at hform ⊢
    rw [hlength]
    simp only [escapeUnit_append high, stringFrom, if_neg hquote, if_true, hpair]
    rw [Cursor.advance, ← escapeUnit_append, hform]
  | itself hq hb hlow =>
    simp only [stringFrom, List.cons_append, List.nil_append, if_neg hq, if_neg hb,
      if_neg (show ¬c.val < 0x20 by omega)]
    rfl

theorem noSecondHalf_escapes (h : Escapes asciiOnly c form) (hc : c.isLowSurrogate = false)
    (u : Text) : NoSecondHalf (form ++ u) := by
  intro hstarts
  have hprefix : [CodePoint.ofChar '\\', CodePoint.ofChar 'u'] <+: form ++ u :=
    List.isPrefixOf_iff_prefix.mp hstarts
  cases h with
  | letter hnot =>
    rw [List.cons_append, List.cons_prefix_cons] at hprefix
    exact absurd (List.cons_prefix_cons.mp hprefix.2).1.symm hnot
  | unit hunit => exact ⟨c.val, fourHex?_escapeUnit hunit u, by rwa [Utf8.ofNat_val]⟩
  | @pair high low hhigh =>
    rw [List.append_assoc]
    refine ⟨high, fourHex?_escapeUnit (by omega) _, ?_⟩
    rw [CodePoint.isLowSurrogate, Utf8.val_ofNat (by omega)]
    simp only [Bool.and_eq_false_iff, decide_eq_false_iff_not]
    omega
  | itself _ hbackslash =>
    rw [List.cons_append, List.cons_prefix_cons] at hprefix
    exact absurd hprefix.1.symm hbackslash

/-! ## Strings -/

/-- The characters of a string are read up to its quote. The induction is on the text; the character
after a first half of a pair is not a second half. -/
theorem stringFrom_write {t : Text} (ht : t.IsUnpaired) (asciiOnly : Bool) (start : Nat)
    (rest : Text) {fuel : Nat} (hfuel : t.length < fuel) (pos : Nat) (read : Text) :
    stringFrom start fuel read
        ⟨pos, t.flatMap (escape asciiOnly) ++ CodePoint.ofChar '"' :: rest⟩ =
      .ok (read.reverse ++ t, ⟨pos + (t.flatMap (escape asciiOnly)).length + 1, rest⟩) := by
  induction t generalizing fuel pos read with
  | nil =>
    obtain ⟨fuel, rfl⟩ := Nat.exists_eq_succ_of_ne_zero (Nat.ne_of_gt hfuel)
    rw [List.append_nil]
    rfl
  | cons c t ih =>
    obtain ⟨fuel, rfl⟩ := Nat.exists_eq_succ_of_ne_zero (Nat.ne_of_gt (Nat.zero_lt_of_lt hfuel))
    have hnext : c.isHighSurrogate = true →
        NoSecondHalf (t.flatMap (escape asciiOnly) ++ CodePoint.ofChar '"' :: rest) := by
      intro hhigh
      cases t with
      | nil => exact fun hstarts => nomatch hstarts
      | cons d t =>
        rw [List.flatMap_cons, List.append_assoc]
        exact noSecondHalf_escapes (escapes_escape asciiOnly d)
          ((List.isChain_cons_cons.mp ht).1 hhigh) _
    rw [List.flatMap_cons, List.append_assoc,
      stringFrom_escapes (escapes_escape asciiOnly c) (by simp) hnext,
      ih ht.tail (Nat.lt_of_succ_lt_succ hfuel)]
    simp [Nat.add_assoc]

theorem length_writeString (asciiOnly : Bool) (t : Text) :
    (writeString asciiOnly t).length = (t.flatMap (escape asciiOnly)).length + 2 := by
  rw [writeString, List.length_append, List.length_cons, List.length_singleton]

/-- What is written of a text is no shorter than it. -/
theorem length_le_length_flatMap_escape (asciiOnly : Bool) (t : Text) :
    t.length ≤ (t.flatMap (escape asciiOnly)).length := by
  induction t with
  | nil => exact Nat.zero_le _
  | cons c t ih =>
    have hone : 0 < (escape asciiOnly c).length := (escapes_escape asciiOnly c).length_pos
    rw [List.flatMap_cons, List.length_append, List.length_cons]
    omega

/-- A string is read back from its quotes. -/
theorem stringAt_writeString {t : Text} (ht : t.IsUnpaired) (asciiOnly : Bool) (pos : Nat)
    (rest : Text) :
    stringAt ⟨pos, writeString asciiOnly t ++ rest⟩ =
      .ok (t, ⟨pos + (writeString asciiOnly t).length, rest⟩) := by
  have hform : writeString asciiOnly t ++ rest = CodePoint.ofChar '"' ::
      (t.flatMap (escape asciiOnly) ++ CodePoint.ofChar '"' :: rest) := by
    simp [writeString]
  have hfuel : t.length < (writeString asciiOnly t ++ rest).length := by
    have hle := length_le_length_flatMap_escape asciiOnly t
    rw [List.length_append, length_writeString]
    omega
  have hend : pos + 1 + (t.flatMap (escape asciiOnly)).length + 1 =
      pos + (writeString asciiOnly t).length := by
    rw [length_writeString]
    omega
  rw [stringAt, Cursor.advance]
  dsimp only
  rw [hform] at hfuel ⊢
  rw [List.drop_succ_cons, List.drop_zero, stringFrom_write ht asciiOnly _ _ hfuel, hend]
  rfl

/-! ## Strings in ASCII -/

theorem isPlainAscii_escapeUnit {n : Nat} (h : n < 0x10000) : (escapeUnit n).IsPlainAscii := by
  rw [escapeUnit, Text.isPlainAscii_append]
  exact ⟨by decide, isPlainAscii_lowerHex_four h⟩

theorem Escapes.isPlainAscii (h : Escapes true c form) : form.IsPlainAscii := by
  cases h with
  | letter _ _ hascii => exact List.forall_mem_cons.mpr ⟨by decide, by simpa using hascii⟩
  | unit hunit => exact isPlainAscii_escapeUnit hunit
  | pair hhigh hlow =>
    exact Text.isPlainAscii_append.mpr
      ⟨isPlainAscii_escapeUnit (by omega), isPlainAscii_escapeUnit (by omega)⟩
  | itself _ _ hlow hhigh => exact List.forall_mem_singleton.mpr ⟨hlow, hhigh rfl⟩

/-- An escaped string is written in ASCII. -/
theorem isPlainAscii_writeString (t : Text) : (writeString true t).IsPlainAscii := by
  have hquote : Text.IsPlainAscii [CodePoint.ofChar '"'] := by decide
  have hinner : Text.IsPlainAscii (t.flatMap (escape true)) := by
    intro d hd
    obtain ⟨c, -, hc⟩ := List.mem_flatMap.mp hd
    exact (escapes_escape true c).isPlainAscii d hc
  rw [writeString, ← List.singleton_append, Text.isPlainAscii_append, Text.isPlainAscii_append]
  exact ⟨⟨hquote, hinner⟩, hquote⟩

end Json

end Courier
