import Courier.Proofs.Json.Numbers
import Courier.Proofs.Json.Strings
import Mathlib.Data.List.Forall2

/-!
# Reading values from where they stand

A value is read alike wherever it stands, if a comma, a closing bracket or nothing follows. The
items of a list and the members of an object are read in one way: part by part, each up to a comma
or to the bracket that closes them.

Results:
* `readsAs_null`, `readsAs_bool`, `readsAs_text`, `readsAs_int`: single values.
* `Brackets.readsAs`: parts between brackets are read as a whole.
* `brackets_list`, `brackets_object`: lists and objects are read in this way.
* `parse?_of_readsAs`: a text that stands for a value alone.
-/

namespace Courier.Json

/-! ## Blanks -/

/-- A text begins with a character that no reader skips. -/
def Stops (t : Text) : Prop := ∀ c, t.head? = some c → Cursor.isBlank c = false

theorem stops_cons {c : CodePoint} (h : Cursor.isBlank c = false) (t : Text) : Stops (c :: t) := by
  intro d hd
  cases hd
  exact h

theorem skipBlanks_append {blanks t : Text} (hb : ∀ c ∈ blanks, Cursor.isBlank c = true)
    (ht : Stops t) (pos : Nat) :
    Cursor.skipBlanks ⟨pos, blanks ++ t⟩ = ⟨pos + blanks.length, t⟩ := by
  have hstop : t.takeWhile Cursor.isBlank = [] := by
    cases t with
    | nil => rfl
    | cons c t => rw [List.takeWhile_cons_of_neg (by simp [ht c rfl])]
  have htake : (blanks ++ t).takeWhile Cursor.isBlank = blanks := by
    rw [List.takeWhile_append_of_pos hb, hstop, List.append_nil]
  rw [Cursor.skipBlanks, Cursor.advance]
  dsimp only
  rw [htake, List.drop_left]

theorem skipBlanks_of_stops {t : Text} (ht : Stops t) (pos : Nat) :
    Cursor.skipBlanks ⟨pos, t⟩ = ⟨pos, t⟩ :=
  skipBlanks_append (List.forall_mem_nil _) ht pos

/-- What may stand behind a value: a comma or a closing bracket, if anything. -/
def EndsValue (rest : Text) : Prop :=
  ∀ c, rest.head? = some c →
    c = CodePoint.ofChar ',' ∨ c = CodePoint.ofChar ']' ∨ c = CodePoint.ofChar '\x7d'

theorem endsValue_cons {c : CodePoint} (hc : c = CodePoint.ofChar ',' ∨ c = CodePoint.ofChar ']' ∨
    c = CodePoint.ofChar '\x7d') (rest : Text) : EndsValue (c :: rest) := by
  intro d hd
  cases hd
  exact hc

theorem EndsValue.stops {rest : Text} (h : EndsValue rest) : Stops rest := by
  intro c hc
  obtain rfl | rfl | rfl := h c hc <;> decide

theorem EndsValue.endsNumber {rest : Text} (h : EndsValue rest) : EndsNumber rest := by
  intro c hc
  obtain rfl | rfl | rfl := h c hc <;> decide

/-! ## Single values -/

variable {limits : Limits} {level : Nat}

/-- A text is read as a value, wherever it stands at a level of nesting. -/
structure ReadsAs (limits : Limits) (level : Nat) (t : Text) (v : Value) : Prop where
  begins : ∃ c more, t = c :: more ∧ Cursor.isBlank c = false ∧ c ≠ CodePoint.ofChar ']'
  reads : ∀ {fuel : Nat} {rest : Text} (pos : Nat), t.length ≤ fuel → EndsValue rest →
    read limits fuel level .value ⟨pos, t ++ rest⟩ = .ok (v, ⟨pos + t.length, rest⟩)

theorem ReadsAs.stops {t : Text} {v : Value} (h : ReadsAs limits level t v) (u : Text) :
    Stops (t ++ u) := by
  obtain ⟨c, more, rfl, hblank, -⟩ := h.begins
  exact stops_cons hblank (more ++ u)

/-- A character that begins a value without being a bracket. -/
def BeginsScalar (c : CodePoint) : Prop :=
  Cursor.isBlank c = false ∧ c ≠ CodePoint.ofChar ']' ∧ c ≠ CodePoint.ofChar '[' ∧
    c ≠ CodePoint.ofChar '\x7b'

instance : DecidablePred BeginsScalar := fun _ => inferInstanceAs (Decidable (_ ∧ _))

theorem readsAs_of_scalarAt {t more : Text} {c : CodePoint} {v : Value} (ht : t = c :: more)
    (hc : BeginsScalar c)
    (h : ∀ {rest : Text} (pos : Nat), EndsValue rest →
      scalarAt limits ⟨pos, t ++ rest⟩ = .ok (v, ⟨pos + t.length, rest⟩)) :
    ReadsAs limits level t v := by
  obtain ⟨hblank, hclose, hlist, hobject⟩ := hc
  refine ⟨⟨c, more, ht, hblank, hclose⟩, fun {fuel rest} pos hfuel hrest => ?_⟩
  have hpos : 0 < t.length := ht ▸ Nat.succ_pos _
  obtain ⟨fuel, rfl⟩ := Nat.exists_eq_succ_of_ne_zero (Nat.ne_of_gt (hpos.trans_le hfuel))
  have hbracket : ∀ d, c ≠ CodePoint.ofChar d → Cursor.isAt ⟨pos, t ++ rest⟩ d = false := by
    intro d hd
    simp [Cursor.isAt, ht, hd]
  rw [read, hbracket _ hlist, hbracket _ hobject]
  exact h pos hrest

theorem readsAs_null : ReadsAs limits level (Text.ofString "null") .null :=
  readsAs_of_scalarAt rfl (by decide) fun _ _ => rfl

theorem readsAs_bool (b : Bool) :
    ReadsAs limits level (Text.ofString (if b then "true" else "false")) (.bool b) := by
  cases b with
  | true => exact readsAs_of_scalarAt rfl (by decide) fun _ _ => rfl
  | false => exact readsAs_of_scalarAt rfl (by decide) fun _ _ => rfl

theorem readsAs_text {t : Text} (ht : t.IsUnpaired) (asciiOnly : Bool) :
    ReadsAs limits level (writeString asciiOnly t) (.text t) := by
  refine readsAs_of_scalarAt rfl (by decide) fun {rest} pos _ => ?_
  have hquote : Cursor.isAt ⟨pos, writeString asciiOnly t ++ rest⟩ '"' = true := rfl
  rw [scalarAt, if_pos hquote, stringAt_writeString ht]
  rfl

/-- No word begins like a number. -/
theorem find?_words_of_digit {c : CodePoint} (hc : c.isAsciiDigit = true) (negative : Bool)
    (more : Text) :
    (words.find? fun (w, _) => Text.startsWith (sign negative ++ c :: more) w) = none := by
  have hwords : ∀ x ∈ words, ∃ a b w, x.1 = a :: b :: w ∧ a.isAsciiDigit = false ∧
      b.isAsciiDigit = false := by
    intro x hx
    simp only [words, List.map_cons, List.map_nil, List.mem_cons, List.not_mem_nil, or_false] at hx
    obtain rfl | rfl | rfl | rfl | rfl | rfl := hx <;>
      exact ⟨_, _, _, rfl, by decide, by decide⟩
  rw [List.find?_eq_none]
  intro x hx hstarts
  obtain ⟨a, b, w, hw, ha, hb⟩ := hwords x hx
  have hprefix : a :: b :: w <+: sign negative ++ c :: more :=
    hw ▸ List.isPrefixOf_iff_prefix.mp hstarts
  cases negative with
  | true =>
    obtain ⟨-, hprefix⟩ := List.cons_prefix_cons.mp hprefix
    rw [(List.cons_prefix_cons.mp hprefix).1, hc] at hb
    cases hb
  | false =>
    rw [(List.cons_prefix_cons.mp hprefix).1, hc] at ha
    cases ha

theorem beginsScalar_of_digit {c : CodePoint} (h : c.isAsciiDigit = true) : BeginsScalar c := by
  have hne : ∀ d : CodePoint, d.isAsciiDigit = false → c ≠ d := by
    rintro d hd rfl
    rw [h] at hd
    cases hd
  refine ⟨?_, hne _ (by decide), hne _ (by decide), hne _ (by decide)⟩
  simp only [CodePoint.isAsciiDigit, Bool.and_eq_true, decide_eq_true_eq] at h
  simp only [Cursor.isBlank, Bool.or_eq_false_iff, decide_eq_false_iff_not]
  omega

theorem readsAs_sign {n : Nat} (hn : (Text.ofNat n).length ≤ limits.digits) (negative : Bool) :
    ReadsAs limits level (sign negative ++ Text.ofNat n) (.int (if negative then -n else n)) := by
  obtain ⟨d, more, hdigits, hd⟩ := exists_ofNat_eq_cons n
  obtain ⟨c, tail, ht, hc, hquote⟩ : ∃ c tail, sign negative ++ Text.ofNat n = c :: tail ∧
      BeginsScalar c ∧ c ≠ CodePoint.ofChar '"' := by
    cases negative with
    | true => exact ⟨_, _, rfl, by decide, by decide⟩
    | false =>
      refine ⟨d, more, hdigits, beginsScalar_of_digit hd, ?_⟩
      rintro rfl
      cases hd
  refine readsAs_of_scalarAt ht hc fun {rest} pos hrest => ?_
  have hstring : Cursor.isAt ⟨pos, sign negative ++ Text.ofNat n ++ rest⟩ '"' = false := by
    simp [Cursor.isAt, ht, hquote]
  have hword := find?_words_of_digit hd negative (more ++ rest)
  rw [← List.cons_append, ← hdigits, ← List.append_assoc] at hword
  have hnumber := numberAt_sign hn hrest.endsNumber negative pos
  rw [← List.append_assoc] at hnumber
  rw [scalarAt, hstring, hword]
  exact hnumber

theorem readsAs_int {n : Int} (hn : (Text.ofNat n.natAbs).length ≤ limits.digits) :
    ReadsAs limits level (Text.ofInt n) (.int n) := by
  cases n with
  | ofNat n => exact readsAs_sign hn false
  | negSucc n => exact readsAs_sign hn true

/-! ## Parts between brackets -/

variable {separator : Text}

/-- The blanks of a separator are skipped behind its first character. -/
theorem skipBlanks_separator {c : CodePoint} {n : Nat} (hs : separator = c :: List.replicate n 0x20)
    {t : Text} (ht : Stops t) (pos : Nat) :
    (Cursor.advance ⟨pos, separator ++ t⟩ 1).skipBlanks = ⟨pos + separator.length, t⟩ := by
  have hblanks : ∀ d ∈ List.replicate n (0x20 : CodePoint), Cursor.isBlank d = true := by
    intro d hd
    rw [List.eq_of_mem_replicate hd]
    decide
  have hlength : pos + 1 + (List.replicate n (0x20 : CodePoint)).length =
      pos + separator.length := by
    rw [hs, List.length_cons]
    omega
  rw [Cursor.advance, hs, List.cons_append, List.drop_succ_cons, List.drop_zero,
    skipBlanks_append hblanks ht, hlength, hs]

theorem isAt_separator {c : Char} {n : Nat}
    (hs : separator = CodePoint.ofChar c :: List.replicate n 0x20) (t : Text) (pos : Nat)
    (d : Char) :
    Cursor.isAt ⟨pos, separator ++ t⟩ d = decide (CodePoint.ofChar c = CodePoint.ofChar d) := by
  simp [Cursor.isAt, hs]

theorem joinWith_cons_cons (separator part next : Text) (parts : List Text) (u : Text) :
    Text.joinWith separator (part :: next :: parts) ++ u =
      part ++ (separator ++ (Text.joinWith separator (next :: parts) ++ u)) := by
  show part ++ separator ++ Text.joinWith separator (next :: parts) ++ u = _
  rw [List.append_assoc, List.append_assoc]

theorem length_joinWith_cons_cons (separator part next : Text) (parts : List Text) :
    (Text.joinWith separator (part :: next :: parts)).length =
      part.length + separator.length + (Text.joinWith separator (next :: parts)).length := by
  show (part ++ separator ++ Text.joinWith separator (next :: parts)).length = _
  rw [List.length_append, List.length_append]

/-- How the reader takes the parts between two brackets: from the opening bracket to the first part,
if there is one, and from each part to the next one or to the closing bracket. The parts are those
that a relation holds for, each with what is read from it. -/
structure Brackets {α : Type} (limits : Limits) (level : Nat) (first last : Char)
    (goal : List α → Goal) (whole : List α → Value) (part : Text → α → Prop) : Prop where
  scalar : Cursor.isBlank (CodePoint.ofChar first) = false ∧
    CodePoint.ofChar first ≠ CodePoint.ofChar ']'
  closes : CodePoint.ofChar last = CodePoint.ofChar ']' ∨
    CodePoint.ofChar last = CodePoint.ofChar '\x7d'
  enter : ∀ fuel pos u, read limits (fuel + 1) level .value ⟨pos, CodePoint.ofChar first :: u⟩ =
    if limits.depth ≤ level then .error .tooDeep
    else
      let s := Cursor.skipBlanks ⟨pos + 1, u⟩
      if s.isAt last then .ok (whole [], s.advance 1)
      else read limits fuel (level + 1) (goal []) s
  begins : ∀ {t x}, part t x → ∃ c more, t = c :: more ∧ Cursor.isBlank c = false ∧
    c ≠ CodePoint.ofChar last
  step : ∀ {t x u fuel}, part t x → EndsValue u → t.length ≤ fuel → ∀ pos done,
    read limits (fuel + 1) (level + 1) (goal done) ⟨pos, t ++ u⟩ =
      let s : Cursor := ⟨pos + t.length, u⟩
      if s.isAt last then .ok (whole (x :: done).reverse, s.advance 1)
      else if s.isAt ',' then
        read limits fuel (level + 1) (goal (x :: done)) (s.advance 1).skipBlanks
      else s.fault .expectedComma

namespace Brackets

variable {α : Type} {first last : Char} {goal : List α → Goal} {whole : List α → Value}
  {part : Text → α → Prop} {t more : Text} {x : α} {fuel n : Nat}

theorem step_comma (b : Brackets limits level first last goal whole part)
    (hs : separator = CodePoint.ofChar ',' :: List.replicate n 0x20) (h : part t x)
    (hmore : Stops more) (hfuel : t.length ≤ fuel) (pos : Nat) (done : List α) :
    read limits (fuel + 1) (level + 1) (goal done) ⟨pos, t ++ (separator ++ more)⟩ =
      read limits fuel (level + 1) (goal (x :: done))
        ⟨pos + t.length + separator.length, more⟩ := by
  have hcomma : EndsValue (separator ++ more) := hs ▸ endsValue_cons (.inl rfl) _
  have hnot : ¬CodePoint.ofChar ',' = CodePoint.ofChar last := by
    obtain hlast | hlast := b.closes <;>
    · rw [hlast]
      decide
  rw [b.step h hcomma hfuel]
  simp only [isAt_separator hs, hnot, decide_false, decide_true, Bool.false_eq_true, if_false,
    if_true]
  rw [skipBlanks_separator hs hmore]

theorem step_last (b : Brackets limits level first last goal whole part) (h : part t x)
    (rest : Text) (hfuel : t.length ≤ fuel) (pos : Nat) (done : List α) :
    read limits (fuel + 1) (level + 1) (goal done) ⟨pos, t ++ CodePoint.ofChar last :: rest⟩ =
      .ok (whole (x :: done).reverse, ⟨pos + t.length + 1, rest⟩) := by
  rw [b.step h (endsValue_cons (.inr b.closes) rest) hfuel]
  simp [Cursor.isAt, Cursor.advance]

theorem exists_joinWith_cons (separator t : Text) (parts : List Text) :
    ∃ tail, Text.joinWith separator (t :: parts) = t ++ tail := by
  cases parts with
  | nil => exact ⟨[], (List.append_nil t).symm⟩
  | cons next parts => exact ⟨_, List.append_assoc _ _ _⟩

/-- Parts begin with a character that is neither skipped nor taken for the closing bracket. -/
theorem begins_joinWith (b : Brackets limits level first last goal whole part) (h : part t x)
    (separator : Text) (parts : List Text) :
    ∃ c tail, Text.joinWith separator (t :: parts) = c :: tail ∧ Cursor.isBlank c = false ∧
      c ≠ CodePoint.ofChar last := by
  obtain ⟨c, more, rfl, hblank, hlast⟩ := b.begins h
  obtain ⟨tail, htail⟩ := exists_joinWith_cons separator (c :: more) parts
  exact ⟨c, more ++ tail, htail, hblank, hlast⟩

theorem stops_joinWith (b : Brackets limits level first last goal whole part) (h : part t x)
    (separator : Text) (parts : List Text) (u : Text) :
    Stops (Text.joinWith separator (t :: parts) ++ u) := by
  obtain ⟨c, tail, htail, hblank, -⟩ := b.begins_joinWith h separator parts
  rw [htail]
  exact stops_cons hblank (tail ++ u)

/-- Parts are read up to the closing bracket. The induction is on the parts, and what has been read
before them is kept in reverse. -/
theorem read_joinWith (b : Brackets limits level first last goal whole part)
    (hs : separator = CodePoint.ofChar ',' :: List.replicate n 0x20) {parts : List Text}
    {xs : List α} (h : List.Forall₂ part parts xs) (hne : parts ≠ []) (rest : Text)
    (hfuel : (Text.joinWith separator parts).length < fuel) (pos : Nat) (done : List α) :
    read limits fuel (level + 1) (goal done)
        ⟨pos, Text.joinWith separator parts ++ CodePoint.ofChar last :: rest⟩ =
      .ok (whole (done.reverse ++ xs),
        ⟨pos + (Text.joinWith separator parts).length + 1, rest⟩) := by
  induction h generalizing fuel pos done with
  | nil => exact absurd rfl hne
  | @cons t x parts xs hpart hparts ih =>
    obtain ⟨fuel, rfl⟩ := Nat.exists_eq_succ_of_ne_zero (Nat.ne_of_gt (Nat.zero_lt_of_lt hfuel))
    cases hparts with
    | nil =>
      rw [Text.joinWith, b.step_last hpart rest (Nat.le_of_lt_succ hfuel), List.reverse_cons]
    | @cons next y parts xs hnext hparts =>
      have hmore := b.stops_joinWith hnext separator parts (CodePoint.ofChar last :: rest)
      have hone : separator.length = n + 1 := by simp [hs]
      rw [length_joinWith_cons_cons] at hfuel
      rw [joinWith_cons_cons, length_joinWith_cons_cons, b.step_comma hs hpart hmore (by omega),
        ih (List.cons_ne_nil _ _) (by omega), List.reverse_cons, List.append_assoc]
      simp [Nat.add_assoc]

/-- Parts between their brackets are read as a whole, where one more level may be opened. -/
theorem readsAs (b : Brackets limits level first last goal whole part)
    (hs : separator = CodePoint.ofChar ',' :: List.replicate n 0x20) {parts : List Text}
    {xs : List α} (h : List.Forall₂ part parts xs) (hlevel : level < limits.depth) :
    ReadsAs limits level (CodePoint.ofChar first :: (Text.joinWith separator parts
      ++ [CodePoint.ofChar last])) (whole xs) := by
  refine ⟨⟨_, _, rfl, b.scalar⟩, fun {fuel rest} pos hfuel hrest => ?_⟩
  obtain ⟨fuel, rfl⟩ := Nat.exists_eq_succ_of_ne_zero
    (Nat.ne_of_gt (Nat.zero_lt_of_lt (Nat.lt_of_succ_le hfuel)))
  rw [List.cons_append, b.enter, if_neg (Nat.not_le.mpr hlevel), List.append_assoc,
    List.singleton_append]
  cases h with
  | nil =>
    have hstops := (endsValue_cons (.inr b.closes) rest).stops
    rw [Text.joinWith, List.nil_append, skipBlanks_of_stops hstops]
    simp [Cursor.isAt, Cursor.advance]
  | @cons t x parts xs hpart hparts =>
    obtain ⟨c, tail, htail, -, hlast⟩ := b.begins_joinWith hpart separator parts
    have hnot : Cursor.isAt ⟨pos + 1, Text.joinWith separator (t :: parts)
        ++ CodePoint.ofChar last :: rest⟩ last = false := by
      simp [Cursor.isAt, htail, hlast]
    simp only [List.length_cons, List.length_append, List.length_nil] at hfuel ⊢
    have hend : pos + 1 + (Text.joinWith separator (t :: parts)).length + 1 =
        pos + ((Text.joinWith separator (t :: parts)).length + (0 + 1) + 1) := by
      omega
    rw [skipBlanks_of_stops (b.stops_joinWith hpart separator parts _), hnot,
      if_neg Bool.false_ne_true,
      b.read_joinWith hs (.cons hpart hparts) (List.cons_ne_nil _ _) rest (by omega), hend]
    rfl

end Brackets

/-! ## Lists and objects -/

theorem brackets_list (limits : Limits) (level : Nat) :
    Brackets limits level '[' ']' .items .list (ReadsAs limits (level + 1)) where
  scalar := by decide
  closes := .inl rfl
  enter _ _ _ := rfl
  begins h := h.begins
  step {t v u fuel} h hu hfuel pos done := by
    rw [read, h.reads pos hfuel hu]
    simp only [bind, Except.bind]
    rw [skipBlanks_of_stops hu.stops]

/-- A text is read as a member of an object: its name in quotes, a separator and its value. -/
def ReadsMember (limits : Limits) (level : Nat) (separator : Text) (t : Text) (m : Text × Value) :
    Prop :=
  ∃ asciiOnly part, t = writeString asciiOnly m.1 ++ separator ++ part ∧ m.1.IsUnpaired ∧
    ReadsAs limits level part m.2

theorem brackets_object {n : Nat} (hs : separator = CodePoint.ofChar ':' :: List.replicate n 0x20)
    (limits : Limits) (level : Nat) :
    Brackets limits level '\x7b' '\x7d' .members (fun ms => .object (Members.ofPairs ms))
      (ReadsMember limits (level + 1) separator) where
  scalar := by decide
  closes := .inr rfl
  enter _ _ _ := rfl
  begins h := by
    obtain ⟨asciiOnly, part, rfl, -⟩ := h
    exact ⟨_, _, rfl, by decide, by decide⟩
  step {t m u fuel} h hu hfuel pos done := by
    obtain ⟨asciiOnly, part, rfl, hname, hvalue⟩ := h
    have hquote : Cursor.isAt ⟨pos, writeString asciiOnly m.1 ++ (separator ++ (part ++ u))⟩ '"' =
        true := rfl
    have hcolon : Stops (separator ++ (part ++ u)) := hs ▸ stops_cons (by decide) _
    have hlength : ∀ p, p + (writeString asciiOnly m.1).length + separator.length + part.length =
        p + (writeString asciiOnly m.1 ++ separator ++ part).length := by
      intro p
      rw [List.length_append, List.length_append]
      omega
    have hpart : part.length ≤ fuel := by
      have hsum := hlength 0
      omega
    rw [List.append_assoc, List.append_assoc, read, if_pos hquote, stringAt_writeString hname,
      ← hlength]
    simp only [bind, Except.bind]
    rw [skipBlanks_of_stops hcolon, isAt_separator hs, if_pos (decide_eq_true rfl),
      skipBlanks_separator hs (hvalue.stops u), hvalue.reads _ hpart hu]
    dsimp only
    rw [skipBlanks_of_stops hu.stops]

/-! ## Whole texts -/

/-- A text that stands for a value alone is read to its end. -/
theorem parse?_of_readsAs {t : Text} {v : Value} (h : ReadsAs limits 0 t v) :
    parse? limits t = .ok v := by
  have hnil : EndsValue [] := nofun
  have hstops := h.stops []
  have hread : read limits (2 * t.length + 2) 0 .value ⟨0, t ++ []⟩ =
      .ok (v, ⟨0 + t.length, []⟩) := h.reads 0 (by omega) hnil
  rw [List.append_nil] at hstops hread
  rw [parse?, skipBlanks_of_stops hstops, hread]
  rfl

end Courier.Json
