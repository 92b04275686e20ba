import Courier.Text.Utf8
import Mathlib.Data.List.TakeWhile
import Mathlib.Tactic.SplitIfs

/-!
# Strict decoding inverts UTF-8 encoding

The decoder reads one octet at a time. Its step from octet to octet is `Lead.next`, so the octets
after a first one are read by a fold over it, and everything about single characters is said of
that fold.

Results:
* `encodeOne_of_foldl_next`, `foldl_next_encodeOne`: the octets that the decoder takes for a
  character are exactly the UTF-8 form of that character, and no surrogate is read.
* `decode?_eq_ok_iff`: octets are read as a text exactly when they are the UTF-8 form of the text,
  in which no surrogate stands.
* `decodeFrom_cons`: what the decoder does from one octet to the next, also at a fault.
* `encode?_eq_ok_iff`, `encode?_eq_error_iff`, `encodeEscaped?_eq_error_iff`: which texts have
  octets.
-/

namespace Courier.Utf8

/-! ## Numbers, octets and code points -/

theorem toNat_toUInt8 {n : Nat} (h : n < 256) : n.toUInt8.toNat = n := by
  simp [Nat.toUInt8, Nat.mod_eq_of_lt h]

theorem toUInt8_eq_iff {n : Nat} {b : UInt8} (h : n < 256) : n.toUInt8 = b ↔ b.toNat = n := by
  rw [← UInt8.toNat_inj, toNat_toUInt8 h, eq_comm]

theorem val_ofNat {n : Nat} (h : n < 0x110000) : (CodePoint.ofNat n).val = n := by
  simp [CodePoint.ofNat, h]

theorem ofNat_val (c : CodePoint) : CodePoint.ofNat c.val = c := by
  simp [CodePoint.ofNat, c.isLt]

theorem ofNat_eq_of_eq_val {n : Nat} {c : CodePoint} (h : n = c.val) : CodePoint.ofNat n = c := by
  rw [h, ofNat_val]

theorem isSurrogate_eq_false_iff (c : CodePoint) :
    c.isSurrogate = false ↔ c.val < 0xD800 ∨ 0xDFFF < c.val := by
  simp [CodePoint.isSurrogate]; omega

/-! ## The step from octet to octet -/

/-- What has been read after one more octet: only a sequence in progress can go on. -/
def Lead.next : Lead → UInt8 → Lead
  | .sequence p, b => p.next b
  | _, _ => .none

theorem foldl_next_none (bs : Bytes) : bs.foldl Lead.next .none = .none := by
  induction bs with
  | nil => rfl
  | cons b bs ih => exact ih

theorem foldl_next_character (c : CodePoint) (bs : Bytes) (d : CodePoint) :
    bs.foldl Lead.next (.character c) = .character d ↔ bs = [] ∧ c = d := by
  cases bs with
  | nil => simp
  | cons b bs => simp [Lead.next, foldl_next_none]

theorem next_last {low high value taken : Nat} {b : UInt8} (hl : low ≤ b.toNat)
    (hh : b.toNat ≤ high) :
    Pending.next ⟨1, low, high, value, taken⟩ b =
      .character (CodePoint.ofNat (value * 0x40 + b.toNat % 0x40)) := by
  simp [Pending.next, hl, hh]

theorem next_more {k low high value taken : Nat} {b : UInt8} (hl : low ≤ b.toNat)
    (hh : b.toNat ≤ high) :
    Pending.next ⟨k + 2, low, high, value, taken⟩ b =
      .sequence ⟨k + 1, 0x80, 0xBF, value * 0x40 + b.toNat % 0x40, taken + 1⟩ := by
  simp [Pending.next, hl, hh]

theorem next_outside {p : Pending} {b : UInt8} (h : ¬(p.low ≤ b.toNat ∧ b.toNat ≤ p.high)) :
    p.next b = .none := by
  simp only [Pending.next, Bool.and_eq_true, decide_eq_true_eq]
  rw [if_neg h]

/-- A sequence that owes one octet is completed by one octet in its range. -/
theorem foldl_next_last {low high value taken : Nat} (bs : Bytes) (c : CodePoint) :
    bs.foldl Lead.next (.sequence ⟨1, low, high, value, taken⟩) = .character c ↔
      ∃ b : UInt8, bs = [b] ∧ low ≤ b.toNat ∧ b.toNat ≤ high ∧
        CodePoint.ofNat (value * 0x40 + b.toNat % 0x40) = c := by
  constructor
  · intro h
    cases bs with
    | nil => cases h
    | cons b bs =>
      rw [List.foldl_cons, Lead.next] at h
      by_cases hb : low ≤ b.toNat ∧ b.toNat ≤ high
      · rw [next_last hb.1 hb.2] at h
        obtain ⟨rfl, rfl⟩ := (foldl_next_character _ _ _).mp h
        exact ⟨b, rfl, hb.1, hb.2, rfl⟩
      · rw [next_outside hb, foldl_next_none] at h
        cases h
  · rintro ⟨b, rfl, hl, hh, rfl⟩
    exact next_last hl hh

/-- A sequence that owes several octets goes on with one in its range, and owes one less. -/
theorem foldl_next_more {k low high value taken : Nat} (bs : Bytes) (c : CodePoint) :
    bs.foldl Lead.next (.sequence ⟨k + 2, low, high, value, taken⟩) = .character c ↔
      ∃ (b : UInt8) (rest : Bytes), bs = b :: rest ∧ low ≤ b.toNat ∧ b.toNat ≤ high ∧
        rest.foldl Lead.next
          (.sequence ⟨k + 1, 0x80, 0xBF, value * 0x40 + b.toNat % 0x40, taken + 1⟩)
          = .character c := by
  constructor
  · intro h
    cases bs with
    | nil => cases h
    | cons b bs =>
      rw [List.foldl_cons, Lead.next] at h
      by_cases hb : low ≤ b.toNat ∧ b.toNat ≤ high
      · rw [next_more hb.1 hb.2] at h
        exact ⟨b, bs, rfl, hb.1, hb.2, h⟩
      · rw [next_outside hb, foldl_next_none] at h
        cases h
  · rintro ⟨b, rest, rfl, hl, hh, h⟩
    rw [List.foldl_cons, Lead.next, next_more hl hh]
    exact h

/-- The least octet that may follow a first octet; it rules out overlong forms. -/
def leastSecond (n : Nat) : Nat := if n = 0xE0 then 0xA0 else if n = 0xF0 then 0x90 else 0x80

/-- The greatest octet that may follow a first octet; it rules out surrogates and numbers beyond
the last code point. -/
def greatestSecond (n : Nat) : Nat := if n = 0xED then 0x9F else if n = 0xF4 then 0x8F else 0xBF

/-- First octets by the length of their sequences. -/
theorem ofOctet_eq (b : UInt8) :
    Lead.ofOctet false b =
      if b.toNat < 0x80 then .character (CodePoint.ofNat b.toNat)
      else if b.toNat < 0xC2 then .none
      else if b.toNat < 0xE0 then .sequence ⟨1, 0x80, 0xBF, b.toNat - 0xC0, 1⟩
      else if b.toNat < 0xF0 then
        .sequence ⟨2, leastSecond b.toNat, greatestSecond b.toNat, b.toNat - 0xE0, 1⟩
      else if b.toNat < 0xF5 then
        .sequence ⟨3, leastSecond b.toNat, greatestSecond b.toNat, b.toNat - 0xF0, 1⟩
      else .none := by
  unfold Lead.ofOctet leastSecond greatestSecond
  simp only [Bool.not_false, Bool.and_true, decide_eq_true_eq]
  split_ifs <;> first | rfl | omega

/-! ## The octets of one character -/

theorem encodeOne_one {a : UInt8} (ha : a.toNat < 0x80) :
    (CodePoint.ofNat a.toNat).isSurrogate = false ∧ encodeOne (CodePoint.ofNat a.toNat) = [a] := by
  have hv := val_ofNat (n := a.toNat) (by omega)
  refine ⟨by rw [isSurrogate_eq_false_iff]; omega, ?_⟩
  simp only [encodeOne, hv]
  rw [if_pos ha, (toUInt8_eq_iff (b := a) (by omega)).mpr rfl]

theorem encodeOne_two {a b : UInt8} {n : Nat} (hn : n = (a.toNat - 0xC0) * 0x40 + b.toNat % 0x40)
    (ha : 0xC2 ≤ a.toNat) (ha' : a.toNat < 0xE0) (hb : 0x80 ≤ b.toNat) (hb' : b.toNat ≤ 0xBF) :
    (CodePoint.ofNat n).isSurrogate = false ∧ encodeOne (CodePoint.ofNat n) = [a, b] := by
  have hv := val_ofNat (n := n) (by omega)
  refine ⟨by rw [isSurrogate_eq_false_iff]; omega, ?_⟩
  simp only [encodeOne, hv]
  rw [if_neg (by omega), if_pos (by omega), (toUInt8_eq_iff (b := a) (by omega)).mpr (by omega),
    (toUInt8_eq_iff (b := b) (by omega)).mpr (by omega)]

theorem encodeOne_three {a b c : UInt8} {n : Nat}
    (hn : n = ((a.toNat - 0xE0) * 0x40 + b.toNat % 0x40) * 0x40 + c.toNat % 0x40)
    (ha : 0xE0 ≤ a.toNat) (ha' : a.toNat < 0xF0) (hb : leastSecond a.toNat ≤ b.toNat)
    (hb' : b.toNat ≤ greatestSecond a.toNat) (hc : 0x80 ≤ c.toNat) (hc' : c.toNat ≤ 0xBF) :
    (CodePoint.ofNat n).isSurrogate = false ∧ encodeOne (CodePoint.ofNat n) = [a, b, c] := by
  unfold leastSecond at hb
  unfold greatestSecond at hb'
  have hn' : 0x800 ≤ n ∧ (n < 0xD800 ∨ 0xDFFF < n) ∧ n < 0x10000 := by
    split_ifs at hb hb' <;> omega
  have hb'' : 0x80 ≤ b.toNat ∧ b.toNat ≤ 0xBF := by split_ifs at hb hb' <;> omega
  have hv := val_ofNat (n := n) (by omega)
  refine ⟨by rw [isSurrogate_eq_false_iff]; omega, ?_⟩
  simp only [encodeOne, hv]
  rw [if_neg (by omega), if_neg (by omega), if_pos (by omega),
    (toUInt8_eq_iff (b := a) (by omega)).mpr (by omega),
    (toUInt8_eq_iff (b := b) (by omega)).mpr (by omega),
    (toUInt8_eq_iff (b := c) (by omega)).mpr (by omega)]

theorem encodeOne_four {a b c d : UInt8} {n : Nat}
    (hn : n = (((a.toNat - 0xF0) * 0x40 + b.toNat % 0x40) * 0x40 + c.toNat % 0x40) * 0x40
      + d.toNat % 0x40)
    (ha : 0xF0 ≤ a.toNat) (ha' : a.toNat < 0xF5) (hb : leastSecond a.toNat ≤ b.toNat)
    (hb' : b.toNat ≤ greatestSecond a.toNat) (hc : 0x80 ≤ c.toNat) (hc' : c.toNat ≤ 0xBF)
    (hd : 0x80 ≤ d.toNat) (hd' : d.toNat ≤ 0xBF) :
    (CodePoint.ofNat n).isSurrogate = false ∧ encodeOne (CodePoint.ofNat n) = [a, b, c, d] := by
  unfold leastSecond at hb
  unfold greatestSecond at hb'
  have hn' : 0x10000 ≤ n ∧ n < 0x110000 := by split_ifs at hb hb' <;> omega
  have hb'' : 0x80 ≤ b.toNat ∧ b.toNat ≤ 0xBF := by split_ifs at hb hb' <;> omega
  have hv := val_ofNat hn'.2
  refine ⟨by rw [isSurrogate_eq_false_iff]; omega, ?_⟩
  simp only [encodeOne, hv]
  rw [if_neg (by omega), if_neg (by omega), if_neg (by omega),
    (toUInt8_eq_iff (b := a) (by omega)).mpr (by omega),
    (toUInt8_eq_iff (b := b) (by omega)).mpr (by omega),
    (toUInt8_eq_iff (b := c) (by omega)).mpr (by omega),
    (toUInt8_eq_iff (b := d) (by omega)).mpr (by omega)]

/-- The octets that are read as a character are its UTF-8 form. -/
theorem encodeOne_of_foldl_next {a : UInt8} {bs : Bytes} {c : CodePoint}
    (h : bs.foldl Lead.next (Lead.ofOctet false a) = .character c) :
    c.isSurrogate = false ∧ encodeOne c = a :: bs := by
  rw [ofOctet_eq] at h
  split_ifs at h with h1 h2 h3 h4 h5
  · obtain ⟨rfl, rfl⟩ := (foldl_next_character _ _ _).mp h
    exact encodeOne_one h1
  · simp [foldl_next_none] at h
  · obtain ⟨b, rfl, hb, hb', rfl⟩ := (foldl_next_last _ _).mp h
    exact encodeOne_two rfl (by omega) h3 hb hb'
  · obtain ⟨b, _, rfl, hb, hb', h⟩ := (foldl_next_more _ _).mp h
    obtain ⟨d, rfl, hd, hd', rfl⟩ := (foldl_next_last _ _).mp h
    exact encodeOne_three rfl (by omega) h4 hb hb' hd hd'
  · obtain ⟨b, _, rfl, hb, hb', h⟩ := (foldl_next_more _ _).mp h
    obtain ⟨d, _, rfl, hd, hd', h⟩ := (foldl_next_more _ _).mp h
    obtain ⟨e, rfl, he, he', rfl⟩ := (foldl_next_last _ _).mp h
    exact encodeOne_four rfl (by omega) h5 hb hb' hd hd' he he'
  · simp [foldl_next_none] at h

/-- The UTF-8 form of a character is read as that character. -/
theorem foldl_next_encodeOne {c : CodePoint} (hc : c.isSurrogate = false) :
    ∃ a bs, encodeOne c = a :: bs ∧
      bs.foldl Lead.next (Lead.ofOctet false a) = .character c := by
  have hlt := c.isLt
  rw [isSurrogate_eq_false_iff] at hc
  simp only [encodeOne]
  split_ifs with h1 h2 h3
  · refine ⟨_, _, rfl, ?_⟩
    rw [ofOctet_eq, toNat_toUInt8 (by omega), if_pos h1, ofNat_val]
    rfl
  · refine ⟨_, _, rfl, ?_⟩
    rw [ofOctet_eq, toNat_toUInt8 (by omega), if_neg (by omega), if_neg (by omega),
      if_pos (by omega), foldl_next_last]
    refine ⟨_, rfl, ?_⟩
    rw [toNat_toUInt8 (by omega)]
    exact ⟨by omega, by omega, ofNat_eq_of_eq_val (by omega)⟩
  · refine ⟨_, _, rfl, ?_⟩
    rw [ofOctet_eq, toNat_toUInt8 (by omega), if_neg (by omega), if_neg (by omega),
      if_neg (by omega), if_pos (by omega), foldl_next_more]
    refine ⟨_, _, rfl, ?_⟩
    rw [toNat_toUInt8 (by omega), foldl_next_last]
    refine ⟨by unfold leastSecond; split_ifs <;> omega,
      by unfold greatestSecond; split_ifs <;> omega, _, rfl, ?_⟩
    rw [toNat_toUInt8 (by omega)]
    exact ⟨by omega, by omega, ofNat_eq_of_eq_val (by omega)⟩
  · refine ⟨_, _, rfl, ?_⟩
    rw [ofOctet_eq, toNat_toUInt8 (by omega), if_neg (by omega), if_neg (by omega),
      if_neg (by omega), if_neg (by omega), if_pos (by omega), foldl_next_more]
    refine ⟨_, _, rfl, ?_⟩
    rw [toNat_toUInt8 (by omega), foldl_next_more]
    refine ⟨by unfold leastSecond; split_ifs <;> omega,
      by unfold greatestSecond; split_ifs <;> omega, _, _, rfl, ?_⟩
    rw [toNat_toUInt8 (by omega), foldl_next_last]
    refine ⟨by omega, by omega, _, rfl, ?_⟩
    rw [toNat_toUInt8 (by omega)]
    exact ⟨by omega, by omega, ofNat_eq_of_eq_val (by omega)⟩

/-! ## Decoding what was encoded -/

theorem decodeFrom_foldl_next {c : CodePoint} {bs : Bytes} {p : Pending}
    (h : bs.foldl Lead.next (.sequence p) = .character c) (pos : Nat) (read : Text) (first : UInt8)
    (rest : Bytes) :
    decodeFrom false pos read (some (first, p)) (bs ++ rest) =
      decodeFrom false (pos + bs.length) (c :: read) none rest := by
  induction bs generalizing pos p with
  | nil => simp at h
  | cons b bs ih =>
    rw [List.foldl_cons] at h
    simp only [List.cons_append, decodeFrom, List.length_cons]
    cases hp : p.next b with
    | character d =>
      simp only [Lead.next, hp] at h
      obtain ⟨rfl, rfl⟩ := (foldl_next_character _ _ _).mp h
      rfl
    | sequence p' =>
      simp only [Lead.next, hp] at h
      dsimp only
      rw [ih h, Nat.add_assoc, Nat.add_comm 1]
    | none => simp [Lead.next, hp, foldl_next_none] at h

theorem decodeFrom_encodeOne {c : CodePoint} (hc : c.isSurrogate = false) (pos : Nat) (read : Text)
    (rest : Bytes) :
    decodeFrom false pos read none (encodeOne c ++ rest) =
      decodeFrom false (pos + (encodeOne c).length) (c :: read) none rest := by
  obtain ⟨a, bs, he, h⟩ := foldl_next_encodeOne hc
  rw [he]
  simp only [List.cons_append, decodeFrom, List.length_cons]
  cases hl : Lead.ofOctet false a with
  | character d =>
    rw [hl] at h
    obtain ⟨rfl, rfl⟩ := (foldl_next_character _ _ _).mp h
    rfl
  | sequence p =>
    rw [hl] at h
    dsimp only
    rw [decodeFrom_foldl_next h, Nat.add_assoc, Nat.add_comm 1]
  | none => simp [hl, foldl_next_none] at h

/-- After the UTF-8 form of a text the decoder has read that text, and goes on with the rest. -/
theorem decodeFrom_encodeAll_append {t : Text} (ht : t.isWellFormed = true) (pos : Nat)
    (read : Text) (rest : Bytes) :
    decodeFrom false pos read none (encodeAll t ++ rest) =
      decodeFrom false (pos + (encodeAll t).length) (t.reverse ++ read) none rest := by
  induction t generalizing pos read with
  | nil => rfl
  | cons c t ih =>
    simp only [Text.isWellFormed, List.all_cons, Bool.and_eq_true, Bool.not_eq_true'] at ht
    have hrest := ih ht.2 (pos + (encodeOne c).length) (c :: read)
    rw [encodeAll, List.flatMap_cons, List.append_assoc, decodeFrom_encodeOne ht.1, ← encodeAll,
      hrest, List.length_append, Nat.add_assoc, List.reverse_cons, List.append_assoc]
    rfl

theorem decodeFrom_encodeAll {t : Text} (ht : t.isWellFormed = true) (pos : Nat) (read : Text) :
    decodeFrom false pos read none (encodeAll t) = .ok (read.reverse ++ t) := by
  have h := decodeFrom_encodeAll_append ht pos read []
  rw [List.append_nil] at h
  rw [h, decodeFrom, List.reverse_append, List.reverse_reverse]

/-- The octet zero stands for the character zero alone. -/
theorem zero_mem_encodeAll_iff {t : Text} : (0 : UInt8) ∈ encodeAll t ↔ (0 : CodePoint) ∈ t := by
  have hzero : ∀ n < 256, (0 : UInt8) = n.toUInt8 → n = 0 := by
    intro n hn h
    exact ((toUInt8_eq_iff hn).mp h.symm).symm
  have hone : ∀ c : CodePoint, (0 : UInt8) ∈ encodeOne c ↔ c = 0 := by
    intro c
    have hlt := c.isLt
    constructor
    · intro h
      suffices hval : c.val = 0 from Fin.ext hval
      simp only [encodeOne] at h
      split_ifs at h with h1 h2 h3
      · exact hzero _ (by omega) (List.mem_singleton.mp h)
      · simp only [List.mem_cons, List.not_mem_nil, or_false] at h
        obtain h | h := h <;> have := hzero _ (by omega) h <;> omega
      · simp only [List.mem_cons, List.not_mem_nil, or_false] at h
        obtain h | h | h := h <;> have := hzero _ (by omega) h <;> omega
      · simp only [List.mem_cons, List.not_mem_nil, or_false] at h
        obtain h | h | h | h := h <;> have := hzero _ (by omega) h <;> omega
    · rintro rfl
      decide
  simp [encodeAll, hone]

/-! ## Encoding what was decoded -/

/-- The decoder stands after the octets `part` of a character, or between two characters. -/
def Progress.IsAfter (part : Bytes) : Progress → Prop
  | none => part = []
  | some (first, p) => ∃ bs, part = first :: bs ∧
      bs.foldl Lead.next (Lead.ofOctet false first) = .sequence p

theorem Progress.isAfter_none : Progress.IsAfter [] none := rfl

theorem foldl_next_character_ne_sequence (c : CodePoint) (bs : Bytes) (p : Pending) :
    bs.foldl Lead.next (.character c) ≠ .sequence p := by
  cases bs with
  | nil => simp
  | cons b bs => simp [Lead.next, foldl_next_none]

/-- A sequence counts the octets that were taken for it. -/
theorem taken_of_foldl_next {bs : Bytes} {p p' : Pending}
    (h : bs.foldl Lead.next (.sequence p) = .sequence p') : p'.taken = p.taken + bs.length := by
  induction bs generalizing p with
  | nil =>
    cases h
    rfl
  | cons b bs ih =>
    rw [List.foldl_cons, Lead.next] at h
    unfold Pending.next at h
    split_ifs at h with hb hlast
    · exact absurd h (foldl_next_character_ne_sequence _ _ _)
    · rw [ih h, List.length_cons]
      dsimp only
      omega
    · simp [foldl_next_none] at h

theorem taken_of_ofOctet {b : UInt8} {p : Pending} (h : Lead.ofOctet false b = .sequence p) :
    p.taken = 1 := by
  rw [ofOctet_eq] at h
  split_ifs at h <;> cases h <;> rfl

/-- After the octets of a part, that many were taken. -/
theorem Progress.IsAfter.taken_eq {part : Bytes} {first : UInt8} {p : Pending}
    (h : Progress.IsAfter part (some (first, p))) : p.taken = part.length := by
  obtain ⟨bs, rfl, hf⟩ := h
  cases hl : Lead.ofOctet false first with
  | character c =>
    rw [hl] at hf
    exact absurd hf (foldl_next_character_ne_sequence _ _ _)
  | sequence p' =>
    rw [hl] at hf
    rw [taken_of_foldl_next hf, taken_of_ofOctet hl, List.length_cons, Nat.add_comm]
  | none => simp [hl, foldl_next_none] at hf

/-- Octets that begin with no character: the first of them begins none, or those that it begins are
broken off by one that cannot come next, or by the end. -/
inductive Breaks : Bytes → Reason → Prop
  | start {b : UInt8} {rest : Bytes} (h : Lead.ofOctet false b = .none) :
      Breaks (b :: rest) .invalidStart
  | continuation {part : Bytes} {first : UInt8} {p : Pending} {b : UInt8} {rest : Bytes}
      (h : Progress.IsAfter part (some (first, p))) (hb : p.next b = .none) :
      Breaks (part ++ b :: rest) .invalidContinuation
  | finish {part : Bytes} {first : UInt8} {p : Pending}
      (h : Progress.IsAfter part (some (first, p))) : Breaks part .unexpectedEnd

/-- One more octet completes the character that was begun, or is one more octet of it, or can be
neither. -/
theorem decodeFrom_cons {part : Bytes} {progress : Progress} (hp : Progress.IsAfter part progress)
    (b : UInt8) (bs : Bytes) (pos : Nat) (read : Text) :
    (∃ c, c.isSurrogate = false ∧ encodeOne c = part ++ [b] ∧
        decodeFrom false pos read progress (b :: bs) =
          decodeFrom false (pos + 1) (c :: read) none bs) ∨
      (∃ progress', Progress.IsAfter (part ++ [b]) progress' ∧
        decodeFrom false pos read progress (b :: bs) =
          decodeFrom false (pos + 1) read progress' bs) ∨
      ∃ fault, fault.start = pos - part.length ∧ Breaks (part ++ b :: bs) fault.reason ∧
        decodeFrom false pos read progress (b :: bs) = .error fault := by
  cases progress with
  | none =>
    obtain rfl : part = [] := hp
    simp only [decodeFrom]
    cases hl : Lead.ofOctet false b with
    | character c =>
      obtain ⟨hc, he⟩ := encodeOne_of_foldl_next (show List.foldl _ _ [] = _ from hl)
      exact .inl ⟨c, hc, he, rfl⟩
    | sequence p => exact .inr (.inl ⟨some (b, p), ⟨[], rfl, hl⟩, rfl⟩)
    | none => exact .inr (.inr ⟨⟨pos, 1, b, .invalidStart⟩, rfl, .start hl, rfl⟩)
  | some begun =>
    obtain ⟨first, p⟩ := begun
    have htaken := hp.taken_eq
    obtain ⟨bs', rfl, hf⟩ := id hp
    have happend : (bs' ++ [b]).foldl Lead.next (Lead.ofOctet false first) = p.next b := by
      rw [List.foldl_append, hf]
      rfl
    simp only [decodeFrom]
    cases hl : p.next b with
    | character c =>
      rw [hl] at happend
      obtain ⟨hc, he⟩ := encodeOne_of_foldl_next happend
      exact .inl ⟨c, hc, he, rfl⟩
    | sequence p' =>
      rw [hl] at happend
      exact .inr (.inl ⟨some (first, p'), ⟨bs' ++ [b], rfl, happend⟩, rfl⟩)
    | none => exact .inr (.inr ⟨_, by rw [htaken], .continuation hp hl, rfl⟩)

/-- What the decoder still reads is the UTF-8 form of the rest of the text. The induction is on the
octets; `part` are those of a character that was begun before them. -/
theorem eq_encodeAll_of_decodeFrom {bs : Bytes} {pos : Nat} {read t : Text} {part : Bytes}
    {progress : Progress} (hp : Progress.IsAfter part progress)
    (h : decodeFrom false pos read progress bs = .ok t) :
    ∃ u : Text, t = read.reverse ++ u ∧ u.isWellFormed = true ∧ encodeAll u = part ++ bs := by
  induction bs generalizing pos read part progress with
  | nil =>
    cases progress with
    | none =>
      obtain rfl : part = [] := hp
      simp only [decodeFrom, Except.ok.injEq] at h
      exact ⟨[], by simp [h], rfl, rfl⟩
    | some begun => simp [decodeFrom] at h
  | cons b bs ih =>
    obtain ⟨c, hc, he, hstep⟩ | ⟨progress', hp', hstep⟩ | ⟨fault, -, -, hstep⟩ :=
      decodeFrom_cons hp b bs pos read <;> rw [hstep] at h
    · -- the character is the first of the text that is still to come
      obtain ⟨u, rfl, hu, hb⟩ := ih Progress.isAfter_none h
      refine ⟨c :: u, by simp, by simpa [Text.isWellFormed, hc] using hu, ?_⟩
      rw [encodeAll, List.flatMap_cons, ← encodeAll, hb, he]
      simp
    · simpa using ih hp' h
    · cases h

/-- **Strict decoding.** Octets are read as a text exactly when they are its UTF-8 form. -/
theorem decode?_eq_ok_iff {bs : Bytes} {t : Text} :
    decode? bs = .ok t ↔ t.isWellFormed = true ∧ encodeAll t = bs := by
  constructor
  · intro h
    obtain ⟨u, rfl, hu, hb⟩ := eq_encodeAll_of_decodeFrom Progress.isAfter_none h
    exact ⟨hu, hb⟩
  · rintro ⟨ht, rfl⟩
    exact decodeFrom_encodeAll ht 0 []

/-! ## Texts that have octets -/

theorem firstRun_eq_none_iff {ok : CodePoint → Bool} {t : Text} :
    firstRun ok t = none ↔ t.all ok = true := by
  unfold firstRun
  split
  next h => simpa [List.dropWhile_eq_nil_iff] using h
  next c rest h =>
    simp only [reduceCtorEq, false_iff, List.all_eq_true]
    intro hall
    rw [List.dropWhile_eq_nil_iff.mpr hall] at h
    cases h

/-- The run starts at the first code point that fails the test. -/
theorem firstRun_append_cons {ok : CodePoint → Bool} {before after : Text} {c : CodePoint}
    (hbefore : before.all ok = true) (hc : ok c = false) :
    firstRun ok (before ++ c :: after) =
      some ⟨before.length, 1 + (after.takeWhile CodePoint.isSurrogate).length, c⟩ := by
  have hall : ∀ d ∈ before, ok d = true := by simpa using hbefore
  have hstop : ¬ok c = true := by simp [hc]
  unfold firstRun
  rw [List.dropWhile_append_of_pos hall, List.dropWhile_cons_of_neg hstop,
    List.takeWhile_append_of_pos hall, List.takeWhile_cons_of_neg hstop, List.append_nil]

/-- A text that does not pass a test throughout has a first code point that fails it. -/
theorem exists_first_of_not_all {ok : CodePoint → Bool} {t : Text} (h : ¬t.all ok = true) :
    ∃ before c after, t = before ++ c :: after ∧ before.all ok = true ∧ ok c = false := by
  have hdrop : t.dropWhile ok ≠ [] := by
    intro hnil
    exact h (List.all_eq_true.mpr (List.dropWhile_eq_nil_iff.mp hnil))
  refine ⟨t.takeWhile ok, (t.dropWhile ok).head hdrop, (t.dropWhile ok).tail, ?_, ?_, ?_⟩
  · rw [List.cons_head_tail, List.takeWhile_append_dropWhile]
  · exact List.all_takeWhile
  · simpa using List.head_dropWhile_not ok hdrop

/-- A text has a UTF-8 form exactly when no surrogate stands in it. -/
theorem encode?_eq_ok_iff {t : Text} {bs : Bytes} :
    encode? t = .ok bs ↔ t.isWellFormed = true ∧ encodeAll t = bs := by
  unfold encode? Text.isWellFormed
  rw [← firstRun_eq_none_iff]
  split
  next h => simp [h]
  next run h => simp [h]

theorem encode?_eq_error_iff {t : Text} :
    (∃ run, encode? t = .error run) ↔ t.isWellFormed = false := by
  rw [← Bool.not_eq_true]
  cases h : encode? t with
  | ok bs => simp [(encode?_eq_ok_iff.mp h).1]
  | error run =>
    simp only [Except.error.injEq, exists_eq', true_iff]
    intro ht
    rw [encode?_eq_ok_iff.mpr ⟨ht, rfl⟩] at h
    cases h

/-- The run that has no UTF-8 form starts at the first surrogate. -/
theorem encode?_append_cons {before : Text} {c : CodePoint}
    (hbefore : before.isWellFormed = true) (hc : c.isSurrogate = true) (after : Text) :
    ∃ run, encode? (before ++ c :: after) = .error run ∧ run.start = before.length := by
  rw [encode?, firstRun_append_cons hbefore (by simp [hc])]
  exact ⟨_, rfl, rfl⟩

/-- A text without a UTF-8 form has a first surrogate, and the run is of those that stand there side
by side. -/
theorem exists_surrogate_of_encode? {t : Text} {run : Unencodable} (h : encode? t = .error run) :
    ∃ before after, t = before ++ run.first :: after ∧ before.isWellFormed = true ∧
      run.first.isSurrogate = true ∧ run.start = before.length ∧
      run.length = 1 + (after.takeWhile CodePoint.isSurrogate).length := by
  have ht : ¬t.isWellFormed = true := by
    rw [Bool.not_eq_true, ← encode?_eq_error_iff]
    exact ⟨run, h⟩
  obtain ⟨before, c, after, rfl, hbefore, hc⟩ := exists_first_of_not_all ht
  rw [encode?, firstRun_append_cons hbefore hc] at h
  obtain rfl := Except.error.inj h
  exact ⟨before, after, rfl, hbefore, by simpa using hc, rfl, rfl⟩

/-- A surrogate that stands for no octet. -/
def isStray (c : CodePoint) : Bool := c.isSurrogate && !isEscape c

/-- A text in which escapes stand for octets has none exactly when a surrogate that is no escape
stands in it. -/
theorem encodeEscaped?_eq_error_iff {t : Text} :
    (∃ run, encodeEscaped? t = .error run) ↔ t.any isStray = true := by
  have hstray : t.any isStray = !t.all fun c => !c.isSurrogate || isEscape c := by
    rw [List.not_all_eq_any_not]
    congr 1
    funext c
    simp [isStray]
  rw [hstray, Bool.not_eq_true', ← Bool.not_eq_true, ← firstRun_eq_none_iff]
  unfold encodeEscaped?
  split
  next h => simp [h]
  next run h => simp [h]

end Courier.Utf8
