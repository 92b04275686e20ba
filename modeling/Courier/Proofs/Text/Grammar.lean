import Courier.Proofs.Text.Utf8

/-!
# The grammar of UTF-8

Which octets are UTF-8 can be said without a decoder: they are sequences of one to four octets, one
after another, where the first octet of a sequence tells its length and bounds the second one. The
decoder takes exactly these, and what it says of the first fault is said here of the grammar.

Results:
* `isUtf8_iff`, `exists_decode?_eq_ok_iff`: the octets of the grammar are those that are read.
* `exists_breaks_of_decode?`: around the first fault, what is UTF-8 ends and begins with no
  character.
* `Refused.of_decode?`: where the first fault is, and when each reason is given.
-/

namespace Courier.Utf8

/-! ## The grammar -/

/-- An octet that goes on with a sequence. -/
def IsTail (b : UInt8) : Prop := 0x80 ≤ b.toNat ∧ b.toNat ≤ 0xBF

/-- The sequences of octets for one character. Bounds on the second octet leave out forms that are
longer than need be, surrogates, and numbers beyond the last code point. -/
inductive IsSequence : Bytes → Prop
  | one {a : UInt8} (ha : a.toNat ≤ 0x7F) : IsSequence [a]
  | two {a b : UInt8} (ha : 0xC2 ≤ a.toNat ∧ a.toNat ≤ 0xDF) (hb : IsTail b) : IsSequence [a, b]
  | three {a b c : UInt8} (ha : 0xE0 ≤ a.toNat ∧ a.toNat ≤ 0xEF) (hb : IsTail b)
      (hlong : a.toNat = 0xE0 → 0xA0 ≤ b.toNat) (hsurrogate : a.toNat = 0xED → b.toNat ≤ 0x9F)
      (hc : IsTail c) : IsSequence [a, b, c]
  | four {a b c d : UInt8} (ha : 0xF0 ≤ a.toNat ∧ a.toNat ≤ 0xF4) (hb : IsTail b)
      (hlong : a.toNat = 0xF0 → 0x90 ≤ b.toNat) (hbeyond : a.toNat = 0xF4 → b.toNat ≤ 0x8F)
      (hc : IsTail c) (hd : IsTail d) : IsSequence [a, b, c, d]

/-- Octets that are sequences, one after another. -/
inductive IsUtf8 : Bytes → Prop
  | nil : IsUtf8 []
  | append {part rest : Bytes} (h : IsSequence part) (hrest : IsUtf8 rest) : IsUtf8 (part ++ rest)

/-! ## The octets of characters -/

theorem IsSequence.exists_encodeOne {bs : Bytes} (h : IsSequence bs) :
    ∃ c : CodePoint, c.isSurrogate = false ∧ encodeOne c = bs := by
  cases h with
  | one ha => exact ⟨_, encodeOne_one (by omega)⟩
  | two ha hb => exact ⟨_, encodeOne_two rfl ha.1 (by omega) hb.1 hb.2⟩
  | @three a b _ ha hb hlong hsurrogate hc =>
    have hleast : leastSecond a.toNat ≤ b.toNat := by
      unfold leastSecond
      split_ifs with h1 h2
      · exact hlong h1
      · omega
      · exact hb.1
    have hgreatest : b.toNat ≤ greatestSecond a.toNat := by
      unfold greatestSecond
      split_ifs with h1 h2
      · exact hsurrogate h1
      · omega
      · exact hb.2
    exact ⟨_, encodeOne_three rfl ha.1 (by omega) hleast hgreatest hc.1 hc.2⟩
  | @four a b _ _ ha hb hlong hbeyond hc hd =>
    have hleast : leastSecond a.toNat ≤ b.toNat := by
      unfold leastSecond
      split_ifs with h1 h2
      · omega
      · exact hlong h2
      · exact hb.1
    have hgreatest : b.toNat ≤ greatestSecond a.toNat := by
      unfold greatestSecond
      split_ifs with h1 h2
      · omega
      · exact hbeyond h2
      · exact hb.2
    exact ⟨_, encodeOne_four rfl ha.1 (by omega) hleast hgreatest hc.1 hc.2 hd.1 hd.2⟩

theorem isSequence_encodeOne {c : CodePoint} (hc : c.isSurrogate = false) :
    IsSequence (encodeOne c) := by
  have hlt := c.isLt
  rw [isSurrogate_eq_false_iff] at hc
  have htail : ∀ n, IsTail (0x80 + n % 0x40).toUInt8 := by
    intro n
    rw [IsTail, toNat_toUInt8 (by omega)]
    omega
  simp only [encodeOne]
  split_ifs with h1 h2 h3
  · refine .one ?_
    rw [toNat_toUInt8 (by omega)]
    omega
  · refine .two ?_ (htail _)
    rw [toNat_toUInt8 (by omega)]
    omega
  · refine .three ?_ (htail _) ?_ ?_ (htail _) <;>
      rw [toNat_toUInt8 (by omega)]
    · omega
    · rw [toNat_toUInt8 (by omega)]
      omega
    · rw [toNat_toUInt8 (by omega)]
      omega
  · refine .four ?_ (htail _) ?_ ?_ (htail _) (htail _) <;>
      rw [toNat_toUInt8 (by omega)]
    · omega
    · rw [toNat_toUInt8 (by omega)]
      omega
    · rw [toNat_toUInt8 (by omega)]
      omega

/-- The sequences of the grammar are the UTF-8 forms of characters. -/
theorem isSequence_iff {bs : Bytes} :
    IsSequence bs ↔ ∃ c : CodePoint, c.isSurrogate = false ∧ encodeOne c = bs := by
  constructor
  · exact IsSequence.exists_encodeOne
  · rintro ⟨c, hc, rfl⟩
    exact isSequence_encodeOne hc

/-- The octets of the grammar are the UTF-8 forms of texts. -/
theorem isUtf8_iff {bs : Bytes} :
    IsUtf8 bs ↔ ∃ t : Text, t.isWellFormed = true ∧ encodeAll t = bs := by
  constructor
  · intro h
    induction h with
    | nil => exact ⟨[], rfl, rfl⟩
    | append hpart _ ih =>
      obtain ⟨c, hc, rfl⟩ := isSequence_iff.mp hpart
      obtain ⟨t, ht, rfl⟩ := ih
      exact ⟨c :: t, by simpa [Text.isWellFormed, hc] using ht, List.flatMap_cons⟩
  · rintro ⟨t, ht, rfl⟩
    induction t with
    | nil => exact .nil
    | cons c t ih =>
      simp only [Text.isWellFormed, List.all_cons, Bool.and_eq_true, Bool.not_eq_true'] at ht
      rw [encodeAll, List.flatMap_cons]
      exact .append (isSequence_encodeOne ht.1) (ih ht.2)

theorem exists_decode?_eq_ok_iff {bs : Bytes} : (∃ t, decode? bs = .ok t) ↔ IsUtf8 bs := by
  simp only [isUtf8_iff, decode?_eq_ok_iff]

theorem IsUtf8.concat {bs bs' : Bytes} (h : IsUtf8 bs) (h' : IsUtf8 bs') : IsUtf8 (bs ++ bs') := by
  induction h with
  | nil => exact h'
  | append hpart _ ih =>
    rw [List.append_assoc]
    exact .append hpart ih

/-- After UTF-8 the rest is UTF-8 again. -/
theorem IsUtf8.of_append {bs rest : Bytes} (h : IsUtf8 bs) (hall : IsUtf8 (bs ++ rest)) :
    IsUtf8 rest := by
  obtain ⟨t, ht, rfl⟩ := isUtf8_iff.mp h
  obtain ⟨u, hu⟩ := exists_decode?_eq_ok_iff.mpr hall
  rw [decode?, decodeFrom_encodeAll_append ht] at hu
  obtain ⟨v, -, hv, hrest⟩ := eq_encodeAll_of_decodeFrom Progress.isAfter_none hu
  exact isUtf8_iff.mpr ⟨v, hv, hrest⟩

/-! ## Octets that begin with no character -/

/-- The decoder reads a sequence of the grammar as a character. -/
theorem IsSequence.exists_foldl_next {bs : Bytes} (h : IsSequence bs) :
    ∃ a rest c, bs = a :: rest ∧ rest.foldl Lead.next (Lead.ofOctet false a) = .character c := by
  obtain ⟨c, hc, rfl⟩ := isSequence_iff.mp h
  obtain ⟨a, rest, hbs, hread⟩ := foldl_next_encodeOne hc
  exact ⟨a, rest, c, hbs, hread⟩

/-- The octets of a part that is no character yet do not begin with a character. -/
theorem IsSequence.not_append_of_isAfter {part rest : Bytes} {first : UInt8} {p : Pending}
    (hpart : IsSequence part) (h : Progress.IsAfter (part ++ rest) (some (first, p))) : False := by
  obtain ⟨a, bs, c, rfl, hread⟩ := hpart.exists_foldl_next
  obtain ⟨all, hall, hf⟩ := h
  rw [List.cons_append] at hall
  obtain ⟨rfl, rfl⟩ := List.cons_eq_cons.mp hall
  rw [List.foldl_append, hread] at hf
  exact foldl_next_character_ne_sequence _ _ _ hf

theorem Breaks.ne_nil {bs : Bytes} {reason : Reason} (h : Breaks bs reason) : bs ≠ [] := by
  cases h with
  | start h => simp
  | continuation h hb => simp
  | finish h =>
    obtain ⟨bs, rfl, -⟩ := h
    simp

/-- Octets that break begin with no sequence of the grammar. -/
theorem Breaks.not_isSequence {part rest : Bytes} {reason : Reason}
    (h : Breaks (part ++ rest) reason) : ¬IsSequence part := by
  intro hpart
  generalize hall : part ++ rest = bs at h
  cases h with
  | start h =>
    obtain ⟨a, bs, c, rfl, hread⟩ := hpart.exists_foldl_next
    obtain ⟨rfl, -⟩ := List.cons_eq_cons.mp hall
    rw [h, foldl_next_none] at hread
    cases hread
  | finish h =>
    rw [← hall] at h
    exact hpart.not_append_of_isAfter h
  | @continuation begun first p b more h hb =>
    -- the sequence ends before the octet that breaks, or takes it
    obtain ⟨rest', rfl, -⟩ | ⟨rest', rfl, htail⟩ := List.append_eq_append_iff.mp hall
    · exact hpart.not_append_of_isAfter h
    · cases rest' with
      | nil =>
        rw [List.append_nil] at hpart
        rw [← List.append_nil begun] at h
        exact hpart.not_append_of_isAfter h
      | cons b' rest' =>
        obtain ⟨rfl, -⟩ := List.cons_eq_cons.mp htail
        obtain ⟨a, bs, c, hbs, hread⟩ := hpart.exists_foldl_next
        obtain ⟨own, rfl, hf⟩ := h
        rw [List.cons_append] at hbs
        obtain ⟨rfl, rfl⟩ := List.cons_eq_cons.mp hbs
        rw [List.foldl_append, hf, List.foldl_cons, Lead.next, hb, foldl_next_none] at hread
        cases hread

theorem Breaks.not_isUtf8 {bs : Bytes} {reason : Reason} (h : Breaks bs reason) : ¬IsUtf8 bs := by
  intro hbs
  cases hbs with
  | nil => exact h.ne_nil rfl
  | append hpart _ => exact h.not_isSequence hpart

/-- Octets that break before the end do so whatever comes after them. -/
theorem Breaks.append {bs : Bytes} {reason : Reason} (h : Breaks bs reason)
    (hreason : reason ≠ .unexpectedEnd) (more : Bytes) : Breaks (bs ++ more) reason := by
  cases h with
  | start h => exact .start h
  | continuation h hb =>
    rw [List.append_assoc]
    exact .continuation h hb
  | finish h => exact absurd rfl hreason

/-! ## Completing what was begun -/

/-- A sequence in progress owes an octet, and there is one that may come next. -/
def Pending.IsOpen (p : Pending) : Prop := 1 ≤ p.owed ∧ p.low ≤ p.high ∧ p.high < 256

theorem isOpen_of_ofOctet {b : UInt8} {p : Pending} (h : Lead.ofOctet false b = .sequence p) :
    p.IsOpen := by
  have hbounds : leastSecond b.toNat ≤ greatestSecond b.toNat ∧ greatestSecond b.toNat < 256 := by
    unfold leastSecond greatestSecond
    split_ifs <;> omega
  rw [ofOctet_eq] at h
  split_ifs at h <;> cases h
  · exact ⟨le_rfl, by simp⟩
  · exact ⟨by simp, hbounds⟩
  · exact ⟨by simp, hbounds⟩

theorem isOpen_of_next {p p' : Pending} {b : UInt8} (h : p.next b = .sequence p') : p'.IsOpen := by
  unfold Pending.next at h
  split_ifs at h with hb hlast
  cases h
  exact ⟨by dsimp only; omega, by simp⟩

theorem isOpen_of_foldl_next {bs : Bytes} {p p' : Pending} (hp : p.IsOpen)
    (h : bs.foldl Lead.next (.sequence p) = .sequence p') : p'.IsOpen := by
  induction bs generalizing p with
  | nil =>
    cases h
    exact hp
  | cons b bs ih =>
    rw [List.foldl_cons, Lead.next] at h
    cases hl : p.next b with
    | character c =>
      rw [hl] at h
      exact absurd h (foldl_next_character_ne_sequence _ _ _)
    | sequence next =>
      rw [hl] at h
      exact ih (isOpen_of_next hl) h
    | none => simp [hl, foldl_next_none] at h

/-- The sequence after some octets of a character was begun by the first of them. -/
theorem Progress.IsAfter.exists_ofOctet {part : Bytes} {first : UInt8} {p : Pending}
    (h : Progress.IsAfter part (some (first, p))) :
    ∃ begun bs, part = first :: bs ∧ Lead.ofOctet false first = .sequence begun ∧
      bs.foldl Lead.next (.sequence begun) = .sequence p := by
  obtain ⟨bs, rfl, hf⟩ := h
  cases hl : Lead.ofOctet false first with
  | character c =>
    rw [hl] at hf
    exact absurd hf (foldl_next_character_ne_sequence _ _ _)
  | sequence begun =>
    rw [hl] at hf
    exact ⟨begun, bs, rfl, rfl, hf⟩
  | none => simp [hl, foldl_next_none] at hf

theorem Pending.IsOpen.exists_completion {p : Pending} (h : p.IsOpen) :
    ∃ (more : Bytes) (c : CodePoint), more.foldl Lead.next (.sequence p) = .character c := by
  obtain ⟨owed, low, high, value, taken⟩ := p
  obtain ⟨howed, hrange, hoctet⟩ := h
  dsimp only at howed hrange hoctet
  induction owed generalizing low high value taken with
  | zero => omega
  | succ owed ih =>
    have hlow : low.toUInt8.toNat = low := toNat_toUInt8 (by omega)
    cases owed with
    | zero => exact ⟨[low.toUInt8], _, next_last (by omega) (by omega)⟩
    | succ owed =>
      obtain ⟨more, c, hmore⟩ := ih 0x80 0xBF (value * 0x40 + low.toUInt8.toNat % 0x40) (taken + 1)
        (by omega) (by omega) (by omega)
      refine ⟨low.toUInt8 :: more, c, ?_⟩
      rw [List.foldl_cons, Lead.next, next_more (by omega) (by omega)]
      exact hmore

/-- What was begun can be completed to a character. -/
theorem Progress.IsAfter.exists_isSequence {part : Bytes} {first : UInt8} {p : Pending}
    (h : Progress.IsAfter part (some (first, p))) : ∃ more, IsSequence (part ++ more) := by
  obtain ⟨begun, bs, rfl, hfirst, hf⟩ := h.exists_ofOctet
  obtain ⟨more, c, hmore⟩ :=
    (isOpen_of_foldl_next (isOpen_of_ofOctet hfirst) hf).exists_completion
  have hread : (bs ++ more).foldl Lead.next (Lead.ofOctet false first) = .character c := by
    rw [List.foldl_append, hfirst, hf, hmore]
  obtain ⟨hc, he⟩ := encodeOne_of_foldl_next hread
  exact ⟨more, isSequence_iff.mpr ⟨c, hc, he⟩⟩

/-! ## The first fault -/

/-- What is still to be read is UTF-8 up to octets that begin with no character. The induction is on
the octets; `part` are those of a character that was begun before them. -/
theorem exists_breaks_of_decodeFrom {bs : Bytes} {pos : Nat} {read : Text} {part : Bytes}
    {progress : Progress} {fault : Undecodable} (hp : Progress.IsAfter part progress)
    (hpos : part.length ≤ pos) (h : decodeFrom false pos read progress bs = .error fault) :
    ∃ good bad, part ++ bs = good ++ bad ∧ IsUtf8 good ∧ Breaks bad fault.reason ∧
      fault.start + part.length = pos + good.length := by
  induction bs generalizing pos read part progress with
  | nil =>
    cases progress with
    | none => cases h
    | some begun =>
      obtain ⟨first, p⟩ := begun
      cases h
      refine ⟨[], part, by simp, .nil, .finish hp, ?_⟩
      dsimp only
      rw [hp.taken_eq, List.length_nil]
      omega
  | cons b bs ih =>
    obtain ⟨c, hc, he, hstep⟩ | ⟨progress', hp', hstep⟩ | ⟨fault', hstart, hbreaks, hstep⟩ :=
      decodeFrom_cons hp b bs pos read <;> rw [hstep] at h
    · obtain ⟨good, bad, rfl, hgood, hbad, hlength⟩ := ih Progress.isAfter_none (Nat.zero_le _) h
      have hpart : IsSequence (part ++ [b]) := isSequence_iff.mpr ⟨c, hc, he⟩
      refine ⟨part ++ [b] ++ good, bad, by simp, .append hpart hgood, hbad, ?_⟩
      simp only [List.length_append, List.length_singleton, List.length_nil] at hlength ⊢
      omega
    · obtain ⟨good, bad, hall, hgood, hbad, hlength⟩ := ih hp' (by simpa using hpos) h
      refine ⟨good, bad, by rw [← hall]; simp, hgood, hbad, ?_⟩
      simp only [List.length_append, List.length_singleton] at hlength
      omega
    · cases h
      refine ⟨[], _, rfl, .nil, hbreaks, ?_⟩
      rw [hstart, List.length_nil]
      omega

/-- Octets that are not read are UTF-8 up to the place of the fault, where octets stand that begin
with no character. -/
theorem exists_breaks_of_decode? {bs : Bytes} {fault : Undecodable}
    (h : decode? bs = .error fault) :
    ∃ good bad, bs = good ++ bad ∧ IsUtf8 good ∧ Breaks bad fault.reason ∧
      fault.start = good.length := by
  obtain ⟨good, bad, hall, hgood, hbad, hlength⟩ :=
    exists_breaks_of_decodeFrom Progress.isAfter_none (Nat.zero_le _) h
  exact ⟨good, bad, hall, hgood, hbad, by simpa using hlength⟩

/-- Octets are refused at a place for a reason: up to that place they are UTF-8, and no more of them
are; the reason says whether octets could come after them, and whether the one at that place begins
any sequence. -/
structure Refused (bs : Bytes) (place : Nat) (reason : Reason) : Prop where
  lt_length : place < bs.length
  isUtf8_take : IsUtf8 (bs.take place)
  le_of_isUtf8_take : ∀ n ≤ bs.length, IsUtf8 (bs.take n) → n ≤ place
  unexpectedEnd_iff : reason = .unexpectedEnd ↔ ∃ more, IsUtf8 (bs ++ more)
  invalidStart_iff : reason = .invalidStart ↔
    ∃ b, bs[place]? = some b ∧ ∀ rest, ¬IsSequence (b :: rest)

/-- Octets that break can be completed only where they break at the end. -/
theorem Breaks.unexpectedEnd_iff {bs : Bytes} {reason : Reason} (h : Breaks bs reason) :
    reason = .unexpectedEnd ↔ ∃ more, IsUtf8 (bs ++ more) := by
  constructor
  · rintro rfl
    cases h with
    | finish h =>
      obtain ⟨more, hmore⟩ := h.exists_isSequence
      refine ⟨more, ?_⟩
      rw [← List.append_nil (bs ++ more)]
      exact .append hmore .nil
  · rintro ⟨more, hmore⟩
    by_contra hreason
    exact (h.append hreason more).not_isUtf8 hmore

/-- The first octet of those that break begins no sequence exactly where that is the reason. -/
theorem Breaks.invalidStart_iff {b : UInt8} {bs : Bytes} {reason : Reason}
    (h : Breaks (b :: bs) reason) :
    reason = .invalidStart ↔ ∀ rest, ¬IsSequence (b :: rest) := by
  -- where the octet has begun a sequence, it begins one that is complete
  have hbegun : ∀ {part : Bytes} {first : UInt8} {p : Pending} {more : Bytes},
      Progress.IsAfter part (some (first, p)) → b :: bs = part ++ more →
        ∃ rest, IsSequence (b :: rest) := by
    intro part first p more hpart hall
    obtain ⟨rest, hrest⟩ := hpart.exists_isSequence
    obtain ⟨own, rfl, -⟩ := hpart
    obtain ⟨rfl, -⟩ := List.cons_eq_cons.mp hall
    exact ⟨own ++ rest, hrest⟩
  constructor
  · rintro rfl rest hrest
    generalize hall : b :: bs = all at h
    cases h with
    | start h =>
      obtain ⟨rfl, -⟩ := List.cons_eq_cons.mp hall
      have hbreaks : Breaks (b :: rest ++ []) .invalidStart := .start h
      exact hbreaks.not_isSequence hrest
  · intro hno
    generalize hall : b :: bs = all at h
    cases h with
    | start h => rfl
    | continuation h hb =>
      obtain ⟨rest, hrest⟩ := hbegun h hall
      exact absurd hrest (hno rest)
    | finish h =>
      obtain ⟨rest, hrest⟩ := hbegun h (hall.trans (List.append_nil _).symm)
      exact absurd hrest (hno rest)

/-- **The first fault.** It is found where what is UTF-8 ends, and its reason says what is wrong
with the octets there. -/
theorem Refused.of_decode? {bs : Bytes} {fault : Undecodable} (h : decode? bs = .error fault) :
    Refused bs fault.start fault.reason := by
  obtain ⟨good, bad, rfl, hgood, hbad, hstart⟩ := exists_breaks_of_decode? h
  obtain ⟨b, rest, rfl⟩ := List.exists_cons_of_ne_nil hbad.ne_nil
  rw [hstart]
  constructor
  case lt_length => simp
  case isUtf8_take => rwa [List.take_left]
  case le_of_isUtf8_take =>
    intro n hn htake
    by_contra hlt
    -- a longer prefix would begin with a sequence where the octets break
    rw [List.take_append, List.take_of_length_le (by omega)] at htake
    have hrest := hgood.of_append htake
    generalize hk : n - good.length = k at hrest
    generalize hprefix : (b :: rest).take k = front at hrest
    cases hrest with
    | nil => simp [List.take_eq_nil_iff] at hprefix; omega
    | @append part more hpart _ =>
      have hall : Breaks (part ++ (more ++ (b :: rest).drop k)) fault.reason := by
        rw [← List.append_assoc, ← hprefix, List.take_append_drop]
        exact hbad
      exact hall.not_isSequence hpart
  case unexpectedEnd_iff =>
    rw [hbad.unexpectedEnd_iff]
    constructor
    · rintro ⟨more, hmore⟩
      exact ⟨more, by rw [List.append_assoc]; exact hgood.concat hmore⟩
    · rintro ⟨more, hmore⟩
      rw [List.append_assoc] at hmore
      exact ⟨more, hgood.of_append hmore⟩
  case invalidStart_iff =>
    rw [hbad.invalidStart_iff]
    simp

end Courier.Utf8
