import Courier.Proofs.Text.Grammar
import Courier.Proofs.Text.Pieces

/-!
# Where characters are replaced

Decoding that never fails reads what is UTF-8 as strict decoding does. At the first fault it writes
something in place of some octets and begins anew behind them. How many octets that are can be said
of the grammar alone (`Skips`): as many as begin a character and do not complete it, or one where
none does.

Results:
* `decodePatching_encodeAll_append`: UTF-8 is read as the text that it is the form of.
* `Breaks.exists_skips`: what is put for octets that begin with no character.
* `decodeLossy_of_decode?_eq_ok`, `decodeLossy_of_decode?_eq_error`: lossy decoding beside strict
  decoding, up to the first fault and behind it.
* `encode?_decodeLossy_iff`: only UTF-8 is given back.
-/

namespace Courier.Utf8

/-! ## How many octets are replaced -/

/-- Octets that begin a character and do not complete it. -/
def IsCutOff (part : Bytes) : Prop :=
  part ≠ [] ∧ ∃ (c : CodePoint) (more : Bytes), c.isSurrogate = false ∧ more ≠ [] ∧
    encodeOne c = part ++ more

/-- So many octets, in front of octets that begin with no character, are replaced together: the
longest part that is cut off, or a single octet where there is no such part. -/
inductive Skips (bs : Bytes) : Nat → Prop
  | cutOff {k : Nat} (hk : k ≤ bs.length) (hcut : IsCutOff (bs.take k))
      (hlongest : ∀ n ≤ bs.length, IsCutOff (bs.take n) → n ≤ k) : Skips bs k
  | single (hno : ∀ n, ¬IsCutOff (bs.take n)) : Skips bs 1

theorem IsCutOff.exists_isSequence {part : Bytes} (h : IsCutOff part) :
    ∃ more, IsSequence (part ++ more) := by
  obtain ⟨-, c, more, hc, -, he⟩ := h
  exact ⟨more, isSequence_iff.mpr ⟨c, hc, he⟩⟩

/-- What the decoder has taken of a character is cut off there. -/
theorem Progress.IsAfter.isCutOff {part : Bytes} {first : UInt8} {p : Pending}
    (h : Progress.IsAfter part (some (first, p))) : IsCutOff part := by
  obtain ⟨more, hmore⟩ := h.exists_isSequence
  obtain ⟨c, hc, he⟩ := isSequence_iff.mp hmore
  refine ⟨?_, c, more, hc, ?_, he⟩
  · obtain ⟨bs, rfl, -⟩ := h
    exact List.cons_ne_nil _ _
  · rintro rfl
    rw [List.append_nil] at hmore
    rw [← List.append_nil part] at h
    exact hmore.not_append_of_isAfter h

/-- No character goes on after an octet that breaks one off. -/
theorem Progress.IsAfter.not_isCutOff_append_cons {part : Bytes} {first : UInt8} {p : Pending}
    (h : Progress.IsAfter part (some (first, p))) {b : UInt8} (hb : p.next b = .none)
    (rest : Bytes) : ¬IsCutOff (part ++ b :: rest) := by
  intro hcut
  obtain ⟨more, hmore⟩ := hcut.exists_isSequence
  rw [List.append_assoc, List.cons_append] at hmore
  have hbreaks : Breaks (part ++ b :: (rest ++ more) ++ []) .invalidContinuation := by
    rw [List.append_nil]
    exact .continuation h hb
  exact hbreaks.not_isSequence hmore

/-- An octet that begins no character is replaced alone. -/
theorem skips_of_ofOctet {b : UInt8} (h : Lead.ofOctet false b = .none) (rest : Bytes) :
    Skips (b :: rest) 1 := by
  refine .single fun n hcut => ?_
  obtain ⟨more, hmore⟩ := hcut.exists_isSequence
  cases n with
  | zero => exact hcut.1 rfl
  | succ n =>
    have hbreaks : Breaks (b :: (rest.take n ++ more) ++ []) .invalidStart := .start h
    exact hbreaks.not_isSequence hmore

/-- A part that is broken off by an octet, or by the end, is replaced as a whole. -/
theorem skips_of_isAfter {part : Bytes} {first : UInt8} {p : Pending}
    (h : Progress.IsAfter part (some (first, p))) {rest : Bytes}
    (hrest : ∀ b ∈ rest.head?, p.next b = .none) : Skips (part ++ rest) part.length := by
  refine .cutOff (by simp) (by simpa using h.isCutOff) fun n hn hcut => ?_
  by_contra hlt
  cases rest with
  | nil =>
    rw [List.append_nil] at hn
    omega
  | cons b rest =>
    -- a longer part would go on with the octet that breaks this one off
    obtain ⟨k, rfl⟩ : ∃ k, n = part.length + (k + 1) := ⟨n - part.length - 1, by omega⟩
    rw [List.take_length_add_append, List.take_succ_cons] at hcut
    exact h.not_isCutOff_append_cons (hrest b rfl) (rest.take k) hcut

/-! ## Reading with patches -/

variable (patch : Bytes → Text)

/-- What was read before stays in front. -/
theorem decodePatching_eq_append (read : Text) (bs : Bytes) :
    decodePatching patch read none bs = read.reverse ++ decodePatching patch [] none bs := by
  have hstart : IsBegun none := trivial
  obtain ⟨pieces, -, -, htext⟩ := exists_pieces_of_isBegun bs hstart
  rw [htext, htext]
  rfl

/-- The octets of a sequence are gathered until it is complete. The induction is on the octets. -/
theorem decodePatching_gather {bs : Bytes} {p p' : Pending}
    (h : bs.foldl Lead.next (.sequence p) = .sequence p') (read : Text) (part rest : Bytes) :
    decodePatching patch read (some (part, p)) (bs ++ rest) =
      decodePatching patch read (some (part ++ bs, p')) rest := by
  induction bs generalizing part p with
  | nil =>
    cases h
    rw [List.append_nil]
    rfl
  | cons b bs ih =>
    rw [List.foldl_cons, Lead.next] at h
    cases hl : p.next b with
    | character c =>
      -- the sequence would be complete before all octets are gathered
      rw [hl] at h
      exact absurd h (foldl_next_character_ne_sequence _ _ _)
    | sequence next =>
      rw [hl] at h
      have hstep := ih h (part ++ [b])
      rw [List.append_assoc, List.singleton_append] at hstep
      rw [← hstep]
      simp only [List.cons_append, decodePatching, hl]
    | none => simp [hl, foldl_next_none] at h

/-- Between two characters the decoder gathers what a character begins with. -/
theorem decodePatching_of_isAfter {part : Bytes} {first : UInt8} {p : Pending}
    (h : Progress.IsAfter part (some (first, p))) (read : Text) (rest : Bytes) :
    decodePatching patch read none (part ++ rest) =
      decodePatching patch read (some (part, p)) rest := by
  obtain ⟨begun, bs, rfl, hfirst, hf⟩ := h.exists_ofOctet
  have hgather := decodePatching_gather patch hf read [first] rest
  simpa only [List.cons_append, List.nil_append, decodePatching, hfirst] using hgather

/-- The octets of a character are all but the last one gathered, and with that it is complete. -/
theorem exists_last_of_encodeOne {c : CodePoint} (hc : c.isSurrogate = false) :
    (∃ a, encodeOne c = [a] ∧ Lead.ofOctet false a = .character c) ∨
      ∃ part first p b, encodeOne c = part ++ [b] ∧ Progress.IsAfter part (some (first, p)) ∧
        p.next b = .character c := by
  obtain ⟨a, bs, he, hread⟩ := foldl_next_encodeOne hc
  obtain rfl | ⟨init, b, rfl⟩ := List.eq_nil_or_concat' bs
  · exact .inl ⟨a, he, hread⟩
  · rw [List.foldl_append, List.foldl_cons, List.foldl_nil] at hread
    cases hl : init.foldl Lead.next (Lead.ofOctet false a) with
    | character d => simp [hl, Lead.next] at hread
    | sequence p =>
      rw [hl] at hread
      exact .inr ⟨a :: init, a, p, b, by simpa using he, ⟨init, rfl, hl⟩, hread⟩
    | none => simp [hl, Lead.next] at hread

theorem decodePatching_encodeOne {c : CodePoint} (hc : c.isSurrogate = false) (read : Text)
    (rest : Bytes) :
    decodePatching patch read none (encodeOne c ++ rest) =
      decodePatching patch (c :: read) none rest := by
  obtain ⟨a, he, ha⟩ | ⟨part, first, p, b, he, hpart, hb⟩ := exists_last_of_encodeOne hc
  · simp only [he, List.singleton_append, decodePatching, ha]
  · rw [he, List.append_assoc, decodePatching_of_isAfter patch hpart]
    simp only [List.singleton_append, decodePatching, hb]

/-- UTF-8 is read as the text that it is the form of, whatever comes after it. -/
theorem decodePatching_encodeAll_append {t : Text} (ht : t.isWellFormed = true) (read : Text)
    (rest : Bytes) :
    decodePatching patch read none (encodeAll t ++ rest) =
      decodePatching patch (t.reverse ++ read) none rest := by
  induction t generalizing read with
  | nil => rfl
  | cons c t ih =>
    simp only [Text.isWellFormed, List.all_cons, Bool.and_eq_true, Bool.not_eq_true'] at ht
    rw [encodeAll, List.flatMap_cons, List.append_assoc, decodePatching_encodeOne patch ht.1,
      ← encodeAll, ih ht.2, List.reverse_cons, List.append_assoc]
    rfl

/-- For octets that begin with no character a patch is written, and behind those that it stands for
decoding begins anew. -/
theorem Breaks.exists_skips {bs : Bytes} {reason : Reason} (h : Breaks bs reason) :
    ∃ k, Skips bs k ∧ ∀ patch read, decodePatching patch read none bs =
      decodePatching patch ((patch (bs.take k)).reverse ++ read) none (bs.drop k) := by
  cases h with
  | @start b rest h =>
    refine ⟨1, skips_of_ofOctet h rest, fun patch read => ?_⟩
    simp only [decodePatching, h, List.take_succ_cons, List.take_zero, List.drop_succ_cons,
      List.drop_zero]
  | @continuation part first p b rest h hb =>
    refine ⟨part.length, skips_of_isAfter h (by simpa using hb), fun patch read => ?_⟩
    rw [decodePatching_of_isAfter patch h, List.take_left, List.drop_left]
    simp only [decodePatching, hb]
  | finish h =>
    have hskips : Skips (bs ++ []) bs.length := skips_of_isAfter h (by simp)
    rw [List.append_nil] at hskips
    refine ⟨bs.length, hskips, fun patch read => ?_⟩
    have hgather := decodePatching_of_isAfter patch h read []
    rw [List.append_nil] at hgather
    rw [hgather, List.take_length, List.drop_length]
    rfl

/-! ## Lossy decoding -/

/-- Where there is no fault, lossy decoding reads what strict decoding does. -/
theorem decodeLossy_of_decode?_eq_ok {bs : Bytes} {t : Text} (h : decode? bs = .ok t) :
    decodeLossy bs = t :=
  decodePatching_of_decodeFrom _ rfl h

/-- **Behind a fault.** Up to the first fault lossy decoding reads what strict decoding does; then
it writes one U+FFFD for as many octets as are replaced together, and reads on behind them. -/
theorem decodeLossy_of_decode?_eq_error {bs : Bytes} {fault : Undecodable}
    (h : decode? bs = .error fault) :
    ∃ t k, decode? (bs.take fault.start) = .ok t ∧ Skips (bs.drop fault.start) k ∧
      decodeLossy bs =
        t ++ CodePoint.replacement :: decodeLossy (bs.drop (fault.start + k)) := by
  obtain ⟨good, bad, rfl, hgood, hbad, hstart⟩ := exists_breaks_of_decode? h
  obtain ⟨t, ht, rfl⟩ := isUtf8_iff.mp hgood
  obtain ⟨k, hskips, hread⟩ := hbad.exists_skips
  refine ⟨t, k, ?_, ?_, ?_⟩
  · rw [hstart, List.take_left]
    exact decode?_eq_ok_iff.mpr ⟨ht, rfl⟩
  · rw [hstart, List.drop_left]
    exact hskips
  · rw [hstart, List.drop_length_add_append, decodeLossy, decodePatching_encodeAll_append _ ht,
      hread, decodePatching_eq_append]
    simp [decodeLossy]

/-- Two octets begin a character that the third one does not go on with; they are replaced together,
and the third is read. -/
example : decodeLossy [0x61, 0xF0, 0x90, 0x41] = [0x61, 0xFFFD, 0x41] := by decide

/-- Octets are given back by the text that is read of them exactly if they are UTF-8. -/
theorem encode?_decodeLossy_iff {bs : Bytes} :
    encode? (decodeLossy bs) = .ok bs ↔ IsUtf8 bs := by
  rw [encode?_eq_ok_iff]
  constructor
  · rintro ⟨ht, hbs⟩
    exact isUtf8_iff.mpr ⟨_, ht, hbs⟩
  · intro h
    obtain ⟨t, ht⟩ := exists_decode?_eq_ok_iff.mpr h
    rw [decodeLossy_of_decode?_eq_ok ht]
    exact decode?_eq_ok_iff.mp ht

end Courier.Utf8
