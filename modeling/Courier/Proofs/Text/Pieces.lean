import Courier.Proofs.Text.WellFormed
import Courier.Proofs.Text.Utf8
import Mathlib.Data.List.Basic

/-!
# What decoding that never fails makes of octets

Any octets fall into pieces: the UTF-8 forms of characters, and broken parts between them. Decoding
that never fails writes down every character and puts something else for every broken part, so all
that there is to say about it is said of single pieces.

Results:
* `exists_pieces`: the pieces of octets, the same for whatever is put for the broken parts.
* `isWellFormed_decodeLossy`: with U+FFFD for each broken part, no surrogate is read.
* `encodeEscaped?_decodeEscaped`: with an escape for each octet of a broken part, the octets can be
  given back, and by `encodeEscaped?_append` also where the text stands among others.
-/

namespace Courier.Utf8

/-- Octets that are read together: a character, or a part that is none. -/
inductive Piece where
  | character (c : CodePoint)
  | broken (part : Bytes)

namespace Piece

/-- The octets of a piece. -/
def octets : Piece → Bytes
  | .character c => encodeOne c
  | .broken part => part

/-- What is read of a piece, where broken parts are written by `patch`. -/
def text (patch : Bytes → Text) : Piece → Text
  | .character c => [c]
  | .broken part => patch part

/-- A character is no surrogate, and a broken part has no octet of ASCII. -/
def IsProper : Piece → Prop
  | .character c => c.isSurrogate = false
  | .broken part => ∀ b ∈ part, 0x80 ≤ b.toNat

end Piece

/-! ## First and later octets -/

/-- An octet that begins a sequence is none of ASCII, and neither are those that may follow it. -/
theorem le_of_ofOctet_eq_sequence {b : UInt8} {p : Pending}
    (h : Lead.ofOctet false b = .sequence p) : 0x80 ≤ b.toNat ∧ 0x80 ≤ p.low := by
  have hsecond : 0x80 ≤ leastSecond b.toNat := by
    unfold leastSecond
    split_ifs <;> omega
  rw [ofOctet_eq] at h
  split_ifs at h <;> cases h
  · exact ⟨by omega, le_rfl⟩
  · exact ⟨by omega, hsecond⟩
  · exact ⟨by omega, hsecond⟩

theorem le_of_ofOctet_eq_none {b : UInt8} (h : Lead.ofOctet false b = .none) :
    0x80 ≤ b.toNat := by
  rw [ofOctet_eq] at h
  split_ifs at h <;> omega

theorem le_of_next_eq_sequence {p p' : Pending} {b : UInt8} (h : p.next b = .sequence p') :
    p.low ≤ b.toNat ∧ p'.low = 0x80 := by
  by_cases hb : p.low ≤ b.toNat ∧ b.toNat ≤ p.high
  · simp only [Pending.next, hb, decide_true, Bool.and_self, if_true] at h
    split at h
    · cases h
    · cases h
      exact ⟨hb.1, rfl⟩
  · rw [next_outside hb] at h
    cases h

/-! ## The pieces of octets -/

/-- The octets of the sequence in progress. -/
def begunPart (st : Option (Bytes × Pending)) : Bytes := (st.map (·.1)).getD []

/-- Decoding stands between two pieces, or after some octets of a character, none of them ASCII. -/
def IsBegun : Option (Bytes × Pending) → Prop
  | none => True
  | some (part, p) => (∃ first, Progress.IsAfter part (some (first, p))) ∧
      (∀ b ∈ part, 0x80 ≤ b.toNat) ∧ 0x80 ≤ p.low

/-- Decoding takes an octet: the pieces that are complete then are written down, and the octets that
are in no piece yet are those of the sequence in progress. -/
def Takes (st : Option (Bytes × Pending)) (b : UInt8) (done : List Piece)
    (st' : Option (Bytes × Pending)) : Prop :=
  (∀ piece ∈ done, piece.IsProper) ∧ IsBegun st' ∧
    done.flatMap Piece.octets ++ begunPart st' = begunPart st ++ [b] ∧
    ∀ patch read rest, decodePatching patch read st (b :: rest) =
      decodePatching patch ((done.flatMap (Piece.text patch)).reverse ++ read) st' rest

theorem exists_takes_none (b : UInt8) : ∃ done st', Takes none b done st' := by
  cases hl : Lead.ofOctet false b with
  | character c =>
    obtain ⟨hc, he⟩ := encodeOne_of_foldl_next (show List.foldl _ _ [] = _ from hl)
    refine ⟨[.character c], none, by simpa [Piece.IsProper] using hc, trivial, ?_, ?_⟩
    · simp [Piece.octets, begunPart, he]
    · intro patch read rest
      simp [decodePatching, hl, Piece.text]
  | sequence p =>
    obtain ⟨hb, hlow⟩ := le_of_ofOctet_eq_sequence hl
    refine ⟨[], some ([b], p), by simp, ⟨⟨b, [], rfl, hl⟩, by simpa using hb, hlow⟩, ?_, ?_⟩
    · simp [begunPart]
    · intro patch read rest
      simp [decodePatching, hl]
  | none =>
    have hb := le_of_ofOctet_eq_none hl
    refine ⟨[.broken [b]], none, by simpa [Piece.IsProper] using hb, trivial, ?_, ?_⟩
    · simp [Piece.octets, begunPart]
    · intro patch read rest
      simp [decodePatching, hl, Piece.text]

theorem exists_takes {st : Option (Bytes × Pending)} (hst : IsBegun st) (b : UInt8) :
    ∃ done st', Takes st b done st' := by
  cases st with
  | none => exact exists_takes_none b
  | some begun =>
    obtain ⟨part, p⟩ := begun
    obtain ⟨⟨first, bs, rfl, hf⟩, hpart, hlow⟩ := hst
    have happend : (bs ++ [b]).foldl Lead.next (Lead.ofOctet false first) = p.next b := by
      rw [List.foldl_append, hf]
      rfl
    cases hl : p.next b with
    | character c =>
      rw [hl] at happend
      obtain ⟨hc, he⟩ := encodeOne_of_foldl_next happend
      refine ⟨[.character c], none, by simpa [Piece.IsProper] using hc, trivial, ?_, ?_⟩
      · simp [Piece.octets, begunPart, he]
      · intro patch read rest
        simp [decodePatching, hl, Piece.text]
    | sequence p' =>
      obtain ⟨hb, hlow'⟩ := le_of_next_eq_sequence hl
      rw [hl] at happend
      refine ⟨[], some (first :: bs ++ [b], p'), by simp,
        ⟨⟨first, bs ++ [b], rfl, happend⟩, ?_, by omega⟩, by simp [begunPart], ?_⟩
      · intro x hx
        obtain hx | hx := List.mem_append.mp hx
        · exact hpart x hx
        · obtain rfl := List.mem_singleton.mp hx
          omega
      · intro patch read rest
        simp [decodePatching, hl]
    | none =>
      -- the octet breaks the sequence off, and is then taken as after a piece
      obtain ⟨done, st', hproper, hbegun, hoctets, hread⟩ := exists_takes_none b
      refine ⟨.broken (first :: bs) :: done, st', List.forall_mem_cons.mpr ⟨hpart, hproper⟩,
        hbegun, ?_, ?_⟩
      · rw [List.flatMap_cons, List.append_assoc, hoctets]
        rfl
      · intro patch read rest
        have hbroken : decodePatching patch read (some (first :: bs, p)) (b :: rest) =
            decodePatching patch ((patch (first :: bs)).reverse ++ read) none (b :: rest) := by
          simp only [decodePatching, hl]
        rw [hbroken, hread]
        simp [Piece.text]

/-- What is still to be read falls into pieces. The induction is on the octets; those of a sequence
that was begun before them belong to the first piece. -/
theorem exists_pieces_of_isBegun (bs : Bytes) {st : Option (Bytes × Pending)} (hst : IsBegun st) :
    ∃ pieces : List Piece, (∀ piece ∈ pieces, piece.IsProper) ∧
      pieces.flatMap Piece.octets = begunPart st ++ bs ∧
      ∀ patch read, decodePatching patch read st bs =
        read.reverse ++ pieces.flatMap (Piece.text patch) := by
  induction bs generalizing st with
  | nil =>
    cases st with
    | none => exact ⟨[], by simp, rfl, fun patch read => by simp [decodePatching]⟩
    | some begun =>
      obtain ⟨part, p⟩ := begun
      obtain ⟨-, hpart, -⟩ := hst
      refine ⟨[.broken part], by simpa [Piece.IsProper] using hpart, ?_, ?_⟩
      · simp [Piece.octets, begunPart]
      · intro patch read
        simp [decodePatching, Piece.text]
  | cons b bs ih =>
    obtain ⟨done, st', hproper, hbegun, hoctets, hread⟩ := exists_takes hst b
    obtain ⟨pieces, hpieces, hrest, htext⟩ := ih hbegun
    refine ⟨done ++ pieces, ?_, ?_, ?_⟩
    · intro piece hpiece
      exact (List.mem_append.mp hpiece).elim (hproper piece) (hpieces piece)
    · rw [List.flatMap_append, hrest, ← List.append_assoc, hoctets, List.append_assoc]
      rfl
    · intro patch read
      rw [hread, htext, List.flatMap_append]
      simp

/-- **The pieces of octets.** Whatever is put for the broken parts, the same characters are read
between them. -/
theorem exists_pieces (bs : Bytes) :
    ∃ pieces : List Piece, (∀ piece ∈ pieces, piece.IsProper) ∧
      pieces.flatMap Piece.octets = bs ∧
      ∀ patch, decodePatching patch [] none bs = pieces.flatMap (Piece.text patch) := by
  have hstart : IsBegun none := trivial
  obtain ⟨pieces, hproper, hoctets, htext⟩ := exists_pieces_of_isBegun bs hstart
  exact ⟨pieces, hproper, hoctets, fun patch => by rw [htext]; rfl⟩

/-- What is read strictly is read with patches in the same way: there is nothing to patch. The
induction is on the octets. -/
theorem decodePatching_of_decodeFrom (patch : Bytes → Text) {bs : Bytes} {pos : Nat} {read t : Text}
    {progress : Progress} {st : Option (Bytes × Pending)}
    (hst : st.map (·.2) = progress.map (·.2)) (h : decodeFrom false pos read progress bs = .ok t) :
    decodePatching patch read st bs = t := by
  induction bs generalizing pos read progress st with
  | nil =>
    cases progress with
    | none =>
      obtain rfl : st = none := by simpa using hst
      simpa [decodeFrom, decodePatching] using h
    | some begun => cases h
  | cons b bs ih =>
    cases progress with
    | none =>
      obtain rfl : st = none := by simpa using hst
      cases hl : Lead.ofOctet false b with
      | character c =>
        simp only [decodeFrom, decodePatching, hl] at h ⊢
        exact ih rfl h
      | sequence p =>
        simp only [decodeFrom, decodePatching, hl] at h ⊢
        exact ih rfl h
      | none => simp [decodeFrom, hl] at h
    | some begun =>
      obtain ⟨first, p⟩ := begun
      obtain ⟨⟨part, p'⟩, rfl, hp⟩ := Option.map_eq_some_iff.mp hst
      obtain rfl : p' = p := hp
      cases hl : p'.next b with
      | character c =>
        simp only [decodeFrom, decodePatching, hl] at h ⊢
        exact ih rfl h
      | sequence next =>
        simp only [decodeFrom, decodePatching, hl] at h ⊢
        exact ih rfl h
      | none => simp [decodeFrom, hl] at h

/-! ## Replacement characters -/

/-- No surrogate is read where broken parts are replaced. -/
theorem isWellFormed_decodeLossy (bs : Bytes) : (decodeLossy bs).isWellFormed = true := by
  obtain ⟨pieces, hproper, -, htext⟩ := exists_pieces bs
  rw [decodeLossy, htext, Text.isWellFormed_iff]
  intro c hc
  obtain ⟨piece, hpiece, hc⟩ := List.mem_flatMap.mp hc
  have hp := hproper piece hpiece
  cases piece with
  | character d =>
    obtain rfl := List.mem_singleton.mp hc
    exact hp
  | broken part =>
    obtain rfl := List.mem_singleton.mp hc
    decide

/-! ## Escapes -/

/-- The escape of an octet. -/
def escapeOctet (b : UInt8) : CodePoint := CodePoint.ofNat (0xDC00 + b.toNat)

theorem encodeEscapedOne_escapeOctet {b : UInt8} (h : 0x80 ≤ b.toNat) :
    isEscape (escapeOctet b) = true ∧ encodeEscapedOne (escapeOctet b) = [b] := by
  have hlt := b.toNat_lt
  have hval : (escapeOctet b).val = 0xDC00 + b.toNat := val_ofNat (by omega)
  have hescape : isEscape (escapeOctet b) = true := by
    simp only [isEscape, hval, Bool.and_eq_true, decide_eq_true_eq]
    omega
  refine ⟨hescape, ?_⟩
  rw [encodeEscapedOne, if_pos hescape, hval, (toUInt8_eq_iff (b := b) (by omega)).mpr (by omega)]

theorem encodeEscapedOne_of_not_isSurrogate {c : CodePoint} (h : c.isSurrogate = false) :
    encodeEscapedOne c = encodeOne c := by
  have hescape : isEscape c = false := by
    rw [isSurrogate_eq_false_iff] at h
    simp only [isEscape, Bool.and_eq_false_iff, decide_eq_false_iff_not]
    omega
  rw [encodeEscapedOne, hescape]
  rfl

theorem encodeEscaped?_eq_ok_iff {t : Text} {bs : Bytes} :
    encodeEscaped? t = .ok bs ↔
      t.any isStray = false ∧ t.flatMap encodeEscapedOne = bs := by
  cases h : encodeEscaped? t with
  | error run => simp [encodeEscaped?_eq_error_iff.mp ⟨run, h⟩]
  | ok bs' =>
    have hstray : t.any isStray = false := by
      rw [← Bool.not_eq_true, ← encodeEscaped?_eq_error_iff, h]
      simp
    have hoctets : t.flatMap encodeEscapedOne = bs' := by
      unfold encodeEscaped? at h
      split at h
      · exact Except.ok.inj h
      · cases h
    simp [hstray, hoctets]

/-- A piece is given back by what is read of it. -/
theorem flatMap_text_piece {piece : Piece} (h : piece.IsProper) :
    (piece.text fun part => part.map escapeOctet).any isStray = false ∧
      (piece.text fun part => part.map escapeOctet).flatMap encodeEscapedOne = piece.octets := by
  cases piece with
  | character c =>
    have hc : c.isSurrogate = false := h
    simp [Piece.text, Piece.octets, isStray, hc, encodeEscapedOne_of_not_isSurrogate hc]
  | broken part =>
    have hpart : ∀ b ∈ part, 0x80 ≤ b.toNat := h
    dsimp only [Piece.text, Piece.octets]
    constructor
    · rw [List.any_eq_false]
      intro c hc
      obtain ⟨b, hb, rfl⟩ := List.mem_map.mp hc
      simp [isStray, (encodeEscapedOne_escapeOctet (hpart b hb)).1]
    · rw [List.flatMap_map]
      calc part.flatMap (fun b => encodeEscapedOne (escapeOctet b))
          = part.flatMap (fun b => [b]) :=
            List.flatMap_congr fun b hb => (encodeEscapedOne_escapeOctet (hpart b hb)).2
        _ = part := List.flatMap_singleton' part

/-- A text that is read with escapes has the octets that were read. -/
theorem encodeEscaped?_decodeEscaped (bs : Bytes) :
    encodeEscaped? (decodeEscaped bs) = .ok bs := by
  obtain ⟨pieces, hproper, hoctets, htext⟩ := exists_pieces bs
  have hread : decodeEscaped bs =
      pieces.flatMap (Piece.text fun part => part.map escapeOctet) := htext _
  rw [encodeEscaped?_eq_ok_iff, hread]
  constructor
  · rw [List.any_flatMap, List.any_eq_false]
    intro piece hpiece
    simp [(flatMap_text_piece (hproper piece hpiece)).1]
  · rw [List.flatMap_assoc, ← hoctets]
    exact List.flatMap_congr fun piece hpiece => (flatMap_text_piece (hproper piece hpiece)).2

/-- A text is read as empty only from no octets. -/
theorem decodeEscaped_eq_nil_iff {bs : Bytes} : decodeEscaped bs = [] ↔ bs = [] := by
  constructor
  · intro h
    have hback := encodeEscaped?_decodeEscaped bs
    rw [h] at hback
    exact (Except.ok.inj hback).symm
  · rintro rfl
    rfl

/-- In a text without surrogates nothing stands for an octet. -/
theorem encodeEscaped?_of_isWellFormed {t : Text} (h : t.isWellFormed = true) :
    encodeEscaped? t = .ok (encodeAll t) := by
  rw [Text.isWellFormed_iff] at h
  rw [encodeEscaped?_eq_ok_iff, List.any_eq_false]
  constructor
  · intro c hc
    simp [isStray, h c hc]
  · exact List.flatMap_congr fun c hc => encodeEscapedOne_of_not_isSurrogate (h c hc)

/-- A text that has a UTF-8 form is read from it. -/
theorem decodeEscaped_encodeAll {t : Text} (h : t.isWellFormed = true) :
    decodeEscaped (encodeAll t) = t :=
  decodePatching_of_decodeFrom _ rfl (decodeFrom_encodeAll h 0 [])

/-- The octets of texts that stand side by side stand side by side. -/
theorem encodeEscaped?_append {t u : Text} {bs bs' : Bytes} (ht : encodeEscaped? t = .ok bs)
    (hu : encodeEscaped? u = .ok bs') : encodeEscaped? (t ++ u) = .ok (bs ++ bs') := by
  rw [encodeEscaped?_eq_ok_iff] at *
  rw [List.any_append, ht.1, hu.1, List.flatMap_append, ht.2, hu.2]
  exact ⟨rfl, rfl⟩

/-- Texts that have octets side by side have octets each for itself. -/
theorem exists_of_encodeEscaped?_append {t u : Text} {bs : Bytes}
    (h : encodeEscaped? (t ++ u) = .ok bs) :
    ∃ own rest, encodeEscaped? t = .ok own ∧ encodeEscaped? u = .ok rest ∧ bs = own ++ rest := by
  rw [encodeEscaped?_eq_ok_iff, List.any_append, Bool.or_eq_false_iff, List.flatMap_append] at h
  obtain ⟨⟨ht, hu⟩, rfl⟩ := h
  exact ⟨_, _, encodeEscaped?_eq_ok_iff.mpr ⟨ht, rfl⟩, encodeEscaped?_eq_ok_iff.mpr ⟨hu, rfl⟩, rfl⟩

end Courier.Utf8
