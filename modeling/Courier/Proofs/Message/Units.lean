import Courier.Proofs.Message.Body
import Courier.Proofs.Text.Grammar

/-!
# The units of a body

A body that stands for a text has the UTF-16 units of that text, whichever way it was given. They
are the text in another form: nothing is lost, and what is joined is joined in its units.

Results:
* `exists_denotes_octets_iff`: octets stand for a text exactly when they are UTF-8.
* `units?_exact`: the units of a body, and the units of two bodies joined.
-/

namespace Courier.Body

/-- Octets stand for a text exactly when they are UTF-8. -/
theorem exists_denotes_octets_iff {bs : Bytes} : (∃ t, (octets bs).Denotes t) ↔ Utf8.IsUtf8 bs := by
  simp only [Denotes, Utf8.isUtf8_iff, eq_comm (a := bs)]

theorem denotes_text_append {t u : Text} (ht : t.isWellFormed = true) (hu : u.isWellFormed = true) :
    (text (t ++ u)).Denotes (t ++ u) := by
  refine ⟨?_, rfl⟩
  simp only [Text.isWellFormed, List.all_append, Bool.and_eq_true] at ht hu ⊢
  exact ⟨ht, hu⟩

theorem denotes_octets_append {t u : Text} (ht : t.isWellFormed = true)
    (hu : u.isWellFormed = true) :
    (octets (Utf8.encodeAll t ++ Utf8.encodeAll u)).Denotes (t ++ u) :=
  ⟨(denotes_text_append ht hu).1, List.flatMap_append.symm⟩

/-- **The units are the UTF-16 form.** A body that stands for a text has units of 16 bits, in which
the surrogates stand in pairs and which are read back as the text. They are what the octets of the
text in UTF-16 give two by two. Another body has the same units only if it stands for the same text,
and what two bodies stand for has, joined, the units of both. -/
theorem units?_exact {b : Body} {t : Text} (h : b.Denotes t) :
    ∃ us, b.units? = .ok us ∧ (∀ u ∈ us, u.toNat < 2 ^ 16) ∧ Utf16.Paired us ∧
      Utf16.decode us = t ∧ Document.units16? false (Utf16.littleEndian t) = some us ∧
      ∀ (b' : Body) (t' : Text), b'.Denotes t' →
        ∃ us', b'.units? = .ok us' ∧ (us' = us → t' = t) ∧
          (text (t ++ t')).units? = .ok (us ++ us') ∧
          (octets (Utf8.encodeAll t ++ Utf8.encodeAll t')).units? = .ok (us ++ us') := by
  refine ⟨Utf16.encode t, units?_of_denotes h, fun u _ => u.toNat_lt, Utf16.paired_encode h.1,
    Utf16.decode_encode h.1, Utf16.units16?_littleEndian t, ?_⟩
  intro b' t' h'
  refine ⟨Utf16.encode t', units?_of_denotes h', Utf16.encode_inj h'.1 h.1, ?_, ?_⟩
  · rw [← Utf16.encode_append]
    exact units?_of_denotes (denotes_text_append h.1 h'.1)
  · rw [← Utf16.encode_append]
    exact units?_of_denotes (denotes_octets_append h.1 h'.1)

/-- Octets of three characters, the last beyond U+FFFF, have four units. -/
theorem units?_exact_of_octets :
    (octets [0x61, 0xC3, 0xA9, 0xF0, 0x9F, 0x98, 0x80]).Denotes [0x61, 0xE9, 0x1F600] ∧
      (octets [0x61, 0xC3, 0xA9, 0xF0, 0x9F, 0x98, 0x80]).units? =
        .ok [0x61, 0xE9, 0xD83D, 0xDE00] ∧
      Utf16.Paired [0x61, 0xE9, 0xD83D, 0xDE00] := by
  have h : (octets [0x61, 0xC3, 0xA9, 0xF0, 0x9F, 0x98, 0x80]).Denotes [0x61, 0xE9, 0x1F600] :=
    ⟨by decide, by decide⟩
  obtain ⟨us, hunits, -, hpaired, -⟩ := units?_exact h
  have hus : us = [0x61, 0xE9, 0xD83D, 0xDE00] := by
    rw [units?_of_denotes h] at hunits
    have hencode : Utf16.encode [0x61, 0xE9, 0x1F600] = [0x61, 0xE9, 0xD83D, 0xDE00] := by decide
    rw [← hencode]
    exact (Except.ok.inj hunits).symm
  subst hus
  exact ⟨h, hunits, hpaired⟩

end Courier.Body
