import Courier.Proofs.Delivery
import Courier.Proofs.Message.Diagnosis
import Courier.Proofs.Text.Replacement

/-!
# What is kept of a reply

The body of a reply may be kept and shown as text, whatever its octets are, while the body of a
message has to be proper UTF-8. Both read octets alike: what is shown is the text of the octets as
far as they have one, and where the units of the octets fail, one U+FFFD is shown and reading begins
anew.

Results:
* `text_beside_units`: the text of a sink beside the units of the octets in it.
-/

namespace Courier.Sink

/-- The text of all that was kept, chunk by chunk or at once. -/
theorem text_new_writeAll (chunks : List Bytes) :
    ((Sink.new true).writeAll chunks).text = Utf8.decodeLossy chunks.flatten := by
  rw [text_writeAll, if_pos rfl]

/-- **Two readings of octets.** What was kept of the octets of some chunks is their text, if they
have units. If their units fail at a place, it is the text of the octets before that place, one
U+FFFD, and what would be kept of the octets that come after those replaced; they are the longest
part from that place on that begins a character without completing it, or else one octet. So the
octets are given back exactly if they are UTF-8. -/
theorem text_beside_units (chunks : List Bytes) :
    let bs := chunks.flatten
    let kept := ((Sink.new true).writeAll chunks).text
    (∀ us, (Body.octets bs).units? = .ok us →
      (Body.octets bs).Denotes kept ∧ us = Utf16.encode kept) ∧
    (∀ failure, (Body.octets bs).units? = .error failure →
      ∃ (place k : Nat) (before : Text), failure.position = some (place : Int) ∧
        (Body.octets (bs.take place)).Denotes before ∧ Utf8.Skips (bs.drop place) k ∧
        kept = before ++ CodePoint.replacement ::
          ((Sink.new true).writeAll [bs.drop (place + k)]).text) ∧
    (Utf8.encode? kept = .ok bs ↔ Utf8.IsUtf8 bs) := by
  intro bs kept
  have hkept : kept = Utf8.decodeLossy bs := text_new_writeAll chunks
  refine ⟨?_, ?_, ?_⟩
  · intro us h
    obtain ⟨t, ht, rfl⟩ := Body.exists_denotes_of_units? h
    rw [hkept, Utf8.decodeLossy_of_decode?_eq_ok (Body.denotes_octets_iff.mp ht)]
    exact ⟨ht, rfl⟩
  · intro failure h
    obtain ⟨fault, hfault, rfl⟩ := Body.units?_octets_eq_error_iff.mp h
    obtain ⟨before, k, hbefore, hskips, hread⟩ := Utf8.decodeLossy_of_decode?_eq_error hfault
    refine ⟨fault.start, k, before, rfl, Body.denotes_octets_iff.mpr hbefore, hskips, ?_⟩
    rw [hkept, text_new_writeAll, List.flatten_singleton]
    exact hread
  · rw [hkept]
    exact Utf8.encode?_decodeLossy_iff

end Courier.Sink
