import Courier.Proofs.Client.SideBySide
import Courier.Proofs.Text.Pieces

/-!
# The cuts in a body do not matter

The body of a reply arrives in chunks, and what is kept of it is read as text only when all of them
are there. So where a body is cut can be seen nowhere: two states that differ in cuts alone
(`State.Recut`) do so after every send too, and the sends come to the same.

Results:
* `State.likeness_recut`: no send can tell such states apart.
* `Client.conclude_of_whole_eq`: what is made of a delivery does not depend on the cuts in its body.
* `Client.send_of_recut`: neither what is kept of a body nor the outcome of a send does.
-/

namespace Courier

/-! ## Bodies in one chunk -/

/-- The delivery with its body in one chunk. -/
def Delivery.whole (d : Delivery) : Delivery := { d with chunks := [d.chunks.flatten] }

/-- The reply with its body in one chunk. -/
def Reply.whole : Reply → Reply
  | .failure e message => .failure e message
  | .response status headers chunks error => .response status headers [chunks.flatten] error

/-- The transport in memory with the body of its reply in one chunk. -/
def Recorder.whole (r : Recorder) : Recorder := { r with chunks := [r.chunks.flatten] }

namespace State

/-- The state in which the body of every reply to come is in one chunk. -/
def whole (s : State) : State :=
  { s with replies := s.replies.map Reply.whole, recorders := s.recorders.map Recorder.whole }

/-- Two states differ at most in how the bodies of the replies to come are cut. -/
def Recut (s s' : State) : Prop := s.whole = s'.whole

/-- No send can tell where the bodies of the replies to come are cut. -/
theorem likeness_recut : Likeness (fun _ => True) (fun chunks => [chunks.flatten]) Eq Recut :=
  likeness_sameBodies _

end State

/-- Two deliveries bring back the same body, with the same end. -/
def Delivery.Recut (d d' : Delivery) : Prop := d.whole = d'.whole

/-! ## Sends -/

/-- What is kept of a body is the text of all of it. -/
theorem Sink.text_writeAll_congr {chunks chunks' : List Bytes}
    (h : chunks.flatten = chunks'.flatten) (verbose : Bool) :
    ((Sink.new verbose).writeAll chunks).text = ((Sink.new verbose).writeAll chunks').text := by
  rw [text_writeAll, text_writeAll, h]

namespace Client

/-- What is made of a delivery does not depend on the cuts in its body. -/
theorem conclude_of_whole_eq {d d' : Delivery} (h : d.Recut d') (m : Message) (verbose : Bool) :
    conclude m verbose d = conclude m verbose d' := by
  obtain ⟨chunks, ending⟩ := d
  obtain ⟨chunks', ending'⟩ := d'
  simp only [Delivery.Recut, Delivery.whole, Delivery.mk.injEq, List.cons.injEq, and_true] at h
  obtain ⟨hflatten, rfl⟩ := h
  unfold conclude
  rw [Sink.text_writeAll_congr hflatten]

section

variable [Installation]

theorem relates_send (c : Client) (m : Message) (verbose : Bool) :
    Run.Relates State.Recut Eq (c.send m verbose) (c.send m verbose) :=
  State.likeness_recut.relates_send_same (fun _ => rfl) c (fun _ _ _ => trivial) m verbose
    fun _ _ hd => conclude_of_whole_eq hd m verbose

theorem relates_sendMessage (c : Client) (recipient sender body mediaUrl : Value) (verbose : Bool) :
    Run.Relates State.Recut Eq (c.sendMessage recipient sender body mediaUrl verbose)
      (c.sendMessage recipient sender body mediaUrl verbose) :=
  (Run.relates_checked _ _).bind_eq fun m => relates_send c m verbose

/-- **The cuts in a body do not matter.** What is kept of a body is the same text in whatever chunks
it arrives, and no surrogate is in that text. Two states that differ at most in how the bodies of
the replies to come are cut, over the network or in memory, see every send come to the same outcome
or fault, and differ at most in that after it: the same was posted and written to the log. -/
theorem send_of_recut :
    (∀ chunks chunks' : List Bytes, chunks.flatten = chunks'.flatten →
      ((Sink.new true).writeAll chunks).text = ((Sink.new true).writeAll chunks').text ∧
        ∀ x ∈ ((Sink.new true).writeAll chunks).text, x.isSurrogate = false) ∧
    ∀ s s' : State, s.Recut s' → ∀ (c : Client) (verbose : Bool),
      (∀ m : Message,
        ((c.send m verbose).exec s).1 = ((c.send m verbose).exec s').1 ∧
          ((c.send m verbose).exec s).2.Recut ((c.send m verbose).exec s').2) ∧
      ∀ recipient sender body mediaUrl : Value,
        let act := c.sendMessage recipient sender body mediaUrl verbose
        (act.exec s).1 = (act.exec s').1 ∧ (act.exec s).2.Recut (act.exec s').2 := by
  constructor
  · intro chunks chunks' h
    refine ⟨Sink.text_writeAll_congr h true, ?_⟩
    rw [Sink.text_writeAll, if_pos rfl, ← Text.isWellFormed_iff]
    exact Utf8.isWellFormed_decodeLossy _
  · intro s s' hs c verbose
    constructor
    · intro m
      obtain ⟨hagree, hafter⟩ := relates_send c m verbose s s' hs
      exact ⟨hagree.eq, hafter⟩
    · intro recipient sender body mediaUrl
      obtain ⟨hagree, hafter⟩ :=
        relates_sendMessage c recipient sender body mediaUrl verbose s s' hs
      exact ⟨hagree.eq, hafter⟩

end

open scoped Installation in
/-- A body of one character that is cut in the middle of it, or after nothing. -/
theorem send_of_recut_withinCharacter :
    let c : Client := ⟨⟨Text.ofString "AC1", Text.ofString "t"⟩, none, .ofEnvironment .empty⟩
    let m : Message := ⟨Text.ofString "+1", Text.ofString "+2", .text (Text.ofString "hi"), none⟩
    let s (chunks : List Bytes) : State := { State.initial 0 .empty .initial with
      transports := [⟨.usual, true, []⟩], shared := some 0
      replies := [.response 201 [] chunks none] }
    let chunks : List Bytes := [[0xC3], [0xA9]]
    let chunks' : List Bytes := [[], [0xC3, 0xA9]]
    chunks.flatten = chunks'.flatten ∧ (s chunks).Recut (s chunks') ∧
      ((Sink.new true).writeAll chunks).text = [CodePoint.ofNat 0xE9] ∧
      ((Sink.new true).writeAll chunks').text = [CodePoint.ofNat 0xE9] ∧
      ((c.send m true).exec (s chunks)).1 = .ok (.accepted 201 [CodePoint.ofNat 0xE9]) ∧
      ((c.send m true).exec (s chunks')).1 = .ok (.accepted 201 [CodePoint.ofNat 0xE9]) := by
  intro c m s chunks chunks'
  obtain ⟨hkept, hsend⟩ := send_of_recut
  have htext : ((Sink.new true).writeAll chunks).text = [CodePoint.ofNat 0xE9] := by decide
  obtain ⟨s₁, hrun⟩ : ∃ s₁, (c.send m true).exec (s chunks) =
      (.ok (.accepted 201 [CodePoint.ofNat 0xE9]), s₁) :=
    Run.exists_exec_of_toOption (by decide +kernel)
  have hsame := ((hsend (s chunks) (s chunks') rfl c true).1 m).1
  rw [hrun] at hsame
  refine ⟨rfl, rfl, htext, ?_, congrArg Prod.fst hrun, hsame.symm⟩
  rw [← htext]
  exact (hkept chunks chunks' rfl).1.symm

end Client

end Courier
