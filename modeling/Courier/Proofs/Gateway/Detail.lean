import Courier.Proofs.Gateway.Answer
import Courier.Proofs.Json.RoundTrip

/-!
# The detail of a problem in its answer

The detail of a problem may be more than a text. Then it is written as JSON in ASCII, and this is a
text in the document of the answer, which is written as JSON in turn. So the caller reads twice: the
document first, and then the detail from the text that is found in it.

Results:
* `Problem.exists_words?`: what is written of a detail that is no text.
* `Response.isReadAs_refusal`: the document of an answer is read from its octets.
* `App.answerOf_keeps_detail`: the detail of a problem is read from its answer.
-/

namespace Courier.Gateway

section

variable [Installation]

/-! ## The detail in words -/

/-- What is written of a detail that is neither null nor a text stands in ASCII and is read back, if
it is nested no deeper than details are followed. -/
theorem Problem.exists_words? {limits : Json.Limits} {digits depth : Nat} {detail : Value}
    (h : detail.IsStructured digits depth) (hdigits : digits ≤ limits.digits)
    (hdepth : depth ≤ limits.depth) (hlevels : depth ≤ Installation.detailDepth)
    (hnull : detail ≠ .null) (htext : ∀ t, detail ≠ .text t) (status : Int) :
    ∃ words, (Problem.new status detail).words? = .ok words ∧
      (Problem.new status detail).status = status ∧ words.IsPlainAscii ∧
      Json.parse? limits words = .ok detail := by
  obtain ⟨words, hwords⟩ := Json.exists_roundTrips Json.isStandard_spaced h hdigits
  have hread := Json.parse?_of_readsAs (hwords.reads 0 (by rwa [Nat.zero_add]))
  have hwritten : (Json.write? Json.spaced Installation.detailDepth detail).mapError
      Fault.unwritable = .ok words := by
    rw [hwords.written _ hlevels]
    rfl
  refine ⟨words, ?_, ?_, hwords.ascii rfl, hread⟩
  · cases detail with
    | null => exact absurd rfl hnull
    | text t => exact absurd rfl (htext t)
    | _ => exact hwritten
  · cases detail with
    | null => exact absurd rfl hnull
    | _ => rfl

/-! ## Reading the document -/

/-- A value is read from the octets of an answer. -/
def Response.IsReadAs (limits : Json.Limits) (r : Response) (v : Value) : Prop :=
  ∃ octets t, r.content? = .ok octets ∧ Utf8.decode? octets = .ok t ∧ Json.parse? limits t = .ok v

/-- The document of an answer that refuses a request is read back, whatever its words are. -/
theorem Response.isReadAs_refusal {limits : Json.Limits} (hdepth : 0 < limits.depth) {words : Text}
    (h : words.isWellFormed = true) (status : Int) :
    (Response.refusal status words).IsReadAs limits
      (.ofFields [("ok", .bool false), ("error", .text words)]) := by
  have hstructured : (Value.ofFields [("ok", .bool false), ("error", .text words)]).IsStructured 0
      1 := by
    refine .object ?_ ?_ ?_
    · show [Text.ofString "ok", Text.ofString "error"].Nodup
      decide
    · have hname : ∀ name, (Text.ofString name).IsUnpaired := fun name =>
        Text.isUnpaired_of_isWellFormed (Text.isWellFormed_ofString name)
      exact List.forall_mem_cons.mpr ⟨hname "ok", List.forall_mem_singleton.mpr (hname "error")⟩
    · exact List.forall_mem_cons.mpr ⟨.bool 0 false,
        List.forall_mem_singleton.mpr (.text 0 (Text.isUnpaired_of_isWellFormed h))⟩
  obtain ⟨t, ht⟩ := Json.exists_roundTrips Json.isStandard_compact hstructured (Nat.zero_le _)
  obtain ⟨t', hwrite, hwf⟩ := Json.writes_of_isPlain
    (isPlain_refusal h (Installation.spareDepth + 3)) Json.compact
  obtain rfl : t = t' := Except.ok.inj ((ht.written _ (by omega)).symm.trans hwrite)
  refine ⟨Utf8.encodeAll t, t, ?_, Utf8.decode?_eq_ok_iff.mpr ⟨hwf, rfl⟩,
    Json.parse?_of_readsAs (ht.reads 0 hdepth)⟩
  have hencode : Utf8.encode? t = .ok (Utf8.encodeAll t) := Utf8.encode?_eq_ok_iff.mpr ⟨hwf, rfl⟩
  simp only [content?, refusal, json, Installation.answerDepth, hwrite, hencode, Except.mapError,
    bind, Except.bind]

end

/-! ## The detail in the answer -/

namespace App

/-- **Details survive their answer.** The detail of a problem may be a truth, an integer of at most
4300 digits, or a list or an object of such, of nulls and of texts, nested as deep as details are
followed and the reader takes them, where no name or text has the halves of a pair of surrogates one
after the other. Then the answer has the status of the problem, `ok` is false in its document, and
the characters of `error` are all from U+0020 to U+007E and are read as the detail, members in their
order. A detail that is a text with octets is itself what stands for `error`. In both cases the
document is read back from its octets. -/
theorem answerOf_keeps_detail [Installation] {limits : Json.Limits} (hdigits : 4300 ≤ limits.digits)
    (hone : 0 < limits.depth) (status : Int) (s : State) :
    (∀ (depth : Nat) (detail : Value), detail.IsStructured 4300 depth → depth ≤ limits.depth →
      depth ≤ Installation.detailDepth → detail ≠ .null → (∀ t, detail ≠ .text t) →
      ∃ words, words.IsPlainAscii ∧ Json.parse? limits words = .ok detail ∧
        ∃ resp, (answerOf (.problem (.new status detail))).exec s =
            (.ok resp, s.noted .debug logger (Text.ofString "http error")) ∧
          resp.status = status ∧
          resp.body = .document (.ofFields [("ok", .bool false), ("error", .text words)]) ∧
          resp.IsReadAs limits (.ofFields [("ok", .bool false), ("error", .text words)])) ∧
    ∀ t : Text, t.isWellFormed = true →
      ∃ resp, (answerOf (.problem (.new status (.text t)))).exec s =
          (.ok resp, s.noted .debug logger (Text.ofString "http error")) ∧
        resp.status = status ∧
        resp.body = .document (.ofFields [("ok", .bool false), ("error", .text t)]) ∧
        resp.IsReadAs limits (.ofFields [("ok", .bool false), ("error", .text t)]) := by
  constructor
  · intro depth detail h hdepth hlevels hnull htext
    obtain ⟨words, hwords, hstatus, hascii, hread⟩ :=
      Problem.exists_words? h hdigits hdepth hlevels hnull htext status
    have hwf := Text.isWellFormed_of_isPlainAscii hascii
    have hanswer := exec_answerOf_of_words? hwords hwf s
    rw [hstatus] at hanswer
    exact ⟨words, hascii, hread, _, hanswer, rfl, rfl, Response.isReadAs_refusal hone hwf status⟩
  · intro t ht
    exact ⟨_, exec_answerOf_problem ht status s, rfl, rfl, Response.isReadAs_refusal hone ht status⟩

open scoped Installation in
/-- Characters of every kind in a list of an object, read with the limits of the gateway. -/
theorem answerOf_keeps_detail_nested :
    let words : Text := [0x22, 0x5C, 0x0A, 0x7F, 0xE9, 0x1F600]
    let detail : Value := .object [(words, .list [.null, .bool true, .int (-12), .text words])]
    let s : State := .initial 0 .empty .initial
    4300 ≤ Request.limits.digits ∧ 0 < Request.limits.depth ∧ detail.IsStructured 4300 2 ∧
      2 ≤ Request.limits.depth ∧ 2 ≤ Installation.detailDepth ∧ detail ≠ .null ∧
      (∀ t, detail ≠ .text t) ∧
      words.isWellFormed = true ∧
      (∃ written resp s', Json.parse? Request.limits written = .ok detail ∧
        (answerOf (.problem (.new 400 detail))).exec s = (.ok resp, s') ∧
        resp.body = .document (.ofFields [("ok", .bool false), ("error", .text written)])) ∧
      ∃ resp s', (answerOf (.problem (.new 400 (.text words)))).exec s = (.ok resp, s') ∧
        resp.body = .document (.ofFields [("ok", .bool false), ("error", .text words)]) := by
  intro words detail s
  have hwords : words.IsUnpaired := by decide
  have hwf : words.isWellFormed = true := by decide
  have hitems : (Value.list [.null, .bool true, .int (-12), .text words]).IsStructured 4300 1 := by
    refine .list ?_
    simp only [List.forall_mem_cons]
    exact ⟨.null 0, .bool 0 true, .int 0 (by decide), .text 0 hwords, List.forall_mem_nil _⟩
  have hdetail : detail.IsStructured 4300 2 :=
    .object (List.nodup_singleton _) (List.forall_mem_singleton.mpr hwords)
      (List.forall_mem_singleton.mpr hitems)
  have hdigits : 4300 ≤ Request.limits.digits := by decide
  have hone : 0 < Request.limits.depth := by decide
  have htwo : 2 ≤ Request.limits.depth := by decide
  have hlevels : 2 ≤ Installation.detailDepth := by decide
  have hnull : detail ≠ .null := nofun
  have htext : ∀ t, detail ≠ .text t := nofun
  obtain ⟨hall, htexts⟩ := answerOf_keeps_detail hdigits hone 400 s
  obtain ⟨written, -, hread, resp, hrun, -, hbody, -⟩ := hall 2 detail hdetail htwo hlevels hnull
    htext
  obtain ⟨resp', hrun', -, hbody', -⟩ := htexts words hwf
  exact ⟨hdigits, hone, hdetail, htwo, hlevels, hnull, htext, hwf,
    ⟨written, resp, _, hread, hrun, hbody⟩, resp', _, hrun', hbody'⟩

/-- A detail that is nested deeper than details are followed has no answer. -/
theorem exec_answerOf_nested [Installation] {depth : Nat} (h : Installation.detailDepth < depth)
    (status : Int) (s : State) :
    (answerOf (.problem (.new status (.nested depth)))).exec s =
      (.error (.unwritable .tooDeep), s.noted .debug logger (Text.ofString "http error")) := by
  have hwrite := Json.write?_nested_of_lt Json.spaced h
  have hwords : (Problem.new status (.nested depth)).words? = .error (.unwritable .tooDeep) := by
    cases depth with
    | zero => contradiction
    | succ depth =>
      show (Json.write? Json.spaced Installation.detailDepth (.nested (depth + 1))).mapError
        Fault.unwritable = _
      rw [hwrite]
      rfl
  unfold answerOf written
  rw [Run.exec_bind_of_ok (Run.exec_log _ _ _ _), Run.exec_ofExcept, Problem.response?, hwords]
  rfl

open scoped Installation in
/-- A name of two halves of a pair is written like the one character that they stand for, and is
read as that. A detail that is nested one level deeper than details are followed has no answer. -/
theorem answerOf_keeps_detail_beyond :
    let halves : Text := [0xD83D, 0xDE00]
    let detail : Value := .object [(halves, .int 1)]
    let read : Value := .object [([0x1F600], .int 1)]
    let s : State := .initial 0 .empty .initial
    (∃ words, (answerOf (.problem (.new 400 detail))).exec s =
        (.ok (.refusal 400 words), s.noted .debug logger (Text.ofString "http error")) ∧
      Json.parse? Request.limits words = .ok read ∧ read ≠ detail) ∧
      (answerOf (.problem (.new 400 (.nested (Installation.detailDepth + 1))))).exec s =
        (.error (.unwritable .tooDeep), s.noted .debug logger (Text.ofString "http error")) := by
  intro halves detail read s
  have hname : Text.IsUnpaired [0x1F600] := by decide
  have hone : (Value.int 1).IsStructured 4300 0 := .int 0 (by decide)
  have hstructured : read.IsStructured 4300 1 :=
    .object (List.nodup_singleton _) (List.forall_mem_singleton.mpr hname)
      (List.forall_mem_singleton.mpr hone)
  have hdigits : 4300 ≤ Request.limits.digits := le_rfl
  obtain ⟨words, hwords, -, hascii, hread⟩ :=
    Problem.exists_words? hstructured hdigits (by decide) (by decide) nofun nofun 400
  have hsame : ∀ depth,
      Json.write? Json.spaced depth detail = Json.write? Json.spaced depth read := by
    have hnames : Json.writeString true halves = Json.writeString true [0x1F600] := by decide
    intro depth
    cases depth with
    | zero => rfl
    | succ depth =>
      simp only [detail, read, Json.write?, Json.writeMembers?, Json.spaced, hnames]
  have hwritten : (Problem.new 400 detail).words? = .ok words := by
    rw [← hwords]
    show (Json.write? Json.spaced Installation.detailDepth detail).mapError Fault.unwritable = _
    rw [hsame]
    rfl
  have hanswer := exec_answerOf_of_words? hwritten (Text.isWellFormed_of_isPlainAscii hascii) s
  have hne : read ≠ detail := by simp [read, detail, halves]
  exact ⟨⟨words, hanswer, hread, hne⟩, exec_answerOf_nested (Nat.lt_add_one _) 400 s⟩

end App

end Courier.Gateway
