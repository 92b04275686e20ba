import Courier.Proofs.Json.Reader
import Mathlib.Data.List.Nodup

/-!
# Reading a value that was written

A value of truths, integers and texts, and of lists and objects of such, is written in a style and
read back, members in their order. The reader must take as many levels of nesting as the value has
and as many digits as its integers have. Real numbers are left out.

Results:
* `Members.ofPairs_eq_self`: pairs with different names are the members they come to.
* `exists_roundTrips`: what is written of a value is read back wherever it stands.
-/

namespace Courier

/-! ## Members with different names -/

namespace Members

theorem put_of_not_mem {name : Text} {members : Members} (h : name ∉ members.map Prod.fst)
    (v : Value) : members.put name v = members ++ [(name, v)] := by
  induction members with
  | nil => rfl
  | cons m members ih =>
    obtain ⟨n, u⟩ := m
    rw [List.map_cons, List.mem_cons, not_or] at h
    rw [put, if_neg (Ne.symm h.1), ih h.2]
    rfl

/-- Pairs with different names are the members they come to. -/
theorem ofPairs_eq_self {pairs : List (Text × Value)} (h : (pairs.map Prod.fst).Nodup) :
    ofPairs pairs = pairs := by
  have hfold : ∀ (rest done : List (Text × Value)), ((done ++ rest).map Prod.fst).Nodup →
      rest.foldl (fun ms m => put m.1 m.2 ms) done = done ++ rest := by
    intro rest
    induction rest with
    | nil => simp
    | cons m rest ih =>
      intro done hdone
      have hnew : m.1 ∉ done.map Prod.fst := by
        rw [List.map_append] at hdone
        exact fun hmem => List.disjoint_of_nodup_append hdone hmem List.mem_cons_self
      rw [List.foldl_cons, put_of_not_mem hnew, ih _ (by rwa [List.append_assoc]),
        List.append_assoc]
      rfl
  exact hfold pairs [] h

end Members

/-- A value of truths, integers and texts, nested at most so many levels deep. Its integers have at
most so many digits and the names of an object differ. In its texts and names no first half of a
pair of surrogates is followed by a second half, and so none is in text without surrogates. -/
inductive Value.IsStructured (digits : Nat) : Nat → Value → Prop
  | null (depth : Nat) : IsStructured digits depth .null
  | bool (depth : Nat) (b : Bool) : IsStructured digits depth (.bool b)
  | int (depth : Nat) {n : Int} (h : (Text.ofNat n.natAbs).length ≤ digits) :
      IsStructured digits depth (.int n)
  | text (depth : Nat) {t : Text} (h : t.IsUnpaired) : IsStructured digits depth (.text t)
  | list {depth : Nat} {items : List Value} (h : ∀ v ∈ items, IsStructured digits depth v) :
      IsStructured digits (depth + 1) (.list items)
  | object {depth : Nat} {members : List (Text × Value)} (hdistinct : (members.map Prod.fst).Nodup)
      (hnames : ∀ m ∈ members, m.1.IsUnpaired)
      (hvalues : ∀ m ∈ members, IsStructured digits depth m.2) :
      IsStructured digits (depth + 1) (.object members)

namespace Json

/-! ## Styles -/

/-- What a style puts between two items and behind a name: a comma and a colon, and blanks. -/
structure Style.IsStandard (style : Style) : Prop where
  item : ∃ n, Text.ofString style.itemSeparator = CodePoint.ofChar ',' :: List.replicate n 0x20
  name : ∃ n, Text.ofString style.nameSeparator = CodePoint.ofChar ':' :: List.replicate n 0x20

theorem isStandard_compact : compact.IsStandard := ⟨⟨0, rfl⟩, ⟨0, rfl⟩⟩

theorem isStandard_spaced : spaced.IsStandard := ⟨⟨1, rfl⟩, ⟨1, rfl⟩⟩

variable {style : Style} {limits : Limits} {depth : Nat} {separator : Text}

/-! ## Text in ASCII -/

theorem isPlainAscii_ofInt (n : Int) : (Text.ofInt n).IsPlainAscii := by
  have hdigits : ∀ k, (Text.ofNat k).IsPlainAscii := by
    intro k c hc
    have hdigit := isAsciiDigit_of_mem_ofNat hc
    simp only [CodePoint.isAsciiDigit, Bool.and_eq_true, decide_eq_true_eq] at hdigit
    omega
  cases n with
  | ofNat k => exact hdigits k
  | negSucc k => exact List.forall_mem_cons.mpr ⟨by decide, hdigits (k + 1)⟩

theorem isPlainAscii_separator {c : CodePoint} {n : Nat} (hc : 0x20 ≤ c.val ∧ c.val ≤ 0x7E)
    (hs : separator = c :: List.replicate n 0x20) : separator.IsPlainAscii := by
  rw [hs]
  refine List.forall_mem_cons.mpr ⟨hc, fun d hd => ?_⟩
  rw [List.eq_of_mem_replicate hd]
  decide

theorem isPlainAscii_joinWith (hs : separator.IsPlainAscii) {parts : List Text}
    (h : ∀ part ∈ parts, part.IsPlainAscii) : (Text.joinWith separator parts).IsPlainAscii := by
  induction parts with
  | nil => exact List.forall_mem_nil _
  | cons part parts ih =>
    obtain ⟨hpart, hparts⟩ := List.forall_mem_cons.mp h
    cases parts with
    | nil => exact hpart
    | cons next parts =>
      exact Text.isPlainAscii_append.mpr ⟨Text.isPlainAscii_append.mpr ⟨hpart, hs⟩, ih hparts⟩

/-! ## Written and read back -/

/-- What is written of a value, wherever so many more levels are followed: in a style of ASCII it
stands in ASCII, and wherever so many more levels may be opened it is read back. -/
structure RoundTrips (style : Style) (limits : Limits) (depth : Nat) (v : Value) (t : Text) :
    Prop where
  written : ∀ levels, depth ≤ levels → write? style levels v = .ok t
  ascii : style.asciiOnly = true → t.IsPlainAscii
  reads : ∀ level, level + depth ≤ limits.depth → ReadsAs limits level t v

theorem exists_items {items : List Value}
    (h : ∀ v ∈ items, ∃ t, RoundTrips style limits depth v t) :
    ∃ parts, (∀ levels, depth ≤ levels → writeItems? style levels items = .ok parts) ∧
      (style.asciiOnly = true → ∀ part ∈ parts, part.IsPlainAscii) ∧
      ∀ level, level + depth ≤ limits.depth →
        List.Forall₂ (ReadsAs limits level) parts items := by
  induction items with
  | nil => exact ⟨[], fun _ _ => rfl, fun _ => List.forall_mem_nil _, fun _ _ => .nil⟩
  | cons v items ih =>
    obtain ⟨⟨part, hpart⟩, hitems⟩ := List.forall_mem_cons.mp h
    obtain ⟨parts, hwrite, hascii, hreads⟩ := ih hitems
    refine ⟨part :: parts, fun levels hlevels => ?_, fun hstyle => List.forall_mem_cons.mpr
      ⟨hpart.ascii hstyle, hascii hstyle⟩,
      fun level hlevel => .cons (hpart.reads level hlevel) (hreads level hlevel)⟩
    rw [writeItems?, hpart.written levels hlevels, hwrite levels hlevels]
    rfl

theorem exists_members {members : List (Text × Value)} (hs : style.IsStandard)
    (hnames : ∀ m ∈ members, m.1.IsUnpaired)
    (h : ∀ m ∈ members, ∃ t, RoundTrips style limits depth m.2 t) :
    ∃ parts, (∀ levels, depth ≤ levels → writeMembers? style levels members = .ok parts) ∧
      (style.asciiOnly = true → ∀ part ∈ parts, part.IsPlainAscii) ∧
      ∀ level, level + depth ≤ limits.depth → List.Forall₂
        (ReadsMember limits level (Text.ofString style.nameSeparator)) parts members := by
  induction members with
  | nil => exact ⟨[], fun _ _ => rfl, fun _ => List.forall_mem_nil _, fun _ _ => .nil⟩
  | cons m members ih =>
    obtain ⟨name, v⟩ := m
    obtain ⟨⟨part, hpart⟩, hvalues⟩ := List.forall_mem_cons.mp h
    obtain ⟨hname, hnames⟩ := List.forall_mem_cons.mp hnames
    obtain ⟨parts, hwrite, hascii, hreads⟩ := ih hnames hvalues
    obtain ⟨n, hcolon⟩ := hs.name
    refine ⟨_ :: parts, fun levels hlevels => ?_,
      fun hstyle => List.forall_mem_cons.mpr ⟨?_, hascii hstyle⟩,
      fun level hlevel => .cons ⟨style.asciiOnly, part, rfl, hname, hpart.reads level hlevel⟩
        (hreads level hlevel)⟩
    · rw [writeMembers?, hpart.written levels hlevels, hwrite levels hlevels]
      rfl
    · rw [Text.isPlainAscii_append, Text.isPlainAscii_append]
      refine ⟨⟨?_, isPlainAscii_separator (by decide) hcolon⟩, hpart.ascii hstyle⟩
      rw [hstyle]
      exact isPlainAscii_writeString name

/-- **Written and read back.** A value of truths, integers and texts is written in every style that
puts commas and colons between its parts, as soon as the writer follows as many levels as it is
nested. It is read back as it was, where the reader takes as many digits as its integers have and as
many levels as it is nested. -/
theorem exists_roundTrips (hs : style.IsStandard) {digits : Nat} {v : Value}
    (h : v.IsStructured digits depth) (hdigits : digits ≤ limits.digits) :
    ∃ t, RoundTrips style limits depth v t := by
  obtain ⟨n, hcomma⟩ := hs.item
  have hseparator := isPlainAscii_separator (by decide) hcomma
  induction h with
  | null depth => exact ⟨_, fun _ _ => rfl, fun _ => by decide, fun _ _ => readsAs_null⟩
  | bool depth b =>
    refine ⟨_, fun _ _ => rfl, fun _ => ?_, fun _ _ => readsAs_bool b⟩
    cases b <;> decide
  | @int depth k hk =>
    exact ⟨_, fun _ _ => rfl, fun _ => isPlainAscii_ofInt k,
      fun _ _ => readsAs_int (hk.trans hdigits)⟩
  | text depth ht =>
    refine ⟨_, fun _ _ => rfl, fun hstyle => ?_, fun _ _ => readsAs_text ht style.asciiOnly⟩
    rw [hstyle]
    exact isPlainAscii_writeString _
  | @list depth items _ ih =>
    obtain ⟨parts, hwrite, hascii, hreads⟩ := exists_items ih
    have hwritten : ∀ levels, depth + 1 ≤ levels → write? style levels (.list items) =
        .ok (Text.ofString "[" ++ Text.joinWith (Text.ofString style.itemSeparator) parts
          ++ Text.ofString "]") := by
      rintro (_ | levels) hlevels
      · contradiction
      · rw [write?, hwrite levels (Nat.le_of_succ_le_succ hlevels)]
        rfl
    refine ⟨_, hwritten, fun hstyle => ?_, fun level hlevel => ?_⟩
    · have hinner := isPlainAscii_joinWith hseparator (hascii hstyle)
      exact Text.isPlainAscii_append.mpr
        ⟨Text.isPlainAscii_append.mpr ⟨by decide, hinner⟩, by decide⟩
    · exact (brackets_list limits level).readsAs hcomma (hreads (level + 1) (by omega)) (by omega)
  | @object depth members hdistinct hnames _ ih =>
    obtain ⟨parts, hwrite, hascii, hreads⟩ := exists_members hs hnames ih
    obtain ⟨k, hcolon⟩ := hs.name
    have hwritten : ∀ levels, depth + 1 ≤ levels → write? style levels (.object members) =
        .ok (Text.ofString "\x7b" ++ Text.joinWith (Text.ofString style.itemSeparator) parts
          ++ Text.ofString "\x7d") := by
      rintro (_ | levels) hlevels
      · contradiction
      · rw [write?, hwrite levels (Nat.le_of_succ_le_succ hlevels)]
        rfl
    refine ⟨_, hwritten, fun hstyle => ?_, fun level hlevel => ?_⟩
    · have hinner := isPlainAscii_joinWith hseparator (hascii hstyle)
      exact Text.isPlainAscii_append.mpr
        ⟨Text.isPlainAscii_append.mpr ⟨by decide, hinner⟩, by decide⟩
    · have hobject := (brackets_object hcolon limits level).readsAs hcomma
        (hreads (level + 1) (by omega)) (by omega)
      rwa [Members.ofPairs_eq_self hdistinct] at hobject

end Json

end Courier
