import Courier.Json.Writer
import Courier.Proofs.Text.WellFormed
import Mathlib.Data.List.Basic

/-!
# Which values are written

A value of truths, finite numbers and text without surrogates, nested no deeper than the writer
goes, is written in every style, and what is written of it has octets. In the compact style no other
value is: octets and numbers that are not finite have no form there, and a surrogate is written down
as it is.

Results:
* `isWellFormed_escape`, `isWellFormed_writeString`: a string in its quotes.
* `Shortest.isWellFormed_text`: the digits of a number.
* `writes_of_isPlain`: plain values are written.
* `write?_nested_of_lt`: values that are nested too deep are not.
* `writes_compact_iff`: in the compact style, those alone.
-/

namespace Courier

/-- A value of truths, finite numbers and text that has octets, and of lists and objects of such
that are nested to a depth at most. -/
inductive Value.IsPlain : Nat → Value → Prop
  | null (depth : Nat) : IsPlain depth .null
  | bool (depth : Nat) (b : Bool) : IsPlain depth (.bool b)
  | int (depth : Nat) (n : Int) : IsPlain depth (.int n)
  | real (depth : Nat) {x : Binary64} (h : x.isFinite = true) : IsPlain depth (.real x)
  | text (depth : Nat) {t : Text} (h : t.isWellFormed = true) : IsPlain depth (.text t)
  | list {depth : Nat} {items : List Value} (h : ∀ v ∈ items, IsPlain depth v) :
      IsPlain (depth + 1) (.list items)
  | object {depth : Nat} {members : List (Text × Value)}
      (hn : ∀ m ∈ members, m.1.isWellFormed = true) (hv : ∀ m ∈ members, IsPlain depth m.2) :
      IsPlain (depth + 1) (.object members)

namespace Value

/-- A null in so many lists, one in the other. -/
def nested : Nat → Value
  | 0 => .null
  | depth + 1 => .list [nested depth]

variable {depth : Nat}

/-- Where some levels are allowed, one more is. -/
theorem IsPlain.succ {v : Value} (h : v.IsPlain depth) : v.IsPlain (depth + 1) := by
  induction h with
  | null depth => exact .null _
  | bool depth b => exact .bool _ b
  | int depth n => exact .int _ n
  | real depth hx => exact .real _ hx
  | text depth ht => exact .text _ ht
  | list _ ih => exact .list ih
  | object hn _ ih => exact .object hn ih

theorem isPlain_list_iff {items : List Value} :
    (Value.list items).IsPlain (depth + 1) ↔ ∀ v ∈ items, v.IsPlain depth := by
  constructor
  · rintro ⟨⟩
    assumption
  · exact .list

theorem isPlain_ofFields_iff {fields : List (String × Value)} :
    (ofFields fields).IsPlain (depth + 1) ↔ fields.Forall fun m => m.2.IsPlain depth := by
  rw [List.forall_iff_forall_mem]
  constructor
  · rintro (_ | _ | _ | _ | _ | _ | ⟨-, hv⟩) field hfield
    exact hv _ (List.mem_map.mpr ⟨field, hfield, rfl⟩)
  · intro h
    refine .object ?_ ?_
    · intro m hm
      obtain ⟨field, -, rfl⟩ := List.mem_map.mp hm
      exact Text.isWellFormed_ofString field.1
    · intro m hm
      obtain ⟨field, hfield, rfl⟩ := List.mem_map.mp hm
      exact h field hfield

theorem isPlain_ofFields {fields : List (String × Value)}
    (h : fields.Forall fun m => m.2.IsPlain depth) : (ofFields fields).IsPlain (depth + 1) :=
  isPlain_ofFields_iff.mpr h

end Value

/-! ## Numbers -/

theorem Shortest.isWellFormed_decimal (l : Layout) (d : Decimal) :
    (d.text l).isWellFormed = true := by
  have hdigits := Text.isWellFormed_ofNat d.digits
  have hexponent := Text.isWellFormed_ofNat (d.point - 1).natAbs
  unfold Decimal.text
  dsimp only
  split_ifs <;>
    simp only [Text.isWellFormed_append, Text.isWellFormed_replicate,
      Text.isWellFormed_take hdigits, Text.isWellFormed_drop hdigits, Text.isWellFormed_ofString,
      Text.isWellFormed_nil, hdigits, hexponent, Bool.and_self]

theorem Shortest.isWellFormed_text (x : Binary64) : (text x).isWellFormed = true := by
  unfold text
  dsimp only
  split_ifs <;> simp [isWellFormed_decimal]

namespace Json

/-! ## Strings -/

theorem isWellFormed_escapeUnit (n : Nat) : (escapeUnit n).isWellFormed = true := by
  rw [escapeUnit, Text.isWellFormed_append, Text.isWellFormed_ofString, Text.isWellFormed_lowerHex]
  rfl

theorem isWellFormed_escape {c : CodePoint} (hc : c.isSurrogate = false) (asciiOnly : Bool) :
    (escape asciiOnly c).isWellFormed = true := by
  have hself : Text.isWellFormed [c] = true := by simp [Text.isWellFormed, hc]
  have hpair : ∀ high low, Text.isWellFormed (escapeUnit high ++ escapeUnit low) = true := by
    intro high low
    rw [Text.isWellFormed_append, isWellFormed_escapeUnit, isWellFormed_escapeUnit]
    rfl
  unfold escape
  dsimp only
  repeat' apply Text.isWellFormed_ite
  all_goals first
    | exact hself
    | exact Text.isWellFormed_ofString _
    | exact isWellFormed_escapeUnit _
    | exact hpair _ _

theorem isWellFormed_writeString {t : Text} (ht : t.isWellFormed = true) (asciiOnly : Bool) :
    (writeString asciiOnly t).isWellFormed = true := by
  have hquote : Text.isWellFormed [CodePoint.ofChar '"'] = true := rfl
  have hinner : Text.isWellFormed (t.flatMap (escape asciiOnly)) = true :=
    Text.isWellFormed_flatMap fun c hc =>
      isWellFormed_escape (Text.isWellFormed_iff.mp ht c hc) asciiOnly
  show Text.isWellFormed ([CodePoint.ofChar '"'] ++ t.flatMap (escape asciiOnly)
    ++ [CodePoint.ofChar '"']) = true
  rw [Text.isWellFormed_append, Text.isWellFormed_append, hquote, hinner]
  rfl

theorem escape_of_isSurrogate {c : CodePoint} (hc : c.isSurrogate = true) :
    escape false c = [c] := by
  have hrange : 0xD800 ≤ c.val := by
    simp only [CodePoint.isSurrogate, Bool.and_eq_true, decide_eq_true_eq] at hc
    exact hc.1
  simp only [escape, Bool.false_and, Bool.false_eq_true, if_false]
  split_ifs <;> first | omega | rfl

/-- A surrogate is not escaped, so that a string has octets only if its text has. -/
theorem isWellFormed_of_writeString {t : Text} (h : (writeString false t).isWellFormed = true) :
    t.isWellFormed = true := by
  rw [Text.isWellFormed_iff] at *
  intro c hc
  rw [← Bool.not_eq_true]
  intro hsurrogate
  have hmem : c ∈ writeString false t := by
    simp only [writeString, List.mem_append, List.mem_cons, List.mem_flatMap]
    exact .inl (.inr ⟨c, hc, by simp [escape_of_isSurrogate hsurrogate]⟩)
  rw [h c hmem] at hsurrogate
  cases hsurrogate

/-! ## Values -/

/-- What is written of a value has octets. -/
def Writes (style : Style) (depth : Nat) (v : Value) : Prop :=
  ∃ t, write? style depth v = .ok t ∧ t.isWellFormed = true

variable {style : Style} {depth : Nat}

theorem exists_writeItems? {items : List Value} (h : ∀ v ∈ items, Writes style depth v) :
    ∃ parts, writeItems? style depth items = .ok parts ∧
      ∀ part ∈ parts, part.isWellFormed = true := by
  induction items with
  | nil => exact ⟨[], rfl, fun _ hp => absurd hp List.not_mem_nil⟩
  | cons v items ih =>
    obtain ⟨part, hv, hpart⟩ := h v List.mem_cons_self
    obtain ⟨parts, hrest, hparts⟩ := ih fun u hu => h u (List.mem_cons_of_mem v hu)
    refine ⟨part :: parts, ?_, List.forall_mem_cons.mpr ⟨hpart, hparts⟩⟩
    rw [writeItems?, hv, hrest]
    rfl

theorem exists_writeMembers? {members : List (Text × Value)}
    (hn : ∀ m ∈ members, m.1.isWellFormed = true) (hv : ∀ m ∈ members, Writes style depth m.2) :
    ∃ parts, writeMembers? style depth members = .ok parts ∧
      ∀ part ∈ parts, part.isWellFormed = true := by
  induction members with
  | nil => exact ⟨[], rfl, fun _ hp => absurd hp List.not_mem_nil⟩
  | cons m members ih =>
    obtain ⟨name, v⟩ := m
    have hname : name.isWellFormed = true := hn _ List.mem_cons_self
    obtain ⟨part, hwrite, hpart⟩ := hv _ List.mem_cons_self
    obtain ⟨parts, hrest, hparts⟩ := ih (fun u hu => hn u (List.mem_cons_of_mem _ hu))
      fun u hu => hv u (List.mem_cons_of_mem _ hu)
    have hmember : (writeString style.asciiOnly name ++ Text.ofString style.nameSeparator
        ++ part).isWellFormed = true := by
      rw [Text.isWellFormed_append, Text.isWellFormed_append, isWellFormed_writeString hname,
        Text.isWellFormed_ofString, hpart]
      rfl
    refine ⟨_, ?_, List.forall_mem_cons.mpr ⟨hmember, hparts⟩⟩
    rw [writeMembers?, hwrite, hrest]
    rfl

/-- Parts in brackets. -/
theorem isWellFormed_enclosed {parts : List Text} (h : ∀ part ∈ parts, part.isWellFormed = true)
    (before separator after : String) : (Text.ofString before
      ++ Text.joinWith (Text.ofString separator) parts
      ++ Text.ofString after).isWellFormed = true := by
  have hjoined := Text.isWellFormed_joinWith (Text.isWellFormed_ofString separator) h
  rw [Text.isWellFormed_append, Text.isWellFormed_append, hjoined, Text.isWellFormed_ofString,
    Text.isWellFormed_ofString]
  rfl

/-- Plain values are written in every style, in text that has octets. -/
theorem writes_of_isPlain {v : Value} (h : v.IsPlain depth) (style : Style) :
    Writes style depth v := by
  induction h with
  | null depth => exact ⟨_, rfl, Text.isWellFormed_ofString "null"⟩
  | bool depth b => exact ⟨_, rfl, Text.isWellFormed_ofString _⟩
  | int depth n => exact ⟨_, rfl, Text.isWellFormed_ofInt n⟩
  | @real depth x hx =>
    refine ⟨Shortest.text x, ?_, Shortest.isWellFormed_text x⟩
    rw [write?, writeReal?, if_pos hx]
  | text depth ht => exact ⟨_, rfl, isWellFormed_writeString ht style.asciiOnly⟩
  | list _ ih =>
    obtain ⟨parts, hparts, hwf⟩ := exists_writeItems? ih
    refine ⟨_, ?_, isWellFormed_enclosed hwf "[" style.itemSeparator "]"⟩
    rw [write?, hparts]
    rfl
  | object hn _ ih =>
    obtain ⟨parts, hparts, hwf⟩ := exists_writeMembers? hn ih
    refine ⟨_, ?_, isWellFormed_enclosed hwf "\x7b" style.itemSeparator "\x7d"⟩
    rw [write?, hparts]
    rfl

/-- A value that is nested deeper than the writer goes is not written. -/
theorem write?_nested_of_lt (style : Style) {levels depth : Nat} (h : levels < depth) :
    write? style levels (.nested depth) = .error .tooDeep := by
  induction levels generalizing depth with
  | zero =>
    obtain ⟨depth, rfl⟩ := Nat.exists_eq_succ_of_ne_zero (Nat.ne_of_gt h)
    rw [Value.nested, write?]
  | succ levels ih =>
    obtain ⟨depth, rfl⟩ := Nat.exists_eq_succ_of_ne_zero (Nat.ne_of_gt (Nat.zero_lt_of_lt h))
    rw [Value.nested, write?, writeItems?, ih (Nat.lt_of_succ_lt_succ h)]
    rfl

/-! ## The compact style -/

theorem exists_of_bind_eq_ok {α β ε : Type} {r : Except ε α} {f : α → Except ε β} {b : β}
    (h : r >>= f = .ok b) : ∃ a, r = .ok a ∧ f a = .ok b := by
  cases r with
  | error e => cases h
  | ok a => exact ⟨a, rfl, h⟩

mutual

/-- The induction is on the value, along the recursion of the writer. -/
theorem isPlain_of_write? : ∀ (v : Value) {depth : Nat} {t : Text},
    write? compact depth v = .ok t → t.isWellFormed = true → v.IsPlain depth
  | .null, depth, _, _, _ => .null depth
  | .bool b, depth, _, _, _ => .bool depth b
  | .int n, depth, _, _, _ => .int depth n
  | .real x, depth, t, h, _ => by
    by_cases hx : x.isFinite = true
    · exact .real depth hx
    · simp [write?, writeReal?, hx, compact] at h
  | .text u, depth, t, h, ht => by
    rw [← Except.ok.inj h] at ht
    exact .text depth (isWellFormed_of_writeString ht)
  | .bytes bs, _, t, h, _ => by simp [write?] at h
  | .list items, 0, t, h, _ => by simp [write?] at h
  | .list items, depth + 1, t, h, ht => by
    rw [write?] at h
    obtain ⟨parts, hparts, hjoined⟩ := exists_of_bind_eq_ok h
    rw [← Except.ok.inj hjoined] at ht
    simp only [Text.isWellFormed_append, Bool.and_eq_true] at ht
    exact .list (isPlain_of_writeItems? items hparts (Text.isWellFormed_of_joinWith ht.1.2))
  | .object members, 0, t, h, _ => by simp [write?] at h
  | .object members, depth + 1, t, h, ht => by
    rw [write?] at h
    obtain ⟨parts, hparts, hjoined⟩ := exists_of_bind_eq_ok h
    rw [← Except.ok.inj hjoined] at ht
    simp only [Text.isWellFormed_append, Bool.and_eq_true] at ht
    have hmembers := isPlain_of_writeMembers? members hparts (Text.isWellFormed_of_joinWith ht.1.2)
    exact .object (fun m hm => (hmembers m hm).1) fun m hm => (hmembers m hm).2

theorem isPlain_of_writeItems? : ∀ (items : List Value) {depth : Nat} {parts : List Text},
    writeItems? compact depth items = .ok parts → (∀ part ∈ parts, part.isWellFormed = true) →
      ∀ v ∈ items, v.IsPlain depth
  | [], _, _, _, _ => by simp
  | v :: items, depth, parts, h, hparts => by
    rw [writeItems?] at h
    obtain ⟨part, hv, h⟩ := exists_of_bind_eq_ok h
    obtain ⟨rest, hrest, h⟩ := exists_of_bind_eq_ok h
    obtain rfl := Except.ok.inj h
    rw [List.forall_mem_cons] at hparts
    exact List.forall_mem_cons.mpr
      ⟨isPlain_of_write? v hv hparts.1, isPlain_of_writeItems? items hrest hparts.2⟩

theorem isPlain_of_writeMembers? : ∀ (members : List (Text × Value)) {depth : Nat}
    {parts : List Text}, writeMembers? compact depth members = .ok parts →
      (∀ part ∈ parts, part.isWellFormed = true) →
        ∀ m ∈ members, m.1.isWellFormed = true ∧ m.2.IsPlain depth
  | [], _, _, _, _ => by simp
  | (name, v) :: members, depth, parts, h, hparts => by
    rw [writeMembers?] at h
    obtain ⟨part, hv, h⟩ := exists_of_bind_eq_ok h
    obtain ⟨rest, hrest, h⟩ := exists_of_bind_eq_ok h
    obtain rfl := Except.ok.inj h
    obtain ⟨hpart, hrests⟩ := List.forall_mem_cons.mp hparts
    simp only [Text.isWellFormed_append, Bool.and_eq_true] at hpart
    exact List.forall_mem_cons.mpr
      ⟨⟨isWellFormed_of_writeString hpart.1.1, isPlain_of_write? v hv hpart.2⟩,
        isPlain_of_writeMembers? members hrest hrests⟩

end

/-- Octets are written of plain values and of no others. -/
theorem writes_compact_iff {v : Value} : Writes compact depth v ↔ v.IsPlain depth := by
  constructor
  · rintro ⟨t, hwrite, ht⟩
    exact isPlain_of_write? v hwrite ht
  · exact fun h => writes_of_isPlain h compact

end Json

end Courier
