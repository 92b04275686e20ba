import Courier.Text.Blank

/-!
# Words in headers

A header may hold lists of names, each of which may have a value after `=`. Commas part the lists;
names stand between semicolons or blanks, and a value may stand in quotation marks, where a
backslash goes before a character that is meant as it is.

* `Words.read`: the lists of a header.
-/

namespace Courier.Words

/-- A character of a name. -/
def isNameChar (c : CodePoint) : Bool :=
  !(Text.ofString "=;,").contains c && !Blank.isBlank c

/-- A character of a value without quotation marks. -/
def isValueChar (c : CodePoint) : Bool :=
  !(Text.ofString ";,").contains c && !Blank.isBlank c

/-- The text up to the closing quotation mark, and the rest after it. -/
def takeQuoted : Text → Option (Text × Text)
  | [] => none
  | [c] => if c = CodePoint.ofChar '"' then some ([], []) else none
  | c :: d :: rest =>
    if c = CodePoint.ofChar '"' then some ([], d :: rest)
    else if c = CodePoint.ofChar '\\' then
      if d = 0x0A then none else (takeQuoted rest).map fun (t, rest) => (d :: t, rest)
    else (takeQuoted (d :: rest)).map fun (t, rest) => (c :: t, rest)

/-- What is left after a quoted text is part of the text. -/
theorem length_of_takeQuoted {t quoted rest : Text} (h : takeQuoted t = some (quoted, rest)) :
    rest.length ≤ t.length := by
  fun_induction takeQuoted t generalizing quoted with
  | case1 => simp at h
  | case2 => simp_all
  | case3 => simp at h
  | case4 =>
    simp only [Option.some.injEq, Prod.mk.injEq] at h
    simp [← h.2]
  | case5 => simp at h
  | case6 =>
    rename_i ih
    simp only [Option.map_eq_some_iff, Prod.mk.injEq] at h
    obtain ⟨⟨q, r⟩, hq, _, rfl⟩ := h
    have := ih hq
    simp only [List.length_cons] at this ⊢
    omega
  | case7 =>
    rename_i ih
    simp only [Option.map_eq_some_iff, Prod.mk.injEq] at h
    obtain ⟨⟨q, r⟩, hq, _, rfl⟩ := h
    have := ih hq
    simp only [List.length_cons] at this ⊢
    omega

/-- A value and the rest after it. A quotation mark that is not closed is part of the value. -/
def takeWord (t : Text) : Text × Text :=
  match t with
  | [] => ([], [])
  | c :: rest =>
    match if c = CodePoint.ofChar '"' then takeQuoted rest else none with
    | some found => found
    | none => (t.takeWhile isValueChar, t.dropWhile isValueChar)

/-- A test drops no more than there is. -/
private theorem length_drop_le (p : CodePoint → Bool) (t : Text) :
    (t.dropWhile p).length ≤ t.length := (List.dropWhile_suffix p).length_le

/-- What is left after a value is part of the text. -/
theorem length_takeWord_le (t : Text) : (takeWord t).2.length ≤ t.length := by
  unfold takeWord
  split
  · simp
  · rename_i c rest
    split
    · rename_i found hq
      split at hq
      · have : found.2.length ≤ rest.length := length_of_takeQuoted hq
        simp only [List.length_cons]
        omega
      · simp at hq
    · exact length_drop_le isValueChar (c :: rest)

/-- The value after a name, if there is one, and the rest. -/
def takeValue (t : Text) : Option Text × Text :=
  match t.dropWhile Blank.isBlank with
  | [] => (none, t)
  | c :: rest =>
    if c = CodePoint.ofChar '=' then
      let found := takeWord (rest.dropWhile Blank.isBlank)
      (some found.1, found.2)
    else (none, t)

/-- What is left after a name and its value is part of the text. -/
theorem length_takeValue_le (t : Text) : (takeValue t).2.length ≤ t.length := by
  unfold takeValue
  split
  · simp
  · rename_i c rest hs
    have h₁ := length_drop_le Blank.isBlank t
    rw [hs, List.length_cons] at h₁
    have h₂ := length_drop_le Blank.isBlank rest
    have h₃ := length_takeWord_le (rest.dropWhile Blank.isBlank)
    split
    · simp only
      omega
    · simp

/-- The list that has been read, unless it is empty. -/
def close (words : List (Text × Option Text)) : List (List (Text × Option Text)) :=
  if words.isEmpty then [] else [words]

/-- The lists of a text after the words of the list that has been begun. -/
def readFrom (words : List (Text × Option Text)) (t : Text) : List (List (Text × Option Text)) :=
  match _found : t.dropWhile Blank.isBlank with
  | [] => close words
  | c :: rest =>
    if c = CodePoint.ofChar ',' then close words ++ readFrom [] rest
    else if c = CodePoint.ofChar '=' || c = CodePoint.ofChar ';' then readFrom words rest
    else
      let name := c :: rest.takeWhile isNameChar
      let found := takeValue (rest.dropWhile isNameChar)
      readFrom (words ++ [(name, found.1)]) found.2
termination_by t.length
decreasing_by
  all_goals
    have h₁ := length_drop_le Blank.isBlank t
    rw [_found, List.length_cons] at h₁
  · omega
  · omega
  · have h₂ := length_takeValue_le (rest.dropWhile isNameChar)
    have h₃ := length_drop_le isNameChar rest
    omega

/-- The lists of a header. -/
def read (header : Text) : List (List (Text × Option Text)) := readFrom [] header

end Courier.Words
