import Courier.Proofs.Settings.EnvFile
import Courier.Proofs.Text.WellFormed
import Mathlib.Data.List.Perm.Basic

/-!
# Writing a settings file

A variable is written as a line `NAME="VALUE"`, with quotes of either kind or none, and with white
space wherever it does not count. Between such lines there may be blank ones and comments, and lines
end with a line feed, a carriage return, or both. A file that is written like this is loaded as it
was meant, if a name does not look like a comment, a value does not begin or end with a quote, and
no line boundary stands in either.

Results:
* `Row.gives_text`: what is written in a row is read from it.
* `entriesOf_append`: a line is read whatever ends it.
* `loadEntries_of_nodup`: what entries with different names add to an environment.
* `load_layout`: a file that is written in any layout is loaded as it was meant.
-/

namespace Courier.EnvFile

/-! ## What can be written -/

/-- A text neither begins nor ends with a character that satisfies a test. -/
structure IsTrimmed (p : CodePoint → Bool) (t : Text) : Prop where
  head : ∀ c, t.head? = some c → p c = false
  last : ∀ c, t.getLast? = some c → p c = false

instance (p : CodePoint → Bool) (t : Text) : Decidable (IsTrimmed p t) :=
  decidable_of_iff ((t.head?.all fun c => !p c) = true ∧ (t.getLast?.all fun c => !p c) = true) (by
    simp only [Option.all_eq_true, Bool.not_eq_true']
    exact ⟨fun h => ⟨h.1, h.2⟩, fun h => ⟨h.head, h.last⟩⟩)

/-- Neither a surrogate nor a line boundary stands in a text. -/
def IsInLine (t : Text) : Prop :=
  ∀ c ∈ t, c.isSurrogate = false ∧ Blank.isLineBoundary c = false

instance (t : Text) : Decidable (IsInLine t) := List.decidableBAll _ t

/-- A name that can be written. -/
structure IsName (name : Text) : Prop where
  ne_nil : name ≠ []
  trimmed : IsTrimmed Blank.isBlank name
  noComment : name.head? ≠ some (CodePoint.ofChar '#')
  equals_not_mem : CodePoint.ofChar '=' ∉ name
  nul_not_mem : (0 : CodePoint) ∉ name
  inLine : IsInLine name

instance (name : Text) : Decidable (IsName name) :=
  decidable_of_iff (name ≠ [] ∧ IsTrimmed Blank.isBlank name ∧
      name.head? ≠ some (CodePoint.ofChar '#') ∧ CodePoint.ofChar '=' ∉ name ∧
      (0 : CodePoint) ∉ name ∧ IsInLine name)
    ⟨fun ⟨h₁, h₂, h₃, h₄, h₅, h₆⟩ => ⟨h₁, h₂, h₃, h₄, h₅, h₆⟩,
      fun ⟨h₁, h₂, h₃, h₄, h₅, h₆⟩ => ⟨h₁, h₂, h₃, h₄, h₅, h₆⟩⟩

/-- A value that can be written. -/
structure IsValue (value : Text) : Prop where
  ne_nil : value ≠ []
  trimmed : IsTrimmed isQuote value
  nul_not_mem : (0 : CodePoint) ∉ value
  inLine : IsInLine value

instance (value : Text) : Decidable (IsValue value) :=
  decidable_of_iff (value ≠ [] ∧ IsTrimmed isQuote value ∧ (0 : CodePoint) ∉ value ∧
      IsInLine value)
    ⟨fun ⟨h₁, h₂, h₃, h₄⟩ => ⟨h₁, h₂, h₃, h₄⟩, fun ⟨h₁, h₂, h₃, h₄⟩ => ⟨h₁, h₂, h₃, h₄⟩⟩

/-- The variables that can be written. -/
def IsPair (p : Text × Text) : Prop := IsName p.1 ∧ IsValue p.2

instance (p : Text × Text) : Decidable (IsPair p) := inferInstanceAs (Decidable (_ ∧ _))

/-- White space within a line. -/
def IsSpace (t : Text) : Prop :=
  ∀ c ∈ t, Blank.isBlank c = true ∧ Blank.isLineBoundary c = false

instance (t : Text) : Decidable (IsSpace t) := List.decidableBAll _ t

/-! ## Layouts -/

/-- What stands around a value. -/
inductive Quoting where
  | double
  | single
  | bare
  deriving DecidableEq, Repr

/-- What stands on either side of a value. -/
def Quoting.mark : Quoting → Text
  | .double => [CodePoint.ofChar '"']
  | .single => [CodePoint.ofChar '\'']
  | .bare => []

/-- A value as it is written. -/
def Quoting.wrap (q : Quoting) (value : Text) : Text := q.mark ++ value ++ q.mark

/-- A variable in a line, with the white space that is put between the parts. -/
structure Assignment where
  name : Text
  value : Text
  quoting : Quoting
  indent : Text
  beforeEquals : Text
  afterEquals : Text
  trailing : Text
  deriving DecidableEq, Repr

/-- The line of a variable. -/
def Assignment.text (a : Assignment) : Text :=
  a.indent ++ (a.name ++ (a.beforeEquals ++ CodePoint.ofChar '=' :: a.afterEquals)
    ++ a.quoting.wrap a.value) ++ a.trailing

/-- Only white space stands between the parts, and a value without quotes has none at its ends. -/
structure Assignment.IsProper (a : Assignment) : Prop where
  indent : IsSpace a.indent
  beforeEquals : IsSpace a.beforeEquals
  afterEquals : IsSpace a.afterEquals
  trailing : IsSpace a.trailing
  trimmed_of_bare : a.quoting = .bare → IsTrimmed Blank.isBlank a.value

instance (a : Assignment) : Decidable a.IsProper :=
  decidable_of_iff (IsSpace a.indent ∧ IsSpace a.beforeEquals ∧ IsSpace a.afterEquals ∧
      IsSpace a.trailing ∧ (a.quoting = .bare → IsTrimmed Blank.isBlank a.value))
    ⟨fun ⟨h₁, h₂, h₃, h₄, h₅⟩ => ⟨h₁, h₂, h₃, h₄, h₅⟩,
      fun ⟨h₁, h₂, h₃, h₄, h₅⟩ => ⟨h₁, h₂, h₃, h₄, h₅⟩⟩

/-- A line of a file: a variable, a blank line, or a comment. -/
inductive Row where
  | assignment (a : Assignment)
  | blank (space : Text)
  | comment (indent words : Text)
  deriving DecidableEq, Repr

namespace Row

/-- What is written in a line. -/
def text : Row → Text
  | assignment a => a.text
  | blank space => space
  | comment indent words => indent ++ CodePoint.ofChar '#' :: words

/-- The variable that is meant by a line, if it is for one. -/
def pair? : Row → Option (Text × Text)
  | assignment a => some (a.name, a.value)
  | blank _ | comment .. => none

/-- A line is what it is meant to be. -/
def IsProper : Row → Prop
  | assignment a => a.IsProper
  | blank space => IsSpace space
  | comment indent words => IsSpace indent ∧ IsInLine words

instance : (r : Row) → Decidable r.IsProper
  | assignment a => inferInstanceAs (Decidable a.IsProper)
  | blank space => inferInstanceAs (Decidable (IsSpace space))
  | comment indent words => inferInstanceAs (Decidable (IsSpace indent ∧ IsInLine words))

/-- What a line is meant to be can be written in it. -/
def IsReadable (r : Row) : Prop := r.IsProper ∧ ∀ p, r.pair? = some p → IsPair p

end Row

/-- What ends a line. -/
inductive LineEnd where
  | lineFeed
  | carriageReturn
  | both
  deriving DecidableEq, Repr

/-- The characters that end a line. -/
def LineEnd.text : LineEnd → Text
  | .lineFeed => [0x0A]
  | .carriageReturn => [0x0D]
  | .both => [0x0D, 0x0A]

/-- The lines of a file, each with its end, and what stands after the end of the last one. -/
structure Layout where
  rows : List (Row × LineEnd)
  last : Row

namespace Layout

/-- The text of a file. -/
def text (l : Layout) : Text := l.rows.flatMap (fun r => r.1.text ++ r.2.text) ++ l.last.text

/-- All that stands in the lines. -/
def contents (l : Layout) : List Row := l.rows.map (·.1) ++ [l.last]

/-- The variables that are meant by a file. -/
def pairs (l : Layout) : List (Text × Text) := l.contents.filterMap Row.pair?

end Layout

/-! ## Reading a line -/

theorem IsSpace.isBlank {t : Text} (h : IsSpace t) : ∀ c ∈ t, Blank.isBlank c = true :=
  fun c hc => (h c hc).1

/-- What is put around a trimmed text can be trimmed off again. -/
theorem IsTrimmed.trims {p : CodePoint → Bool} {t before after : Text} (h : IsTrimmed p t)
    (hbefore : ∀ c ∈ before, p c = true) (hafter : ∀ c ∈ after, p c = true) :
    Text.Trims p (before ++ t ++ after) t :=
  ⟨⟨before, after, rfl, hbefore, hafter⟩, h.head, h.last⟩

theorem isTrimmed_singleton {p : CodePoint → Bool} {c : CodePoint} (h : p c = false) :
    IsTrimmed p [c] := by
  constructor <;> simp [h]

/-- Only the ends matter. -/
theorem IsTrimmed.append {p : CodePoint → Bool} {t u : Text} (ht : IsTrimmed p t)
    (hu : IsTrimmed p u) (hne : t ≠ []) (hne' : u ≠ []) (between : Text) :
    IsTrimmed p (t ++ between ++ u) := by
  refine ⟨fun c hc => ht.head c ?_, fun c hc => hu.last c ?_⟩
  · rwa [List.append_assoc, List.head?_append_of_ne_nil _ hne] at hc
  · rwa [List.getLast?_append_of_ne_nil _ hne'] at hc

namespace Quoting

variable {q : Quoting} {value : Text}

theorem isQuote_of_mem_mark {c : CodePoint} (h : c ∈ q.mark) : isQuote c = true := by
  cases q <;> simp_all [mark, isQuote]

theorem wrap_ne_nil (h : value ≠ []) (q : Quoting) : q.wrap value ≠ [] := by
  simp [wrap, h]

/-- The quotes are no part of the value. -/
theorem trims_wrap (h : IsTrimmed isQuote value) (q : Quoting) :
    Text.Trims isQuote (q.wrap value) value :=
  h.trims (fun _ => isQuote_of_mem_mark) fun _ => isQuote_of_mem_mark

/-- White space at the ends of a value stands between quotes. -/
theorem isTrimmed_wrap (h : q = .bare → IsTrimmed Blank.isBlank value) :
    IsTrimmed Blank.isBlank (q.wrap value) := by
  have hquote : ∀ c, isQuote c = true → IsTrimmed Blank.isBlank [c] := by
    intro c hc
    simp only [isQuote, Bool.or_eq_true, decide_eq_true_eq] at hc
    apply isTrimmed_singleton
    obtain rfl | rfl := hc <;> decide
  cases q with
  | bare => simpa [wrap, mark] using h rfl
  | double =>
    have hmark := hquote (CodePoint.ofChar '"') rfl
    exact hmark.append hmark (by simp) (by simp) value
  | single =>
    have hmark := hquote (CodePoint.ofChar '\'') rfl
    exact hmark.append hmark (by simp) (by simp) value

end Quoting

theorem equals_not_mem_of_isSpace {t : Text} (h : IsSpace t) : CodePoint.ofChar '=' ∉ t :=
  fun hmem => absurd (h _ hmem).1 (by decide)

/-- A line with a variable gives that variable. -/
theorem Assignment.gives_text {a : Assignment} (h : a.IsProper) (hname : IsName a.name)
    (hvalue : IsValue a.value) : Gives a.text a.name a.value := by
  have hwrap := Quoting.isTrimmed_wrap h.trimmed_of_bare
  have hne := Quoting.wrap_ne_nil hvalue.ne_nil a.quoting
  have hline := hname.trimmed.append hwrap hname.ne_nil hne
    (a.beforeEquals ++ CodePoint.ofChar '=' :: a.afterEquals)
  refine ⟨_, a.name ++ a.beforeEquals, a.afterEquals ++ a.quoting.wrap a.value,
    a.quoting.wrap a.value, hline.trims h.indent.isBlank h.trailing.isBlank, ?_, by simp, ?_, ?_,
    hname.ne_nil, ?_, Quoting.trims_wrap hvalue.trimmed a.quoting, hvalue.ne_nil⟩
  · rw [List.append_assoc, List.head?_append_of_ne_nil _ hname.ne_nil]
    exact hname.noComment
  · rw [List.mem_append, not_or]
    exact ⟨hname.equals_not_mem, equals_not_mem_of_isSpace h.beforeEquals⟩
  · simpa using hname.trimmed.trims (List.forall_mem_nil _) h.beforeEquals.isBlank
  · simpa using hwrap.trims h.afterEquals.isBlank (List.forall_mem_nil _)

/-- White space gives nothing. -/
theorem entry?_of_isSpace {t : Text} (h : IsSpace t) : entry? t = none := by
  have hnil : Text.Trims Blank.isBlank t [] :=
    ⟨⟨t, [], by simp, h.isBlank, by simp⟩, by simp, by simp⟩
  have hstrip : Blank.strip t = [] := Text.trim_eq_iff.mpr hnil
  rw [ entry?, hstrip]
  rfl

theorem head?_dropTrailing {p : CodePoint → Bool} {c : CodePoint} (h : p c = false) (t : Text) :
    (Text.dropTrailing p (c :: t)).head? = some c := by
  obtain ⟨after, hsplit, hafter⟩ := Text.exists_append_dropTrailing p (c :: t)
  cases hkept : Text.dropTrailing p (c :: t) with
  | nil =>
    rw [hkept, List.nil_append] at hsplit
    rw [hafter c (hsplit ▸ List.mem_cons_self)] at h
    cases h
  | cons d kept =>
    rw [hkept] at hsplit
    exact congrArg some (List.cons.inj hsplit).1.symm

/-- A comment gives nothing. -/
theorem entry?_comment {indent : Text} (h : IsSpace indent) (words : Text) :
    entry? (indent ++ CodePoint.ofChar '#' :: words) = none := by
  have hmark : Blank.isBlank (CodePoint.ofChar '#') = false := by decide
  have hlead : Text.dropLeading Blank.isBlank (indent ++ CodePoint.ofChar '#' :: words) =
      CodePoint.ofChar '#' :: words := by
    rw [Text.dropLeading, List.dropWhile_append_of_pos h.isBlank,
      List.dropWhile_cons_of_neg (by simp [hmark])]
  have hhead := head?_dropTrailing hmark words
  rw [ entry?, Blank.strip, Text.trim, hlead]
  exact if_pos hhead

/-- What is written in a row is read from it. -/
theorem Row.gives_text {r : Row} (h : r.IsReadable) : entry? r.text = r.pair? := by
  obtain ⟨hproper, hpair⟩ := h
  cases r with
  | assignment a =>
    obtain ⟨hname, hvalue⟩ := hpair _ rfl
    exact entry?_eq_some_iff.mpr (Assignment.gives_text hproper hname hvalue)
  | blank space => exact entry?_of_isSpace hproper
  | comment indent words => exact entry?_comment hproper.1 words

/-! ## What stands in a line -/

theorem isInLine_append {t u : Text} : IsInLine (t ++ u) ↔ IsInLine t ∧ IsInLine u :=
  List.forall_mem_append

theorem isInLine_cons {c : CodePoint} {t : Text} :
    IsInLine (c :: t) ↔
      (c.isSurrogate = false ∧ Blank.isLineBoundary c = false) ∧ IsInLine t :=
  List.forall_mem_cons

theorem IsInLine.isWellFormed {t : Text} (h : IsInLine t) : t.isWellFormed = true :=
  Text.isWellFormed_iff.mpr fun c hc => (h c hc).1

theorem IsInLine.not_boundary {t : Text} (h : IsInLine t) :
    ∀ c ∈ t, Blank.isLineBoundary c = false := fun c hc => (h c hc).2

theorem isSurrogate_of_isBlank {c : CodePoint} (h : Blank.isBlank c = true) :
    c.isSurrogate = false := by
  rw [Utf8.isSurrogate_eq_false_iff]
  simp only [Blank.isBlank, Blank.isWhiteSpace, Bool.or_eq_true, Bool.and_eq_true,
    decide_eq_true_eq] at h
  omega

theorem IsSpace.isInLine {t : Text} (h : IsSpace t) : IsInLine t :=
  fun c hc => ⟨isSurrogate_of_isBlank (h c hc).1, (h c hc).2⟩

theorem Quoting.isInLine_wrap {value : Text} (h : IsInLine value) (q : Quoting) :
    IsInLine (q.wrap value) := by
  have hmark : IsInLine q.mark := by
    cases q with
    | bare => exact nofun
    | double => exact isInLine_cons.mpr ⟨by decide, nofun⟩
    | single => exact isInLine_cons.mpr ⟨by decide, nofun⟩
  exact isInLine_append.mpr ⟨isInLine_append.mpr ⟨hmark, h⟩, hmark⟩

theorem Row.isInLine_text {r : Row} (h : r.IsReadable) : IsInLine r.text := by
  obtain ⟨hproper, hpair⟩ := h
  cases r with
  | assignment a =>
    obtain ⟨hname, hvalue⟩ := hpair _ rfl
    have hspace : a.IsProper := hproper
    simp only [text, Assignment.text, isInLine_append, isInLine_cons]
    exact ⟨⟨hspace.indent.isInLine, ⟨hname.inLine, hspace.beforeEquals.isInLine, by decide,
      hspace.afterEquals.isInLine⟩, Quoting.isInLine_wrap hvalue.inLine a.quoting⟩,
      hspace.trailing.isInLine⟩
  | blank space => exact IsSpace.isInLine hproper
  | comment indent words =>
    exact isInLine_append.mpr ⟨hproper.1.isInLine, isInLine_cons.mpr ⟨by decide, hproper.2⟩⟩

/-! ## Reading line by line -/

/-- What the lines of a text give. -/
def entriesOf (t : Text) : List (Text × Text) := (linesOf t).filterMap entry?

theorem entriesOf_eq {t : Text} {ls : List Text} (h : Blank.CutsInto t ls) :
    entriesOf t = ls.filterMap entry? := by
  rw [entriesOf, linesOf, Blank.cutsInto_iff.mp h]

theorem filterMap_entry?_cons (line : Text) (more : List Text) :
    (line :: more).filterMap entry? = ( entry? line).toList ++ more.filterMap entry? := by
  rw [List.filterMap_cons]
  cases entry? line <;> rfl

theorem entriesOf_of_isInLine {line : Text} (h : IsInLine line) :
    entriesOf line = ( entry? line).toList := by
  by_cases hne : line = []
  · rw [hne]
    rfl
  · rw [entriesOf_eq (.last hne h.not_boundary), filterMap_entry?_cons]
    simp

theorem entriesOf_of_endsLine {line boundary rest : Text} (h : IsInLine line)
    (hb : Blank.EndsLine boundary rest) :
    entriesOf (line ++ boundary ++ rest) = ( entry? line).toList ++ entriesOf rest := by
  obtain ⟨more, hmore⟩ := Blank.exists_cutsInto rest
  rw [entriesOf_eq (.cons h.not_boundary hb hmore), filterMap_entry?_cons, entriesOf_eq hmore]

/-- A line is read whatever ends it. A carriage return and a line feed after it are one end, also
where they were written as the ends of two lines: the second line is empty then. -/
theorem entriesOf_append {line : Text} (h : IsInLine line) (e : LineEnd) (rest : Text) :
    entriesOf (line ++ e.text ++ rest) = ( entry? line).toList ++ entriesOf rest := by
  cases e with
  | lineFeed =>
    exact entriesOf_of_endsLine h (.single (by decide) fun hcr => absurd hcr (by decide))
  | both => exact entriesOf_of_endsLine h (.pair rest)
  | carriageReturn =>
    by_cases hmerge : rest.head? = some 0x0A
    · obtain ⟨rest', rfl⟩ := List.head?_eq_some_iff.mp hmerge
      have hempty : entriesOf ([] ++ [0x0A] ++ rest') = ( entry? []).toList ++ entriesOf rest' :=
        entriesOf_of_endsLine nofun (.single (by decide) fun hcr => absurd hcr (by decide))
      have hline := entriesOf_of_endsLine h (.pair rest')
      rw [List.append_assoc] at hline ⊢
      exact hline.trans (congrArg (( entry? line).toList ++ ·) hempty.symm)
    · exact entriesOf_of_endsLine h (.single (by decide) fun _ => hmerge)

namespace Layout

variable {l : Layout}

/-- What is meant by the rows of a file is read from it. -/
theorem entriesOf_text (h : ∀ r ∈ l.contents, r.IsReadable) : entriesOf l.text = l.pairs := by
  obtain ⟨rows, last⟩ := l
  have hlast : last.IsReadable := h last (by simp [contents])
  have hrows : ∀ r ∈ rows, r.1.IsReadable := fun r hr => h r.1 (by
    simp only [contents, List.mem_append, List.mem_map]
    exact .inl ⟨r, hr, rfl⟩)
  clear h
  induction rows with
  | nil =>
    simp only [text, pairs, contents, List.flatMap_nil, List.nil_append, List.map_nil]
    rw [entriesOf_of_isInLine (Row.isInLine_text hlast), Row.gives_text hlast]
    cases h : last.pair? <;> simp [h]
  | cons r rows ih =>
    obtain ⟨r, e⟩ := r
    obtain ⟨hr, hrows⟩ := List.forall_mem_cons.mp hrows
    have htext : text ⟨(r, e) :: rows, last⟩ = r.text ++ e.text ++ text ⟨rows, last⟩ := by
      simp [text]
    have hpairs : pairs ⟨(r, e) :: rows, last⟩ = r.pair?.toList ++ pairs ⟨rows, last⟩ := by
      simp only [pairs, contents, List.map_cons, List.cons_append, List.filterMap_cons]
      cases r.pair? <;> rfl
    rw [htext, hpairs, entriesOf_append (Row.isInLine_text hr) e, Row.gives_text hr, ih hrows]

theorem isWellFormed_lineEnd (e : LineEnd) : e.text.isWellFormed = true := by
  cases e <;> decide

/-- A file can be written in UTF-8. -/
theorem isWellFormed_text (h : ∀ r ∈ l.contents, r.IsReadable) : l.text.isWellFormed = true := by
  rw [Text.isWellFormed_iff]
  intro c hc
  simp only [text, List.mem_append, List.mem_flatMap] at hc
  obtain ⟨r, hr, hc | hc⟩ | hc := hc
  · have hmem : r.1 ∈ l.contents := List.mem_append_left _ (List.mem_map_of_mem hr)
    exact (Row.isInLine_text (h _ hmem) c hc).1
  · exact Text.isWellFormed_iff.mp (isWellFormed_lineEnd r.2) c hc
  · exact (Row.isInLine_text (h _ (by simp [contents])) c hc).1

end Layout

/-! ## What is loaded -/

/-- Entries with different names and no NUL add those to an environment whose name is new there. -/
theorem loadEntries_of_nodup {entries : List (Text × Text)} (hnames : (entries.map (·.1)).Nodup)
    (hnul : ∀ e ∈ entries, (0 : CodePoint) ∉ e.1 ∧ (0 : CodePoint) ∉ e.2) (env : Environment) :
    loadEntries env entries =
      (⟨env.entries ++ entries.filter fun e => !env.contains e.1⟩, none) := by
  induction entries generalizing env with
  | nil => simp [loadEntries]
  | cons e entries ih =>
    obtain ⟨n, v⟩ := e
    obtain ⟨hfirst, hrest⟩ := List.forall_mem_cons.mp hnul
    rw [List.map_cons, List.nodup_cons] at hnames
    cases hcontains : env.contains n with
    | true =>
      rw [loadEntries, if_pos hcontains, ih hnames.2 hrest]
      simp [hcontains]
    | false =>
      have hset : env.set n v = ⟨env.entries ++ [(n, v)]⟩ := by
        rw [Environment.set, if_neg (by simp [hcontains])]
      have hothers : entries.filter (fun e => !(env.set n v).contains e.1) =
          entries.filter fun e => !env.contains e.1 := by
        refine List.filter_congr fun e he => ?_
        have hne : e.1 ≠ n := fun hn => hnames.1 (List.mem_map.mpr ⟨e, he, hn⟩)
        rw [Bool.not_inj_iff, Bool.eq_iff_iff, Environment.contains_set_of_not_contains hcontains]
        simp [hne]
      rw [loadEntries, if_neg (by simp [hcontains]), if_neg (by simp [hfirst]), ih hnames.2 hrest,
        hothers]
      simp [hset, hcontains]

/-- Among entries with different names there is one for a name at most. -/
theorem find?_eq_some_iff_of_nodup {entries : List (Text × Text)}
    (h : (entries.map (·.1)).Nodup) {name value : Text} :
    (entries.find? fun e => e.1 = name).map (·.2) = some value ↔ (name, value) ∈ entries := by
  induction entries with
  | nil => simp
  | cons e entries ih =>
    obtain ⟨n, v⟩ := e
    rw [List.map_cons, List.nodup_cons] at h
    rw [List.find?_cons]
    by_cases hname : n = name
    · subst hname
      have hother : (n, value) ∉ entries := fun hmem => h.1 (List.mem_map.mpr ⟨_, hmem, rfl⟩)
      simp [hother, eq_comm]
    · simpa [hname, Ne.symm hname] using ih h.2

/-- **What is written is loaded.** Variables with different names are written into a file, in any
order and layout. The text of the file has octets. Loading them adds to an environment exactly the
variables whose names are not there, each with the value that was written. -/
theorem load_layout (env : Environment) {pairs : List (Text × Text)} {l : Layout}
    (hnames : (pairs.map (·.1)).Nodup) (hpairs : ∀ p ∈ pairs, IsPair p)
    (hproper : ∀ r ∈ l.contents, r.IsProper) (hl : l.pairs.Perm pairs) :
    ∃ octets added, Utf8.encode? l.text = .ok octets ∧
      load env (.file octets) = (⟨env.entries ++ added⟩, none) ∧
      added.Perm (pairs.filter fun p => !env.contains p.1) ∧
      ∀ name value, (load env (.file octets)).1.get? name = some value ↔
        env.get? name = some value ∨ env.contains name = false ∧ (name, value) ∈ pairs := by
  have hreadable : ∀ r ∈ l.contents, r.IsReadable := fun r hr =>
    ⟨hproper r hr, fun p hp => hpairs p (hl.mem_iff.mp (List.mem_filterMap.mpr ⟨r, hr, hp⟩))⟩
  have hnames' : (l.pairs.map (·.1)).Nodup := (hl.map _).nodup_iff.mpr hnames
  have hnul : ∀ p ∈ l.pairs, (0 : CodePoint) ∉ p.1 ∧ (0 : CodePoint) ∉ p.2 := fun p hp =>
    ⟨(hpairs p (hl.mem_iff.mp hp)).1.nul_not_mem, (hpairs p (hl.mem_iff.mp hp)).2.nul_not_mem⟩
  have hwf := Layout.isWellFormed_text hreadable
  have hload : load env (.file (Utf8.encodeAll l.text)) = loadEntries env l.pairs :=
    (load_file hwf env).trans (congrArg (loadEntries env) (Layout.entriesOf_text hreadable))
  refine ⟨Utf8.encodeAll l.text, _, Utf8.encode?_eq_ok_iff.mpr ⟨hwf, rfl⟩,
    hload.trans (loadEntries_of_nodup hnames' hnul env), hl.filter _, fun name value => ?_⟩
  obtain ⟨env', hrun, hget⟩ := get?_loadEntries hnul env
  rw [hload, hrun, hget name, ← hl.mem_iff, ← find?_eq_some_iff_of_nodup hnames']
  cases h : env.get? name with
  | none => simp [Environment.contains, h]
  | some old => simp [Environment.contains, h]

/-- White space, quotes and the signs of the format within values, a variable that is there, and a
carriage return before an empty line that a line feed ends. -/
theorem load_layout_mixed :
    let env : Environment := ⟨[(Text.ofString "D", Text.ofString "old")]⟩
    let pairs := [("A", "1"), ("B #", " x='y' # \"z\" "), ("D", "new")].map fun p =>
      (Text.ofString p.1, Text.ofString p.2)
    let space : Text := [0x20, 0x1F, 0x09]
    let row (name value : String) (q : Quoting) : Row :=
      .assignment ⟨Text.ofString name, Text.ofString value, q, space, space, space, space⟩
    let l : Layout := ⟨[(.comment [] (Text.ofString " A=0"), .carriageReturn),
      (.blank [], .lineFeed), (row "B #" " x='y' # \"z\" " .single, .both),
      (row "D" "new" .double, .carriageReturn)], row "A" "1" .bare⟩
    (pairs.map (·.1)).Nodup ∧ (∀ p ∈ pairs, IsPair p) ∧ (∀ r ∈ l.contents, r.IsProper) ∧
      l.pairs.Perm pairs ∧
      ∃ octets env', Utf8.encode? l.text = .ok octets ∧ load env (.file octets) = (env', none) ∧
        env'.get? (Text.ofString "B #") = some (Text.ofString " x='y' # \"z\" ") ∧
        env'.get? (Text.ofString "D") = some (Text.ofString "old") := by
  intro env pairs space row l
  have hnames : (pairs.map (·.1)).Nodup := by decide
  have hpairs : ∀ p ∈ pairs, IsPair p := by decide +kernel
  have hproper : ∀ r ∈ l.contents, r.IsProper := by decide +kernel
  have hl : l.pairs.Perm pairs := by decide
  obtain ⟨octets, added, hencode, hload, -, hget⟩ := load_layout env hnames hpairs hproper hl
  rw [hload] at hget
  exact ⟨hnames, hpairs, hproper, hl, octets, _, hencode, hload,
    (hget _ _).mpr (.inr ⟨by decide, by decide⟩), (hget _ _).mpr (.inl (by decide))⟩

end Courier.EnvFile
