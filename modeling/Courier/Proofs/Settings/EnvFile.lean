import Courier.Proofs.Text.Lines
import Courier.Proofs.Text.Split
import Courier.Proofs.Text.Trim
import Courier.Proofs.Text.Utf8
import Courier.Settings.EnvFile

/-!
# What a settings file adds to the environment

The lines of a file are entered one by one, and each looks at the environment that the lines before
it have made. So a variable that was there keeps its value, and of the lines for one name the first
counts. What a line gives is said by `Gives`, without regard to how it is read.

Results:
* `entry?_eq_some_iff`: the variable that a line gives.
* `get?_loadEntries`: the environment after entries without a NUL.
* `load_merges`: the environment after a file, which the same file does not change again.
-/

namespace Courier

/-! ## Environments -/

namespace Environment

variable {env : Environment} {name other value : Text}

theorem contains_iff : env.contains name = true ↔ ∃ value, env.get? name = some value :=
  Option.isSome_iff_exists

theorem contains_eq_false_iff : env.contains name = false ↔ env.get? name = none :=
  Option.isSome_eq_false_iff.trans Option.isNone_iff_eq_none

/-- A new variable has its value, and all others keep theirs. -/
theorem get?_set_of_not_contains (h : env.contains name = false) :
    (env.set name value).get? other = if other = name then some value else env.get? other := by
  have hnone := contains_eq_false_iff.mp h
  unfold set get?
  rw [if_neg (by simp [h]), List.find?_append]
  by_cases ho : other = name
  · subst ho
    have hfind := Option.map_eq_none_iff.mp hnone
    rw [if_pos rfl, hfind]
    simp
  · rw [if_neg ho]
    simp [Ne.symm ho]

theorem contains_set_of_not_contains (h : env.contains name = false) :
    (env.set name value).contains other = true ↔ other = name ∨ env.contains other = true := by
  rw [contains, get?_set_of_not_contains h]
  by_cases ho : other = name <;> simp [ho, contains]

end Environment

namespace EnvFile

/-! ## What a line gives -/

/-- A line gives a name and a value, neither of them empty: it does not begin with `#`, and holds
`=`. Blank characters at the ends of the line and around both parts do not count, and neither do
quotes at the ends of the value. -/
def Gives (line name value : Text) : Prop :=
  ∃ stripped before after quoted, Text.Trims Blank.isBlank line stripped ∧
    stripped.head? ≠ some (CodePoint.ofChar '#') ∧
    stripped = before ++ CodePoint.ofChar '=' :: after ∧ CodePoint.ofChar '=' ∉ before ∧
    Text.Trims Blank.isBlank before name ∧ name ≠ [] ∧
    Text.Trims Blank.isBlank after quoted ∧ Text.Trims isQuote quoted value ∧ value ≠ []

theorem entry?_eq_some_iff {line name value : Text} :
    entry? line = some (name, value) ↔ Gives line name value := by
  constructor
  · intro h
    unfold entry? at h
    dsimp only at h
    split at h
    · cases h
    next hcomment =>
      split at h
      · cases h
      next before after hsplit =>
        obtain ⟨hparts, hbefore⟩ := Text.splitFirst_eq_some_iff.mp hsplit
        split at h
        · cases h
        next hempty =>
          simp only [Bool.or_eq_true, List.isEmpty_iff, not_or] at hempty
          cases h
          exact ⟨_, before, after, _, Text.trim_eq_iff.mp rfl, hcomment, hparts, hbefore,
            Text.trim_eq_iff.mp rfl, hempty.1, Text.trim_eq_iff.mp rfl, Text.trim_eq_iff.mp rfl,
            hempty.2⟩
  · rintro ⟨stripped, before, after, quoted, hline, hcomment, hparts, hbefore, hname, hne, hquoted,
      hvalue, hne'⟩
    have hline' : Blank.strip line = stripped := Text.trim_eq_iff.mpr hline
    have hname' : Blank.strip before = name := Text.trim_eq_iff.mpr hname
    have hquoted' : Blank.strip after = quoted := Text.trim_eq_iff.mpr hquoted
    have hvalue' : Text.trim isQuote quoted = value := Text.trim_eq_iff.mpr hvalue
    have hsplit := Text.splitFirst_eq_some_iff.mpr ⟨hparts, hbefore⟩
    unfold entry?
    simp only [hline', hcomment, if_false, hsplit, hname', hquoted', hvalue', List.isEmpty_iff,
      Bool.or_eq_true, hne, hne', or_self]

/-- What a line gives stands in that line. -/
theorem mem_of_gives {line name value : Text} (h : Gives line name value) {c : CodePoint}
    (hc : c ∈ name ∨ c ∈ value) : c ∈ line := by
  obtain ⟨stripped, before, after, quoted, hline, -, hparts, -, hname, -, hquoted, hvalue, -⟩ := h
  rw [← Text.trim_eq_iff] at hline hname hquoted hvalue
  have hstripped : c ∈ stripped := by
    rw [hparts]
    obtain hc | hc := hc
    · rw [← hname] at hc
      exact List.mem_append_left _ (Text.mem_of_mem_trim hc)
    · rw [← hvalue] at hc
      have hquoted' := Text.mem_of_mem_trim hc
      rw [← hquoted] at hquoted'
      exact List.mem_append_right _ (List.mem_cons_of_mem _ (Text.mem_of_mem_trim hquoted'))
  rw [← hline] at hstripped
  exact Text.mem_of_mem_trim hstripped

/-- The first of several lines for a name. -/
theorem find?_entries_eq_some_iff {ls : List Text} {name value : Text} :
    ((ls.filterMap entry?).find? fun e => e.1 = name).map (·.2) = some value ↔
      ∃ before line after, ls = before ++ line :: after ∧ Gives line name value ∧
        ∀ l ∈ before, ∀ v, ¬Gives l name v := by
  have hother : ∀ l : Text,
      (!( entry? l).any fun e => e.1 = name) = true ↔ ∀ v, ¬Gives l name v := by
    intro l
    simp only [← entry?_eq_some_iff]
    cases entry? l with
    | none => simp
    | some e =>
      obtain ⟨n, v⟩ := e
      simp
  simp only [List.find?_filterMap, Option.map_eq_some_iff, Option.bind_eq_some_iff,
    List.find?_eq_some_iff_append]
  constructor
  · rintro ⟨⟨n, v⟩, ⟨line, ⟨hany, before, after, hls, hbefore⟩, hentry⟩, rfl⟩
    obtain rfl : n = name := by simpa [hentry] using hany
    exact ⟨before, line, after, hls, entry?_eq_some_iff.mp hentry,
      fun l hl => (hother l).mp (hbefore l hl)⟩
  · rintro ⟨before, line, after, hls, hgives, hbefore⟩
    have hentry := entry?_eq_some_iff.mpr hgives
    exact ⟨(name, value), ⟨line, ⟨by simp [hentry], before, after, hls,
      fun l hl => (hother l).mpr (hbefore l hl)⟩, hentry⟩, rfl⟩

theorem isSome_find?_entries_iff {ls : List Text} {name : Text} :
    ((ls.filterMap entry?).find? fun e => e.1 = name).isSome = true ↔
      ∃ line ∈ ls, ∃ value, Gives line name value := by
  rw [List.find?_isSome]
  constructor
  · rintro ⟨⟨n, value⟩, he, hname⟩
    obtain ⟨line, hline, hentry⟩ := List.mem_filterMap.mp he
    obtain rfl : n = name := by simpa using hname
    exact ⟨line, hline, value, entry?_eq_some_iff.mp hentry⟩
  · rintro ⟨line, hline, value, hgives⟩
    have hentry := entry?_eq_some_iff.mpr hgives
    exact ⟨(name, value), List.mem_filterMap.mpr ⟨line, hline, hentry⟩, by simp⟩

/-! ## Entering what lines give -/

/-- Entries without a NUL are all entered: what was there stays, and of the entries for a name the
first counts. -/
theorem get?_loadEntries {entries : List (Text × Text)}
    (h : ∀ e ∈ entries, (0 : CodePoint) ∉ e.1 ∧ (0 : CodePoint) ∉ e.2) (env : Environment) :
    ∃ env', loadEntries env entries = (env', none) ∧ ∀ name, env'.get? name =
      (env.get? name).or ((entries.find? fun e => e.1 = name).map (·.2)) := by
  induction entries generalizing env with
  | nil => exact ⟨env, rfl, fun name => by simp⟩
  | cons e entries ih =>
    obtain ⟨n, v⟩ := e
    obtain ⟨hn, hv⟩ := h (n, v) List.mem_cons_self
    have hrest := fun e he => h e (List.mem_cons_of_mem (n, v) he)
    cases hcontains : env.contains n with
    | true =>
      obtain ⟨env', hload, hget⟩ := ih hrest env
      refine ⟨env', ?_, ?_⟩
      · rw [loadEntries, if_pos hcontains, hload]
      · intro name
        rw [hget name, List.find?_cons]
        by_cases hname : n = name
        · obtain ⟨w, hw⟩ := Environment.contains_iff.mp hcontains
          rw [← hname, hw]
          rfl
        · simp [hname]
    | false =>
      obtain ⟨env', hload, hget⟩ := ih hrest (env.set n v)
      refine ⟨env', ?_, ?_⟩
      · have hnul : (n.contains 0 || v.contains 0) = false := by simp [hn, hv]
        rw [loadEntries, if_neg (by simp [hcontains]), hnul, if_neg Bool.false_ne_true, hload]
      · intro name
        rw [hget name, Environment.get?_set_of_not_contains hcontains, List.find?_cons]
        by_cases hname : name = n
        · subst hname
          simp [Environment.contains_eq_false_iff.mp hcontains]
        · simp [hname, Ne.symm hname]

/-- Entries for variables that are there change nothing. -/
theorem loadEntries_of_contains {entries : List (Text × Text)} {env : Environment}
    (h : ∀ e ∈ entries, env.contains e.1 = true) : loadEntries env entries = (env, none) := by
  induction entries with
  | nil => rfl
  | cons e entries ih =>
    obtain ⟨n, v⟩ := e
    rw [loadEntries, if_pos (h (n, v) List.mem_cons_self)]
    exact ih fun e he => h e (List.mem_cons_of_mem (n, v) he)

/-! ## Files -/

/-- A file of proper text is loaded line by line. -/
theorem load_file {t : Text} (ht : t.isWellFormed = true) (env : Environment) :
    load env (.file (Utf8.encodeAll t)) = loadEntries env ((linesOf t).filterMap entry?) := by
  have hread : Utf8.decode? (Utf8.encodeAll t) = .ok t := Utf8.decode?_eq_ok_iff.mpr ⟨ht, rfl⟩
  rw [load, hread]

/-- The lines of a text without a NUL give neither a name nor a value with one. -/
theorem nul_not_mem_entries {t : Text} (hnul : (0 : CodePoint) ∉ t) :
    ∀ e ∈ (linesOf t).filterMap entry?, (0 : CodePoint) ∉ e.1 ∧ (0 : CodePoint) ∉ e.2 := by
  rintro ⟨name, value⟩ he
  obtain ⟨line, hline, hentry⟩ := List.mem_filterMap.mp he
  have hgives := entry?_eq_some_iff.mp hentry
  have hnot : (0 : CodePoint) ∉ line := by
    intro hc
    obtain h | h := Blank.mem_of_mem_normalizeNewlines (Blank.mem_of_mem_lines hline hc)
    · exact absurd h (by decide)
    · exact hnul h
  exact ⟨fun hc => hnot (mem_of_gives hgives (.inl hc)),
    fun hc => hnot (mem_of_gives hgives (.inr hc))⟩

/-- **A settings file is merged into the environment.** A file of proper text without a NUL is
loaded to its end. Every variable that was there keeps its value, even if that is empty. Any other
name has the value of the first line that gives one for it, and is no variable if there is no such
line. Loading the file again changes nothing. -/
theorem load_merges (env : Environment) {t : Text} (ht : t.isWellFormed = true)
    (hnul : (0 : CodePoint) ∉ t) :
    ∃ ls env', Blank.CutsInto t ls ∧ load env (.file (Utf8.encodeAll t)) = (env', none) ∧
      (∀ name, env.contains name = true → env'.get? name = env.get? name) ∧
      (∀ name, env.contains name = false →
        (env'.contains name = true ↔ ∃ line ∈ ls, ∃ value, Gives line name value) ∧
        ∀ value, env'.get? name = some value ↔
          ∃ before line after, ls = before ++ line :: after ∧ Gives line name value ∧
            ∀ l ∈ before, ∀ v, ¬Gives l name v) ∧
      load env' (.file (Utf8.encodeAll t)) = (env', none) := by
  obtain ⟨env', hload, hget⟩ := get?_loadEntries (nul_not_mem_entries hnul) env
  refine ⟨linesOf t, env', Blank.cutsInto_iff.mpr rfl, (load_file ht env).trans hload, ?_, ?_, ?_⟩
  · intro name hname
    obtain ⟨value, hvalue⟩ := Environment.contains_iff.mp hname
    rw [hget name, hvalue]
    rfl
  · intro name hname
    have hnew : env'.get? name =
        (((linesOf t).filterMap entry?).find? fun e => e.1 = name).map (·.2) := by
      rw [hget name, Environment.contains_eq_false_iff.mp hname]
      rfl
    constructor
    · rw [Environment.contains, hnew, Option.isSome_map]
      exact isSome_find?_entries_iff
    · intro value
      rw [hnew]
      exact find?_entries_eq_some_iff
  · rw [load_file ht env']
    apply loadEntries_of_contains
    intro e he
    rw [Environment.contains, hget e.1, Option.isSome_or, Option.isSome_map]
    have hfound : (((linesOf t).filterMap entry?).find? fun e' => e'.1 = e.1).isSome = true :=
      List.find?_isSome.mpr ⟨e, he, by simp⟩
    rw [hfound, Bool.or_true]

/-- An empty variable that is there, a line with an empty value, and two lines for one name. -/
theorem load_merges_twoLines :
    let env : Environment := ⟨[(Text.ofString "A", [])]⟩
    let t := Text.ofString "A=1\r\n# B=0\nB=''\n B = 'x=y' \rB=2"
    t.isWellFormed = true ∧ (0 : CodePoint) ∉ t ∧
      ∃ env', load env (.file (Utf8.encodeAll t)) = (env', none) ∧
        env'.get? (Text.ofString "A") = some [] ∧
        env'.get? (Text.ofString "B") = some (Text.ofString "x=y") ∧
        load env' (.file (Utf8.encodeAll t)) = (env', none) := by
  intro env t
  have ht : t.isWellFormed = true := by decide
  have hnul : (0 : CodePoint) ∉ t := by decide
  obtain ⟨ls, env', -, hload, hkept, -, hagain⟩ := load_merges env ht hnul
  have hvalue : (load env (.file (Utf8.encodeAll t))).1.get? (Text.ofString "B") =
      some (Text.ofString "x=y") := by
    decide +kernel
  rw [hload] at hvalue
  exact ⟨ht, hnul, env', hload, hkept _ rfl, hvalue, hagain⟩

end EnvFile

end Courier
