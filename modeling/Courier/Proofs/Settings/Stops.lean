import Courier.Proofs.Message.Diagnosis
import Courier.Proofs.Settings.EnvFile
import Mathlib.Data.List.Induction

/-!
# Where the loading of a settings file stops

A file that is not UTF-8 is not loaded at all. Any other is loaded line by line, up to the first
line that gives a new variable with a NUL in its name or value. Whether a line is such a one depends
on the environment and on the lines before it. What these lines have set stays.

Results:
* `get?_loadEntries_of_contains`: the variables that were there.
* `loadLines_cases`: lines are loaded to their end, or up to the first at which loading stops.
* `load_stops_at_first`: which files are not loaded to their end, and what is loaded then.
-/

namespace Courier

/-! ## Lines at the front of a text -/

/-- What ends a line before a text does so before the front of that text. -/
theorem Blank.EndsLine.of_append {boundary front back : Text}
    (h : EndsLine boundary (front ++ back)) : EndsLine boundary front := by
  cases h with
  | pair => exact .pair front
  | single hc hr =>
    refine .single hc fun hcr hlf => hr hcr ?_
    rw [List.head?_append, hlf]
    rfl

/-- Lines are cut off together with the part of the text that they are the lines of. -/
theorem Blank.CutsInto.exists_append {t : Text} {ls before after : List Text} (h : CutsInto t ls)
    (hls : ls = before ++ after) :
    ∃ front back, t = front ++ back ∧ CutsInto front before ∧ CutsInto back after := by
  induction h generalizing before with
  | nil =>
    obtain ⟨rfl, rfl⟩ := List.append_eq_nil_iff.mp hls.symm
    exact ⟨[], [], rfl, .nil, .nil⟩
  | @last line hne hline =>
    obtain ⟨rfl, rfl⟩ | ⟨rfl, rfl⟩ := List.append_eq_singleton_iff.mp hls.symm
    · exact ⟨[], line, rfl, .nil, .last hne hline⟩
    · exact ⟨line, [], (List.append_nil line).symm, .last hne hline, .nil⟩
  | @cons line boundary rest more hline hb hmore ih =>
    cases before with
    | nil =>
      obtain rfl := hls
      exact ⟨[], _, rfl, .nil, .cons hline hb hmore⟩
    | cons first before =>
      obtain ⟨rfl, hmore⟩ := List.cons.inj hls
      obtain ⟨front, back, rfl, hfront, hback⟩ := ih hmore
      exact ⟨line ++ boundary ++ front, back, by simp, .cons hline hb.of_append hfront, hback⟩

namespace EnvFile

/-! ## Lines one after another -/

/-- The environment after lines, and the fault that stopped their loading. -/
def loadLines (env : Environment) (ls : List Text) : Environment × Option Fault :=
  loadEntries env (ls.filterMap entry?)

/-- More entries are loaded unless loading stopped before them. -/
theorem loadEntries_append (env : Environment) (entries more : List (Text × Text)) :
    loadEntries env (entries ++ more) =
      match loadEntries env entries with
      | (env', none) => loadEntries env' more
      | (env', some fault) => (env', some fault) := by
  induction entries generalizing env with
  | nil => rfl
  | cons e entries ih =>
    obtain ⟨name, value⟩ := e
    rw [List.cons_append, loadEntries, loadEntries]
    split
    · exact ih env
    · split
      · rfl
      · exact ih _

theorem loadLines_concat (env : Environment) (ls : List Text) (line : Text) :
    loadLines env (ls ++ [line]) =
      match loadLines env ls with
      | (env', none) => loadEntries env' ( entry? line).toList
      | (env', some fault) => (env', some fault) := by
  have hline : [line].filterMap entry? = ( entry? line).toList := by
    cases h : entry? line <;> simp [h]
  rw [loadLines, List.filterMap_append, hline, loadEntries_append]
  rfl

/-- A variable that was there is neither changed nor removed. -/
theorem get?_loadEntries_of_contains {env : Environment} {name : Text}
    (h : env.contains name = true) (entries : List (Text × Text)) :
    (loadEntries env entries).1.get? name = env.get? name := by
  induction entries generalizing env with
  | nil => rfl
  | cons e entries ih =>
    obtain ⟨n, value⟩ := e
    rw [loadEntries]
    split
    · exact ih h
    next hnew =>
      rw [Bool.not_eq_true] at hnew
      split
      · rfl
      · have hne : name ≠ n := by
          rintro rfl
          rw [h] at hnew
          cases hnew
        rw [ih ((Environment.contains_set_of_not_contains hnew).mpr (.inr h)),
          Environment.get?_set_of_not_contains hnew, if_neg hne]

/-! ## The lines at which loading stops -/

/-- A NUL stands in the name or the value. -/
def HasNul (name value : Text) : Prop := (0 : CodePoint) ∈ name ∨ (0 : CodePoint) ∈ value

instance (name value : Text) : Decidable (HasNul name value) := inferInstanceAs (Decidable (_ ∨ _))

/-- A line gives a value that the variable can have. -/
def Sets (line name : Text) : Prop := ∃ value, Gives line name value ∧ ¬HasNul name value

/-- After the lines before it a line stops the loading: it gives a variable with a NUL, and the name
is neither in the environment nor set by one of those lines. -/
def Stops (env : Environment) (before : List Text) (line : Text) : Prop :=
  ∃ name value, Gives line name value ∧ HasNul name value ∧ env.contains name = false ∧
    ∀ l ∈ before, ¬Sets l name

/-- The first of the lines at which loading stops, and the lines before it. -/
structure StopsFirst (env : Environment) (ls before : List Text) (line : Text) : Prop where
  split : ∃ after, ls = before ++ line :: after
  stops : Stops env before line
  loaded : ∀ earlier l later, before = earlier ++ l :: later → ¬Stops env earlier l

variable {env env' : Environment} {ls before : List Text} {line name value : Text}

theorem Gives.unique {name' value' : Text} (h : Gives line name value)
    (h' : Gives line name' value') : name = name' ∧ value = value' := by
  rw [← entry?_eq_some_iff] at h h'
  exact Prod.mk.inj (Option.some.inj (h.symm.trans h'))

/-- The names that are there after lines were loaded to their end. -/
def Loads (env : Environment) (ls : List Text) (env' : Environment) : Prop :=
  loadLines env ls = (env', none) ∧
    ∀ name, env'.contains name = true ↔ env.contains name = true ∨ ∃ l ∈ ls, Sets l name

/-- No line of those at the front stops the loading, and neither does the last. -/
theorem not_stops_concat (h : ∀ earlier l later, ls = earlier ++ l :: later → ¬Stops env earlier l)
    (hline : ¬Stops env ls line) {earlier later : List Text} {l : Text}
    (hsplit : ls ++ [line] = earlier ++ l :: later) : ¬Stops env earlier l := by
  cases later using List.reverseRecOn with
  | nil =>
    obtain ⟨rfl, hl⟩ := List.append_inj' hsplit rfl
    obtain rfl := List.singleton_inj.mp hl
    exact hline
  | append_singleton later last =>
    rw [← List.cons_append, ← List.append_assoc] at hsplit
    exact h earlier l later (List.append_inj' hsplit rfl).1

theorem exists_sets_concat_iff :
    (∃ l ∈ ls ++ [line], Sets l name) ↔ (∃ l ∈ ls, Sets l name) ∨ Sets line name := by
  simp [or_and_right, exists_or]

/-- A line that sets nothing but variables that are there changes nothing. -/
theorem Loads.skip (h : Loads env ls env') (hline : loadLines env (ls ++ [line]) = (env', none))
    (hsets : ∀ name, Sets line name → env'.contains name = true) :
    Loads env (ls ++ [line]) env' := by
  refine ⟨hline, fun name => ?_⟩
  rw [exists_sets_concat_iff, ← or_assoc, ← h.2 name]
  exact ⟨.inl, fun hn => hn.elim id (hsets name)⟩

/-- One more line after lines that were loaded to their end: it is loaded too, or loading stops. -/
theorem Loads.concat (h : Loads env ls env') (line : Text) :
    (¬Stops env ls line ∧ ∃ env'', Loads env (ls ++ [line]) env'') ∨
      Stops env ls line ∧ loadLines env (ls ++ [line]) = (env', some .nulCharacter) := by
  have hstep := loadLines_concat env ls line
  rw [h.1] at hstep
  dsimp only at hstep
  cases hentry : entry? line with
  | none =>
    have hnone : ∀ n v, ¬Gives line n v := by
      intro n v hgives
      rw [ entry?_eq_some_iff.mpr hgives] at hentry
      cases hentry
    rw [hentry] at hstep
    refine .inl ⟨?_, env', h.skip hstep ?_⟩
    · rintro ⟨n, v, hgives, -⟩
      exact hnone n v hgives
    · rintro n ⟨v, hgives, -⟩
      exact absurd hgives (hnone n v)
  | some e =>
    obtain ⟨n, v⟩ := e
    have hgives := entry?_eq_some_iff.mp hentry
    rw [hentry, Option.toList_some, loadEntries] at hstep
    cases hknown : env'.contains n with
    | true =>
      rw [if_pos hknown] at hstep
      refine .inl ⟨?_, env', h.skip hstep ?_⟩
      · rintro ⟨n', v', hgives', -, hnew, hunset⟩
        obtain ⟨rfl, -⟩ := hgives.unique hgives'
        obtain hold | ⟨l, hl, hsets⟩ := (h.2 n).mp hknown
        · rw [hnew] at hold
          cases hold
        · exact hunset l hl hsets
      · rintro n' ⟨v', hgives', -⟩
        obtain ⟨rfl, -⟩ := hgives.unique hgives'
        exact hknown
    | false =>
      have hnew : ¬(env.contains n = true ∨ ∃ l ∈ ls, Sets l n) := by
        rw [← h.2 n, hknown]
        exact Bool.false_ne_true
      rw [not_or] at hnew
      rw [if_neg (by simp [hknown])] at hstep
      by_cases hnul : HasNul n v
      · rw [if_pos (by simpa [HasNul] using hnul)] at hstep
        refine .inr ⟨⟨n, v, hgives, hnul, by simpa using hnew.1, ?_⟩, hstep⟩
        exact fun l hl hsets => hnew.2 ⟨l, hl, hsets⟩
      · rw [if_neg (by simpa [HasNul] using hnul)] at hstep
        refine .inl ⟨?_, env'.set n v, hstep, fun m => ?_⟩
        · rintro ⟨n', v', hgives', hnul', -⟩
          obtain ⟨rfl, rfl⟩ := hgives.unique hgives'
          exact hnul hnul'
        · have hline : Sets line m ↔ m = n := by
            constructor
            · rintro ⟨v', hgives', -⟩
              exact (hgives.unique hgives').1.symm
            · rintro rfl
              exact ⟨v, hgives, hnul⟩
          rw [Environment.contains_set_of_not_contains hknown, h.2 m, exists_sets_concat_iff,
            hline, or_comm, or_assoc]

/-- Lines are loaded to their end, or up to the first at which loading stops. The induction is on
the lines from the last one on, so that the environment before them stays the same. -/
theorem loadLines_cases (env : Environment) (ls : List Text) :
    (∃ env', Loads env ls env' ∧
        ∀ earlier l later, ls = earlier ++ l :: later → ¬Stops env earlier l) ∨
      ∃ before line env', StopsFirst env ls before line ∧
        loadLines env ls = (env', some .nulCharacter) := by
  induction ls using List.reverseRecOn with
  | nil => exact .inl ⟨env, ⟨rfl, by simp⟩, by simp⟩
  | append_singleton ls line ih =>
    obtain ⟨env', hloads, hnone⟩ | ⟨before, l, env', hfirst, hstop⟩ := ih
    · obtain ⟨hline, env'', hmore⟩ | ⟨hline, hstop⟩ := hloads.concat line
      · exact .inl ⟨env'', hmore, fun _ _ _ => not_stops_concat hnone hline⟩
      · exact .inr ⟨ls, line, env', ⟨⟨[], rfl⟩, hline, hnone⟩, hstop⟩
    · obtain ⟨after, rfl⟩ := hfirst.split
      refine .inr ⟨before, l, env', ⟨⟨after ++ [line], by simp⟩, hfirst.stops, hfirst.loaded⟩, ?_⟩
      rw [loadLines_concat, hstop]

/-- The lines before the first at which loading stops are loaded, and no line after them. -/
theorem StopsFirst.exists_loads (h : StopsFirst env ls before line) :
    ∃ env', loadLines env before = (env', none) ∧
      loadLines env ls = (env', some .nulCharacter) := by
  obtain ⟨env', hloads, -⟩ | ⟨earlier, l, -, hfirst, -⟩ := loadLines_cases env before
  · obtain ⟨hline, -⟩ | ⟨-, hstop⟩ := hloads.concat line
    · exact absurd h.stops hline
    · obtain ⟨after, rfl⟩ := h.split
      refine ⟨env', hloads.1, ?_⟩
      rw [loadLines] at hstop
      rw [← List.singleton_append, ← List.append_assoc, loadLines, List.filterMap_append,
        loadEntries_append, hstop]
  · obtain ⟨later, hsplit⟩ := hfirst.split
    exact absurd hfirst.stops (h.loaded earlier l later hsplit)

/-- The lines at which loading stops decide how it ends. -/
theorem snd_loadLines (env : Environment) (ls : List Text) :
    ((loadLines env ls).2 = some .nulCharacter ↔
      ∃ before line after, ls = before ++ line :: after ∧ Stops env before line) ∧
    ((loadLines env ls).2 = none ↔
      ∀ before line after, ls = before ++ line :: after → ¬Stops env before line) := by
  obtain ⟨env', hloads, hnone⟩ | ⟨before, line, env', hfirst, hstop⟩ := loadLines_cases env ls
  · rw [hloads.1]
    exact ⟨⟨nofun, fun ⟨before, line, after, hsplit, hstops⟩ =>
      absurd hstops (hnone before line after hsplit)⟩, ⟨fun _ => hnone, fun _ => rfl⟩⟩
  · rw [hstop]
    obtain ⟨after, hsplit⟩ := hfirst.split
    exact ⟨⟨fun _ => ⟨before, line, after, hsplit, hfirst.stops⟩, fun _ => rfl⟩,
      ⟨nofun, fun hnone => absurd hfirst.stops (hnone before line after hsplit)⟩⟩

/-! ## Files -/

/-- What is no regular file is not loaded. -/
def Place.isRegular : Place → Bool
  | .absent | .directory => false
  | .file _ => true

/-- A variable that was there is neither changed nor removed, whatever stands in the file. -/
theorem get?_load_of_contains (h : env.contains name = true) (place : Place) :
    (load env place).1.get? name = env.get? name := by
  cases place with
  | absent => rfl
  | directory => rfl
  | file octets =>
    rw [load]
    split
    · rfl
    · exact get?_loadEntries_of_contains h _

/-- A file that is not UTF-8 fails where the conversion of these octets to units does. -/
theorem exists_load_eq_undecodable {octets : Bytes} (h : ¬Utf8.IsUtf8 octets)
    (env : Environment) :
    ∃ (fault : Utf8.Undecodable) (failure : EncodingFailure),
      load env (.file octets) = (env, some (.undecodable fault)) ∧
        (Body.octets octets).units? = .error failure ∧
        failure.position = some (fault.start : Int) := by
  rw [← Utf8.exists_decode?_eq_ok_iff] at h
  cases hread : Utf8.decode? octets with
  | ok t => exact absurd ⟨t, hread⟩ h
  | error fault =>
    refine ⟨fault, _, ?_, Body.units?_octets_eq_error_iff.mpr ⟨fault, hread, rfl⟩, rfl⟩
    rw [load, hread]

/-- **Loading stops at the first line that cannot be loaded.** Nothing happens where there is no
regular file, and a variable that was there never changes. A file that is not UTF-8 fails at the
position at which the conversion of its octets to units fails, and nothing is loaded of it. A file
of proper text fails exactly if a line of it gives a name or a value with a NUL, where the name is
neither in the environment nor set by an earlier line. Then the environment is the one that the part
of the file in front of the first such line comes to. -/
theorem load_stops_at_first (env : Environment) (octets : Bytes) :
    (∀ place, place.isRegular = false → load env place = (env, none)) ∧
    (∀ place name, env.contains name = true →
      (load env place).1.get? name = env.get? name) ∧
    (¬Utf8.IsUtf8 octets →
      ∃ (fault : Utf8.Undecodable) (failure : EncodingFailure),
        load env (.file octets) = (env, some (.undecodable fault)) ∧
          (Body.octets octets).units? = .error failure ∧
          failure.position = some (fault.start : Int)) ∧
    ∀ t, t.isWellFormed = true → Utf8.encodeAll t = octets →
      ∃ ls, Blank.CutsInto t ls ∧
        ((load env (.file octets)).2 = some .nulCharacter ↔
          ∃ before line after, ls = before ++ line :: after ∧ Stops env before line) ∧
        ((load env (.file octets)).2 = none ↔
          ∀ before line after, ls = before ++ line :: after → ¬Stops env before line) ∧
        ∀ before line, StopsFirst env ls before line →
          ∃ front back after, t = front ++ back ∧ Blank.CutsInto front before ∧
            Blank.CutsInto back (line :: after) ∧
            load env (.file (Utf8.encodeAll front)) = ((load env (.file octets)).1, none) := by
  refine ⟨fun place hplace => ?_, fun place name h => get?_load_of_contains h place,
    fun h => exists_load_eq_undecodable h env, ?_⟩
  · cases place with
    | file octets => cases hplace
    | _ => rfl
  · rintro t ht rfl
    have hload : load env (.file (Utf8.encodeAll t)) = loadLines env (linesOf t) :=
      load_file ht env
    obtain ⟨hfails, hends⟩ := snd_loadLines env (linesOf t)
    have hcut : Blank.CutsInto t (linesOf t) := Blank.cutsInto_iff.mpr rfl
    rw [hload]
    refine ⟨linesOf t, hcut, hfails, hends, fun before line hfirst => ?_⟩
    obtain ⟨env', hbefore, hstop⟩ := hfirst.exists_loads
    obtain ⟨after, hsplit⟩ := hfirst.split
    obtain ⟨front, back, rfl, hfront, hback⟩ := hcut.exists_append hsplit
    rw [Text.isWellFormed_append, Bool.and_eq_true] at ht
    have hlines : linesOf front = before := Blank.cutsInto_iff.mp hfront
    refine ⟨front, back, after, rfl, hfront, hback, ?_⟩
    rw [load_file ht.1, hlines, hstop]
    exact hbefore

/-- A variable that was there and one that was set may have lines with a NUL after that, a new one
may not. Octets that are not UTF-8 leave everything as it was. -/
theorem load_stops_at_first_newVariable :
    let env : Environment := ⟨[(Text.ofString "A", [])]⟩
    let t := Text.ofString "A=\x00\r\nB=1\rB=\x00\n C = 'x\x00'\nD=2"
    let octets : Bytes := [0x41, 0xFF]
    t.isWellFormed = true ∧ ¬Utf8.IsUtf8 octets ∧
      (load env (.file (Utf8.encodeAll t))).2 = some .nulCharacter ∧
      (∃ front back, t = front ++ back ∧
        load env (.file (Utf8.encodeAll front)) =
          (⟨env.entries ++ [(Text.ofString "B", Text.ofString "1")]⟩, none)) ∧
      ∃ fault : Utf8.Undecodable,
        load env (.file octets) = (env, some (.undecodable fault)) := by
  intro env t octets
  have ht : t.isWellFormed = true := by decide
  have hbad : ¬Utf8.IsUtf8 octets := by
    rw [← Utf8.exists_decode?_eq_ok_iff]
    rintro ⟨t, ht⟩
    cases ht
  obtain ⟨ls, hcut, hfails, -, hfirst⟩ :=
    (load_stops_at_first env (Utf8.encodeAll t)).2.2.2 t ht rfl
  obtain ⟨fault, failure, hload, -, -⟩ := (load_stops_at_first env octets).2.2.1 hbad
  let before := ["A=\x00", "B=1", "B=\x00"].map Text.ofString
  let line := Text.ofString " C = 'x\x00'"
  have hls : ls = before ++ line :: [Text.ofString "D=2"] := by
    rw [← Blank.cutsInto_iff.mp hcut]
    decide +kernel
  have hothers : ∀ l ∈ before, ( entry? l).map (·.1) ≠ some (Text.ofString "C") := by decide +kernel
  have hstops : Stops env before line := by
    refine ⟨Text.ofString "C", Text.ofString "x\x00", entry?_eq_some_iff.mp (by decide +kernel),
      by decide, by decide, ?_⟩
    rintro l hl ⟨value, hgives, -⟩
    exact hothers l hl (congrArg (Option.map (·.1)) ( entry?_eq_some_iff.mpr hgives))
  have hloaded := (snd_loadLines env before).2.mp (by decide +kernel)
  obtain ⟨front, back, -, hsplit, -, -, hsame⟩ := hfirst before line ⟨⟨_, hls⟩, hstops, hloaded⟩
  have hentries : (load env (.file (Utf8.encodeAll t))).1 =
      ⟨env.entries ++ [(Text.ofString "B", Text.ofString "1")]⟩ := by
    decide +kernel
  rw [hentries] at hsame
  exact ⟨ht, hbad, hfails.mpr ⟨before, line, _, hls, hstops⟩, ⟨front, back, hsplit, hsame⟩, fault,
    hload⟩

end EnvFile

end Courier
