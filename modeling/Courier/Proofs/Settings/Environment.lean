import Courier.Proofs.Text.Pieces
import Courier.Settings.Client
import Courier.Settings.Gateway

/-!
# One variable seen differently

`mapValue name f env` is the environment in which the value of one variable is seen through a
function. Whatever reads, assigns or removes variables from outside goes along with that, and what
never looks at the variable does not see it.

Results:
* `assign?_eq`: what an assignment from outside comes to in every environment.
* `get?_mapValue`, `set_mapValue`, `erase_mapValue`: reading, assigning and removing variables.
-/

namespace Courier.Environment

/-- The environment in which the values of a variable are seen through a function. -/
def mapValue (name : Text) (f : Text → Text) (env : Environment) : Environment :=
  ⟨env.entries.map fun (n, v) => (n, if n = name then f v else v)⟩

variable (name : Text) (f : Text → Text) (env : Environment)

theorem get?_mapValue (other : Text) :
    (env.mapValue name f).get? other =
      (env.get? other).map fun v => if other = name then f v else v := by
  obtain ⟨entries⟩ := env
  simp only [get?, mapValue]
  induction entries with
  | nil => rfl
  | cons e entries ih =>
    obtain ⟨n, v⟩ := e
    rw [List.map_cons, List.find?_cons, List.find?_cons]
    by_cases hn : n = other
    · simp [hn]
    · simpa [hn] using ih

/-- A variable of another name is not seen differently. -/
theorem get?_mapValue_of_ne {other : Text} (h : other ≠ name) :
    (env.mapValue name f).get? other = env.get? other := by
  simp [get?_mapValue, h]

theorem set_mapValue (other value : Text) :
    (env.set other value).mapValue name f =
      (env.mapValue name f).set other (if other = name then f value else value) := by
  have hcontains : (env.mapValue name f).contains other = env.contains other := by
    rw [contains, contains, get?_mapValue, Option.isSome_map]
  unfold set
  rw [hcontains]
  split
  · simp only [mapValue, List.map_map, Environment.mk.injEq]
    apply List.map_congr_left
    rintro ⟨n, v⟩ -
    by_cases hn : n = other <;> simp [hn]
  · simp [mapValue]

theorem erase_mapValue (other : Text) :
    (env.erase other).mapValue name f = (env.mapValue name f).erase other := by
  simp only [erase, mapValue, List.filter_map, Function.comp_def]

/-! ## Changes from outside -/

/-- The entry that is set for a name and a value from outside, or why there is none. -/
def entryOf? (other value : Text) : Except Refusal (Text × Text) :=
  (empty.assign? other value).map fun env => env.entries.headD ([], [])

theorem assign?_eq (other value : Text) :
    env.assign? other value = (entryOf? other value).map fun e => env.set e.1 e.2 := by
  unfold entryOf? assign?
  cases octets? other with
  | error reason => rfl
  | ok n =>
    cases octets? value with
    | error reason => rfl
    | ok v =>
      simp only [bind, Except.bind]
      split
      · rfl
      · split
        · rfl
        · split <;> rfl

/-- A name that variables may have. -/
structure IsName (other : Text) : Prop where
  isWellFormed : other.isWellFormed = true
  nul_not_mem : (0 : UInt8) ∉ Utf8.encodeAll other
  equals_not_mem : (0x3D : UInt8) ∉ Utf8.encodeAll other
  ne_nil : Utf8.encodeAll other ≠ []

section

variable {other value : Text} (ho : IsName other) (hv : value.isWellFormed = true)

include hv in
theorem octets?_of_isWellFormed : octets? value = .ok (Utf8.encodeAll value) := by
  rw [octets?, Utf8.encodeEscaped?_of_isWellFormed hv]
  rfl

include ho hv

/-- A value without surrogates is refused if there is a NUL in it. -/
theorem entryOf?_of_nul_mem (h : (0 : CodePoint) ∈ value) :
    entryOf? other value = .error .nulCharacter := by
  have hzero := Utf8.zero_mem_encodeAll_iff.mpr h
  simp [entryOf?, assign?, octets?_of_isWellFormed ho.isWellFormed, octets?_of_isWellFormed hv,
    Except.map, bind, Except.bind, hzero]

/-- A value without surrogates is assigned as it is, if there is no NUL in it. -/
theorem entryOf?_of_nul_not_mem (h : (0 : CodePoint) ∉ value) :
    entryOf? other value = .ok (other, value) := by
  have hzero := mt Utf8.zero_mem_encodeAll_iff.mp h
  simp [entryOf?, assign?, octets?_of_isWellFormed ho.isWellFormed, octets?_of_isWellFormed hv,
    Utf8.decodeEscaped_encodeAll ho.isWellFormed, Utf8.decodeEscaped_encodeAll hv, Except.map, bind,
    Except.bind, ho.nul_not_mem, ho.equals_not_mem, ho.ne_nil, hzero, set, contains, get?, empty]

end

end Courier.Environment
