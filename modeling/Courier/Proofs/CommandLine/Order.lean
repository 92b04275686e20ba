import Courier.Proofs.CommandLine.Arguments
import Courier.Proofs.CommandLine.Run

/-!
# The order of options

Where every option is given in an argument of its own, all that counts of the arguments is the last
value of each option. An option of the account or the sender that is not given falls back to its
variable. So arguments may stand in any order as long as no option has two values.

Results:
* `value?_eq_some_iff`, `value?_eq_none_iff`: the value of an option is the one given last.
* `setting?_eq_some_iff`: what the account and the sender come to.
* `isAskedFor_ofReading`, `lacks_ofReading`: what the arguments ask for, or what they lack.
* `value?_of_perm`: the same arguments in another order.
* `run_of_single`: the run of the program with such arguments.
-/

namespace Courier.CommandLine.Send

/-! ## Arguments that stand alone -/

/-- The option for details, by its short name. -/
def details : Given Key := ⟨option .verbose, none⟩

/-- An option in one argument: with any value but the mark `--`, or the one for details. -/
inductive IsSingle : Given Key → Prop
  | value {key : Key} {t : Text} (hkey : (option key).takesValue = true)
      (ht : t ≠ Text.ofString "--") : IsSingle (valued key t)
  | details : IsSingle details

/-- A text is given for an option, and none after it. -/
def IsLast (given : List (Given Key)) (key : Key) (t : Text) : Prop :=
  ∃ before after, given = before ++ valued key t :: after ∧ ∀ g ∈ after, g.switch.key ≠ key

/-- The text that counts for an option: the last one given, or that of its variable if none is
given. -/
inductive Counts (env : Environment) (given : List (Given Key)) (key : Key) : Text → Prop
  | last {t : Text} (h : IsLast given key t) : Counts env given key t
  | variable {t : Text} {title name : String} (hnone : ∀ g ∈ given, g.switch.key ≠ key)
      (hneeded : (key, title, name) ∈ needed) (hget : env.get? (Text.ofString name) = some t) :
      Counts env given key t

/-- What is to be sent is what the options give, and for the account and the sender their variables
where the options are silent. -/
structure Request.IsAskedFor (r : Request) (env : Environment) (given : List (Given Key)) :
    Prop where
  sid : Counts env given .sid r.sid ∧ r.sid ≠ []
  token : Counts env given .token r.token ∧ r.token ≠ []
  sender : Counts env given .sender r.sender ∧ r.sender ≠ []
  recipient : ∃ t, r.recipient = .text t ∧ IsLast given .recipient t
  body : ∃ t, r.body = .text t ∧ IsLast given .body t
  mediaUrl : ∃ url, r.mediaUrl = Value.ofOption .text url ∧
    ∀ t, url = some t ↔ IsLast given .mediaUrl t
  verbose : r.verbose = true ↔ details ∈ given

variable {given : List (Given Key)}

theorem IsLast.mem {key : Key} {t : Text} (h : IsLast given key t) : valued key t ∈ given := by
  obtain ⟨before, after, rfl, -⟩ := h
  simp

theorem IsSingle.suits {g : Given Key} (h : IsSingle g) :
    g.Suits program fun o => o.key = .help := by
  cases h with
  | value hkey => exact suits_valued hkey _
  | details => exact ⟨option_mem .verbose, rfl, rfl⟩

/-- An argument for an option that takes a value gives it one. -/
theorem IsSingle.eq_valued {g : Given Key} {key : Key} (h : IsSingle g)
    (hkey : (option key).takesValue = true) (hg : g.switch.key = key) :
    ∃ t, g = valued key t ∧ g.occurrence.value = some (.text t) := by
  cases h with
  | @value own t _ ht =>
    rw [valued, key_option] at hg
    exact ⟨t, by rw [hg], congrArg some (if_neg ht)⟩
  | details =>
    obtain rfl : Key.verbose = key := hg
    cases hkey

/-! ## The value of an option -/

/-- What is read of the arguments for options. -/
def readingOf (given : List (Given Key)) : Reading Key := ⟨given.map Given.occurrence, [], false⟩

theorem value?_readingOf (key : Key) :
    value? (readingOf given) key =
      (given.reverse.find? fun g => g.switch.key = key).bind (·.occurrence.value) := by
  simp only [value?, readingOf, ← List.map_reverse, List.find?_map, Option.bind_map]
  rfl

theorem find?_reverse_eq_some_iff {key : Key} {g : Given Key} :
    (given.reverse.find? fun g => g.switch.key = key) = some g ↔
      g.switch.key = key ∧
        ∃ before after, given = before ++ g :: after ∧ ∀ g' ∈ after, g'.switch.key ≠ key := by
  simp only [List.find?_eq_some_iff_append, decide_eq_true_eq, Bool.not_eq_true',
    decide_eq_false_iff_not]
  refine and_congr_right fun _ => ⟨?_, ?_⟩
  · rintro ⟨after, before, hsplit, hafter⟩
    refine ⟨before.reverse, after.reverse, ?_, by simpa using hafter⟩
    rw [← given.reverse_reverse, hsplit]
    simp
  · rintro ⟨before, after, rfl, hafter⟩
    exact ⟨after.reverse, before.reverse, by simp, by simpa using hafter⟩

section

variable {key : Key} (hg : ∀ g ∈ given, IsSingle g) (hkey : (option key).takesValue = true)

include hg hkey

/-- The value of an option is the text that is given for it last. -/
theorem value?_eq_some_iff {value : Argument} :
    value? (readingOf given) key = some value ↔ ∃ t, value = .text t ∧ IsLast given key t := by
  rw [value?_readingOf, Option.bind_eq_some_iff]
  constructor
  · rintro ⟨g, hfind, hvalue⟩
    obtain ⟨hname, before, after, hsplit, hafter⟩ := find?_reverse_eq_some_iff.mp hfind
    obtain ⟨t, rfl, ht⟩ := (hg g (by simp [hsplit])).eq_valued hkey hname
    exact ⟨t, Option.some.inj (hvalue.symm.trans ht), before, after, hsplit, hafter⟩
  · rintro ⟨t, rfl, before, after, hsplit, hafter⟩
    have hname : (valued key t).switch.key = key := key_option key
    obtain ⟨u, hu, hvalue⟩ := (hg (valued key t) (by simp [hsplit])).eq_valued hkey hname
    obtain rfl : t = u := Option.some.inj (congrArg Given.value hu)
    exact ⟨_, find?_reverse_eq_some_iff.mpr ⟨hname, before, after, hsplit, hafter⟩, hvalue⟩

/-- An option has no value if it is not given. -/
theorem value?_eq_none_iff :
    value? (readingOf given) key = none ↔ ∀ g ∈ given, g.switch.key ≠ key := by
  rw [value?_readingOf, Option.bind_eq_none_iff]
  constructor
  · intro h g hmem hname
    cases hfind : given.reverse.find? fun g => g.switch.key = key with
    | none =>
      rw [List.find?_eq_none] at hfind
      exact hfind g (List.mem_reverse.mpr hmem) (decide_eq_true hname)
    | some last =>
      obtain ⟨hlast, before, after, hsplit, -⟩ := find?_reverse_eq_some_iff.mp hfind
      obtain ⟨t, -, hvalue⟩ := (hg last (by simp [hsplit])).eq_valued hkey hlast
      cases (h last hfind).symm.trans hvalue
  · intro h g hfind
    obtain ⟨hname, before, after, hsplit, -⟩ := find?_reverse_eq_some_iff.mp hfind
    exact absurd hname (h g (by simp [hsplit]))

/-- An option that is given has a value. -/
theorem exists_isLast (hgiven : ∃ g ∈ given, g.switch.key = key) : ∃ t, IsLast given key t := by
  cases hvalue : value? (readingOf given) key with
  | none =>
    obtain ⟨g, hmem, hname⟩ := hgiven
    exact absurd hname ((value?_eq_none_iff hg hkey).mp hvalue g hmem)
  | some value =>
    obtain ⟨t, -, ht⟩ := (value?_eq_some_iff hg hkey).mp hvalue
    exact ⟨t, ht⟩

omit hg hkey in
/-- Options that are given once have one value. -/
theorem eq_of_nodup (hn : (given.map (·.switch.key)).Nodup) {t u : Text}
    (ht : valued key t ∈ given) (hu : valued key u ∈ given) : t = u :=
  Option.some.inj (congrArg Given.value (List.inj_on_of_nodup_map hn ht hu rfl))

/-- Of an option that has one value only, that is the one given last. -/
theorem isLast_iff_mem (hone : ∀ t u, valued key t ∈ given → valued key u ∈ given → t = u)
    {t : Text} : IsLast given key t ↔ valued key t ∈ given := by
  refine ⟨IsLast.mem, fun hmem => ?_⟩
  obtain ⟨u, hu⟩ := exists_isLast hg hkey ⟨_, hmem, key_option key⟩
  obtain rfl := hone t u hmem hu.mem
  exact hu

end

/-! ## Account and sender -/

section

variable {env : Environment} {o : Key × String × String} (hg : ∀ g ∈ given, IsSingle g)
  (ho : o ∈ needed)

include ho in
theorem takesValue_of_needed : (option o.1).takesValue = true := by
  have hall : ∀ o ∈ needed, (option o.1).takesValue = true := by decide
  exact hall o ho

include hg ho

/-- The text that counts for an option, as it is read. -/
theorem counts_iff {t : Text} :
    Counts env given o.1 t ↔
      value? (readingOf given) o.1 = some (.text t) ∨
        value? (readingOf given) o.1 = none ∧ env.get? (Text.ofString o.2.2) = some t := by
  have hkey := takesValue_of_needed ho
  rw [value?_eq_none_iff hg hkey]
  constructor
  · rintro (hlast | ⟨hnone, hneeded, hget⟩)
    · exact .inl ((value?_eq_some_iff hg hkey).mpr ⟨t, rfl, hlast⟩)
    · have hunique : ∀ o ∈ needed, ∀ o' ∈ needed, o.1 = o'.1 → o = o' := by decide
      have hname := congrArg (fun o => o.2.2) (hunique _ hneeded o ho rfl)
      exact .inr ⟨hnone, hname ▸ hget⟩
  · rintro (hvalue | ⟨hnone, hget⟩)
    · obtain ⟨u, hu, hlast⟩ := (value?_eq_some_iff hg hkey).mp hvalue
      cases hu
      exact .last hlast
    · exact .variable hnone ho hget

/-- The setting of an option is the text that counts for it, unless that is empty. -/
theorem setting?_eq_some_iff {t : Text} :
    setting? env (readingOf given) o.1 o.2.2 = some t ↔ Counts env given o.1 t ∧ t ≠ [] := by
  rw [counts_iff hg ho, setting?]
  cases hvalue : value? (readingOf given) o.1 with
  | none => simp
  | some value =>
    obtain ⟨u, rfl, -⟩ := (value?_eq_some_iff hg (takesValue_of_needed ho)).mp hvalue
    simp

theorem isNone_setting?_iff :
    (setting? env (readingOf given) o.1 o.2.2).isNone = true ↔
      ∀ t, Counts env given o.1 t → t = [] := by
  rw [Option.isNone_iff_eq_none, Option.eq_none_iff_forall_ne_some]
  refine forall_congr' fun t => ?_
  rw [ne_eq, setting?_eq_some_iff hg ho, not_and, not_not]

end

/-! ## What is asked for -/

theorem isGiven_readingOf (key : Key) :
    isGiven (readingOf given) key = given.any fun g => g.switch.key = key := isGiven_given key

theorem isGiven_verbose_iff (hg : ∀ g ∈ given, IsSingle g) :
    isGiven (readingOf given) .verbose = true ↔ details ∈ given := by
  rw [isGiven_readingOf, List.any_eq_true]
  constructor
  · rintro ⟨g, hmem, hname⟩
    cases hg g hmem with
    | @value key t hkey =>
      obtain rfl : key = .verbose := (key_option key).symm.trans (of_decide_eq_true hname)
      cases hkey
    | details => exact hmem
  · exact fun hmem => ⟨details, hmem, rfl⟩

theorem ofReading_eq_error {env : Environment} {r : Reading Key} {e : UsageError}
    (h : Request.ofReading env r = .error e) :
    e = .valuesMissing ((needed.filter fun o => (setting? env r o.1 o.2.2).isNone).map
      fun o => Text.ofString o.2.1) := by
  unfold Request.ofReading at h
  split at h
  · cases h
  · rw [← Except.error.inj h, ← List.filterMap_eq_map, List.filterMap_filter]
    rfl

section

variable {env : Environment} (hg : ∀ g ∈ given, IsSingle g)

include hg

/-- An option of the message is null where it is not given, and else the text given last. -/
theorem exists_partOf {key : Key} (hkey : (option key).takesValue = true) :
    ∃ part, partOf (readingOf given) key = Value.ofOption .text part ∧
      ∀ t, part = some t ↔ IsLast given key t := by
  unfold partOf
  cases hvalue : value? (readingOf given) key with
  | none =>
    refine ⟨none, rfl, fun t => iff_of_false (by simp) fun ht => ?_⟩
    cases hvalue.symm.trans ((value?_eq_some_iff hg hkey).mpr ⟨t, rfl, ht⟩)
  | some value =>
    obtain ⟨t, rfl, ht⟩ := (value?_eq_some_iff hg hkey).mp hvalue
    refine ⟨some t, rfl, fun u => ⟨?_, fun hu => ?_⟩⟩
    · rintro ⟨⟩
      exact ht
    · cases hvalue.symm.trans ((value?_eq_some_iff hg hkey).mpr ⟨u, rfl, hu⟩)
      rfl

/-- What the options ask for is sent where an account and a sender are known. -/
theorem isAskedFor_ofReading {request : Request}
    (h : Request.ofReading env (readingOf given) = .ok request)
    (hrecipient : ∃ t, valued .recipient t ∈ given) (hbody : ∃ t, valued .body t ∈ given) :
    request.IsAskedFor env given := by
  have hpart : ∀ key, (option key).takesValue = true → (∃ t, valued key t ∈ given) →
      ∃ t, partOf (readingOf given) key = .text t ∧ IsLast given key t := by
    rintro key hkey ⟨u, hu⟩
    obtain ⟨part, hpart, hlast⟩ := exists_partOf hg hkey
    obtain ⟨t, ht⟩ := exists_isLast hg hkey ⟨_, hu, key_option key⟩
    obtain rfl := (hlast t).mpr ht
    exact ⟨t, hpart, ht⟩
  have hsettings : ∀ o ∈ needed, ∀ t, setting? env (readingOf given) o.1 o.2.2 = some t →
      Counts env given o.1 t ∧ t ≠ [] :=
    fun o ho t => (setting?_eq_some_iff hg ho).mp
  simp only [needed, List.forall_mem_cons] at hsettings
  obtain ⟨hsid, htoken, hsender, -⟩ := hsettings
  unfold Request.ofReading at h
  split at h
  next sid token sender hsid' htoken' hsender' =>
    obtain rfl := Except.ok.inj h
    exact {
      sid := hsid sid hsid'
      token := htoken token htoken'
      sender := hsender sender hsender'
      recipient := hpart .recipient rfl hrecipient
      body := hpart .body rfl hbody
      mediaUrl := exists_partOf hg rfl
      verbose := isGiven_verbose_iff hg }
  next => cases h

/-- An account and a sender are known where a text counts for each of their options that is not
empty. -/
theorem exists_ofReading_iff_counts :
    (∃ request, Request.ofReading env (readingOf given) = .ok request) ↔
      ∀ o ∈ needed, ∃ t, Counts env given o.1 t ∧ t ≠ [] := by
  rw [exists_ofReading_iff]
  refine forall₂_congr fun o ho => ?_
  rw [← setting?_eq_none_iff, ← ne_eq, Option.ne_none_iff_exists']
  exact exists_congr fun t => setting?_eq_some_iff hg ho

/-- What is reported as missing are the options for which no text counts, or an empty one. -/
theorem lacks_ofReading {e : UsageError}
    (h : Request.ofReading env (readingOf given) = .error e) :
    ∃ missing : List (Key × String × String),
      e = .valuesMissing (missing.map fun o => Text.ofString o.2.1) ∧
      missing.Sublist needed ∧
      ∀ o ∈ needed, o ∈ missing ↔ ∀ t, Counts env given o.1 t → t = [] := by
  refine ⟨_, ofReading_eq_error h, List.filter_sublist, fun o ho => ?_⟩
  rw [List.mem_filter, isNone_setting?_iff hg ho]
  exact and_iff_right ho

end

/-! ## Runs -/

theorem parse?_of_single (hg : ∀ g ∈ given, IsSingle g)
    (hrecipient : ∃ t, valued .recipient t ∈ given) (hbody : ∃ t, valued .body t ∈ given) :
    program.parse? (fun o => o.key = .help) (given.map Given.argument) = .ok (readingOf given) := by
  have hrequired : ∀ key, (option key).required = true → ∃ t, valued key t ∈ given := by
    intro key h
    cases key with
    | recipient => exact hrecipient
    | body => exact hbody
    | _ => cases h
  refine Program.parse?_given isPlain_program (fun g hmem => (hg g hmem).suits) fun s hs hs' => ?_
  rw [← option_key hs] at hs'
  obtain ⟨t, ht⟩ := hrequired s.key hs'
  exact ⟨valued s.key t, ht, option_key hs⟩

/-- What is asked for depends on the values of the options only. -/
theorem ofReading_congr {env : Environment} {r r' : Reading Key}
    (hvalue : ∀ key, (option key).takesValue = true → value? r key = value? r' key)
    (hverbose : isGiven r .verbose = isGiven r' .verbose) :
    Request.ofReading env r = Request.ofReading env r' := by
  have hsetting : ∀ o ∈ needed, setting? env r o.1 o.2.2 = setting? env r' o.1 o.2.2 := by
    intro o ho
    rw [setting?, setting?, hvalue _ (takesValue_of_needed ho)]
  simp only [needed, List.forall_mem_cons] at hsetting
  obtain ⟨hsid, htoken, hsender, -⟩ := hsetting
  simp only [Request.ofReading, needed, List.filterMap_cons, partOf, hsid, htoken, hsender,
    hverbose, hvalue .recipient rfl, hvalue .body rfl, hvalue .mediaUrl rfl]
  rfl

/-- Options in another order have the same values, if none of them has two. -/
theorem value?_of_perm {given' : List (Given Key)} (hg : ∀ g ∈ given, IsSingle g)
    (hone : ∀ key t u, valued key t ∈ given → valued key u ∈ given → t = u)
    (hp : given'.Perm given) {key : Key} (hkey : (option key).takesValue = true) :
    value? (readingOf given') key = value? (readingOf given) key := by
  have hg' : ∀ g ∈ given', IsSingle g := fun g hmem => hg g (hp.mem_iff.mp hmem)
  have hone' : ∀ t u, valued key t ∈ given' → valued key u ∈ given' → t = u :=
    fun t u ht hu => hone key t u (hp.mem_iff.mp ht) (hp.mem_iff.mp hu)
  refine Option.ext fun value => ?_
  simp only [value?_eq_some_iff hg' hkey, value?_eq_some_iff hg hkey, isLast_iff_mem hg' hkey hone',
    isLast_iff_mem hg hkey (hone key), hp.mem_iff]

section

variable [Installation]

/-- **Options in arguments of their own.** Let a recipient and a body be among them. Then the
program sends what the options ask for: of each the text that was given last, whatever it looks
like, and for the account and the sender that of their variables where no text was given. If one of
these is not known or empty, the run ends with the report of all that are, and nothing is done. As
long as no option has two values, the arguments in any other order make the same run. -/
theorem run_of_single (hg : ∀ g ∈ given, IsSingle g)
    (hrecipient : ∃ t, valued .recipient t ∈ given) (hbody : ∃ t, valued .body t ∈ given)
    (s : State) :
    ((∀ o ∈ needed, ∃ t, Counts s.environment given o.1 t ∧ t ≠ []) →
      ∃ request : Request, request.IsAskedFor s.environment given ∧
        (run (given.map Given.argument)).exec s = (perform request).exec s) ∧
    (¬(∀ o ∈ needed, ∃ t, Counts s.environment given o.1 t ∧ t ≠ []) →
      ∃ missing : List (Key × String × String), missing.Sublist needed ∧
        (∀ o ∈ needed, o ∈ missing ↔ ∀ t, Counts s.environment given o.1 t → t = []) ∧
        (run (given.map Given.argument)).exec s =
          (.ok (mistaken (.valuesMissing (missing.map fun o => Text.ofString o.2.1))), s)) ∧
    ((∀ key t u, valued key t ∈ given → valued key u ∈ given → t = u) →
      ∀ arguments, arguments.Perm (given.map Given.argument) →
        (run arguments).exec s = (run (given.map Given.argument)).exec s) := by
  have hrun := run_of_ok (parse?_of_single hg hrecipient hbody) rfl s
  refine ⟨fun hknown => ?_, fun hunknown => ?_, fun hone arguments harguments => ?_⟩
  · obtain ⟨request, hr⟩ := (exists_ofReading_iff_counts hg).mpr hknown
    rw [hr] at hrun
    exact ⟨request, isAskedFor_ofReading hg hr hrecipient hbody, hrun⟩
  · rw [← exists_ofReading_iff_counts hg] at hunknown
    cases hr : Request.ofReading s.environment (readingOf given) with
    | ok request => exact absurd ⟨request, hr⟩ hunknown
    | error e =>
      obtain ⟨missing, rfl, hsub, hmem⟩ := lacks_ofReading hg hr
      rw [hr] at hrun
      exact ⟨missing, hsub, hmem, hrun⟩
  · have hcomp := congrFun₂ (List.eq_map_comp_perm Given.argument) arguments given
    obtain ⟨given', rfl, hp⟩ := hcomp.mpr harguments
    have hg' : ∀ g ∈ given', IsSingle g := fun g hmem => hg g (hp.mem_iff.mp hmem)
    have hrun' := run_of_ok (parse?_of_single hg' (hrecipient.imp fun t => hp.mem_iff.mpr)
      (hbody.imp fun t => hp.mem_iff.mpr)) rfl s
    have hsame : Request.ofReading s.environment (readingOf given') =
        Request.ofReading s.environment (readingOf given) := by
      refine ofReading_congr (fun key => value?_of_perm hg hone hp) ?_
      rw [isGiven_readingOf, isGiven_readingOf, hp.any_eq]
    rw [hrun', hrun, hsame]

end

open scoped Installation in
/-- A text that looks like an option is a body, a recipient begins with a dash, and the sender is
that of the environment. With an empty account the run is refused, though there is a variable for
it. -/
theorem run_of_single_dashes :
    let env : Environment := ⟨[(Text.ofString "TWILIO_FROM_NUMBER", Text.ofString "+9"),
      (Text.ofString "TWILIO_ACCOUNT_SID", Text.ofString "AC2")]⟩
    let s := State.initial 0 env .initial
    let message := [valued .body (Text.ofString "--to=x y"), details,
      valued .recipient (Text.ofString "-1")]
    let account := [valued .token (Text.ofString "="), valued .sid (Text.ofString "AC1")]
    (∃ request : Request, request.IsAskedFor env (message ++ account) ∧
      (run (["--message=--to=x y", "-v", "--to=-1", "--auth-token==", "--account-sid=AC1"].map
        Text.ofString)).exec s = (perform request).exec s) ∧
    (run (["--account-sid=AC1", "--auth-token==", "--to=-1", "-v", "--message=--to=x y"].map
        Text.ofString)).exec s =
      (run ((message ++ account).map Given.argument)).exec s ∧
    ∃ missing : List (Key × String × String), missing.Sublist needed ∧
      (run ((message ++ [valued .sid []]).map Given.argument)).exec s =
        (.ok (mistaken (.valuesMissing (missing.map fun o => Text.ofString o.2.1))), s) := by
  intro env s message account
  have hmessage : ∀ g ∈ message, IsSingle g := by
    simp only [message, List.forall_mem_cons]
    exact ⟨.value rfl (by decide), .details, .value rfl (by decide), by simp⟩
  have hgiven : ∀ g ∈ message ++ account, IsSingle g := by
    simp only [account, List.forall_mem_append, List.forall_mem_cons]
    exact ⟨hmessage, .value rfl (by decide), .value rfl (by decide), by simp⟩
  have hempty : ∀ g ∈ message ++ [valued .sid []], IsSingle g := by
    simp only [List.forall_mem_append, List.forall_mem_cons]
    exact ⟨hmessage, .value rfl (by decide), by simp⟩
  have hrecipient : valued .recipient (Text.ofString "-1") ∈ message := by simp [message]
  have hbody : valued .body (Text.ofString "--to=x y") ∈ message := by simp [message]
  have hknown : ∀ o ∈ needed, ∃ t, Counts env (message ++ account) o.1 t ∧ t ≠ [] := by
    simp only [needed, List.forall_mem_cons]
    have hsender : (Key.sender, "--from", "TWILIO_FROM_NUMBER") ∈ needed :=
      List.mem_cons_of_mem _ (List.mem_cons_of_mem _ List.mem_cons_self)
    exact ⟨
      ⟨_, .last ⟨message ++ [valued .token (Text.ofString "=")], [], rfl, by simp⟩, by decide⟩,
      ⟨_, .last ⟨message, [valued .sid (Text.ofString "AC1")], rfl, by decide⟩, by decide⟩,
      ⟨Text.ofString "+9", .variable (by decide) hsender rfl, by decide⟩, by simp⟩
  have hunknown : ¬∀ o ∈ needed, ∃ t,
      Counts env (message ++ [valued .sid []]) o.1 t ∧ t ≠ [] := by
    rw [← exists_ofReading_iff_counts hempty]
    rintro ⟨request, hr⟩
    cases hr
  have hone : ∀ key t u, valued key t ∈ message ++ account → valued key u ∈ message ++ account →
      t = u := fun _ _ _ => eq_of_nodup (by decide)
  obtain ⟨hasked, -, hperm⟩ := run_of_single hgiven ⟨_, List.mem_append_left _ hrecipient⟩
    ⟨_, List.mem_append_left _ hbody⟩ s
  obtain ⟨missing, hsub, -, hrun⟩ := (run_of_single hempty ⟨_, List.mem_append_left _ hrecipient⟩
    ⟨_, List.mem_append_left _ hbody⟩ s).2.1 hunknown
  have hreverse : ["--account-sid=AC1", "--auth-token==", "--to=-1", "-v",
      "--message=--to=x y"].map Text.ofString =
        ((message ++ account).map Given.argument).reverse := by decide
  exact ⟨hasked hknown, hperm hone _ (hreverse ▸ List.reverse_perm _), missing, hsub, hrun⟩

end Courier.CommandLine.Send
