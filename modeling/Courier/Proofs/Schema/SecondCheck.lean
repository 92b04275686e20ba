import Courier.Message.Credentials
import Courier.Message.Submission
import Courier.Settings.Client
import Courier.Settings.Gateway

/-!
# Records that are checked again

A check is generous. It reads text from octets, truth values and numbers from words, and what is not
given from the environment. The fields of the record that it comes to need none of this any more:
given under their names, they are taken as they are, in any environment.

Results:
* `recovers_text`, `recovers_truth` and so on: a checked value is taken for itself.
* `Recovers.required`, `Recovers.optional`: fields.
* `Record.recovers`: records.
* `check_settles`: what was accepted once is accepted again, and stays what it is.
-/

namespace Courier.Schema

variable {α β : Type}

/-! ## Kinds of values -/

/-- A check takes the value that stands for something for just that. -/
def Recovers (check : Value → Checked α) (shown : α → Value) : Prop :=
  ∀ a, check (shown a) = .valid a

theorem recovers_text : Recovers text .text := fun _ => rfl

theorem recovers_truth : Recovers truth .bool := fun _ => rfl

theorem recovers_integer : Recovers integer .int := fun _ => rfl

theorem recovers_real : Recovers real .real := fun _ => rfl

theorem recovers_failure : Recovers (choice Failure.choices) fun f => .text f.word := by
  intro f
  cases f <;> rfl

theorem recovers_body : Recovers Message.bodyOfValue Message.bodyValue := by
  intro b
  cases b <;> rfl

variable {kind : Value → Checked α} {shown : α → Value}

theorem Recovers.nullable (h : Recovers kind shown) (hnull : ∀ a, shown a ≠ .null) :
    Recovers (nullable kind) (Value.ofOption shown) := by
  rintro (_ | a)
  · rfl
  · rw [Value.ofOption]
    unfold Schema.nullable
    split
    next hshown => exact absurd hshown (hnull a)
    next => rw [h a]; rfl

/-! ## Fields -/

variable {names : List String} {members : Members} {name : Text} {a : α}

theorem Recovers.required (h : Recovers kind shown)
    (hmember : lookup? (names.map Text.ofString) members = some (name, shown a)) :
    required names kind members = .valid a := by
  rw [Schema.required, hmember]
  exact congrArg (Checked.within name) (h a)

theorem Recovers.optional (h : Recovers kind shown) (default : α)
    (hmember : lookup? (names.map Text.ofString) members = some (name, shown a)) :
    optional names kind default members = .valid a := by
  rw [Schema.optional, hmember]
  exact congrArg (Checked.within name) (h a)

/-! ## Records -/

theorem recovers_nullable_text : Recovers (nullable text) (Value.ofOption .text) :=
  recovers_text.nullable fun t h => by cases h

theorem recovers_credentials : Recovers Credentials.ofValue fun c => .object c.fields := by
  intro c
  have hsid : required ["account_sid"] text c.fields = .valid c.sid := recovers_text.required rfl
  have htoken : required ["auth_token"] text c.fields = .valid c.token := recovers_text.required rfl
  rw [Credentials.ofValue, object, hsid, htoken]
  rfl

/-- The sender stands under the second of its names. -/
theorem recovers_message : Recovers Message.ofValue fun m => .object m.fields := by
  intro m
  have hto : required ["to"] text m.fields = .valid m.recipient := recovers_text.required rfl
  have hfrom : required Message.senderNames text m.fields = .valid m.sender :=
    recovers_text.required rfl
  have hbody : required ["body"] Message.bodyOfValue m.fields = .valid m.body :=
    recovers_body.required rfl
  have hmedia : optional ["media_url"] (nullable text) none m.fields = .valid m.mediaUrl :=
    recovers_nullable_text.optional none rfl
  rw [Message.ofValue, object, hto, hfrom, hbody, hmedia]
  rfl

theorem recovers_outcome : Recovers Outcome.ofValue fun o => .object o.fields := by
  intro o
  have hok : required ["ok"] truth o.fields = .valid o.ok := recovers_truth.required rfl
  have hdetail : optional ["detail"] text [] o.fields = .valid o.detail :=
    recovers_text.optional [] rfl
  have herror : optional ["error"] (nullable (choice Failure.choices)) none o.fields =
      .valid o.failure :=
    (recovers_failure.nullable fun f h => by cases h).optional none rfl
  have hstatus : optional ["status_code"] (nullable integer) none o.fields = .valid o.status :=
    (recovers_integer.nullable fun n h => by cases h).optional none rfl
  rw [Outcome.ofValue, object, hok, hdetail, herror, hstatus]
  rfl

theorem recovers_submission : Recovers Submission.ofValue fun s => .object s.fields := by
  intro s
  have hto : required ["to"] text s.fields = .valid s.recipient := recovers_text.required rfl
  have hfrom : optional Message.senderNames (nullable text) none s.fields = .valid s.sender :=
    recovers_nullable_text.optional none rfl
  have hbody : required ["body"] text s.fields = .valid s.body := recovers_text.required rfl
  have hmedia : optional ["media_url"] (nullable text) none s.fields = .valid s.mediaUrl :=
    recovers_nullable_text.optional none rfl
  have hverbose : optional ["verbose"] truth false s.fields = .valid s.verbose :=
    recovers_truth.optional false rfl
  rw [Submission.ofValue, object, Submission.ofMembers, hto, hfrom, hbody, hmedia, hverbose]
  rfl

/-- The outcome in a receipt is a record of its own. -/
theorem recovers_receipt : Recovers Receipt.ofValue fun r => .object r.fields := by
  intro r
  have hok : required ["ok"] truth r.fields = .valid r.ok := recovers_truth.required rfl
  have hresult : required ["result"] Outcome.ofValue r.fields = .valid r.outcome :=
    recovers_outcome.required rfl
  rw [Receipt.ofValue, object, hok, hresult]
  rfl

theorem recovers_clientSettings (env : Environment) :
    Recovers (ClientSettings.ofValue env) fun s => .object s.fields := by
  intro s
  have hbase : optional ["api_base_url"] text (ClientSettings.ofEnvironment env).baseUrl s.fields =
      .valid s.baseUrl :=
    recovers_text.optional _ rfl
  have hversion : optional ["api_version"] text (ClientSettings.ofEnvironment env).version
      s.fields = .valid s.version :=
    recovers_text.optional _ rfl
  have htimeout : optional ["timeout_seconds"] real (ClientSettings.ofEnvironment env).timeout
      s.fields = .valid s.timeout :=
    recovers_real.optional _ rfl
  rw [ClientSettings.ofValue, object, ClientSettings.ofMembers, hbase, hversion, htimeout]
  rfl

theorem recovers_gatewaySettings (env : Environment) :
    Recovers (GatewaySettings.ofValue env) fun s => .object s.fields := by
  intro s
  have htext {name : Text} {t : Text} (names : List String) (default : Text)
      (h : lookup? (names.map Text.ofString) s.fields = some (name, .text t)) :
      optional names text default s.fields = .valid t := recovers_text.optional default h
  have hnullable {name : Text} {t : Option Text} (names : List String) (default : Option Text)
      (h : lookup? (names.map Text.ofString) s.fields = some (name, Value.ofOption .text t)) :
      optional names (nullable text) default s.fields = .valid t :=
    recovers_nullable_text.optional default h
  have hdocs : optional ["enable_docs"] truth (GatewaySettings.ofEnvironment env).enableDocs
      s.fields = .valid s.enableDocs :=
    recovers_truth.optional _ rfl
  rw [GatewaySettings.ofValue, object]
  simp only [GatewaySettings.ofMembers]
  rw [htext ["app_name"] _ rfl, htext ["app_version"] _ rfl, htext ["env"] _ rfl,
    htext ["log_level"] _ rfl, hdocs, hnullable ["docs_url"] _ rfl,
    hnullable ["twilio_account_sid"] _ rfl, hnullable ["twilio_auth_token"] _ rfl,
    hnullable ["twilio_from_number"] _ rfl]
  rfl

/-! ## Every record -/

namespace Record

/-- What a record is once it was checked. -/
def Data : Record → Type
  | .credentials => Credentials
  | .message => Message
  | .outcome => Outcome
  | .submission => Submission
  | .receipt => Receipt
  | .clientSettings => ClientSettings
  | .gatewaySettings => GatewaySettings

/-- Check a value as a record. What settings are silent on is read from the environment. -/
def check (env : Environment) : (r : Record) → Value → Checked r.Data
  | .credentials => Credentials.ofValue
  | .message => Message.ofValue
  | .outcome => Outcome.ofValue
  | .submission => Submission.ofValue
  | .receipt => Receipt.ofValue
  | .clientSettings => ClientSettings.ofValue env
  | .gatewaySettings => GatewaySettings.ofValue env

/-- The values of a record's fields under their names. -/
def fields : (r : Record) → r.Data → Members
  | .credentials => Credentials.fields
  | .message => Message.fields
  | .outcome => Outcome.fields
  | .submission => Submission.fields
  | .receipt => Receipt.fields
  | .clientSettings => ClientSettings.fields
  | .gatewaySettings => GatewaySettings.fields

/-- The fields of a record are taken for that record, whatever the environment. -/
theorem recovers (env : Environment) (r : Record) :
    Recovers (r.check env) fun a => .object (r.fields a) := by
  cases r with
  | credentials => exact recovers_credentials
  | message => exact recovers_message
  | outcome => exact recovers_outcome
  | submission => exact recovers_submission
  | receipt => exact recovers_receipt
  | clientSettings => exact recovers_clientSettings env
  | gatewaySettings => exact recovers_gatewaySettings env

end Record

/-! ## Values that pass -/

/-- The value that passed its checks, if it did. -/
def Checked.value? : Checked α → Option α
  | .valid a => some a
  | .invalid _ => none

namespace Checked

theorem value?_eq_some_iff {c : Checked α} {a : α} : c.value? = some a ↔ c = .valid a := by
  cases c <;> simp [value?]

/-- Of two parts that passed together both passed. -/
theorem of_seq_eq_valid {f : Checked (α → β)} {c : Checked α} {b : β} (h : f <*> c = .valid b) :
    ∃ g a, f = .valid g ∧ c = .valid a ∧ g a = b := by
  cases f with
  | invalid is => cases c <;> cases h
  | valid g =>
    cases c with
    | invalid is => cases h
    | valid a =>
      cases h
      exact ⟨g, a, rfl, rfl, rfl⟩

theorem value?_seq (f : Checked (α → β)) (c : Checked α) :
    (f <*> c).value? = f.value? <*> c.value? := by
  cases f <;> cases c <;> rfl

theorem value?_map (f : α → β) (c : Checked α) : (f <$> c).value? = f <$> c.value? := by
  cases c <;> rfl

theorem value?_within (name : Text) (c : Checked α) : (c.within name).value? = c.value? := by
  cases c <;> rfl

end Checked

/-- The first value under one of several names. -/
def firstOf (names : List String) (members : Members) : Option Value :=
  (names.map Text.ofString).findSome? members.get?

theorem map_snd_lookup? (names : List String) (members : Members) :
    (lookup? (names.map Text.ofString) members).map (·.2) = firstOf names members := by
  unfold lookup? firstOf
  generalize names.map Text.ofString = ts
  induction ts with
  | nil => rfl
  | cons t ts ih =>
    rw [List.findSome?_cons, List.findSome?_cons]
    cases members.get? t with
    | none => exact ih
    | some v => rfl

theorem value?_required (names : List String) (kind : Value → Checked α) (members : Members) :
    (required names kind members).value? =
      (firstOf names members).bind fun v => (kind v).value? := by
  rw [← map_snd_lookup?, required]
  cases lookup? (names.map Text.ofString) members with
  | none => rfl
  | some m => exact Checked.value?_within m.1 (kind m.2)

theorem value?_optional (names : List String) (kind : Value → Checked α) (default : α)
    (members : Members) :
    (optional names kind default members).value? =
      match firstOf names members with
      | some v => (kind v).value?
      | none => some default := by
  rw [← map_snd_lookup?, optional]
  cases lookup? (names.map Text.ofString) members with
  | none => rfl
  | some m => exact Checked.value?_within m.1 (kind m.2)

/-! ## The sender and the body of a message -/

/-- Two objects that differ in the name of the sender: one has it under the first of its names, the
other has the same value under the second. -/
structure Renames (input input' : Members) : Prop where
  sender : ∃ v, input.get? (Text.ofString "from") = some v ∧
    input'.get? (Text.ofString "from") = none ∧ input'.get? (Text.ofString "from_") = some v
  others : ∀ name, name ∉ Message.senderNames.map Text.ofString →
    input.get? name = input'.get? name

section

variable {input input' : Members} (h : Renames input input')

include h

theorem firstOf_senderNames_of_renames :
    firstOf Message.senderNames input = firstOf Message.senderNames input' := by
  obtain ⟨v, hfirst, hnone, hsecond⟩ := h.sender
  simp [firstOf, Message.senderNames, hfirst, hnone, hsecond]

theorem firstOf_of_renames (name : String)
    (hname : Text.ofString name ∉ Message.senderNames.map Text.ofString) :
    firstOf [name] input = firstOf [name] input' := by
  simp [firstOf, h.others _ hname]

/-- A message is the same under both names of its sender. -/
theorem value?_message_of_renames :
    (Message.ofValue (.object input)).value? = (Message.ofValue (.object input')).value? := by
  simp only [Message.ofValue, object, Checked.value?_seq, Checked.value?_map, value?_required,
    value?_optional, firstOf_senderNames_of_renames h, firstOf_of_renames h "to" (by decide),
    firstOf_of_renames h "body" (by decide), firstOf_of_renames h "media_url" (by decide)]

/-- A submission is the same under both names of its sender. -/
theorem value?_submission_of_renames :
    (Submission.ofValue (.object input)).value? = (Submission.ofValue (.object input')).value? := by
  simp only [Submission.ofValue, Submission.ofMembers, object, Checked.value?_seq,
    Checked.value?_map, value?_required, value?_optional, firstOf_senderNames_of_renames h,
    firstOf_of_renames h "to" (by decide), firstOf_of_renames h "body" (by decide),
    firstOf_of_renames h "media_url" (by decide), firstOf_of_renames h "verbose" (by decide)]

end

/-- The body of a message is what was given for it, text or octets. -/
theorem get?_body_of_valid {input : Members} {m : Message}
    (h : Message.ofValue (.object input) = .valid m) :
    input.get? (Text.ofString "body") = some (Message.bodyValue m.body) := by
  obtain ⟨_, mediaUrl, hthree, -, rfl⟩ := Checked.of_seq_eq_valid h
  obtain ⟨_, body, htwo, hbody, rfl⟩ := Checked.of_seq_eq_valid hthree
  obtain ⟨_, sender, hone, -, rfl⟩ := Checked.of_seq_eq_valid htwo
  obtain ⟨_, recipient, hmk, -, rfl⟩ := Checked.of_seq_eq_valid hone
  cases hmk
  rw [← Checked.value?_eq_some_iff, value?_required, Option.bind_eq_some_iff] at hbody
  obtain ⟨v, hv, hbody⟩ := hbody
  have hget : input.get? (Text.ofString "body") = some v := by simpa [firstOf] using hv
  rw [hget]
  cases v <;> cases hbody <;> rfl

/-! ## Checking again -/

/-- **What was accepted once is accepted again.** The fields of a record that a check came to, given
under their names, pass the check in every environment and come to the same record. The body of a
message is of the kind that was given, and the sender counts alike under both of its names. -/
theorem check_settles (env env' : Environment) :
    (∀ (r : Record) (input : Members) (a : r.Data), r.check env (.object input) = .valid a →
      r.check env' (.object (r.fields a)) = .valid a) ∧
    (∀ (input : Members) (m : Message), Message.ofValue (.object input) = .valid m →
      input.get? (Text.ofString "body") = some (Message.bodyValue m.body)) ∧
    (∀ input input', Renames input input' →
      (∀ m, Message.ofValue (.object input) = .valid m ↔
        Message.ofValue (.object input') = .valid m) ∧
      ∀ s, Submission.ofValue (.object input) = .valid s ↔
        Submission.ofValue (.object input') = .valid s) := by
  refine ⟨fun r _ a _ => r.recovers env' a, fun input m => get?_body_of_valid,
    fun input input' h => ⟨fun m => ?_, fun s => ?_⟩⟩
  · rw [← Checked.value?_eq_some_iff, ← Checked.value?_eq_some_iff, value?_message_of_renames h]
  · rw [← Checked.value?_eq_some_iff, ← Checked.value?_eq_some_iff, value?_submission_of_renames h]

/-- An outcome of words and octets, settings of the environment alone, and a message of octets with
its sender under either name. -/
theorem check_settles_coerced :
    let env : Environment := ⟨[(Text.ofString "TWILIO_API_VERSION", Text.ofString "2026")]⟩
    let words : Members := [(Text.ofString "ok", .string "Yes"),
      (Text.ofString "detail", .bytes [0xC3, 0xA9]), (Text.ofString "error", .string "provider"),
      (Text.ofString "status_code", .string "502")]
    let outcome : Outcome := ⟨true, [0xE9], some .provider, some 502⟩
    let settings := ClientSettings.ofEnvironment env
    let octets : Members := [(Text.ofString "to", .string "+1"),
      (Text.ofString "from", .string "+2"), (Text.ofString "body", .bytes [0xFF])]
    let renamed : Members := [(Text.ofString "from_", .string "+2"),
      (Text.ofString "to", .string "+1"), (Text.ofString "body", .bytes [0xFF])]
    let message : Message := ⟨Text.ofString "+1", Text.ofString "+2", .octets [0xFF], none⟩
    (Record.outcome.check env (.object words) = .valid outcome ∧
      Record.outcome.check .empty (.object outcome.fields) = .valid outcome) ∧
    (Record.clientSettings.check env (.object []) = .valid settings ∧
      Record.clientSettings.check .empty (.object settings.fields) = .valid settings) ∧
    (Message.ofValue (.object octets) = .valid message ∧
      octets.get? (Text.ofString "body") = some (Message.bodyValue message.body)) ∧
    Renames octets renamed ∧ Message.ofValue (.object renamed) = .valid message := by
  intro env words outcome settings octets renamed message
  obtain ⟨hsettles, hbody, hrenames⟩ := check_settles env .empty
  have hwords : Outcome.ofValue (.object words) = .valid outcome :=
    Checked.value?_eq_some_iff.mp (by decide +kernel)
  have hsettings : Record.clientSettings.check env (.object []) = .valid settings := rfl
  have hoctets : Message.ofValue (.object octets) = .valid message := rfl
  have hrenamed : Renames octets renamed := by
    refine ⟨⟨.string "+2", rfl, rfl, rfl⟩, fun name hname => ?_⟩
    simp only [Message.senderNames, List.map_cons, List.map_nil, List.mem_cons, List.not_mem_nil,
      or_false, not_or] at hname
    simp only [octets, renamed, Members.get?, if_neg (Ne.symm hname.1), if_neg (Ne.symm hname.2)]
  exact ⟨⟨hwords, hsettles .outcome words outcome hwords⟩, ⟨hsettings, hsettles _ _ _ hsettings⟩,
    ⟨hoctets, hbody _ _ hoctets⟩, hrenamed, ((hrenames _ _ hrenamed).1 _).mp hoctets⟩

end Courier.Schema
