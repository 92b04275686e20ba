import Courier.Proofs.Client.SideBySide
import Courier.Proofs.Session.Housekeeping
import Courier.Proofs.Settings.Environment

/-!
# Secrets behind a veil

The token of an account is a secret. Through a veil one token with octets is seen as any other, and
a state is seen with all its tokens behind the veil: in the environment and the settings read from
it, and in what was posted. States that are seen as the same may hold different tokens, and a send
cannot tell them apart, for it only puts the token into the authorization of its request.

Results:
* `eq_or_proper_of_veil_eq`: which secrets are seen as the same.
* `State.currentGatewaySettings_veiled`, `State.currentClientSettings_veiled`: the settings that are
  read through the veil.
* `State.likeness_sameVeiled`, `State.housekeeping_sameVeiled`: neither a send nor housekeeping can
  tell one token from another.
-/

namespace Courier

/-! ## Secrets -/

/-- A secret with octets, which may be put into the authorization of a request. -/
def IsSecret (t : Text) : Prop := t ≠ [] ∧ t.isWellFormed = true

instance (t : Text) : Decidable (IsSecret t) := inferInstanceAs (Decidable (_ ∧ _))

/-- What is seen of a secret through the veil. -/
def veil (t : Text) : Text := if IsSecret t then Text.ofString "*" else t

theorem veil_of_isSecret {t : Text} (h : IsSecret t) : veil t = Text.ofString "*" := if_pos h

theorem eq_or_proper_of_veil_eq {t t' : Text} (h : veil t = veil t') :
    t = t' ∨ (IsSecret t ∧ IsSecret t') := by
  have hstar : IsSecret (Text.ofString "*") := by decide
  unfold veil at h
  by_cases ht : IsSecret t <;> by_cases ht' : IsSecret t'
  · exact .inr ⟨ht, ht'⟩
  · rw [if_pos ht, if_neg ht'] at h
    exact absurd (h ▸ hstar) ht'
  · rw [if_neg ht, if_pos ht'] at h
    exact absurd (h ▸ hstar) ht
  · rw [if_neg ht, if_neg ht'] at h
    exact .inl h

theorem isEmpty_veil (t : Text) : (veil t).isEmpty = t.isEmpty := by
  unfold veil
  split
  next h => rw [List.isEmpty_eq_false_iff.mpr h.1]; rfl
  next => rfl

/-- Of two secrets that are seen as the same both have octets, or neither has for the same reason.
-/
theorem sameFault_basicAuthorization? (user : Text) {password password' : Text}
    (h : veil password = veil password') :
    Post.SameFault (basicAuthorization? user password) (basicAuthorization? user password') := by
  obtain rfl | ⟨hp, hp'⟩ := eq_or_proper_of_veil_eq h
  · exact .refl _
  · have hencode := Utf8.encode?_eq_ok_iff.mpr ⟨hp.2, rfl⟩
    have hencode' := Utf8.encode?_eq_ok_iff.mpr ⟨hp'.2, rfl⟩
    unfold basicAuthorization?
    rw [hencode, hencode']
    cases Utf8.encode? user with
    | error run => exact .inl ⟨run, rfl, rfl⟩
    | ok octets => exact .inr ⟨_, _, rfl, rfl⟩

/-! ## What holds a token -/

/-- The variable that the token is configured by. -/
def tokenName : Text := Text.ofString "TWILIO_AUTH_TOKEN"

/-- The environment with the token behind the veil. -/
def Environment.veiled (env : Environment) : Environment := env.mapValue tokenName veil

/-- The settings of the gateway with the token behind the veil. -/
def GatewaySettings.veiled (g : GatewaySettings) : GatewaySettings :=
  { g with token := g.token.map veil }

/-- The client with its token behind the veil. -/
def Client.veiled (c : Client) : Client :=
  { c with credentials := { c.credentials with token := veil c.credentials.token } }

/-- The post with its password behind the veil. -/
def Post.veiled (p : Post) : Post := { p with password := veil p.password }

/-- The transport in memory with the passwords of its posts behind the veil. -/
def Recorder.veiled (r : Recorder) : Recorder := { r with posts := r.posts.map Post.veiled }

/-- The request without its authorization. -/
def WireRequest.veiled (r : WireRequest) : WireRequest := { r with authorization := [] }

/-- The state with all tokens behind the veil. -/
def State.veiled (s : State) : State :=
  { s with environment := s.environment.veiled
           gatewaySettings := s.gatewaySettings.map GatewaySettings.veiled
           recorders := s.recorders.map Recorder.veiled
           wire := s.wire.map WireRequest.veiled }

/-- Two states are the same but for the tokens in them. -/
def State.SameVeiled (s s' : State) : Prop := s.veiled = s'.veiled

/-! ## Settings -/

theorem ClientSettings.ofEnvironment_veiled (env : Environment) :
    ofEnvironment env.veiled = ofEnvironment env := by
  have hother : ∀ name ∈ ["TWILIO_API_BASE_URL", "TWILIO_API_VERSION", "SMS_HTTP_TIMEOUT"],
      Text.ofString name ≠ tokenName := by decide
  have hget : ∀ name ∈ ["TWILIO_API_BASE_URL", "TWILIO_API_VERSION", "SMS_HTTP_TIMEOUT"],
      env.veiled.get? (Text.ofString name) = env.get? (Text.ofString name) :=
    fun name hname => Environment.get?_mapValue_of_ne _ _ _ (hother name hname)
  simp [ofEnvironment, timeoutOf, Environment.getD, hget]

theorem GatewaySettings.ofEnvironment_veiled (env : Environment) :
    ofEnvironment env.veiled = (ofEnvironment env).veiled := by
  have hother : ∀ name ∈ ["ENV", "LOG_LEVEL", "SMS_ENABLE_DOCS", "DOCS_URL", "TWILIO_ACCOUNT_SID",
      "TWILIO_FROM_NUMBER"], Text.ofString name ≠ tokenName := by decide
  have hget : ∀ name ∈ ["ENV", "LOG_LEVEL", "SMS_ENABLE_DOCS", "DOCS_URL", "TWILIO_ACCOUNT_SID",
      "TWILIO_FROM_NUMBER"], env.veiled.get? (Text.ofString name) = env.get? (Text.ofString name) :=
    fun name hname => Environment.get?_mapValue_of_ne _ _ _ (hother name hname)
  have htoken : env.veiled.get? (Text.ofString "TWILIO_AUTH_TOKEN") =
      (env.get? (Text.ofString "TWILIO_AUTH_TOKEN")).map veil :=
    (Environment.get?_mapValue _ _ _ _).trans (by simp [tokenName])
  simp [ofEnvironment, veiled, Environment.getD, hget, htoken]

theorem GatewaySettings.nonEmpty?_map_veil (t : Option Text) :
    nonEmpty? (t.map veil) = (nonEmpty? t).map veil := by
  cases t with
  | none => rfl
  | some t =>
    simp only [nonEmpty?, Option.map_some, Option.filter_some, isEmpty_veil]
    split <;> rfl

/-- Whether the gateway can send does not depend on what the token is. -/
theorem GatewaySettings.account?_veiled (g : GatewaySettings) :
    g.veiled.account? = g.account?.map fun account => (account.1, veil account.2) := by
  simp only [account?, veiled, nonEmpty?_map_veil]
  cases nonEmpty? g.sid with
  | none => rfl
  | some sid => cases nonEmpty? g.token <;> rfl

theorem GatewaySettings.hasCredentials_of_veiled_eq {g g' : GatewaySettings}
    (h : g.veiled = g'.veiled) : g.hasCredentials = g'.hasCredentials := by
  have hsome : ∀ g : GatewaySettings, g.veiled.hasCredentials = g.hasCredentials := by
    intro g
    rw [GatewaySettings.hasCredentials, g.account?_veiled, Option.isSome_map]
    rfl
  rw [← hsome g, h, hsome]

theorem State.currentClientSettings_veiled (s : State) :
    s.veiled.currentClientSettings = s.currentClientSettings := by
  simp only [currentClientSettings, veiled, ClientSettings.ofEnvironment_veiled]

theorem State.currentGatewaySettings_veiled (s : State) :
    s.veiled.currentGatewaySettings = s.currentGatewaySettings.veiled := by
  simp only [currentGatewaySettings, veiled, GatewaySettings.ofEnvironment_veiled]
  cases s.gatewaySettings <;> rfl

/-! ## Sends -/

theorem Post.alike_of_veiled_eq {p p' : Post} (h : p.veiled = p'.veiled) : p.Alike p' := by
  have hurl : p'.url = p.url := (congrArg Post.url h.symm :)
  have hpayload : p'.payload = p.payload := (congrArg Post.payload h.symm :)
  have huser : p'.user = p.user := (congrArg Post.user h.symm :)
  refine ⟨hurl, ?_, ?_⟩
  · rw [hpayload]
    exact .refl _
  · rw [huser]
    exact sameFault_basicAuthorization? _ (congrArg Post.password h :)

namespace State

theorem veiled_requested (s : State) (request : WireRequest) :
    (s.requested request).veiled = s.veiled.requested request.veiled := by
  simp [requested, veiled]

theorem veiled_recorded (s : State) (id : Nat) (p : Post) :
    (s.recorded id p).veiled = s.veiled.recorded id p.veiled := by
  have hrecorders := map_modify Recorder.veiled (fun r => { r with posts := r.posts ++ [p] })
    (fun r => { r with posts := r.posts ++ [p.veiled] }) (fun r => by simp [Recorder.veiled])
    s.recorders id
  simp only [recorded, veiled, hrecorders]

/-- A send cannot tell one token from another. -/
theorem likeness_sameVeiled :
    Likeness (fun _ => True) id (fun p p' => p.veiled = p'.veiled) SameVeiled where
  shared_eq h := (congrArg State.shared h.symm :)
  jarOf_eq h i _ := (congrArg (State.jarOf · i) h.symm :)
  isOpen_iff h i _ := iff_of_eq (congrArg (State.IsOpen · i) h.symm :)
  nextReply_eq h := congrArg (Reply.mapBody id) (congrArg State.nextReply h.symm :)
  delivery_eq {s s'} h i _ := by
    have hrecorders : (s'.recorders.map Recorder.veiled)[i]? =
        (s.recorders.map Recorder.veiled)[i]? :=
      congrArg (fun s : State => s.recorders[i]?) h.symm
    have hdelivery : ∀ r : Recorder, r.veiled.delivery = r.delivery := fun _ => rfl
    rw [List.getElem?_map, List.getElem?_map] at hrecorders
    simpa only [Option.map_map, Function.comp_def, hdelivery] using
      congrArg (Option.map fun r : Recorder => r.delivery.mapBody id) hrecorders
  noted h level logger message := (congrArg (State.noted · level logger message) h :)
  keeping h id site headers := (congrArg (State.keeping · id site headers) h :)
  requested {s s'} h {p p' jar url request request'} hp hm hm' := by
    have hsame : s.veiled = s'.veiled := h
    have hpayload : p.payload = p'.payload := (congrArg Post.payload hp :)
    have hcontent : request.content = request'.content := by
      have hown := hm.content_eq
      rw [hpayload, hm'.content_eq] at hown
      exact (Except.ok.inj hown).symm
    have hrequest : request.veiled = request'.veiled := by
      simp only [WireRequest.veiled, hm.url_eq, hm'.url_eq, hm.cookie_eq, hm'.cookie_eq, hcontent]
    rw [SameVeiled, veiled_requested, veiled_requested, hsame, hrequest]
  recorded {s s'} h {p p'} hp id _ := by
    have hsame : s.veiled = s'.veiled := h
    rw [SameVeiled, veiled_recorded, veiled_recorded, hsame, hp]

/-! ## Housekeeping -/

theorem SameVeiled.currentGatewaySettings_eq {s s' : State} (h : s.SameVeiled s') :
    s.currentGatewaySettings.veiled = s'.currentGatewaySettings.veiled := by
  have hsame : s.veiled = s'.veiled := h
  rw [← currentGatewaySettings_veiled, hsame, currentGatewaySettings_veiled]

/-- Housekeeping cannot tell one token from another either. -/
theorem housekeeping_sameVeiled : Housekeeping SameVeiled where
  shared_eq h := (congrArg State.shared h.symm :)
  length_eq h := (congrArg (fun s : State => s.transports.length) h.symm :)
  clientSettings_eq {s s'} h := by
    have hsame : s.veiled = s'.veiled := h
    rw [← currentClientSettings_veiled s', ← hsame, currentClientSettings_veiled]
  hasCredentials_eq h :=
    (GatewaySettings.hasCredentials_of_veiled_eq h.currentGatewaySettings_eq).symm
  noted h := likeness_sameVeiled.noted h
  read h settings := (congrArg (fun s : State => { s with clientSettings := some settings }) h :)
  readGateway {s s'} h := by
    have hcurrent := h.currentGatewaySettings_eq
    rw [SameVeiled, State.veiled, State.veiled, Option.map_some, Option.map_some, ← hcurrent]
    exact (congrArg (fun t : State =>
      { t with gatewaySettings := some s.currentGatewaySettings.veiled }) h :)
  forgot h := (congrArg (fun s : State =>
    { s with clientSettings := none, gatewaySettings := none }) h :)
  opened h limit := (congrArg (fun s : State =>
    { s with transports := s.transports ++ [Transport.mk limit true []] }) h :)
  closed h id := (congrArg (fun s : State =>
    { s with transports := s.transports.modify id fun t => { t with isOpen := false } }) h :)
  sharing h shared := (congrArg (fun s : State => { s with shared := shared }) h :)

end State

end Courier
