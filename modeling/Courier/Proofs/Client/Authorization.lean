import Courier.Proofs.Client.Once
import Courier.Proofs.Client.Wire
import Courier.Proofs.Text.Base64
import Courier.Proofs.Text.Split
import Courier.Proofs.Text.WellFormed

/-!
# The account in the authorization header

Every request is signed with the account of its client: identifier and token in UTF-8, a colon
between them, in base64. A reader of the header takes what stands before the first colon for the
identifier. So it finds the account again, whatever its token is, unless there is a colon in the
identifier.

Results:
* `Credentials.basicAuthorization?_eq`: the header of an account.
* `Credentials.ofHeader?_header`: the account that is read from its header.
* `Carrier.authorizes_deliver`, `Client.authorizes_sendMessage`: the header of every request.
* `Credentials.header_determines_account`: the header stands for one account.
-/

namespace Courier

/-! ## Writing and reading the header -/

namespace Credentials

/-- The octets of an account: its identifier and its token in UTF-8, with a colon between them. -/
def octets (c : Credentials) : Bytes := Utf8.encodeAll c.sid ++ [0x3A] ++ Utf8.encodeAll c.token

/-- The authorization header of an account. -/
def header (c : Credentials) : Text := Text.ofString "Basic " ++ Base64.encode c.octets

/-- The account that a header signs for: in the text of its octets, what stands before the first
colon and after it. -/
def ofHeader? (header : Text) : Option Credentials := do
  let encoded ← header.dropPrefix? (Text.ofString "Basic ")
  let octets ← Base64.decode? encoded
  let account ← (Utf8.decode? octets).toOption
  let (sid, token) ← Text.splitFirst (CodePoint.ofChar ':') account
  pure ⟨sid, token⟩

variable {c : Credentials}

theorem basicAuthorization?_eq (hsid : c.sid.isWellFormed = true)
    (htoken : c.token.isWellFormed = true) : basicAuthorization? c.sid c.token = .ok c.header := by
  rw [basicAuthorization?, Utf8.encode?_eq_ok_iff.mpr ⟨hsid, rfl⟩,
    Utf8.encode?_eq_ok_iff.mpr ⟨htoken, rfl⟩]
  rfl

/-- The octets of an account are those of one text. -/
theorem octets_eq (c : Credentials) :
    c.octets = Utf8.encodeAll (c.sid ++ CodePoint.ofChar ':' :: c.token) := by
  simp only [octets, Utf8.encodeAll, List.flatMap_append, List.flatMap_cons, List.append_assoc]
  rfl

/-- An account is read from its header, if its identifier has no colon. -/
theorem ofHeader?_header (hsid : c.sid.isWellFormed = true) (htoken : c.token.isWellFormed = true)
    (hcolon : CodePoint.ofChar ':' ∉ c.sid) : ofHeader? c.header = some c := by
  have haccount : (c.sid ++ ([CodePoint.ofChar ':'] ++ c.token)).isWellFormed = true := by
    rw [Text.isWellFormed_append, Text.isWellFormed_append, hsid, htoken]
    decide
  have hdecode : Utf8.decode? c.octets = .ok (c.sid ++ CodePoint.ofChar ':' :: c.token) :=
    Utf8.decode?_eq_ok_iff.mpr ⟨haccount, c.octets_eq.symm⟩
  have hdrop : c.header.dropPrefix? (Text.ofString "Basic ") = some (Base64.encode c.octets) :=
    List.dropPrefix?_append_of_beq _ (beq_self_eq_true _)
  rw [ofHeader?, hdrop]
  simp only [Option.bind_eq_bind, Option.bind_some, Base64.decode?_encode, hdecode,
    Except.toOption, Text.splitFirst_append hcolon]
  rfl

end Credentials

/-! ## The header of every request -/

/-- Every request that was made between two states carries an authorization header. -/
def State.Authorizes (header : Text) (s s' : State) : Prop :=
  ∃ made, s'.wire = s.wire ++ made ∧
    ∀ request ∈ made, request.headers.lookup "authorization" = some header

theorem State.authorizes_of_wire_eq {s s' : State} (h : s'.wire = s.wire) (header : Text) :
    s.Authorizes header s' :=
  ⟨[], by rw [h, List.append_nil], List.forall_mem_nil _⟩

theorem State.overlooksLog_authorizes (header : Text) :
    OverlooksLog (State.Authorizes header) where
  refl _ := authorizes_of_wire_eq rfl header
  before _ h := h
  after _ h := h

section

variable [Installation]

theorem Transport.authorizes_deliver {p : Post} {header : Text}
    (h : basicAuthorization? p.user p.password = .ok header) (id : Nat) (s : State) :
    s.Authorizes header ((deliver id p).exec s).2 := by
  obtain ⟨-, fault, hd⟩ | ⟨-, url, request, -, hmakes, hd⟩ := exec_deliver_cases id p s
  · rw [hd]
    exact State.authorizes_of_wire_eq rfl header
  · obtain rfl : request.authorization = header :=
      Except.ok.inj (hmakes.authorization_eq.symm.trans h)
    refine ⟨[request], ?_, List.forall_mem_singleton.mpr rfl⟩
    rw [hd, wire_exec_receive]
    rfl

/-- A post is signed with its user and its password. -/
theorem Carrier.authorizes_deliver {p : Post} {header : Text}
    (h : basicAuthorization? p.user p.password = .ok header) (k : Carrier) (s : State) :
    s.Authorizes header ((k.deliver p).exec s).2 := by
  cases k with
  | network id => exact Transport.authorizes_deliver h id s
  | recorder id =>
    refine State.authorizes_of_wire_eq ?_ header
    rw [Carrier.deliver, Recorder.exec_deliver]
    cases s.recorders[id]? <;> rfl

/-- A send is signed with the account of its client. -/
theorem Client.authorizes_sendMessage {c : Client} {header : Text}
    (h : basicAuthorization? c.credentials.sid c.credentials.token = .ok header)
    (recipient sender body mediaUrl : Value) (verbose : Bool) (s : State) :
    s.Authorizes header ((c.sendMessage recipient sender body mediaUrl verbose).exec s).2 :=
  related_sendMessage (State.overlooksLog_authorizes header)
    (fun k payload s => k.authorizes_deliver (p := c.post payload) h s) recipient sender body
    mediaUrl verbose s

end

/-! ## One account for a header -/

namespace Credentials

section

variable [Installation]

/-- **The account on the wire.** Identifier and token may be any texts that have octets, empty ones
too. Then there is one header: the word `Basic` and the base64 form of the octets of the account.
Every request of a post with this user and password and of a send of a client of this account
carries it, and such a post makes its request if nothing else hinders it. Unless there is a colon in
the identifier, the account is read from the header, and no other such account has the same one. -/
theorem header_determines_account {c : Credentials} (hsid : c.sid.isWellFormed = true)
    (htoken : c.token.isWellFormed = true) :
    ∃ header encoded,
      header = Text.ofString "Basic " ++ encoded ∧
        Base64.decode? encoded =
          some (Utf8.encodeAll c.sid ++ [0x3A] ++ Utf8.encodeAll c.token) ∧
        basicAuthorization? c.sid c.token = .ok header ∧
        (∀ (k : Carrier) (p : Post) (s : State), (p.user, p.password) = c.basicAuth →
          s.Authorizes header ((k.deliver p).exec s).2) ∧
        (∀ (id : Nat) (p : Post) (s : State) (content : Bytes) (url : Url),
          (p.user, p.password) = c.basicAuth → Utf8.encodeEscaped? p.payload = .ok content →
          Transport.addressOf (s.jarOf id) p = .ok url → s.IsOpen id →
          ((Transport.deliver id p).exec s).2.wire =
            s.wire ++ [⟨url.text, header, Call.cookieHeader? (s.jarOf id) url, content⟩]) ∧
        (∀ (d : Client) (recipient sender body mediaUrl : Value) (verbose : Bool) (s : State),
          d.credentials = c → s.Authorizes header
            ((d.sendMessage recipient sender body mediaUrl verbose).exec s).2) ∧
        (CodePoint.ofChar ':' ∉ c.sid → ofHeader? header = some c ∧
          ∀ c' : Credentials, c'.sid.isWellFormed = true → c'.token.isWellFormed = true →
            CodePoint.ofChar ':' ∉ c'.sid → c' ≠ c →
              basicAuthorization? c'.sid c'.token ≠ .ok header) := by
  have hheader := basicAuthorization?_eq hsid htoken
  refine ⟨c.header, Base64.encode c.octets, rfl, Base64.decode?_encode _, hheader, ?_, ?_, ?_, ?_⟩
  · rintro k ⟨url, payload, user, password⟩ s hp
    cases hp
    exact k.authorizes_deliver hheader s
  · rintro id ⟨target, payload, user, password⟩ s content url hp hcontent hurl hopen
    cases hp
    exact Transport.wire_exec_deliver hcontent hurl hopen hheader
  · rintro d recipient sender body mediaUrl verbose s rfl
    exact d.authorizes_sendMessage hheader recipient sender body mediaUrl verbose s
  · intro hcolon
    refine ⟨ofHeader?_header hsid htoken hcolon, fun c' hsid' htoken' hcolon' hne hsame => hne ?_⟩
    have hheaders : c'.header = c.header :=
      Except.ok.inj ((basicAuthorization?_eq hsid' htoken').symm.trans hsame)
    have hread := ofHeader?_header hsid' htoken' hcolon'
    rw [hheaders, ofHeader?_header hsid htoken hcolon] at hread
    exact (Option.some.inj hread).symm

end

open scoped Installation in
/-- An identifier with a character beyond ASCII, and a token with colons in it. -/
theorem header_determines_account_colons :
    let c : Credentials := ⟨Text.ofString "AC\u00E9", Text.ofString ":t:"⟩
    let d : Client := ⟨c, none, .ofEnvironment .empty⟩
    let s : State := { State.initial 0 .empty .initial with
      transports := [⟨.usual, true, []⟩], shared := some 0 }
    let s' : State := ((d.sendMessage (.text (Text.ofString "+1")) (.text (Text.ofString "+2"))
      (.text (Text.ofString "Hi")) .null false).exec s).2
    c.sid.isWellFormed = true ∧ c.token.isWellFormed = true ∧ CodePoint.ofChar ':' ∉ c.sid ∧
      ∃ request header, s'.wire = [request] ∧
        request.headers.lookup "authorization" = some header ∧ ofHeader? header = some c := by
  intro c d s s'
  have hsid : c.sid.isWellFormed = true := by decide
  have htoken : c.token.isWellFormed = true := by decide
  have hcolon : CodePoint.ofChar ':' ∉ c.sid := by decide
  have hone : s'.wire.length = 1 := by decide +kernel
  obtain ⟨header, -, -, -, -, -, -, hsends, haccount⟩ := header_determines_account hsid htoken
  obtain ⟨made, hmade, hall⟩ := hsends d (.text (Text.ofString "+1")) (.text (Text.ofString "+2"))
    (.text (Text.ofString "Hi")) .null false s rfl
  have hwire : s'.wire = made := hmade
  obtain ⟨request, hrequest⟩ := List.length_eq_one_iff.mp hone
  obtain rfl : made = [request] := hwire.symm.trans hrequest
  exact ⟨hsid, htoken, hcolon, request, header, hrequest, hall request (List.mem_singleton_self _),
    (haccount hcolon).1⟩

end Credentials

end Courier
