import Courier.Proofs.Run
import Courier.Proofs.Text.Utf8
import Courier.Transport

/-!
# What comes back for a post

A post over a transport comes back as a delivery. `Carrier.Answers` says which deliveries there may
be: a transport in memory gives its chunks and its end, one of the network gives what the next reply
of the provider comes to. Every post that comes back is counted once, among the requests on the wire
or among the posts of a transport in memory.

Results:
* `Transport.exec_deliver`, `Transport.exec_receive`: a post over the network, case by case.
* `Transport.exec_deliver_cases`: which posts go over the wire.
* `Carrier.answers_of_exec_deliver`: a post that comes back was counted, and comes back as an answer
  of its transport unless it ends in a fault.
* `Carrier.log_of_exec_deliver`: a post writes nothing to the log.
* `Sink.text_writeAll`: what is kept of the chunks of a delivery.
-/

namespace Courier

/-! ## Sinks -/

namespace Sink

theorem writeAll_discard (chunks : List Bytes) : Sink.discard.writeAll chunks = .discard := by
  induction chunks with
  | nil => rfl
  | cons chunk chunks ih => exact ih

theorem writeAll_buffer (octets : Bytes) (chunks : List Bytes) :
    (Sink.buffer octets).writeAll chunks = .buffer (octets ++ chunks.flatten) := by
  induction chunks generalizing octets with
  | nil => simp [writeAll]
  | cons chunk chunks ih =>
    rw [List.flatten_cons, ← List.append_assoc]
    exact ih (octets ++ chunk)

/-- A sink that keeps what it is given has the text of all chunks together. -/
theorem text_writeAll (verbose : Bool) (chunks : List Bytes) :
    ((Sink.new verbose).writeAll chunks).text =
      if verbose then Utf8.decodeLossy chunks.flatten else [] := by
  cases verbose with
  | false => simp [new, writeAll_discard, text]
  | true => simp [new, writeAll_buffer, text]

end Sink

/-! ## What a state holds for a post -/

namespace State

/-- The posts made so far, over transports of both kinds. -/
def postCount (s : State) : Nat :=
  s.wire.length + (s.recorders.flatMap fun r => r.posts).length

/-- What the provider replies next; one that has nothing left to say accepts. -/
def nextReply (s : State) : Reply := s.replies.head?.getD Reply.created

/-- The cookies of a transport. -/
def jarOf (s : State) (id : Nat) : Cookie.Jar := ((s.transports[id]?).map (·.cookies)).getD []

/-- The transport is there and open. -/
def IsOpen (s : State) (id : Nat) : Prop := (s.transports[id]?).any (·.isOpen) = true

instance (s : State) (id : Nat) : Decidable (s.IsOpen id) := inferInstanceAs (Decidable (_ = true))

/-- The state after a request went over the network and its reply was taken. -/
def requested (s : State) (request : WireRequest) : State :=
  { s with wire := s.wire ++ [request], replies := s.replies.tail }

/-- The state after the cookies in the headers of a reply from a site were kept. -/
def keeping (s : State) (id : Nat) (site : Cookie.Site) (headers : List (Text × Text)) : State :=
  { s with transports := s.transports.modify id fun t =>
      { t with cookies := t.cookies.receive s.now site headers } }

@[simp] theorem postCount_noted (s : State) (level : Log.Level) (logger : String)
    (message : Text) : (s.noted level logger message).postCount = s.postCount := rfl

@[simp] theorem postCount_requested (s : State) (request : WireRequest) :
    (s.requested request).postCount = s.postCount + 1 := by
  simp only [postCount, requested, List.length_append, List.length_singleton]
  omega

@[simp] theorem postCount_keeping (s : State) (id : Nat) (site : Cookie.Site)
    (headers : List (Text × Text)) : (s.keeping id site headers).postCount = s.postCount := rfl

end State

/-! ## Posts over the network -/

/-- The request that a post becomes at an address, over a transport with cookies. -/
structure Post.Makes (p : Post) (jar : Cookie.Jar) (url : Url) (request : WireRequest) : Prop where
  url_eq : request.url = url.text
  authorization_eq : basicAuthorization? p.user p.password = .ok request.authorization
  cookie_eq : request.cookie = Call.cookieHeader? jar url
  content_eq : Utf8.encodeEscaped? p.payload = .ok request.content

/-- A post becomes one request at an address. -/
theorem Post.Makes.unique {p : Post} {jar : Cookie.Jar} {url : Url} {request request' : WireRequest}
    (h : p.Makes jar url request) (h' : p.Makes jar url request') : request = request' := by
  obtain ⟨address, authorization, cookie, content⟩ := request
  obtain ⟨address', authorization', cookie', content'⟩ := request'
  have hurl : address = address' := h.url_eq.trans h'.url_eq.symm
  have hauthorization := Except.ok.inj (h.authorization_eq.symm.trans h'.authorization_eq)
  have hcookie : cookie = cookie' := h.cookie_eq.trans h'.cookie_eq.symm
  have hcontent := Except.ok.inj (h.content_eq.symm.trans h'.content_eq)
  rw [WireRequest.mk.injEq]
  exact ⟨hurl, hauthorization, hcookie, hcontent⟩

namespace Transport

theorem exec_nextReply (s : State) :
    nextReply.exec s = (.ok s.nextReply, { s with replies := s.replies.tail }) := by
  unfold nextReply State.nextReply
  rw [Run.exec_bind_of_ok (Run.exec_get s)]
  cases h : s.replies with
  | nil =>
    obtain ⟨⟩ := s
    cases h
    rfl
  | cons r rest => rfl

theorem basicAuthorization?_eq_error_iff {user password : Text} :
    (∃ run, basicAuthorization? user password = .error run) ↔
      user.isWellFormed = false ∨ password.isWellFormed = false := by
  rw [← Utf8.encode?_eq_error_iff, ← Utf8.encode?_eq_error_iff]
  unfold basicAuthorization?
  cases Utf8.encode? user with
  | error run => simp [bind, Except.bind]
  | ok octets => cases Utf8.encode? password <;> simp [bind, Except.bind, pure, Except.pure]

variable [Installation]

/-- What a reply to a call comes to. -/
theorem exec_receive (id : Nat) (url : Url) (reply : Reply) (s : State) :
    (receive id url reply).exec s =
      match reply with
      | .failure e message => (.ok ⟨[], e.ending message⟩, s)
      | .response status headers chunks error =>
        match checkHeaders headers, Call.site? url with
        | .error fault, _ => (.error fault, s)
        | .ok _, .error fault => (.error fault, s)
        | .ok _, .ok site =>
          (.ok (match Call.failure? ((s.keeping id site headers).jarOf id) url status headers with
            | some failure => ⟨[], failure.ending⟩
            | none => ⟨chunks, Ending.ofBody status error⟩), s.keeping id site headers) := by
  cases reply with
  | failure e message => rfl
  | response status headers chunks error =>
    dsimp only [receive]
    cases hc : checkHeaders headers with
    | error fault => rfl
    | ok _ =>
      cases hs : Call.site? url with
      | error fault => simp [Run.exec_bind, keepCookies, hs]
      | ok site =>
        have hjar : (cookiesOf id).exec (s.keeping id site headers) =
            (.ok ((s.keeping id site headers).jarOf id), s.keeping id site headers) := rfl
        have hkeep : (keepCookies id url headers).exec s = (.ok ⟨⟩, s.keeping id site headers) := by
          simp [Run.exec_bind, keepCookies, hs, State.keeping]
        simp only [Run.exec_bind, Run.exec_ofExcept, hkeep, hjar]
        cases Call.failure? ((s.keeping id site headers).jarOf id) url status headers <;> rfl

/-- A post over the network: what may go wrong before the request is on the wire, in this order. -/
theorem exec_deliver (id : Nat) (p : Post) (s : State) :
    (deliver id p).exec s =
      match Utf8.encodeEscaped? p.payload with
      | .error run => (.error (.unencodable run), s)
      | .ok content =>
        match addressOf (s.jarOf id) p with
        | .error fault => (.error fault, s)
        | .ok url =>
          if s.IsOpen id then
            match basicAuthorization? p.user p.password with
            | .error run => (.error (.unencodable run), s)
            | .ok authorization =>
              (receive id url s.nextReply).exec (s.requested
                ⟨url.text, authorization, Call.cookieHeader? (s.jarOf id) url, content⟩)
          else (.error .transportClosed, s) := by
  have hjar : (cookiesOf id).exec s = (.ok (s.jarOf id), s) := rfl
  have hopen : (checkOpen id).exec s = (.ok (s.transports[id]?.any (·.isOpen)), s) := rfl
  unfold deliver
  cases hcontent : Utf8.encodeEscaped? p.payload with
  | error run => rfl
  | ok content =>
    cases haddress : addressOf (s.jarOf id) p with
    | error fault => simp [Run.exec_bind, Except.mapError, hjar, haddress]
    | ok url =>
      by_cases ho : s.IsOpen id
      · have ho' : s.transports[id]?.any (·.isOpen) = true := ho
        cases hauth : basicAuthorization? p.user p.password with
        | error run =>
          simp [Run.exec_bind, Except.mapError, hjar, haddress, hopen, ho, ho']
        | ok authorization =>
          simp [Run.exec_bind, Except.mapError, hjar, haddress, hopen, ho, ho', exec_nextReply]
          rfl
      · have ho' : s.transports[id]?.any (·.isOpen) = false := by simpa [State.IsOpen] using ho
        simp [Run.exec_bind, Except.mapError, hjar, haddress, hopen, ho, ho']

/-- A reply leaves at most cookies behind. -/
theorem snd_exec_receive (id : Nat) (url : Url) (reply : Reply) (s : State) :
    ((receive id url reply).exec s).2 = s ∨
      ∃ site headers, ((receive id url reply).exec s).2 = s.keeping id site headers := by
  rw [exec_receive]
  cases reply with
  | failure e message => exact .inl rfl
  | response status headers chunks error =>
    dsimp only
    cases checkHeaders headers with
    | error fault => exact .inl rfl
    | ok _ =>
      cases Call.site? url with
      | error fault => exact .inl rfl
      | ok site => exact .inr ⟨site, headers, rfl⟩

theorem postCount_exec_receive (id : Nat) (url : Url) (reply : Reply) (s : State) :
    ((receive id url reply).exec s).2.postCount = s.postCount := by
  obtain hs | ⟨site, headers, hs⟩ := snd_exec_receive id url reply s
  · rw [hs]
  · rw [hs, State.postCount_keeping]

theorem log_exec_receive (id : Nat) (url : Url) (reply : Reply) (s : State) :
    ((receive id url reply).exec s).2.log = s.log := by
  obtain hs | ⟨site, headers, hs⟩ := snd_exec_receive id url reply s
  · rw [hs]
  · rw [hs]
    rfl

theorem wire_exec_receive (id : Nat) (url : Url) (reply : Reply) (s : State) :
    ((receive id url reply).exec s).2.wire = s.wire := by
  obtain hs | ⟨site, headers, hs⟩ := snd_exec_receive id url reply s
  · rw [hs]
  · rw [hs]
    rfl

/-- A post cannot be sent: its payload or its credentials have no octets, or its address cannot be
called. -/
def Unsendable (jar : Cookie.Jar) (p : Post) : Prop :=
  p.payload.any Utf8.isStray = true ∨ (∃ fault, addressOf jar p = .error fault) ∨
    p.user.isWellFormed = false ∨ p.password.isWellFormed = false

/-- A post that cannot be sent, or not over a closed transport, ends in a fault and leaves the state
as it was. Any other goes over the wire, and all depends on its reply. -/
theorem exec_deliver_cases (id : Nat) (p : Post) (s : State) :
    ((Unsendable (s.jarOf id) p ∨ ¬s.IsOpen id) ∧
        ∃ fault, (deliver id p).exec s = (.error fault, s)) ∨
      ((¬Unsendable (s.jarOf id) p ∧ s.IsOpen id) ∧
        ∃ url request, addressOf (s.jarOf id) p = .ok url ∧ p.Makes (s.jarOf id) url request ∧
          (deliver id p).exec s = (receive id url s.nextReply).exec (s.requested request)) := by
  rw [exec_deliver, Unsendable, ← Utf8.encodeEscaped?_eq_error_iff,
    ← basicAuthorization?_eq_error_iff]
  cases hcontent : Utf8.encodeEscaped? p.payload with
  | error run => exact .inl ⟨.inl (.inl ⟨run, rfl⟩), _, rfl⟩
  | ok content =>
    cases haddress : addressOf (s.jarOf id) p with
    | error fault => exact .inl ⟨.inl (.inr (.inl ⟨fault, rfl⟩)), _, rfl⟩
    | ok url =>
      dsimp only
      by_cases ho : s.IsOpen id
      · rw [if_pos ho]
        cases hauth : basicAuthorization? p.user p.password with
        | error run => exact .inl ⟨.inl (.inr (.inr ⟨run, rfl⟩)), _, rfl⟩
        | ok authorization =>
        exact .inr ⟨⟨by simp, ho⟩, url, _, rfl, ⟨rfl, hauth, rfl, hcontent⟩, rfl⟩
      · rw [if_neg ho]
        exact .inl ⟨.inr ho, _, rfl⟩

end Transport

/-! ## Posts to a transport in memory -/

/-- What a transport in memory gives for every post. -/
def Recorder.delivery (r : Recorder) : Delivery :=
  ⟨r.chunks, match r.ending with
    | .ok status => .answered status
    | .error reason => .broken reason⟩

/-- A change to one item is seen as a change to what is seen of that item. -/
theorem map_modify {α β : Type} (view : α → β) (f : α → α) (f' : β → β)
    (h : ∀ a, view (f a) = f' (view a)) (items : List α) (i : Nat) :
    (items.modify i f).map view = (items.map view).modify i f' := by
  apply List.ext_getElem?
  intro j
  rw [List.getElem?_map, List.getElem?_modify, List.getElem?_modify, List.getElem?_map]
  cases items[j]? with
  | none => rfl
  | some a =>
    by_cases hij : i = j
    · simp [hij, h]
    · simp [hij]

/-- The state after a post was made to a transport in memory. -/
def State.recorded (s : State) (id : Nat) (p : Post) : State :=
  { s with recorders := s.recorders.modify id fun r => { r with posts := r.posts ++ [p] } }

theorem Recorder.exec_deliver (id : Nat) (p : Post) (s : State) :
    (Recorder.deliver id p).exec s =
      match s.recorders[id]? with
      | none => (.error .notReady, s)
      | some r => (.ok r.delivery, s.recorded id p) := by
  unfold Recorder.deliver
  rw [Run.exec_bind_of_ok (Run.exec_get s)]
  cases s.recorders[id]? <;> rfl

theorem State.postCount_recorded {s : State} {id : Nat} {r : Recorder}
    (h : s.recorders[id]? = some r) (p : Post) :
    (s.recorded id p).postCount = s.postCount + 1 := by
  have hposts : ∀ (rs : List Recorder) (i : Nat), rs[i]? = some r →
      ((rs.modify i fun r => { r with posts := r.posts ++ [p] }).flatMap fun r => r.posts).length
        = (rs.flatMap fun r => r.posts).length + 1 := by
    intro rs
    induction rs with
    | nil =>
      intro i hi
      simp at hi
    | cons first rs ih =>
      intro i hi
      cases i with
      | zero =>
        simp only [List.modify_zero_cons, List.flatMap_cons, List.length_append,
          List.length_singleton]
        omega
      | succ i =>
        have hrest := ih i (by simpa using hi)
        simp only [List.modify_succ_cons, List.flatMap_cons, List.length_append, hrest]
        omega
  simp only [postCount, recorded, hposts _ _ h]
  omega

section

variable [Installation]

/-! ## What a reply of the provider gives -/

/-- The location of a redirection stands in its headers and is no address. -/
def Reply.Misdirects (status : Int) (headers : List (Text × Text)) (fault : Url.Fault) : Prop :=
  status ∈ Call.redirections ∧ ∃ location, Reply.header? "location" headers = some location ∧
    Url.parse? location = .error fault

/-- A reply raises an error after some chunks of its body: an error in its place, one that ends its
body, or one of a redirection whose location is no address, before anything is read of its body. -/
inductive Reply.Raises : Reply → List Bytes → ExchangeError → Text → Prop
  | failure (e : ExchangeError) (message : Text) : Raises (.failure e message) [] e message
  | interrupted {status : Int} {headers : List (Text × Text)} (chunks : List Bytes)
      (e : ExchangeError) (message : Text) (h : ∀ fault, ¬Misdirects status headers fault) :
      Raises (.response status headers chunks (some (e, message))) chunks e message
  | misdirected {status : Int} {headers : List (Text × Text)} {fault : Url.Fault}
      (chunks : List Bytes) (error : Option (ExchangeError × Text))
      (h : Misdirects status headers fault) :
      Raises (.response status headers chunks error) [] .remoteProtocol
        (Call.unreadableMessage fault)

/-- What a reply gives: its status after all chunks of its body, or the reason of an exchange that
could not be completed. -/
inductive Reply.Gives : Reply → Delivery → Prop
  | answered {status : Int} {headers : List (Text × Text)} (chunks : List Bytes)
      (h : ∀ fault, ¬Misdirects status headers fault) :
      Gives (.response status headers chunks none) ⟨chunks, .answered status⟩
  | broken {reply : Reply} {chunks : List Bytes} {e : ExchangeError} {message : Text}
      (h : reply.Raises chunks e message) (he : e.isRequestError = true) :
      Gives reply ⟨chunks, .broken (e.reason message)⟩

/-- An error that a reply raises ends its delivery in a fault, or is given as a reason. -/
theorem Reply.Raises.gives {reply : Reply} {chunks : List Bytes} {e : ExchangeError}
    {message : Text} (h : reply.Raises chunks e message) :
    (∃ fault, e.ending message = .failed fault) ∨ reply.Gives ⟨chunks, e.ending message⟩ := by
  unfold ExchangeError.ending
  by_cases he : e.isRequestError = true
  · rw [if_pos he]
    exact .inr (.broken h he)
  · rw [if_neg he]
    exact .inl ⟨_, rfl⟩

/-- Only a location that is no address is unreadable. -/
theorem Call.destination?_eq_unreadable_iff (jar : Cookie.Jar) (url : Url) {location : Text}
    {fault : Url.Fault} :
    destination? jar url location = .error (.unreadable fault) ↔
      Url.parse? location = .error fault := by
  unfold destination?
  cases hp : Url.parse? location with
  | error fault' => simp [Except.mapError, bind, Except.bind]
  | ok read =>
    simp only [Except.mapError, bind, Except.bind, reduceCtorEq, iff_false]
    intro h
    split at h <;> cases h

theorem Call.failure?_eq_unreadable_iff {jar : Cookie.Jar} {url : Url} {status : Int}
    {headers : List (Text × Text)} {fault : Url.Fault} :
    failure? jar url status headers = some (.unreadable fault) ↔
      Reply.Misdirects status headers fault := by
  unfold failure? Reply.Misdirects
  by_cases hs : redirections.contains status = true
  · rw [if_pos hs, and_iff_right (List.contains_iff_mem.mp hs)]
    cases hl : Reply.header? "location" headers with
    | none => simp
    | some location =>
      simp only [Option.some.injEq, exists_eq_left', ← destination?_eq_unreadable_iff jar url]
      cases destination? jar url location <;> simp
  · rw [if_neg hs]
    simp only [reduceCtorEq, false_iff]
    exact fun h => hs (List.contains_iff_mem.mpr h.1)

/-- A reply that was received came back as what it gives, unless it ended in a fault. -/
theorem Transport.gives_of_exec_receive {id : Nat} {url : Url} {reply : Reply} {s s' : State}
    {d : Delivery} (h : (receive id url reply).exec s = (.ok d, s')) :
    (∃ fault, d.ending = .failed fault) ∨ reply.Gives d := by
  rw [exec_receive] at h
  cases reply with
  | failure e message =>
    cases h
    exact (Reply.Raises.failure e message).gives
  | response status headers chunks error =>
    dsimp only at h
    cases hc : checkHeaders headers with
    | error fault => simp [hc] at h
    | ok _ =>
      cases hs : Call.site? url with
      | error fault => simp [hc, hs] at h
      | ok site =>
        rw [hc, hs] at h
        obtain ⟨hd, -⟩ := Prod.mk.inj h
        obtain rfl := Except.ok.inj hd
        cases hf : Call.failure? ((s.keeping id site headers).jarOf id) url status headers with
        | some failure =>
          cases failure with
          | unreadable fault =>
            exact (Reply.Raises.misdirected chunks error
              (Call.failure?_eq_unreadable_iff.mp hf)).gives
          | uncallable fault => exact .inl ⟨fault, rfl⟩
        | none =>
          have hread : ∀ fault, ¬Reply.Misdirects status headers fault := by
            intro fault hm
            rw [← Call.failure?_eq_unreadable_iff, hf] at hm
            cases hm
          cases error with
          | none => exact .inr (.answered chunks hread)
          | some raised => exact (Reply.Raises.interrupted chunks raised.1 raised.2 hread).gives

/-! ## Posts over a transport of either kind -/

/-- The deliveries that there may be for a post over a transport. -/
inductive Carrier.Answers (s : State) : Carrier → Delivery → Prop
  | recorded {id : Nat} {r : Recorder} (h : s.recorders[id]? = some r) :
      Answers s (.recorder id) r.delivery
  | received {id : Nat} {d : Delivery} (h : s.nextReply.Gives d) : Answers s (.network id) d

/-- What a transport answers does not depend on the log. -/
theorem Carrier.answers_noted_iff {s : State} {level : Log.Level} {logger : String}
    {message : Text} {k : Carrier} {d : Delivery} :
    k.Answers (s.noted level logger message) d ↔ k.Answers s d := by
  constructor
  · rintro (h | h)
    · exact .recorded h
    · exact .received h
  · rintro (h | h)
    · exact .recorded h
    · exact .received h

/-- **A post that comes back.** It was counted, once, and it comes back as an answer of its
transport, unless it ends in a fault. -/
theorem Carrier.answers_of_exec_deliver {k : Carrier} {p : Post} {s s' : State} {d : Delivery}
    (h : (k.deliver p).exec s = (.ok d, s')) :
    s'.postCount = s.postCount + 1 ∧ ((∃ fault, d.ending = .failed fault) ∨ k.Answers s d) := by
  cases k with
  | network id =>
    have h' : (Transport.deliver id p).exec s = (.ok d, s') := h
    obtain ⟨-, fault, hd⟩ | ⟨-, url, request, -, -, hd⟩ := Transport.exec_deliver_cases id p s
    · rw [hd] at h'
      cases h'
    · have hcount := Transport.postCount_exec_receive id url s.nextReply (s.requested request)
      rw [hd] at h'
      rw [h', State.postCount_requested] at hcount
      exact ⟨hcount, (Transport.gives_of_exec_receive h').imp_right .received⟩
  | recorder id =>
    rw [Carrier.deliver, Recorder.exec_deliver] at h
    cases hr : s.recorders[id]? with
    | none => simp [hr] at h
    | some r =>
      rw [hr] at h
      cases h
      exact ⟨State.postCount_recorded hr p, .inr (.recorded hr)⟩

/-- A post writes nothing to the log. -/
theorem Carrier.log_of_exec_deliver (k : Carrier) (p : Post) (s : State) :
    ((k.deliver p).exec s).2.log = s.log := by
  cases k with
  | network id =>
    rw [Carrier.deliver]
    obtain ⟨-, fault, hd⟩ | ⟨-, url, request, -, -, hd⟩ := Transport.exec_deliver_cases id p s
    · rw [hd]
    · rw [hd]
      exact Transport.log_exec_receive id url s.nextReply _
  | recorder id =>
    rw [Carrier.deliver, Recorder.exec_deliver]
    cases s.recorders[id]? <;> rfl

end

end Courier
