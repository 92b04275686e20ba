import Courier.Proofs.Client.Faults
import Courier.Proofs.Client.Alongside
import Courier.Proofs.Client.Untouched

/-!
# At most one post

A send posts at most once, in the name of its client: the address and the credentials of the post
are those that the client was made with. A request over the network takes one reply, and a send that
makes none takes none. What one send leaves for the next is no more than the cookies in the replies.

Results:
* `postsOnce_sendMessage`: what a send puts on the wire and posts in memory.
* `takesReplies_sendMessage`: which replies a send takes, and that only cookies in them are kept.
* `relates_sendMessage_alongside`: the same send from two states.
-/

namespace Courier

/-! ## The address of a post -/

theorem Call.checkCookies_nil (url : Url) : checkCookies [] url = .ok () := rfl

section

variable [Installation]

/-- The cookies of a transport may be a reason not to call an address, but do not change it. -/
theorem Transport.addressOf_eq_ok_iff {jar : Cookie.Jar} {p : Post} {url : Url} :
    addressOf jar p = .ok url ↔
      addressOf [] p = .ok url ∧ Call.checkCookies jar url = .ok () := by
  unfold addressOf
  cases hread : (Url.parse? p.url).mapError Fault.ofUrl with
  | error fault => simp [bind, Except.bind]
  | ok target =>
    cases hresolve : (Url.resolve? .empty target).mapError Fault.ofUrl with
    | error fault => simp [hresolve, bind, Except.bind]
    | ok called =>
      simp only [hresolve, bind, Except.bind, Call.checkCookies_nil]
      cases hcheck : Call.check called with
      | error fault => cases hcookies : Call.checkCookies jar called <;> simp
      | ok _ =>
        constructor
        · intro h
          cases hcookies : Call.checkCookies jar called with
          | error fault => simp [hcookies] at h
          | ok _ =>
            rw [hcookies] at h
            cases h
            exact ⟨rfl, hcookies⟩
        · rintro ⟨h, hcookies⟩
          cases h
          rw [hcookies]
          rfl

/-- The address of a post does not depend on its payload. -/
theorem Client.addressOf_post (c : Client) (jar : Cookie.Jar) (payload : Text) :
    Transport.addressOf jar (c.post payload) = c.addressIn jar := rfl

/-! ## Posts in the name of a client -/

namespace Client

/-- A request carries the address and the credentials of a client. -/
structure Signs (c : Client) (request : WireRequest) : Prop where
  url : ∃ url, c.addressIn [] = .ok url ∧ request.url = url.text
  authorization : basicAuthorization? c.credentials.sid c.credentials.token =
    .ok request.authorization

/-- Between two states at most one post was made, and in the name of a client: a request over the
network, which took one reply, or a post to a transport in memory. -/
structure PostsOnce (c : Client) (s s' : State) : Prop where
  count : s'.postCount ≤ s.postCount + 1
  network : (s'.wire = s.wire ∧ s'.replies = s.replies) ∨
    ∃ request, c.Signs request ∧ s'.wire = s.wire ++ [request] ∧ s'.replies = s.replies.tail
  memory : ∀ id, s'.postsOf id = s.postsOf id ∨
    ∃ payload, s'.postsOf id = s.postsOf id ++ [c.post payload]

theorem postsOnce_refl (c : Client) (s : State) : c.PostsOnce s s :=
  ⟨Nat.le_succ _, .inl ⟨rfl, rfl⟩, fun _ => .inl rfl⟩

theorem overlooksLog_postsOnce (c : Client) : State.OverlooksLog c.PostsOnce where
  refl := c.postsOnce_refl
  before _ h := ⟨h.count, h.network, h.memory⟩
  after _ h := ⟨h.count, h.network, h.memory⟩

theorem postsOnce_deliver_network (c : Client) (id : Nat) (payload : Text) (s : State) :
    c.PostsOnce s ((Transport.deliver id (c.post payload)).exec s).2 := by
  obtain ⟨-, fault, hd⟩ | ⟨-, url, request, haddress, hmakes, hd⟩ :=
    Transport.exec_deliver_cases id (c.post payload) s
  · rw [hd]
    exact c.postsOnce_refl s
  · rw [hd]
    rw [addressOf_post] at haddress
    have hsigns : c.Signs request :=
      ⟨⟨url, (Transport.addressOf_eq_ok_iff.mp haddress).1, hmakes.url_eq⟩, hmakes.authorization_eq⟩
    have hrequested : c.PostsOnce s (s.requested request) :=
      ⟨(State.postCount_requested _ _).le, .inr ⟨_, hsigns, rfl, rfl⟩, fun _ => .inl rfl⟩
    obtain hs | ⟨site, headers, hs⟩ :=
      Transport.snd_exec_receive id url s.nextReply (s.requested request)
    · rw [hs]
      exact hrequested
    · rw [hs]
      exact ⟨hrequested.count, hrequested.network, hrequested.memory⟩

theorem postsOnce_deliver (c : Client) (k : Carrier) (payload : Text) (s : State) :
    c.PostsOnce s ((k.deliver (c.post payload)).exec s).2 := by
  cases k with
  | network id => exact c.postsOnce_deliver_network id payload s
  | recorder id =>
    rw [Carrier.deliver, Recorder.exec_deliver]
    cases hr : s.recorders[id]? with
    | none => exact c.postsOnce_refl s
    | some r =>
      refine ⟨(State.postCount_recorded hr _).le, .inl ⟨rfl, rfl⟩, fun j => ?_⟩
      rw [State.postsOf_recorded]
      split
      · exact .inr ⟨payload, rfl⟩
      · exact .inl (List.append_nil _)

/-- **At most one post.** A send makes at most one request, which takes one reply of the provider,
and takes none if it makes none. What it posts goes to the address of its client, with its
credentials. -/
theorem postsOnce_sendMessage (c : Client) (recipient sender body mediaUrl : Value) (verbose : Bool)
    (s : State) :
    c.PostsOnce s ((c.sendMessage recipient sender body mediaUrl verbose).exec s).2 :=
  related_sendMessage c.overlooksLog_postsOnce c.postsOnce_deliver recipient sender body mediaUrl
    verbose s

end Client

end

/-! ## Replies that set no cookies -/

deriving instance DecidableEq for Reply

/-- There is no cookie in the headers of a reply. -/
def Reply.IsQuiet : Reply → Prop
  | .failure _ _ => True
  | .response _ headers _ _ => Cookie.headersNamed "set-cookie" headers = []

instance : DecidablePred Reply.IsQuiet
  | .failure _ _ => inferInstanceAs (Decidable True)
  | .response _ headers _ _ =>
    inferInstanceAs (Decidable (Cookie.headersNamed "set-cookie" headers = []))

namespace State

theorem keeping_of_isQuiet {headers : List (Text × Text)}
    (h : Cookie.headersNamed "set-cookie" headers = []) (s : State) (id : Nat)
    (site : Cookie.Site) : s.keeping id site headers = s := by
  have hjar : ∀ t : Transport, { t with cookies := t.cookies.receive s.now site headers } = t := by
    intro t
    simp [Cookie.Jar.receive, h]
  simp only [keeping, hjar]
  rw [show s.transports.modify id (fun t => t) = s.transports from List.modify_id id s.transports]

/-- Some replies were taken between two states, and the transports have kept no cookies but those in
these. -/
def TakesReplies (s s' : State) : Prop :=
  ∃ taken, s.replies = taken ++ s'.replies ∧
    ((∀ reply ∈ taken, reply.IsQuiet) → ∀ id, s'.jarOf id = s.jarOf id)

theorem takesReplies_refl (s : State) : s.TakesReplies s := ⟨[], rfl, fun _ _ => rfl⟩

theorem overlooksLog_takesReplies : OverlooksLog TakesReplies where
  refl := takesReplies_refl
  before _ h := h
  after _ h := h

theorem TakesReplies.trans {s s' s'' : State} (h : s.TakesReplies s') (h' : s'.TakesReplies s'') :
    s.TakesReplies s'' := by
  obtain ⟨taken, hreplies, hquiet⟩ := h
  obtain ⟨more, hreplies', hquiet'⟩ := h'
  refine ⟨taken ++ more, by rw [hreplies, hreplies', List.append_assoc], fun hall id => ?_⟩
  rw [hquiet' fun reply hr => hall reply (List.mem_append_right _ hr),
    hquiet fun reply hr => hall reply (List.mem_append_left _ hr)]

end State

theorem State.isQuiet_nextReply {s : State} (h : ∀ reply ∈ s.replies.take 1, reply.IsQuiet) :
    s.nextReply.IsQuiet := by
  rw [nextReply]
  cases hreplies : s.replies with
  -- the reply to a request that finds none has no headers
  | nil => exact rfl
  | cons reply rest =>
    rw [hreplies] at h
    exact h reply (List.mem_singleton_self _)

variable [Installation]

theorem Transport.snd_exec_receive_of_isQuiet {reply : Reply} (h : reply.IsQuiet) (id : Nat)
    (url : Url) (s : State) : ((receive id url reply).exec s).2 = s := by
  rw [exec_receive]
  cases reply with
  | failure e message => rfl
  | response status headers chunks error =>
    dsimp only
    cases checkHeaders headers with
    | error fault => rfl
    | ok _ =>
      cases Call.site? url with
      | error fault => rfl
      | ok site => exact State.keeping_of_isQuiet h s id site

theorem Transport.takesReplies_deliver (id : Nat) (p : Post) (s : State) :
    s.TakesReplies ((deliver id p).exec s).2 := by
  obtain ⟨-, fault, hd⟩ | ⟨-, url, request, -, -, hd⟩ := exec_deliver_cases id p s
  · rw [hd]
    exact s.takesReplies_refl
  · rw [hd]
    have hafter : ((receive id url s.nextReply).exec (s.requested request)).2.replies =
        s.replies.tail := by
      obtain hs | ⟨site, headers, hs⟩ :=
        snd_exec_receive id url s.nextReply (s.requested request) <;>
      · rw [hs]
        rfl
    refine ⟨s.replies.take 1, ?_, fun hquiet _ => ?_⟩
    · rw [hafter, ← List.drop_one, List.take_append_drop]
    · rw [snd_exec_receive_of_isQuiet (State.isQuiet_nextReply hquiet)]
      rfl

theorem Carrier.takesReplies_deliver (k : Carrier) (p : Post) (s : State) :
    s.TakesReplies ((k.deliver p).exec s).2 := by
  cases k with
  | network id => exact Transport.takesReplies_deliver id p s
  | recorder id =>
    rw [Carrier.deliver, Recorder.exec_deliver]
    cases s.recorders[id]? with
    | none => exact s.takesReplies_refl
    | some r => exact ⟨[], rfl, fun _ _ => rfl⟩

namespace Client

theorem takesReplies_sendMessage (c : Client) (recipient sender body mediaUrl : Value)
    (verbose : Bool) (s : State) :
    s.TakesReplies ((c.sendMessage recipient sender body mediaUrl verbose).exec s).2 :=
  related_sendMessage State.overlooksLog_takesReplies
    (fun k payload => k.takesReplies_deliver (c.post payload)) recipient sender body mediaUrl
    verbose s

/-! ## The same send from two states -/

/-- A send does the same from two states that are the same in what it looks at over its
transport. -/
theorem relates_sendMessage_alongside (c : Client) (s s' : State)
    (recipient sender body mediaUrl : Value) (verbose : Bool) :
    Run.Relates (State.Alongside (fun k => c.carrierIn s = some k) Eq Eq s s') Eq
      (c.sendMessage recipient sender body mediaUrl verbose)
      (c.sendMessage recipient sender body mediaUrl verbose) := by
  have hlikeness : Likeness (fun k => c.carrierIn s = some k) id Eq
      (State.Alongside (fun k => c.carrierIn s = some k) Eq Eq s s') :=
    State.likeness_alongside fun hp hm hm' => hm.unique (hp ▸ hm')
  refine (Run.relates_checked _ _).bind_eq fun m => ?_
  refine hlikeness.relates_send_same (fun _ => rfl) c ?_ m verbose fun d d' hd => ?_
  · intro t t' ht k hk
    rw [← hk, carrierIn, carrierIn, ht.shared_eq.1]
  · obtain rfl : d' = d := hd
    rfl

end Client

end Courier
