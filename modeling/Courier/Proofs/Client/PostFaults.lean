import Courier.Proofs.Delivery

/-!
# What a post can end in

A post goes wrong in many ways: its parts have no octets, its address cannot be called, the
transport is closed, or the reply cannot be read. A transport that is missing is none of them. That
is shown for each step of a post, and carried through the steps in a row.

Results:
* `Call.isOfPost_of_destination?`: what keeps the location of a reply from being called.
* `Transport.failsAsPost_exec_deliver`, `Transport.yields_deliver`: a post over the network, and how
  its delivery ends.
* `Carrier.failsAsPost_exec_deliver`, `Carrier.yields_deliver`: a post over a transport of either
  kind.
-/

namespace Courier

/-! ## Faults of a post -/

/-- The faults of a post over the network. -/
def Fault.IsOfPost : Fault → Prop
  | .transportClosed | .exchangeFault .. | .unencodable _ | .badUrl _ | .badDomain _
  | .badReference _ | .unknownUrlType _ | .serverless | .notAscii _ => True
  | _ => False

variable {α β ε : Type}

/-- There is a value, or a fault of a post. -/
def FailsAsPost (r : Except Fault α) : Prop := ∀ fault, r = .error fault → fault.IsOfPost

theorem failsAsPost_pure (a : α) : FailsAsPost (pure a) := fun _ h => nomatch h

theorem failsAsPost_throw {fault : Fault} (h : fault.IsOfPost) :
    FailsAsPost (throw fault : Except Fault α) := by
  intro fault' h'
  cases h'
  exact h

theorem failsAsPost_mapError (f : ε → Fault) (h : ∀ e, (f e).IsOfPost) (r : Except ε α) :
    FailsAsPost (r.mapError f) := by
  cases r with
  | ok a => exact failsAsPost_pure a
  | error e => exact failsAsPost_throw (h e)

theorem FailsAsPost.bind {r : Except Fault α} {next : α → Except Fault β} (hr : FailsAsPost r)
    (hn : ∀ a, FailsAsPost (next a)) : FailsAsPost (r >>= next) := by
  cases r with
  | ok a => exact hn a
  | error fault => exact failsAsPost_throw (hr fault rfl)

theorem FailsAsPost.ne_notReady {r : Except Fault α} (h : FailsAsPost r) :
    r ≠ .error .notReady := h .notReady

theorem Fault.isOfPost_ofUrl (fault : Url.Fault) : (ofUrl fault).IsOfPost := by
  cases fault <;> trivial

/-! ## Addresses and locations -/

namespace Call

theorem failsAsPost_check (u : Url) : FailsAsPost (check u) :=
  (failsAsPost_mapError .badDomain (fun _ => trivial) _).bind fun _ =>
    failsAsPost_mapError .notAscii (fun _ => trivial) _

theorem failsAsPost_site? (u : Url) : FailsAsPost (site? u) := by
  unfold site?
  dsimp only
  split
  · exact failsAsPost_throw trivial
  · exact failsAsPost_mapError .badReference (fun _ => trivial) _

theorem failsAsPost_checkCookies (jar : Cookie.Jar) (u : Url) :
    FailsAsPost (checkCookies jar u) := by
  unfold checkCookies
  split
  · exact failsAsPost_pure _
  · refine (failsAsPost_site? u).bind fun site => ?_
    dsimp only
    split
    · exact failsAsPost_throw trivial
    · exact failsAsPost_pure _

theorem failsAsPost_placeHost (origin location : Url) :
    FailsAsPost (placeHost origin location) := by
  unfold placeHost
  split
  · exact failsAsPost_pure _
  · split
    · refine (failsAsPost_mapError .badUrl (fun _ => trivial) _).bind fun _ => ?_
      exact (failsAsPost_mapError .badUrl (fun _ => trivial) _).bind fun _ => failsAsPost_pure _
    · exact (failsAsPost_mapError .badDomain (fun _ => trivial) _).bind fun _ => failsAsPost_pure _

theorem failsAsPost_placeFragment (origin location : Url) :
    FailsAsPost (placeFragment origin location) := by
  unfold placeFragment
  dsimp only
  split
  · exact failsAsPost_pure _
  · refine (failsAsPost_mapError .badUrl (fun _ => trivial) _).bind fun _ => ?_
    split
    · exact failsAsPost_throw trivial
    · exact (failsAsPost_mapError .badUrl (fun _ => trivial) _).bind fun _ => failsAsPost_pure _

theorem isOfPost_of_mapError {r : Except Fault α} {fault : Fault} (hr : FailsAsPost r)
    (h : r.mapError Failure.uncallable = .error (.uncallable fault)) : fault.IsOfPost := by
  cases r with
  | ok a => cases h
  | error fault' =>
    cases h
    exact hr fault rfl

variable [Installation]

theorem failsAsPost_joined (origin location : Url) : FailsAsPost (joined origin location) := by
  unfold joined
  split
  · exact failsAsPost_pure _
  · exact (failsAsPost_mapError .badReference (fun _ => trivial) _).bind fun _ =>
      failsAsPost_mapError .badUrl (fun _ => trivial) _

/-- What keeps a location from being called is a fault of a post too. -/
theorem isOfPost_of_destination? {jar : Cookie.Jar} {origin : Url} {location : Text} {fault : Fault}
    (h : destination? jar origin location = .error (.uncallable fault)) : fault.IsOfPost := by
  unfold destination? at h
  cases hp : Url.parse? location with
  | error unreadable =>
    rw [hp] at h
    cases h
  | ok read =>
    rw [hp] at h
    refine isOfPost_of_mapError ?_ h
    refine (failsAsPost_placeHost origin read).bind fun placed => ?_
    refine (failsAsPost_joined origin placed).bind fun whole => ?_
    refine (failsAsPost_placeFragment origin whole).bind fun destination => ?_
    refine (failsAsPost_check destination).bind fun _ => ?_
    exact (failsAsPost_checkCookies jar destination).bind fun _ => failsAsPost_pure _

end Call

/-! ## How a delivery ends -/

/-- If a delivery ends in a fault, it is a fault of its post. -/
def Ending.IsOfPost : Ending → Prop
  | .failed fault => fault.IsOfPost
  | _ => True

theorem ExchangeError.isOfPost_ending (e : ExchangeError) (message : Text) :
    (e.ending message).IsOfPost := by
  unfold ExchangeError.ending
  split <;> trivial

theorem Ending.isOfPost_ofBody (status : Int) (error : Option (ExchangeError × Text)) :
    (Ending.ofBody status error).IsOfPost := by
  cases error with
  | none => trivial
  | some raised => exact ExchangeError.isOfPost_ending raised.1 raised.2

theorem Recorder.isOfPost_ending_delivery (r : Recorder) : r.delivery.ending.IsOfPost := by
  unfold Recorder.delivery
  cases r.ending <;> trivial

variable [Installation]

theorem Call.isOfPost_ending_of_failure? {jar : Cookie.Jar} {url : Url} {status : Int}
    {headers : List (Text × Text)} {failure : Failure}
    (h : failure? jar url status headers = some failure) : failure.ending.IsOfPost := by
  cases failure with
  | unreadable fault => exact ExchangeError.isOfPost_ending _ _
  | uncallable fault =>
    unfold failure? at h
    split at h
    · cases h
    · split at h
      · cases h
      next hd =>
        cases h
        exact isOfPost_of_destination? hd

/-! ## Posts over the network -/

namespace Transport

theorem failsAsPost_addressOf (jar : Cookie.Jar) (p : Post) : FailsAsPost (addressOf jar p) := by
  refine (failsAsPost_mapError _ Fault.isOfPost_ofUrl _).bind fun read => ?_
  refine (failsAsPost_mapError _ Fault.isOfPost_ofUrl _).bind fun url => ?_
  refine (Call.failsAsPost_checkCookies jar url).bind fun _ => ?_
  exact (Call.failsAsPost_check url).bind fun _ => failsAsPost_pure url

theorem failsAsPost_exec_receive (id : Nat) (url : Url) (reply : Reply) (s : State) :
    FailsAsPost ((receive id url reply).exec s).1 := by
  rw [exec_receive]
  cases reply with
  | failure e message => exact failsAsPost_pure _
  | response status headers chunks error =>
    dsimp only
    cases hc : checkHeaders headers with
    | error fault =>
      have hheaders := failsAsPost_mapError .notAscii (fun _ => trivial) _ fault hc
      exact failsAsPost_throw hheaders
    | ok _ =>
      cases hs : Call.site? url with
      | error fault => exact failsAsPost_throw (Call.failsAsPost_site? url fault hs)
      | ok site => exact failsAsPost_pure _

theorem failsAsPost_exec_deliver (id : Nat) (p : Post) (s : State) :
    FailsAsPost ((deliver id p).exec s).1 := by
  rw [exec_deliver]
  split
  · exact failsAsPost_throw trivial
  · split
    next fault haddress => exact failsAsPost_throw (failsAsPost_addressOf _ p fault haddress)
    next url haddress =>
      split
      · split
        · exact failsAsPost_throw trivial
        · exact failsAsPost_exec_receive id url _ _
      · exact failsAsPost_throw trivial

theorem yields_receive (id : Nat) (url : Url) (reply : Reply) :
    Run.Yields (fun d => d.ending.IsOfPost) (receive id url reply) := by
  cases reply with
  | failure e message => exact Run.yields_pure (e.isOfPost_ending message)
  | response status headers chunks error =>
    refine .after fun _ => .after fun _ => .after fun jar => ?_
    split
    next failure hf => exact Run.yields_pure (Call.isOfPost_ending_of_failure? hf)
    next => exact Run.yields_pure (Ending.isOfPost_ofBody status error)

theorem yields_deliver (id : Nat) (p : Post) :
    Run.Yields (fun d => d.ending.IsOfPost) (deliver id p) := by
  refine .after fun _ => .after fun _ => .after fun url => .after fun isOpen => ?_
  dsimp only
  split
  · -- the fault of a closed transport, after which nothing is received
    refine .after fun _ => .after fun _ => .after fun _ => .after fun reply => ?_
    exact yields_receive id url reply
  · refine .after fun _ => .after fun _ => .after fun reply => ?_
    exact yields_receive id url reply

end Transport

/-! ## Posts over a transport of either kind -/

namespace Carrier

/-- A transport in memory is among those of the state. -/
def IsHeld (s : State) (k : Carrier) : Prop :=
  ∀ id, k = .recorder id → ∃ r, s.recorders[id]? = some r

theorem failsAsPost_exec_deliver {s : State} {k : Carrier} (hk : k.IsHeld s) (p : Post) :
    FailsAsPost ((k.deliver p).exec s).1 := by
  cases k with
  | network id => exact Transport.failsAsPost_exec_deliver id p s
  | recorder id =>
    obtain ⟨r, hr⟩ := hk id rfl
    rw [deliver, Recorder.exec_deliver, hr]
    exact failsAsPost_pure r.delivery

theorem yields_deliver (k : Carrier) (p : Post) :
    Run.Yields (fun d => d.ending.IsOfPost) (k.deliver p) := by
  cases k with
  | network id => exact Transport.yields_deliver id p
  | recorder id =>
    intro s d s' h
    rw [deliver, Recorder.exec_deliver] at h
    cases hr : s.recorders[id]? with
    | none => simp [hr] at h
    | some r =>
      rw [hr] at h
      cases h
      exact r.isOfPost_ending_delivery

end Carrier

end Courier
