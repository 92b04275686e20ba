import Courier.Proofs.Client.Send

/-!
# Two sends side by side

Two sends that differ in one thing (how they were asked for, the bodies of the replies, the
credentials, the body of the message, what was sent before) are run next to each other. What a send
looks at in a state and what it does to one is little: a `Likeness` is a relation between states
that are alike in what it looks at and stay alike in what it does. So sends from states that belong
together come to what belongs together, as soon as their posts do and the same is made of their
deliveries.

Results:
* `Likeness.relates_receive`: what a reply comes to, whatever part of its body is looked at.
* `Likeness.relates_deliver`: two posts over one transport.
* `Likeness.relates_conclude`: the same is made of one delivery.
* `Likeness.relates_send`: two sends.
-/

namespace Courier

/-! ## What is looked at of a body -/

/-- The delivery with what is looked at of its body. -/
def Delivery.mapBody (f : List Bytes → List Bytes) (d : Delivery) : Delivery :=
  { d with chunks := f d.chunks }

/-- The reply with what is looked at of its body. -/
def Reply.mapBody (f : List Bytes → List Bytes) : Reply → Reply
  | .failure e message => .failure e message
  | .response status headers chunks error => .response status headers (f chunks) error

/-! ## Posts that belong together -/

namespace Post

/-- Of two texts both have octets, or neither has for the same reason. -/
def SameFault {α : Type} (r r' : Except Utf8.Unencodable α) : Prop :=
  (∃ run, r = .error run ∧ r' = .error run) ∨ ∃ a a', r = .ok a ∧ r' = .ok a'

theorem SameFault.refl {α : Type} (r : Except Utf8.Unencodable α) : SameFault r r := by
  cases r with
  | error run => exact .inl ⟨run, rfl, rfl⟩
  | ok a => exact .inr ⟨a, a, rfl, rfl⟩

/-- Two posts go to one address, and both can be sent or have the same fault. -/
structure Alike (p p' : Post) : Prop where
  url_eq : p'.url = p.url
  content : SameFault (Utf8.encodeEscaped? p.payload) (Utf8.encodeEscaped? p'.payload)
  authorization : SameFault (basicAuthorization? p.user p.password)
    (basicAuthorization? p'.user p'.password)

theorem Alike.refl (p : Post) : p.Alike p := ⟨rfl, .refl _, .refl _⟩

end Post

/-! ## States that belong together -/

/-- A relation between states that a send cannot tell apart, where `K` says over which transports it
posts, `f` what is looked at of the bodies of replies, and `P` which posts are made side by side. -/
structure Likeness (K : Carrier → Prop) (f : List Bytes → List Bytes) (P : Post → Post → Prop)
    (R : State → State → Prop) : Prop where
  shared_eq : ∀ {s s' : State}, R s s' → s'.shared = s.shared
  jarOf_eq : ∀ {s s' : State}, R s s' → ∀ id, K (.network id) → s'.jarOf id = s.jarOf id
  isOpen_iff : ∀ {s s' : State}, R s s' → ∀ id, K (.network id) → (s'.IsOpen id ↔ s.IsOpen id)
  nextReply_eq : ∀ {s s' : State}, R s s' → s'.nextReply.mapBody f = s.nextReply.mapBody f
  delivery_eq : ∀ {s s' : State}, R s s' → ∀ id : Nat, K (.recorder id) →
    s'.recorders[id]?.map (fun r => r.delivery.mapBody f) =
      s.recorders[id]?.map (fun r => r.delivery.mapBody f)
  noted : ∀ {s s' : State}, R s s' → ∀ level logger message,
    R (s.noted level logger message) (s'.noted level logger message)
  keeping : ∀ {s s' : State}, R s s' → ∀ id site headers,
    R (s.keeping id site headers) (s'.keeping id site headers)
  requested : ∀ {s s' : State}, R s s' → ∀ {p p' : Post} {jar : Cookie.Jar} {url : Url}
    {request request'}, P p p' → p.Makes jar url request → p'.Makes jar url request' →
      R (s.requested request) (s'.requested request')
  recorded : ∀ {s s' : State}, R s s' → ∀ {p p' : Post}, P p p' → ∀ id, K (.recorder id) →
    R (s.recorded id p) (s'.recorded id p')

namespace Likeness

variable {K : Carrier → Prop} {f : List Bytes → List Bytes} {P : Post → Post → Prop}
  {R : State → State → Prop}

/-! ## Deliveries -/

theorem relates_deliver_recorder (h : Likeness K f P R) {p p' : Post} (hp : P p p') {id : Nat}
    (hk : K (.recorder id)) :
    Run.Relates R (fun d d' => d'.mapBody f = d.mapBody f) (Recorder.deliver id p)
      (Recorder.deliver id p') := by
  intro s s' hs
  have hrecorder := h.delivery_eq hs id hk
  rw [Recorder.exec_deliver, Recorder.exec_deliver]
  cases hr : s.recorders[id]? with
  | none =>
    rw [hr, Option.map_none, Option.map_eq_none_iff] at hrecorder
    rw [hrecorder]
    exact ⟨.fault _, hs⟩
  | some r =>
    rw [hr, Option.map_some, Option.map_eq_some_iff] at hrecorder
    obtain ⟨r', hr', hdelivery⟩ := hrecorder
    rw [hr']
    exact ⟨.value hdelivery, h.recorded hs hp id hk⟩

section

variable [Installation]

/-- Two replies that are alike come to what is alike. -/
theorem relates_receive (h : Likeness K f P R) {id : Nat} (hk : K (.network id)) (url : Url)
    {reply reply' : Reply} (hr : reply'.mapBody f = reply.mapBody f) :
    Run.Relates R (fun d d' => d'.mapBody f = d.mapBody f) (Transport.receive id url reply)
      (Transport.receive id url reply') := by
  intro s s' hs
  rw [Transport.exec_receive, Transport.exec_receive]
  cases reply with
  | failure e message =>
    cases reply' with
    | failure e' message' =>
      cases hr
      exact ⟨.value rfl, hs⟩
    | response status headers chunks error => cases hr
  | response status headers chunks error =>
    cases reply' with
    | failure e message => cases hr
    | response status' headers' chunks' error' =>
      simp only [Reply.mapBody, Reply.response.injEq] at hr
      obtain ⟨rfl, rfl, hchunks, rfl⟩ := hr
      dsimp only
      cases Transport.checkHeaders headers' with
      | error fault => exact ⟨.fault fault, hs⟩
      | ok _ =>
        cases Call.site? url with
        | error fault => exact ⟨.fault fault, hs⟩
        | ok site =>
          have hkept := h.keeping hs id site headers'
          dsimp only
          rw [h.jarOf_eq hkept id hk]
          refine ⟨.value ?_, hkept⟩
          cases Call.failure? ((s.keeping id site headers').jarOf id) url status' headers' with
          | some failure => rfl
          | none => simp only [Delivery.mapBody, hchunks]

/-- Posts over the network: the faults that there may be before a request is on the wire depend on
nothing in which the two differ. -/
theorem relates_deliver_network (h : Likeness K f P R) {p p' : Post} (hp : P p p') (ha : p.Alike p')
    {id : Nat} (hk : K (.network id)) :
    Run.Relates R (fun d d' => d'.mapBody f = d.mapBody f) (Transport.deliver id p)
      (Transport.deliver id p') := by
  intro s s' hs
  have haddress : Transport.addressOf (s'.jarOf id) p' = Transport.addressOf (s.jarOf id) p := by
    rw [Transport.addressOf, Transport.addressOf, ha.url_eq, h.jarOf_eq hs id hk]
  rw [Transport.exec_deliver, Transport.exec_deliver, haddress, h.jarOf_eq hs id hk]
  simp only [h.isOpen_iff hs id hk]
  obtain ⟨run, hc, hc'⟩ | ⟨content, content', hc, hc'⟩ := ha.content
  · rw [hc, hc']
    exact ⟨.fault _, hs⟩
  · rw [hc, hc']
    cases Transport.addressOf (s.jarOf id) p with
    | error fault => exact ⟨.fault _, hs⟩
    | ok url =>
      dsimp only
      by_cases ho : s.IsOpen id
      · rw [if_pos ho, if_pos ho]
        obtain ⟨run, hb, hb'⟩ | ⟨authorization, authorization', hb, hb'⟩ := ha.authorization
        · rw [hb, hb']
          exact ⟨.fault _, hs⟩
        · rw [hb, hb']
          have hmakes : p.Makes (s.jarOf id) url ⟨url.text, authorization, _, content⟩ :=
            ⟨rfl, hb, rfl, hc⟩
          have hmakes' : p'.Makes (s.jarOf id) url ⟨url.text, authorization', _, content'⟩ :=
            ⟨rfl, hb', rfl, hc'⟩
          exact h.relates_receive hk url (h.nextReply_eq hs) _ _
            (h.requested hs hp hmakes hmakes')
      · rw [if_neg ho, if_neg ho]
        exact ⟨.fault _, hs⟩

theorem relates_deliver (h : Likeness K f P R) {p p' : Post} (hp : P p p') {k : Carrier} (hk : K k)
    (ha : ∀ id, k = .network id → p.Alike p') :
    Run.Relates R (fun d d' => d'.mapBody f = d.mapBody f) (k.deliver p) (k.deliver p') := by
  cases k with
  | network id => exact h.relates_deliver_network hp (ha id rfl) hk
  | recorder id => exact h.relates_deliver_recorder hp hk

end

/-! ## Sends -/

open Client

theorem relates_log (h : Likeness K f P R) (level : Log.Level) (logger : String) (message : Text) :
    Run.Relates R Eq (Run.log level logger message) (Run.log level logger message) :=
  Run.relates_modify fun _ _ hs => h.noted hs level logger message

theorem relates_conclude (h : Likeness K f P R) (m : Message) (verbose : Bool) (d : Delivery) :
    Run.Relates R Eq (conclude m verbose d) (conclude m verbose d) := by
  unfold conclude
  cases d.ending with
  | failed fault => exact Run.relates_throw fault
  | broken reason => exact (h.relates_log _ _ _).bind_eq fun _ => Run.relates_pure rfl
  | answered status =>
    dsimp only
    split
    · exact (h.relates_log _ _ _).bind_eq fun _ => Run.relates_pure rfl
    · exact (h.relates_log _ _ _).bind_eq fun _ => Run.relates_pure rfl

theorem relates_carrierFor (h : Likeness K f P R) {c c' : Client} (hc : c'.carrier = c.carrier)
    (hK : ∀ {s s' : State}, R s s' → ∀ k, c.carrierIn s = some k → K k) :
    Run.Relates R (fun k k' => k = k' ∧ K k) c.carrierFor c'.carrierFor := by
  intro s s' hs
  have hcarrier : c'.carrierIn s' = c.carrierIn s := by
    rw [carrierIn, carrierIn, hc, h.shared_eq hs]
  rw [exec_carrierFor, exec_carrierFor, hcarrier]
  cases hk : c.carrierIn s with
  | none => exact ⟨.fault _, hs⟩
  | some k => exact ⟨.value ⟨rfl, hK hs k hk⟩, hs⟩

variable [Installation]

/-- **Two sends side by side.** They are turned down for the same reason, or make two posts that
belong together and come to what is made of deliveries that are alike. -/
theorem relates_send (h : Likeness K f P R) {W : Outcome → Outcome → Prop} {c c' : Client}
    {m m' : Message} {verbose verbose' : Bool} (hcarrier : c'.carrier = c.carrier)
    (hK : ∀ {s s' : State}, R s s' → ∀ k, c.carrierIn s = some k → K k)
    (hurl : c'.messagesUrl = c.messagesUrl) (hrecipient : m'.recipient = m.recipient)
    (hkind : m'.kind = m.kind) (hobjection : objection? m'.body = objection? m.body)
    (hpost : objection? m.body = none → ∃ payload payload', m.formPayload? = .ok payload ∧
      m'.formPayload? = .ok payload' ∧ P (c.post payload) (c'.post payload') ∧
        ∀ id, K (.network id) → (c.post payload).Alike (c'.post payload'))
    (hrejected : ∀ reason, W (.rejected reason) (.rejected reason))
    (hconclude : ∀ d d' : Delivery, d'.mapBody f = d.mapBody f →
      Run.Relates R W (conclude m verbose d) (conclude m' verbose' d')) :
    Run.Relates R W (c.send m verbose) (c'.send m' verbose') := by
  unfold send
  rw [hobjection, hrecipient, hkind, hurl]
  cases ho : objection? m.body with
  | some reason => exact (h.relates_log _ _ _).bind_eq fun _ => Run.relates_pure (hrejected reason)
  | none =>
    obtain ⟨payload, payload', hpayload, hpayload', hp, ha⟩ := hpost ho
    rw [hpayload, hpayload']
    refine (h.relates_carrierFor hcarrier hK).bind ?_
    rintro k _ ⟨rfl, hk⟩
    refine (h.relates_log _ _ _).bind_eq fun _ => ?_
    have hdeliver := (h.relates_deliver hp hk fun id hid => ha id (hid ▸ hk)).bind hconclude
    rw [post, post, hurl] at hdeliver
    exact hdeliver

/-- One message, sent by one client from two states that belong together, where the same is made of
deliveries that are alike. -/
theorem relates_send_same (h : Likeness K f P R) (hP : ∀ p, P p p) (c : Client)
    (hK : ∀ {s s' : State}, R s s' → ∀ k, c.carrierIn s = some k → K k) (m : Message)
    (verbose : Bool) (hconclude : ∀ d d' : Delivery, d'.mapBody f = d.mapBody f →
      conclude m verbose d' = conclude m verbose d) :
    Run.Relates R Eq (c.send m verbose) (c.send m verbose) := by
  refine h.relates_send rfl hK rfl rfl rfl rfl ?_ (fun _ => rfl) ?_
  · intro ho
    obtain ⟨t, ht, -⟩ := objection?_eq_none_iff.mp ho
    exact ⟨_, _, Message.formPayload?_of_denotes ht, Message.formPayload?_of_denotes ht, hP _,
      fun _ _ => .refl _⟩
  · intro d d' hd
    rw [hconclude d d' hd]
    exact h.relates_conclude m verbose d

end Likeness

/-! ## States with other bodies -/

/-- The transport in memory with what is looked at of the body of its reply. -/
def Recorder.mapBody (f : List Bytes → List Bytes) (r : Recorder) : Recorder :=
  { r with chunks := f r.chunks }

namespace State

/-- The state with what is looked at of the bodies of all replies to come. -/
def mapBodies (f : List Bytes → List Bytes) (s : State) : State :=
  { s with replies := s.replies.map (Reply.mapBody f)
           recorders := s.recorders.map (Recorder.mapBody f) }

/-- Two states differ at most in what is not looked at of the bodies of the replies to come. -/
def SameBodies (f : List Bytes → List Bytes) (s s' : State) : Prop := s.mapBodies f = s'.mapBodies f

variable (f : List Bytes → List Bytes)

theorem mapBodies_requested (s : State) (request : WireRequest) :
    (s.requested request).mapBodies f = (s.mapBodies f).requested request := by
  simp [requested, mapBodies, List.map_tail]

theorem mapBodies_recorded (s : State) (id : Nat) (p : Post) :
    (s.recorded id p).mapBodies f = (s.mapBodies f).recorded id p := by
  have hrecorders := map_modify (Recorder.mapBody f) (fun r => { r with posts := r.posts ++ [p] })
    (fun r => { r with posts := r.posts ++ [p] }) (fun _ => rfl) s.recorders id
  simp only [recorded, mapBodies, hrecorders]

theorem mapBody_nextReply (s : State) :
    s.nextReply.mapBody f =
      (s.replies.map (Reply.mapBody f)).head?.getD (Reply.created.mapBody f) := by
  unfold nextReply
  cases s.replies <;> rfl

/-- States with other bodies cannot be told apart where only that is looked at in which the bodies
are the same. -/
theorem likeness_sameBodies : Likeness (fun _ => True) f Eq (SameBodies f) where
  shared_eq h := (congrArg State.shared h.symm :)
  jarOf_eq h id _ := (congrArg (State.jarOf · id) h.symm :)
  isOpen_iff h id _ := iff_of_eq (congrArg (State.IsOpen · id) h.symm :)
  nextReply_eq {s s'} h := by
    have hreplies : s'.replies.map (Reply.mapBody f) = s.replies.map (Reply.mapBody f) :=
      congrArg State.replies h.symm
    rw [mapBody_nextReply, mapBody_nextReply, hreplies]
  delivery_eq {s s'} h id _ := by
    have hrecorders : (s'.recorders.map (Recorder.mapBody f))[id]? =
        (s.recorders.map (Recorder.mapBody f))[id]? :=
      congrArg (fun s : State => s.recorders[id]?) h.symm
    have hdelivery : ∀ r : Recorder, r.delivery.mapBody f = (r.mapBody f).delivery := fun _ => rfl
    rw [List.getElem?_map, List.getElem?_map] at hrecorders
    simpa only [Option.map_map, Function.comp_def, hdelivery] using
      congrArg (Option.map Recorder.delivery) hrecorders
  noted h level logger message := (congrArg (State.noted · level logger message) h :)
  keeping h id site headers := (congrArg (State.keeping · id site headers) h :)
  requested {s s'} h {p _ _ _ request request'} hp hm hm' := by
    subst hp
    have hsame : s.mapBodies f = s'.mapBodies f := h
    rw [SameBodies, mapBodies_requested, mapBodies_requested, hsame, hm.unique hm']
  recorded {s s'} h {p _} hp id _ := by
    have hsame : s.mapBodies f = s'.mapBodies f := h
    rw [SameBodies, mapBodies_recorded, mapBodies_recorded, hsame, hp]

end State

end Courier
