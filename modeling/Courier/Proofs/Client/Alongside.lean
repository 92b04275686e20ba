import Courier.Proofs.Client.SideBySide
import Mathlib.Data.List.Forall2

/-!
# What two sends do, each from its own state

Two sends that start from different states can do the same: write the same records, put requests on
the wire that belong together, leave posts in memory that do. The states need only be the same in
what is looked at, the replies to come and the transport that is posted over. What was done before
may be different, as may other transports, settings and the environment.

Results:
* `State.likeness_alongside`: a send cannot tell such states apart.
-/

namespace Courier

namespace State

/-- The posts that a transport in memory keeps. -/
def postsOf (s : State) (id : Nat) : List Post := (s.recorders[id]?.map (·.posts)).getD []

/-- After two states `s` and `s'` there are two states `t` and `t'` that are the same in what a send
looks at over the transports of `K`, and what was done in between belongs together. -/
structure Alongside (K : Carrier → Prop) (P : Post → Post → Prop)
    (Q : WireRequest → WireRequest → Prop) (s s' t t' : State) : Prop where
  now_eq : t'.now = t.now
  shared_eq : t.shared = s.shared ∧ t'.shared = t.shared
  replies_eq : t'.replies = t.replies
  transport_eq : ∀ id, K (.network id) → t'.transports[id]? = t.transports[id]?
  delivery_eq : ∀ id, K (.recorder id) →
    t'.recorders[id]?.map Recorder.delivery = t.recorders[id]?.map Recorder.delivery
  log : ∃ entries, t.log = s.log ++ entries ∧ t'.log = s'.log ++ entries
  wire : ∃ made made', t.wire = s.wire ++ made ∧ t'.wire = s'.wire ++ made' ∧
    List.Forall₂ Q made made'
  posts : ∀ id, ∃ made made', t.postsOf id = s.postsOf id ++ made ∧
    t'.postsOf id = s'.postsOf id ++ made' ∧ List.Forall₂ P made made'

/-- Two states at which nothing was done yet. -/
theorem alongside_start {K : Carrier → Prop} {P : Post → Post → Prop}
    {Q : WireRequest → WireRequest → Prop} {s s' : State} (hn : s'.now = s.now)
    (hs : s'.shared = s.shared) (hr : s'.replies = s.replies)
    (ht : ∀ id, K (.network id) → s'.transports[id]? = s.transports[id]?)
    (hd : ∀ id, K (.recorder id) →
      s'.recorders[id]?.map Recorder.delivery = s.recorders[id]?.map Recorder.delivery) :
    Alongside K P Q s s' s s' where
  now_eq := hn
  shared_eq := ⟨rfl, hs⟩
  replies_eq := hr
  transport_eq := ht
  delivery_eq := hd
  log := ⟨[], by simp⟩
  wire := ⟨[], [], by simp⟩
  posts id := ⟨[], [], by simp⟩

theorem alongside_refl {K : Carrier → Prop} {P : Post → Post → Prop}
    {Q : WireRequest → WireRequest → Prop} (s : State) : Alongside K P Q s s s s :=
  alongside_start rfl rfl rfl (fun _ _ => rfl) fun _ _ => rfl

theorem delivery_recorded (s : State) (id : Nat) (p : Post) (j : Nat) :
    (s.recorded id p).recorders[j]?.map Recorder.delivery =
      s.recorders[j]?.map Recorder.delivery := by
  simp only [recorded, List.getElem?_modify]
  cases s.recorders[j]? with
  | none => rfl
  | some r => by_cases h : id = j <;> simp [h, Recorder.delivery]

/-- A post is kept by the transport it was made over, if there is that transport. -/
theorem postsOf_recorded (s : State) (id : Nat) (p : Post) (j : Nat) :
    (s.recorded id p).postsOf j =
      s.postsOf j ++ if id = j ∧ s.recorders[j]?.isSome then [p] else [] := by
  simp only [postsOf, recorded, List.getElem?_modify]
  cases s.recorders[j]? with
  | none => simp
  | some r => by_cases h : id = j <;> simp [h]

variable {K : Carrier → Prop} {P : Post → Post → Prop} {Q : WireRequest → WireRequest → Prop}
  {s s' t t' : State}

theorem Alongside.noted (h : Alongside K P Q s s' t t') (level : Log.Level) (logger : String)
    (message : Text) :
    Alongside K P Q s s' (t.noted level logger message) (t'.noted level logger message) := by
  obtain ⟨entries, ht, ht'⟩ := h.log
  refine { h with log := ⟨entries ++ [⟨level, logger, message⟩], ?_, ?_⟩ }
  · rw [State.noted, ht, List.append_assoc]
  · rw [State.noted, ht', List.append_assoc]

theorem Alongside.keeping (h : Alongside K P Q s s' t t') (id : Nat) (site : Cookie.Site)
    (headers : List (Text × Text)) :
    Alongside K P Q s s' (t.keeping id site headers) (t'.keeping id site headers) := by
  refine { h with transport_eq := fun j hj => ?_ }
  simp only [State.keeping, List.getElem?_modify, h.now_eq, h.transport_eq j hj]

theorem Alongside.requested (h : Alongside K P Q s s' t t') {request request' : WireRequest}
    (hq : Q request request') :
    Alongside K P Q s s' (t.requested request) (t'.requested request') := by
  obtain ⟨made, made', ht, ht', hmade⟩ := h.wire
  refine { h with
    replies_eq := congrArg List.tail h.replies_eq
    wire := ⟨made ++ [request], made' ++ [request'], ?_, ?_, ?_⟩ }
  · rw [State.requested, ht, List.append_assoc]
  · rw [State.requested, ht', List.append_assoc]
  · exact List.rel_append hmade (.cons hq .nil)

theorem Alongside.recorded (h : Alongside K P Q s s' t t') {p p' : Post} (hp : P p p') {id : Nat}
    (hk : K (.recorder id)) :
    Alongside K P Q s s' (t.recorded id p) (t'.recorded id p') := by
  refine { h with delivery_eq := fun j hj => ?_, posts := fun j => ?_ }
  · rw [delivery_recorded, delivery_recorded, h.delivery_eq j hj]
  · obtain ⟨made, made', ht, ht', hmade⟩ := h.posts j
    rw [postsOf_recorded, postsOf_recorded, ht, ht', List.append_assoc, List.append_assoc]
    refine ⟨_, _, rfl, rfl, List.rel_append hmade ?_⟩
    by_cases hj : id = j
    · subst hj
      -- the transport is there in both states, or in neither
      have hsome := congrArg Option.isSome (h.delivery_eq id hk)
      rw [Option.isSome_map, Option.isSome_map] at hsome
      rw [hsome]
      split
      · exact .cons hp .nil
      · exact .nil
    · simp [hj]

/-- A send cannot tell apart states that are the same in what it looks at. -/
theorem likeness_alongside (hPQ : ∀ {p p' : Post} {jar : Cookie.Jar} {url : Url}
    {request request' : WireRequest}, P p p' → p.Makes jar url request →
    p'.Makes jar url request' → Q request request') :
    Likeness K id P (Alongside K P Q s s') where
  shared_eq h := h.shared_eq.2
  jarOf_eq h id hk := by rw [jarOf, jarOf, h.transport_eq id hk]
  isOpen_iff h id hk := by rw [IsOpen, IsOpen, h.transport_eq id hk]
  nextReply_eq h := by rw [nextReply, nextReply, h.replies_eq]
  delivery_eq h id hk := h.delivery_eq id hk
  noted h level logger message := h.noted level logger message
  keeping h id site headers := h.keeping id site headers
  requested h _ _ _ _ _ _ hp hm hm' := h.requested (hPQ hp hm hm')
  recorded h _ _ hp _ hk := h.recorded hp hk

end State

end Courier
