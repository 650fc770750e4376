import ChunkRelay.Hub

/-! The hub lets one link at a time be open for an endpoint and port. Opening
one enters its claim, the first closing of its near end takes just that claim
out again, and nothing else that happens at the hub is a matter of claims. -/

set_option autoImplicit false

namespace ChunkRelay

namespace Link

theorem id_setSide (link : Link) (side : Side) (value : LinkEnd) :
    (link.setSide side value).id = link.id := by
  cases side <;> rfl

theorem id_send (link : Link) (side : Side) (message : Message) :
    (link.send side message).2.id = link.id := by
  unfold send
  dsimp only
  split
  · rfl
  · split
    · rfl
    · exact link.id_setSide _ _

theorem id_receive (link : Link) (side : Side) : (link.receive side).2.id = link.id := by
  unfold receive
  dsimp only
  split
  · rfl
  · split
    · exact link.id_setSide _ _
    · split <;> rfl

theorem id_close (link : Link) (side : Side) : (link.close side).id = link.id := by
  unfold close
  split
  · exact link.id_setSide _ _
  · rfl

theorem id_drop (link : Link) (side : Side) : (link.drop side).id = link.id :=
  link.id_setSide _ _

end Link

namespace Hub

/-- Who holds which claims, and how many links were opened and closed so far. -/
structure Register where
  holders : List Nat
  claimed : List ChannelId
  opened : Nat
  closed : Nat

def register (hub : Hub) : Register :=
  ⟨hub.holders, hub.claimed, hub.opened, hub.closed⟩

def idAt? (hub : Hub) (index : Nat) : Option ChannelId :=
  (hub.links[index]?).map (·.id)

/-- No claim changes hands, and every link stays for its endpoint and port. -/
structure Keeps (before after : Hub) : Prop where
  register : after.register = before.register
  ids {index : Nat} {id : ChannelId} : before.idAt? index = some id → after.idAt? index = some id

theorem Keeps.refl (hub : Hub) : hub.Keeps hub :=
  ⟨rfl, id⟩

theorem Keeps.trans {first second third : Hub} (keeps : first.Keeps second)
    (later : second.Keeps third) : first.Keeps third :=
  ⟨later.register.trans keeps.register, fun known => later.ids (keeps.ids known)⟩

variable {hub after : Hub} {index : Nat} {id : ChannelId}

theorem idOf_of_idAt? (known : hub.idAt? index = some id) : hub.idOf index = id := by
  obtain ⟨link, present, rfl⟩ := Option.map_eq_some_iff.mp known
  rw [idOf, present]
  rfl

theorem idAt?_modify (hub : Hub) (index : Nat) {change : Link → Link}
    (same : ∀ link, (change link).id = link.id) (other : Nat) :
    { hub with links := hub.links.modify index change }.idAt? other = hub.idAt? other := by
  simp only [idAt?, Array.getElem?_modify]
  split
  · cases hub.links[other]? with
    | none => rfl
    | some link => exact congrArg some (same link)
  · rfl

theorem idAt?_set {link next : Link} (present : hub.links[index]? = some link)
    (same : next.id = link.id) (other : Nat) :
    { hub with links := hub.links.setIfInBounds index next }.idAt? other = hub.idAt? other := by
  simp only [idAt?, Array.getElem?_setIfInBounds]
  split
  · next here =>
    subst here
    rw [present, if_pos (Array.getElem?_eq_some_iff.mp present).1]
    exact congrArg some same
  · rfl

theorem keeps_modify (hub : Hub) (index : Nat) {change : Link → Link}
    (same : ∀ link, (change link).id = link.id) :
    hub.Keeps { hub with links := hub.links.modify index change } :=
  ⟨rfl, fun known => (hub.idAt?_modify index same _).trans known⟩

theorem keeps_send (hub : Hub) (index : Nat) (side : Side) (message : Message) :
    hub.Keeps (hub.send index side message).2 := by
  unfold send
  split
  · exact .refl hub
  · next link present =>
    exact ⟨rfl, fun known => (idAt?_set present (link.id_send side message) _).trans known⟩

theorem keeps_receive (hub : Hub) (index : Nat) (side : Side) :
    hub.Keeps (hub.receive index side).2 := by
  unfold receive
  split
  · exact .refl hub
  · next link present =>
    exact ⟨rfl, fun known => (idAt?_set present (link.id_receive side) _).trans known⟩

/-- The claim belongs to the near end of a link. -/
theorem keeps_close_far (hub : Hub) (index : Nat) : hub.Keeps (hub.close index .far) :=
  hub.keeps_modify index fun link => link.id_close .far

theorem keeps_drop_far (hub : Hub) (index : Nat) : hub.Keeps (hub.drop index .far) :=
  (hub.keeps_close_far index).trans (keeps_modify _ index fun link => link.id_drop .far)

theorem keeps_accept (accepted : hub.accept = some (index, after)) : hub.Keeps after := by
  unfold accept at accepted
  split at accepted
  · cases accepted
  · cases accepted
    exact ⟨rfl, id⟩

theorem keeps_join (hub : Hub) (id : ChannelId) : hub.Keeps (hub.join id).2 where
  register := rfl
  ids {index other} known := by
    obtain ⟨link, present, rfl⟩ := Option.map_eq_some_iff.mp known
    have inside := (Array.getElem?_eq_some_iff.mp present).1
    simp only [idAt?, join, Array.getElem?_push_lt inside, ← Array.getElem?_eq_getElem inside,
      present, Option.map_some]

theorem keeps_dropStale (hub : Hub) : hub.Keeps hub.dropStale := by
  have dropped : ∀ (stale : List Nat) (first : Hub), hub.Keeps first →
      hub.Keeps (stale.foldl (fun hub index => hub.drop index .far) first) := by
    intro stale
    induction stale with
    | nil => exact fun first keeps => keeps
    | cons index rest ih => exact fun first keeps => ih _ (keeps.trans (first.keeps_drop_far index))
  exact dropped hub.stale _ ⟨rfl, id⟩

theorem idOf_eq (hub : Hub) (index : Nat) : hub.idOf index = (hub.idAt? index).getD default := by
  unfold idOf idAt?
  cases hub.links[index]? <;> rfl

/-- The first closing of a near end gives its claim up. -/
theorem register_close_near (hub : Hub) (index : Nat) :
    (hub.close index .near).register =
      if index ∈ hub.holders then
        ⟨hub.holders.erase index, hub.claimed.erase (hub.idOf index), hub.opened, hub.closed + 1⟩
      else hub.register := by
  have same : { hub with links := hub.links.modify index (·.close .near) }.idOf index =
      hub.idOf index := by
    rw [idOf_eq, idOf_eq, hub.idAt?_modify index fun link => link.id_close .near]
  simp only [close, release, same]
  split <;> rfl

theorem ids_close_near {other : Nat} (known : hub.idAt? other = some id) :
    (hub.close index .near).idAt? other = some id := by
  have kept := (hub.keeps_modify index fun link => link.id_close .near).ids known
  unfold close release
  dsimp only
  split
  · exact kept
  · exact kept

/-!
## Claims that are held
-/

/-- The hubs that links, openings and messages can make of an empty one. -/
inductive History : Hub → Prop
  | empty : History .empty
  | joined {hub : Hub} (id : ChannelId) : History hub → History (hub.join id).2
  | opened {hub after : Hub} {id : ChannelId} {index : Nat} :
      History hub → hub.openLink id = .ok (index, after) → History after
  | accepted {hub after : Hub} {index : Nat} :
      History hub → hub.accept = some (index, after) → History after
  | sent {hub : Hub} (index : Nat) (side : Side) (message : Message) :
      History hub → History (hub.send index side message).2
  | received {hub : Hub} (index : Nat) (side : Side) :
      History hub → History (hub.receive index side).2
  | closed {hub : Hub} (index : Nat) (side : Side) : History hub → History (hub.close index side)
  | dropped {hub : Hub} (index : Nat) (side : Side) : History hub → History (hub.drop index side)

/-- Claims are held by links that are there. -/
def Founded (hub : Hub) : Prop :=
  ∀ index ∈ hub.holders, ∃ id, hub.idAt? index = some id

theorem Founded.keeps (founded : hub.Founded) (keeps : hub.Keeps after) : after.Founded := by
  intro index member
  rw [show after.holders = hub.holders from congrArg Register.holders keeps.register] at member
  obtain ⟨id, known⟩ := founded index member
  exact ⟨id, keeps.ids known⟩

theorem Founded.close_near (founded : hub.Founded) (index : Nat) :
    (hub.close index .near).Founded := by
  intro other member
  have still : other ∈ hub.holders := by
    have holders := congrArg Register.holders (hub.register_close_near index)
    split at holders
    · rw [show (hub.close index .near).holders = hub.holders.erase index from holders] at member
      exact List.mem_of_mem_erase member
    · rwa [show (hub.close index .near).holders = hub.holders from holders] at member
  obtain ⟨id, known⟩ := founded other still
  exact ⟨id, ids_close_near known⟩

/-- An opened link is a new one, and it holds the claim. -/
theorem openLink_ok (opened : hub.openLink id = .ok (index, after)) :
    id ∉ hub.claimed ∧ hub.idAt? index = none ∧ after.idAt? index = some id ∧
      after.register =
        ⟨index :: hub.holders, id :: hub.claimed, hub.opened + 1, hub.closed⟩ ∧
      ∀ {other : Nat} {name : ChannelId}, hub.idAt? other = some name →
        after.idAt? other = some name := by
  unfold openLink at opened
  split at opened
  · cases opened
  · next unclaimed =>
    cases opened
    have kept := hub.keeps_dropStale
    obtain ⟨holders, claimed, counted, ended⟩ := Register.mk.inj kept.register
    refine ⟨unclaimed, ?_, ?_, ?_, fun known => (keeps_join _ id).ids (kept.ids known)⟩
    · cases known : hub.idAt? hub.dropStale.links.size with
      | none => rfl
      | some name =>
        have inside := kept.ids known
        simp [idAt?] at inside
    · simp [idAt?, Link.fresh]
    · simp only [register, holders, claimed, counted, ended]

theorem openLink_error {error : ChannelError} (refused : hub.openLink id = .error error) :
    id ∈ hub.claimed ∧ error = .busy id.endpoint id.port := by
  unfold openLink at refused
  split at refused
  · next claimed =>
    cases refused
    exact ⟨claimed, rfl⟩
  · cases refused

theorem History.founded (history : History hub) : hub.Founded := by
  induction history with
  | empty =>
    intro index member
    cases member
  | joined id _ ih => exact ih.keeps (keeps_join _ id)
  | @opened hub after id index _ opened ih =>
    obtain ⟨_, _, named, register, ids⟩ := openLink_ok opened
    intro other member
    rw [show after.holders = index :: hub.holders from congrArg Register.holders register] at member
    rcases List.mem_cons.mp member with rfl | older
    · exact ⟨id, named⟩
    · obtain ⟨name, known⟩ := ih other older
      exact ⟨name, ids known⟩
  | accepted _ accepted ih => exact ih.keeps (keeps_accept accepted)
  | sent index side message _ ih => exact ih.keeps (keeps_send _ index side message)
  | received index side _ ih => exact ih.keeps (keeps_receive _ index side)
  | closed index side _ ih =>
    cases side with
    | near => exact ih.close_near index
    | far => exact ih.keeps (keeps_close_far _ index)
  | dropped index side _ ih =>
    cases side with
    | near => exact (ih.close_near index).keeps (keeps_modify _ index fun link => link.id_drop .near)
    | far => exact ih.keeps (keeps_drop_far _ index)

/-- The link was opened since, and nothing else became of the claims. -/
structure Opens (before : Hub) (index : Nat) (id : ChannelId) (hub : Hub) : Prop where
  register : hub.register =
    ⟨index :: before.holders, id :: before.claimed, before.opened + 1, before.closed⟩
  named : hub.idAt? index = some id
  fresh : index ∉ before.holders

theorem opens_of_openLink (founded : hub.Founded) (opened : hub.openLink id = .ok (index, after)) :
    hub.Opens index id after := by
  obtain ⟨_, unknown, named, register, _⟩ := openLink_ok opened
  refine ⟨register, named, fun member => ?_⟩
  obtain ⟨other, known⟩ := founded index member
  rw [unknown] at known
  cases known

theorem Opens.keeps {before : Hub} (opens : before.Opens index id hub) (keeps : hub.Keeps after) :
    before.Opens index id after :=
  ⟨keeps.register.trans opens.register, keeps.ids opens.named, opens.fresh⟩

theorem Opens.since {before earlier : Hub} (opens : before.Opens index id hub)
    (keeps : earlier.Keeps before) : earlier.Opens index id hub := by
  obtain ⟨holders, claimed, opened, closed⟩ := Register.mk.inj keeps.register
  refine ⟨opens.register.trans ?_, opens.named, fun member => opens.fresh ?_⟩
  · rw [holders, claimed, opened, closed]
  · rwa [holders]

/-- Closing and dropping the near end gives up one claim, once. -/
theorem Opens.drop {before : Hub} (opens : before.Opens index id hub) :
    ((hub.close index .near).drop index .near).register =
      ⟨before.holders, before.claimed, before.opened + 1, before.closed + 1⟩ := by
  obtain ⟨holders, claimed, opened, closed⟩ := Register.mk.inj opens.register
  have first : (hub.close index .near).register =
      ⟨before.holders, before.claimed, before.opened + 1, before.closed + 1⟩ := by
    rw [register_close_near, idOf_of_idAt? opens.named]
    simp [holders, claimed, opened, closed]
  have again : ((hub.close index .near).close index .near).register =
      (hub.close index .near).register := by
    rw [register_close_near, if_neg]
    rw [show (hub.close index .near).holders = before.holders from congrArg Register.holders first]
    exact opens.fresh
  exact again.trans first

end Hub

end ChunkRelay
