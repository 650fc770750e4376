import ChunkRelay.Channel.Connector
import ChunkRelay.Proofs.Channel.Claims
import ChunkRelay.Proofs.Channel.Transports
import Mathlib.Data.List.Nodup
import Mathlib.Data.List.Sublists

/-! What a hub has on its books is what happened at it. The claims are those of
the near ends still open, the counters agree with them, and the far ends wait
in the order of their links until they are accepted or their links are stale. -/

set_option autoImplicit false

namespace ChunkRelay

/-!
## The ends of a link
-/

namespace Link

theorem isOpen_setSide (link : Link) (side other : Side) (value : LinkEnd) :
    (link.setSide side value).isOpen other =
      if other = side then decide (value.status = .opened) else link.isOpen other := by
  cases side <;> cases other <;> rfl

theorem isOpen_send (link : Link) (side other : Side) (message : Message) :
    (link.send side message).2.isOpen other = link.isOpen other := by
  unfold send
  dsimp only
  split
  · rfl
  · split
    · rfl
    · rw [isOpen_setSide]
      split
      · next same =>
        subst same
        rfl
      · rfl

theorem isOpen_receive (link : Link) (side other : Side) :
    (link.receive side).2.isOpen other = link.isOpen other := by
  unfold receive
  dsimp only
  split
  · rfl
  · split
    · rw [isOpen_setSide]
      split
      · next same =>
        subst same
        rfl
      · rfl
    · split <;> rfl

theorem isOpen_close (link : Link) (side other : Side) :
    (link.close side).isOpen other = (link.isOpen other && decide (other ≠ side)) := by
  unfold close
  split
  · rw [isOpen_setSide]
    split <;> simp_all
  · next shut =>
    by_cases same : other = side
    · subst same
      simp [Bool.eq_false_iff.mpr shut]
    · simp [same]

theorem isOpen_drop (link : Link) (side other : Side) :
    (link.drop side).isOpen other = (link.isOpen other && decide (other ≠ side)) := by
  rw [drop, isOpen_setSide]
  split <;> simp_all

end Link

namespace Hub

/-!
## What happened
-/

/-- Something that happened at a hub. -/
inductive Event where
  | opened (index : Nat) (id : ChannelId)
  | refused (id : ChannelId)
  | accepted (index : Nat)
  /-- An end was closed or dropped, perhaps not for the first time. -/
  | ended (index : Nat) (side : Side)
  /-- A message went over a link, or a link was made that nobody opened at the hub. -/
  | aside
deriving DecidableEq, Repr

/-- What can have happened at a hub so far, the latest first. -/
inductive Past : Hub → List Event → Prop
  | empty : Past .empty []
  | opened {hub after : Hub} {past : List Event} {id : ChannelId} {index : Nat} :
      Past hub past → hub.openLink id = .ok (index, after) → Past after (.opened index id :: past)
  | refused {hub : Hub} {past : List Event} {id : ChannelId} {error : ChannelError} :
      Past hub past → hub.openLink id = .error error → Past hub (.refused id :: past)
  | accepted {hub after : Hub} {past : List Event} {index : Nat} :
      Past hub past → hub.accept = some (index, after) → Past after (.accepted index :: past)
  | closed {hub : Hub} {past : List Event} (index : Nat) (side : Side) :
      Past hub past → Past (hub.close index side) (.ended index side :: past)
  | dropped {hub : Hub} {past : List Event} (index : Nat) (side : Side) :
      Past hub past → Past (hub.drop index side) (.ended index side :: past)
  | joined {hub : Hub} {past : List Event} (id : ChannelId) :
      Past hub past → Past (hub.join id).2 (.aside :: past)
  | sent {hub : Hub} {past : List Event} (index : Nat) (side : Side) (message : Message) :
      Past hub past → Past (hub.send index side message).2 (.aside :: past)
  | received {hub : Hub} {past : List Event} (index : Nat) (side : Side) :
      Past hub past → Past (hub.receive index side).2 (.aside :: past)

/-- The links opened whose near end was neither closed nor dropped since, the latest first. -/
def live : List Event → List (Nat × ChannelId)
  | [] => []
  | .opened index id :: past => (index, id) :: live past
  | .ended index .near :: past => (live past).filter (·.1 ≠ index)
  | _ :: past => live past

/-- The links opened, in that order. -/
def openings : List Event → List Nat
  | [] => []
  | .opened index _ :: past => openings past ++ [index]
  | _ :: past => openings past

/-- The links whose far end was accepted, in that order. -/
def acceptances : List Event → List Nat
  | [] => []
  | .accepted index :: past => acceptances past ++ [index]
  | _ :: past => acceptances past

/-- How many near ends were closed or dropped, each for the first time, since a link was opened. -/
def endings : List Event → Nat
  | [] => 0
  | .opened _ _ :: _ => 0
  | .ended index .near :: past => endings past + (live past).countP (·.1 = index)
  | _ :: past => endings past

/-- A hub whose claims, counters and parked ends are what its past makes them. -/
structure Books (hub : Hub) (past : List Event) : Prop where
  holders : hub.holders = (live past).map (·.1)
  claimed : hub.claimed = (live past).map (·.2)
  opened : hub.opened = (openings past).length
  balance : hub.opened = hub.closed + hub.claimed.length
  /-- No link is opened twice. -/
  once : (openings past).Nodup
  known : ∀ index ∈ openings past, ∃ id, hub.idAt? index = some id
  /-- No link is live twice, and no two live links are for the same endpoint and port. -/
  single : ((live past).map (·.1)).Nodup
  alone : ((live past).map (·.2)).Nodup
  named : ∀ entry ∈ live past, hub.idAt? entry.1 = some entry.2
  among : ∀ entry ∈ live past, entry.1 ∈ openings past
  standing : ∀ index ∈ openings past,
    (hub.isOpen index .near = true ↔ index ∈ (live past).map (·.1))
  queue : List.Sublist (acceptances past ++ hub.parked) (openings past)
  waiting : ∀ entry ∈ live past, entry.1 ∈ acceptances past ++ hub.parked
  stale : (hub.parked.countP fun index => !hub.isOpen index .near) ≤ endings past

/-!
## What leaves the books alone
-/

/-- No claim changes hands, no far end is parked or taken, and no near end is closed. -/
structure Steady (before after : Hub) : Prop where
  keeps : before.Keeps after
  parked : after.parked = before.parked
  near {index : Nat} {id : ChannelId} :
    before.idAt? index = some id → after.isOpen index .near = before.isOpen index .near

variable {hub after : Hub} {past later : List Event} {index : Nat} {id : ChannelId}

theorem Steady.refl (hub : Hub) : hub.Steady hub :=
  ⟨.refl hub, rfl, fun _ => rfl⟩

theorem Steady.trans {first second third : Hub} (steady : first.Steady second)
    (further : second.Steady third) : first.Steady third :=
  ⟨steady.keeps.trans further.keeps, further.parked.trans steady.parked,
    fun known => (further.near (steady.keeps.ids known)).trans (steady.near known)⟩

theorem isOpen_modify (hub : Hub) (index other : Nat) (side : Side) (change : Link → Link) :
    { hub with links := hub.links.modify index change }.isOpen other side =
      if index = other then (hub.links[other]?).any fun link => (change link).isOpen side
      else hub.isOpen other side := by
  simp only [isOpen, Array.getElem?_modify]
  split
  · cases hub.links[other]? <;> rfl
  · rfl

theorem isOpen_set {link next : Link} (present : hub.links[index]? = some link) (side : Side)
    (same : next.isOpen side = link.isOpen side) (other : Nat) :
    { hub with links := hub.links.setIfInBounds index next }.isOpen other side =
      hub.isOpen other side := by
  simp only [isOpen, Array.getElem?_setIfInBounds]
  split
  · next here =>
    subst here
    rw [present, if_pos (Array.getElem?_eq_some_iff.mp present).1]
    exact same
  · rfl

theorem steady_modify (hub : Hub) (index : Nat) {change : Link → Link}
    (same : ∀ link, (change link).id = link.id)
    (near : ∀ link, (change link).isOpen .near = link.isOpen .near) :
    hub.Steady { hub with links := hub.links.modify index change } := by
  refine ⟨hub.keeps_modify index same, rfl, fun {other _} _ => ?_⟩
  rw [isOpen_modify]
  split
  · simp only [near]
    rfl
  · rfl

theorem steady_set {link next : Link} (present : hub.links[index]? = some link)
    (same : next.id = link.id) (near : next.isOpen .near = link.isOpen .near) :
    hub.Steady { hub with links := hub.links.setIfInBounds index next } :=
  ⟨⟨rfl, fun known => (idAt?_set present same _).trans known⟩, rfl,
    fun _ => isOpen_set present .near near _⟩

theorem steady_send (hub : Hub) (index : Nat) (side : Side) (message : Message) :
    hub.Steady (hub.send index side message).2 := by
  unfold send
  split
  · exact .refl hub
  · next link present =>
    exact steady_set present (link.id_send side message) (link.isOpen_send side .near message)

theorem steady_receive (hub : Hub) (index : Nat) (side : Side) :
    hub.Steady (hub.receive index side).2 := by
  unfold receive
  split
  · exact .refl hub
  · next link present =>
    exact steady_set present (link.id_receive side) (link.isOpen_receive side .near)

theorem steady_join (hub : Hub) (id : ChannelId) : hub.Steady (hub.join id).2 := by
  refine ⟨hub.keeps_join id, rfl, fun {other _} known => ?_⟩
  obtain ⟨link, present, _⟩ := Option.map_eq_some_iff.mp known
  have inside := (Array.getElem?_eq_some_iff.mp present).1
  simp only [isOpen, join, Array.getElem?_push_lt inside, ← Array.getElem?_eq_getElem inside]

theorem steady_close_far (hub : Hub) (index : Nat) : hub.Steady (hub.close index .far) :=
  hub.steady_modify index (fun link => link.id_close .far) fun link => by
    simp [link.isOpen_close .far .near]

theorem steady_drop_far (hub : Hub) (index : Nat) : hub.Steady (hub.drop index .far) :=
  (hub.steady_close_far index).trans <|
    steady_modify _ index (fun link => link.id_drop .far) fun link => by
      simp [link.isOpen_drop .far .near]

/-- Letting go of stale far ends takes them out of the queue and does nothing else to the books. -/
theorem steady_dropStale (hub : Hub) :
    Steady { hub with parked := hub.parked.filter fun index => hub.isOpen index .near }
      hub.dropStale := by
  have dropped : ∀ (stale : List Nat) (first : Hub),
      first.Steady (stale.foldl (fun hub index => hub.drop index .far) first) := by
    intro stale
    induction stale with
    | nil => exact fun first => .refl first
    | cons index rest ih => exact fun first => (first.steady_drop_far index).trans (ih _)
  exact dropped hub.stale _

theorem Books.steady (books : hub.Books past) (steady : hub.Steady after)
    (lives : live later = live past) (opens : openings later = openings past)
    (accepts : acceptances later = acceptances past) (ends : endings later = endings past) :
    after.Books later := by
  obtain ⟨holders, claimed, opened, closed⟩ := Register.mk.inj steady.keeps.register
  have near : ∀ index ∈ openings past, after.isOpen index .near = hub.isOpen index .near := by
    intro index member
    obtain ⟨id, known⟩ := books.known index member
    exact steady.near known
  constructor
  · rw [lives, holders, books.holders]
  · rw [lives, claimed, books.claimed]
  · rw [opens, opened, books.opened]
  · rw [opened, closed, claimed, books.balance]
  · rw [opens]
    exact books.once
  · rw [opens]
    intro index member
    obtain ⟨id, known⟩ := books.known index member
    exact ⟨id, steady.keeps.ids known⟩
  · rw [lives]
    exact books.single
  · rw [lives]
    exact books.alone
  · rw [lives]
    exact fun entry member => steady.keeps.ids (books.named entry member)
  · rw [lives, opens]
    exact books.among
  · rw [lives, opens]
    intro index member
    rw [near index member]
    exact books.standing index member
  · rw [accepts, opens, steady.parked]
    exact books.queue
  · rw [lives, accepts, steady.parked]
    exact books.waiting
  · rw [ends, steady.parked]
    refine le_of_eq_of_le (List.countP_congr fun index member => ?_) books.stale
    rw [near index (books.queue.subset (List.mem_append_right _ member))]

/-!
## What the books are about
-/

/-- An opened link waits behind the far ends whose links are still live. -/
theorem openLink_parked (opened : hub.openLink id = .ok (index, after)) :
    after.parked = (hub.parked.filter fun index => hub.isOpen index .near) ++ [index] ∧
      after.isOpen index .near = true ∧
      ∀ {other : Nat} {name : ChannelId}, hub.idAt? other = some name →
        after.isOpen other .near = hub.isOpen other .near := by
  unfold openLink at opened
  split at opened
  · cases opened
  · cases opened
    have pruned := hub.steady_dropStale
    have joined := hub.dropStale.steady_join id
    refine ⟨congrArg (· ++ [_]) pruned.parked, ?_, fun {other name} known => ?_⟩
    · simp [isOpen, Link.fresh, Link.isOpen, Link.atSide]
    · exact (joined.near (pruned.keeps.ids known)).trans (pruned.near known)

theorem Books.openLink (books : hub.Books past) (opened : hub.openLink id = .ok (index, after)) :
    after.Books (.opened index id :: past) := by
  obtain ⟨unclaimed, unknown, named, register, ids⟩ := openLink_ok opened
  obtain ⟨holders, claimed, counted, closed⟩ := Register.mk.inj register
  obtain ⟨parked, begun, near⟩ := openLink_parked opened
  have fresh : index ∉ openings past := by
    intro member
    obtain ⟨other, known⟩ := books.known index member
    rw [unknown] at known
    cases known
  have unheld : index ∉ (live past).map (·.1) := by
    intro member
    obtain ⟨entry, lives, rfl⟩ := List.mem_map.mp member
    exact fresh (books.among entry lives)
  have standing : ∀ other ∈ openings past,
      (after.isOpen other .near = true ↔ other ∈ (live past).map (·.1)) := by
    intro other member
    obtain ⟨name, known⟩ := books.known other member
    rw [near known]
    exact books.standing other member
  constructor
  · exact holders.trans (congrArg _ books.holders)
  · exact claimed.trans (congrArg _ books.claimed)
  · rw [counted, books.opened, openings, List.length_append, List.length_singleton]
  · rw [counted, closed, claimed, books.balance, List.length_cons, Nat.add_assoc]
  · exact List.nodup_append.mpr ⟨books.once, List.nodup_singleton index, by
      rintro other member _ only rfl
      exact fresh (List.mem_singleton.mp only ▸ member)⟩
  · intro other member
    rcases List.mem_append.mp member with older | newest
    · obtain ⟨name, known⟩ := books.known other older
      exact ⟨name, ids known⟩
    · rw [List.mem_singleton.mp newest]
      exact ⟨id, named⟩
  · exact List.nodup_cons.mpr ⟨unheld, books.single⟩
  · rw [books.claimed] at unclaimed
    exact List.nodup_cons.mpr ⟨unclaimed, books.alone⟩
  · exact List.forall_mem_cons.mpr ⟨named, fun entry member => ids (books.named entry member)⟩
  · exact List.forall_mem_cons.mpr ⟨List.mem_append_right _ (List.mem_singleton_self index),
      fun entry member => List.mem_append_left _ (books.among entry member)⟩
  · intro other member
    rcases List.mem_append.mp member with older | newest
    · have differ : other ≠ index := fun same => fresh (same ▸ older)
      rw [standing other older, live, List.map_cons, List.mem_cons, or_iff_right differ]
    · rw [List.mem_singleton.mp newest]
      exact iff_of_true begun List.mem_cons_self
  · rw [parked, ← List.append_assoc]
    have kept := List.Sublist.append_left
      (List.filter_sublist (p := fun index => hub.isOpen index .near) (l := hub.parked))
      (acceptances past)
    exact (kept.trans books.queue).append (List.Sublist.refl [index])
  · rw [parked]
    refine List.forall_mem_cons.mpr ⟨by simp, fun entry member => ?_⟩
    have opens := (books.standing _ (books.among entry member)).mpr (List.mem_map_of_mem member)
    rcases List.mem_append.mp (books.waiting entry member) with gone | waits
    · exact List.mem_append_left _ gone
    · exact List.mem_append_right _ (List.mem_append_left _ (List.mem_filter.mpr ⟨waits, opens⟩))
  · refine Nat.le_of_eq (List.countP_eq_zero.mpr fun other member => ?_)
    rw [parked] at member
    rcases List.mem_append.mp member with waits | newest
    · obtain ⟨waits, opens⟩ := List.mem_filter.mp waits
      obtain ⟨name, known⟩ := books.known other (books.queue.subset (List.mem_append_right _ waits))
      simp [near known, opens]
    · simp [List.mem_singleton.mp newest, begun]

theorem Books.accept (books : hub.Books past) (taken : hub.accept = some (index, after)) :
    after.Books (.accepted index :: past) := by
  unfold Hub.accept at taken
  split at taken
  · cases taken
  · next first rest waits =>
    cases taken
    have queue : acceptances past ++ index :: rest = acceptances past ++ [index] ++ rest :=
      (List.append_cons ..)
    refine { books with queue := ?_, waiting := ?_, stale := ?_ }
    · have kept := books.queue
      rwa [waits, queue] at kept
    · have kept := books.waiting
      rwa [waits, queue] at kept
    · have kept := books.stale
      rw [waits] at kept
      exact (List.Sublist.countP_le (List.sublist_cons_self index rest)).trans kept

/-- What closing or dropping a near end does to the books. -/
structure Ends (before : Hub) (index : Nat) (after : Hub) : Prop where
  register : after.register =
    if index ∈ before.holders then
      ⟨before.holders.erase index, before.claimed.erase (before.idOf index), before.opened,
        before.closed + 1⟩
    else before.register
  ids {other : Nat} {id : ChannelId} :
    before.idAt? other = some id → after.idAt? other = some id
  parked : after.parked = before.parked
  near (other : Nat) :
    after.isOpen other .near = (before.isOpen other .near && decide (other ≠ index))

theorem ends_close (hub : Hub) (index : Nat) : hub.Ends index (hub.close index .near) := by
  refine ⟨hub.register_close_near index, ids_close_near, ?_, fun other => ?_⟩
  · unfold close release
    dsimp only
    split <;> rfl
  · have links : (hub.close index .near).links = hub.links.modify index (·.close .near) := by
      unfold close release
      dsimp only
      split <;> rfl
    have same : (hub.close index .near).isOpen other .near =
        { hub with links := hub.links.modify index (·.close .near) }.isOpen other .near := by
      rw [isOpen, links]
      rfl
    rw [same, isOpen_modify]
    split
    · next here =>
      subst here
      cases present : hub.links[index]? <;> simp [isOpen, present, Link.isOpen_close]
    · next elsewhere => simp [Ne.symm elsewhere]

theorem ends_drop (hub : Hub) (index : Nat) : hub.Ends index (hub.drop index .near) := by
  have ends := hub.ends_close index
  have keeps := (hub.close index .near).keeps_modify index fun link => link.id_drop .near
  refine ⟨keeps.register.trans ends.register, fun known => keeps.ids (ends.ids known),
    ends.parked, fun other => ?_⟩
  rw [← ends.near other, drop, isOpen_modify]
  split
  · next here =>
    subst here
    have shut := ends.near index
    cases present : (hub.close index .near).links[index]? with
    | none => simp [isOpen, present]
    | some link => simpa [isOpen, present, Link.isOpen_drop] using shut
  · rfl

/-- In a list without repetition of either part, leaving out one entry leaves out each part. -/
private theorem map_filter_ne {entries : List (Nat × ChannelId)}
    (single : (entries.map (·.1)).Nodup) (alone : (entries.map (·.2)).Nodup)
    (member : (index, id) ∈ entries) :
    (entries.filter (·.1 ≠ index)).map (·.1) = (entries.map (·.1)).erase index ∧
      (entries.filter (·.1 ≠ index)).map (·.2) = (entries.map (·.2)).erase id := by
  have alike : ∀ entry ∈ entries, entry.1 = index ↔ entry.2 = id := by
    intro entry among
    constructor
    · intro same
      rw [List.inj_on_of_nodup_map single among member same]
    · intro same
      rw [List.inj_on_of_nodup_map alone among member same]
  constructor
  · rw [single.erase_eq_filter, List.filter_map]
    refine congrArg _ (List.filter_congr fun entry among => ?_)
    by_cases same : entry.1 = index <;> simp [same]
  · rw [alone.erase_eq_filter, List.filter_map]
    refine congrArg _ (List.filter_congr fun entry among => ?_)
    by_cases same : entry.1 = index
    · simp [same, (alike entry among).mp same]
    · simp [same, mt (alike entry among).mpr same]

/-- The claim of a live link is given up, and one more end counts as closed. -/
theorem Books.end_register (books : hub.Books past) (ends : hub.Ends index after) :
    after.holders = ((live past).filter (·.1 ≠ index)).map (·.1) ∧
      after.claimed = ((live past).filter (·.1 ≠ index)).map (·.2) ∧
      after.opened = hub.opened ∧ after.closed + after.claimed.length = hub.opened := by
  have register := ends.register
  by_cases held : index ∈ hub.holders
  · rw [if_pos held] at register
    obtain ⟨holders, claimed, opened, closed⟩ := Register.mk.inj register
    rw [books.holders] at held
    obtain ⟨⟨_, id⟩, lives, rfl⟩ := List.mem_map.mp held
    rw [idOf_of_idAt? (books.named _ lives), books.claimed] at claimed
    rw [books.holders] at holders
    obtain ⟨indices, ids⟩ := map_filter_ne books.single books.alone lives
    have claims : id ∈ (live past).map (·.2) := List.mem_map_of_mem lives
    refine ⟨holders.trans indices.symm, claimed.trans ids.symm, opened, ?_⟩
    rw [closed, claimed, List.length_erase_of_mem claims, books.balance, books.claimed]
    have := List.length_pos_of_mem claims
    omega
  · rw [if_neg held] at register
    obtain ⟨holders, claimed, opened, closed⟩ := Register.mk.inj register
    have all : (live past).filter (·.1 ≠ index) = live past := by
      refine List.filter_eq_self.mpr fun entry member => decide_eq_true ?_
      rintro rfl
      rw [books.holders] at held
      exact held (List.mem_map_of_mem member)
    rw [all]
    exact ⟨holders.trans books.holders, claimed.trans books.claimed, opened,
      by rw [closed, claimed, books.balance]⟩

private theorem countP_and_ne_le (holds : Nat → Bool) (index : Nat) (entries : List Nat) :
    entries.countP (fun entry => !(holds entry && decide (entry ≠ index))) ≤
      entries.countP (fun entry => !holds entry) + entries.count index := by
  induction entries with
  | nil => exact Nat.le_refl 0
  | cons entry rest ih =>
    have head : (if !(holds entry && decide (entry ≠ index)) then 1 else 0) ≤
        (if !holds entry then 1 else 0) + if entry == index then 1 else 0 := by
      by_cases same : entry = index <;> simp [same]
    rw [List.countP_cons, List.countP_cons, List.count_cons]
    omega

/-- At most one far end more is stale, and only if the near end was open until now. -/
theorem Books.end_stale (books : hub.Books past) (ends : hub.Ends index after) :
    (after.parked.countP fun other => !after.isOpen other .near) ≤
      endings (.ended index .near :: past) := by
  have parked : ∀ other ∈ hub.parked, other ∈ openings past := fun other member =>
    books.queue.subset (List.mem_append_right _ member)
  simp only [ends.parked, ends.near]
  by_cases lives : index ∈ (live past).map (·.1)
  · have once : hub.parked.count index ≤ 1 := by
      have distinct := (books.once.sublist books.queue).of_append_right
      exact List.nodup_iff_count_le_one.mp distinct index
    have counted : (live past).countP (·.1 = index) = 1 := by
      rw [← List.count_eq_one_of_mem books.single lives, List.count, List.countP_map]
      exact List.countP_congr fun entry _ => by simp
    have bound := countP_and_ne_le (fun other => hub.isOpen other .near) index hub.parked
    have stale := books.stale
    rw [endings, counted]
    omega
  · refine le_of_eq_of_le (List.countP_congr fun other member => ?_)
      (Nat.le_trans books.stale (Nat.le_add_right _ _))
    by_cases same : other = index
    · have shut : hub.isOpen other .near = false := by
        refine Bool.eq_false_iff.mpr fun opens => lives ?_
        rw [← same]
        exact (books.standing other (parked other member)).mp opens
      simp [shut]
    · simp [same]

theorem Books.end_near (books : hub.Books past) (ends : hub.Ends index after) :
    after.Books (.ended index .near :: past) := by
  obtain ⟨holders, claimed, opened, balance⟩ := books.end_register ends
  have fewer : List.Sublist (live (.ended index .near :: past)) (live past) :=
    List.filter_sublist
  constructor
  · exact holders
  · exact claimed
  · exact opened.trans books.opened
  · rw [opened, balance]
  · exact books.once
  · intro other member
    obtain ⟨id, known⟩ := books.known other member
    exact ⟨id, ends.ids known⟩
  · exact books.single.sublist (fewer.map (·.1))
  · exact books.alone.sublist (fewer.map (·.2))
  · exact fun entry member => ends.ids (books.named entry (fewer.subset member))
  · exact fun entry member => books.among entry (fewer.subset member)
  · intro other member
    rw [ends.near, Bool.and_eq_true, decide_eq_true_iff, books.standing other member]
    simp only [live, List.mem_map, List.mem_filter, decide_eq_true_iff]
    constructor
    · rintro ⟨⟨entry, lives, rfl⟩, differ⟩
      exact ⟨entry, ⟨lives, differ⟩, rfl⟩
    · rintro ⟨entry, ⟨lives, differ⟩, rfl⟩
      exact ⟨⟨entry, lives, rfl⟩, differ⟩
  · rw [ends.parked]
    exact books.queue
  · rw [ends.parked]
    exact fun entry member => books.waiting entry (fewer.subset member)
  · exact books.end_stale ends

theorem Past.books (recorded : Past hub past) : hub.Books past := by
  induction recorded with
  | empty => constructor <;> simp [live, openings, acceptances, endings, Hub.empty]
  | opened _ opened ih => exact ih.openLink opened
  | refused _ _ ih => exact ih.steady (.refl _) rfl rfl rfl rfl
  | accepted _ taken ih => exact ih.accept taken
  | closed index side _ ih =>
    cases side with
    | near => exact ih.end_near (ends_close _ index)
    | far => exact ih.steady (steady_close_far _ index) rfl rfl rfl rfl
  | dropped index side _ ih =>
    cases side with
    | near => exact ih.end_near (ends_drop _ index)
    | far => exact ih.steady (steady_drop_far _ index) rfl rfl rfl rfl
  | joined id _ ih => exact ih.steady (steady_join _ id) rfl rfl rfl rfl
  | sent index side message _ ih =>
    exact ih.steady (steady_send _ index side message) rfl rfl rfl rfl
  | received index side _ ih => exact ih.steady (steady_receive _ index side) rfl rfl rfl rfl

/-- All far ends that wait, but for the stale ones, wait for the near end of a live link. -/
theorem Books.parked_le (books : hub.Books past) :
    hub.parked.length ≤ hub.active + endings past := by
  have waits : ∀ index ∈ hub.parked, index ∈ openings past := fun index member =>
    books.queue.subset (List.mem_append_right _ member)
  have distinct := ((books.once.sublist books.queue).of_append_right).filter
    fun index => hub.isOpen index .near
  have lives : hub.parked.filter (fun index => hub.isOpen index .near) ⊆
      (live past).map (·.1) := by
    intro index member
    obtain ⟨parked, opens⟩ := List.mem_filter.mp member
    exact (books.standing index (waits index parked)).mp opens
  have fewer := (List.subperm_of_subset distinct lives).length_le
  have split := hub.parked.length_eq_countP_add_countP fun index => hub.isOpen index .near
  simp only [Bool.not_eq_true, Bool.decide_eq_false] at split
  rw [List.length_map, ← List.countP_eq_length_filter] at fewer
  rw [active, books.claimed, List.length_map]
  have stale := books.stale
  omega

theorem Books.parked_live (books : hub.Books past) (settled : endings past = 0) :
    ∀ index ∈ hub.parked, hub.isOpen index .near = true := by
  intro index member
  have none_stale := List.countP_eq_zero.mp (Nat.le_zero.mp (settled ▸ books.stale)) index member
  simpa using none_stale

end Hub

theorem Connector.openFor_busy {host : Host} {id : ChannelId} {error : ChannelError}
    (refused : host.hub.openLink id = .error error) :
    (Connector.viaHub.openFor id).run host = (.error error, host) := by
  change (Connector.openLink id).run host = _
  rw [Connector.openLink, HostM.run_get_bind, refused]
  rfl

/-- The claims at a hub are exactly those of the near ends still open, and its counters agree. An
opening is refused just when its endpoint and port are claimed, and then changes nothing. The far
ends that nobody accepted wait in the order of their links; only those whose near end is no longer
open may be let go of, and each opening lets go of all these. -/
theorem hub_keeps_books {hub : Hub} {past : List Hub.Event} (recorded : hub.Past past) :
    (hub.claimed = (Hub.live past).map (·.2) ∧ hub.claimed.Nodup ∧
      ∀ index ∈ Hub.openings past,
        (hub.isOpen index .near = true ↔ index ∈ (Hub.live past).map (·.1))) ∧
      (hub.opened = (Hub.openings past).length ∧ hub.opened = hub.closed + hub.active) ∧
      (∀ id,
        (id ∈ (Hub.live past).map (·.2) → ∀ host : Host, host.hub = hub →
          (Connector.viaHub.openFor id).run host =
            (.error (.busy id.endpoint id.port), host)) ∧
        (id ∉ (Hub.live past).map (·.2) → ∃ index after, hub.openLink id = .ok (index, after) ∧
          (∀ waiting ∈ after.parked, after.isOpen waiting .near = true) ∧
          after.parked.length ≤ after.active)) ∧
      (∀ index, ∀ after ∈ [hub.close index .far, hub.drop index .far],
        after.register = hub.register ∧ after.parked = hub.parked) ∧
      (List.Sublist (Hub.acceptances past ++ hub.parked) (Hub.openings past) ∧
        (Hub.openings past).Nodup ∧
        ∀ entry ∈ Hub.live past, entry.1 ∉ Hub.acceptances past → entry.1 ∈ hub.parked) ∧
      hub.parked.length ≤ hub.active + Hub.endings past := by
  have books := recorded.books
  have claims := books.claimed
  refine ⟨⟨claims, claims ▸ books.alone, books.standing⟩, ⟨books.opened, books.balance⟩,
    fun id => ⟨fun claimed host same => ?busy, fun unclaimed => ?opened⟩, fun index => ?far,
    ⟨books.queue, books.once, fun entry lives unaccepted => ?waiting⟩, books.parked_le⟩
  case busy =>
    rw [← claims] at claimed
    refine Connector.openFor_busy ?_
    rw [same, Hub.openLink, if_pos claimed]
  case opened =>
    cases opens : hub.openLink id with
    | error error =>
      rw [← claims] at unclaimed
      exact absurd (Hub.openLink_error opens).1 unclaimed
    | ok made =>
      have later := books.openLink opens
      exact ⟨made.1, made.2, rfl, later.parked_live rfl, later.parked_le⟩
  case far =>
    have closed := hub.steady_close_far index
    have dropped := hub.steady_drop_far index
    simp only [List.forall_mem_cons]
    exact ⟨⟨closed.keeps.register, closed.parked⟩, ⟨dropped.keeps.register, dropped.parked⟩,
      List.forall_mem_nil _⟩
  case waiting => exact (List.mem_append.mp (books.waiting entry lives)).resolve_left unaccepted

/-- Of three links the first was accepted and ended, and the second ended while its far end waits:
it waits still, as nothing was opened since. -/
theorem hub_keeps_books_small :
    ∃ hub : Hub, hub.Past [.ended 1 .near, .opened 2 ⟨7, 0⟩, .ended 0 .near, .accepted 0,
        .refused ⟨7, 0⟩, .opened 1 ⟨7, 1⟩, .opened 0 ⟨7, 0⟩] ∧
      hub.claimed = [⟨7, 0⟩] ∧ hub.opened = 3 ∧ hub.closed = 2 ∧ hub.parked = [1, 2] ∧
      hub.parked.length ≤ hub.active + 1 := by
  let begun : Link := .fresh ⟨7, 0⟩
  let shut : Link := ⟨⟨7, 0⟩, ⟨.closed, []⟩, ⟨.opened, []⟩⟩
  let other : Link := .fresh ⟨7, 1⟩
  have first : Hub.Past ⟨#[begun, other], [1, 0], [⟨7, 1⟩, ⟨7, 0⟩], 2, 0, [0, 1]⟩
      [.opened 1 ⟨7, 1⟩, .opened 0 ⟨7, 0⟩] :=
    .opened (.opened .empty rfl) rfl
  have second : Hub.Past ⟨#[shut, other], [1], [⟨7, 1⟩], 2, 1, [1]⟩
      [.ended 0 .near, .accepted 0, .refused ⟨7, 0⟩, .opened 1 ⟨7, 1⟩, .opened 0 ⟨7, 0⟩] :=
    .closed 0 .near (.accepted (.refused first (rfl : Hub.openLink _ ⟨7, 0⟩ = _)) rfl)
  have third : Hub.Past ⟨#[shut, other, begun], [2, 1], [⟨7, 0⟩, ⟨7, 1⟩], 3, 1, [1, 2]⟩
      [.opened 2 ⟨7, 0⟩, .ended 0 .near, .accepted 0, .refused ⟨7, 0⟩, .opened 1 ⟨7, 1⟩,
        .opened 0 ⟨7, 0⟩] :=
    .opened second rfl
  have fourth := third.dropped 1 .near
  obtain ⟨_, _, _, _, _, bound⟩ := hub_keeps_books fourth
  exact ⟨_, fourth, rfl, rfl, rfl, rfl, bound⟩

end ChunkRelay
