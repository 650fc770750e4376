import Mathlib.Logic.Relation
import ChunkRelay.Proofs.Channel.Claims
import ChunkRelay.Proofs.Channel.Transports
import ChunkRelay.Proofs.Memory.Settlement
import ChunkRelay.Proofs.Transfer.Contest

/-! What may happen on a host while nobody opens or closes anything on its bus
or at its hub. All that a party does in a transfer is of this kind, and none of
it touches what was given out before. -/

set_option autoImplicit false

namespace ChunkRelay

namespace Host

/-- One thing that anybody may do without opening or closing anything. Handing out a frame is opening;
the far end of a link holds no claim, so whoever has it may close it. -/
inductive Use : Host → Host → Prop
  | stored (host : Host) (index : Nat) (change : Extent → Extent) :
      Use host { host with bus := host.bus.modify index change }
  | joined (host : Host) (id : ChannelId) : Use host { host with hub := (host.hub.join id).2 }
  | accepted {host : Host} {index : Nat} {hub : Hub} :
      host.hub.accept = some (index, hub) → Use host { host with hub }
  | sent (host : Host) (index : Nat) (side : Side) (message : Message) :
      Use host { host with hub := (host.hub.send index side message).2 }
  | received (host : Host) (index : Nat) (side : Side) :
      Use host { host with hub := (host.hub.receive index side).2 }
  | hungUp (host : Host) (index : Nat) : Use host { host with hub := host.hub.close index .far }
  | dropped (host : Host) (index : Nat) : Use host { host with hub := host.hub.drop index .far }
  | elsewhere {host after : Host} : after.bus = host.bus → after.hub = host.hub → Use host after

/-- All that happens in some time without anything being opened or closed. -/
abbrev Uses : Host → Host → Prop :=
  Relation.ReflTransGen Use

/-- What was given out is still out, and nothing else is. -/
structure Undisturbed (before after : Host) : Prop where
  loans : after.bus.loans = before.bus.loans
  next : after.bus.next = before.bus.next
  hub : before.hub.Keeps after.hub

theorem Undisturbed.refl (host : Host) : host.Undisturbed host :=
  ⟨rfl, rfl, .refl _⟩

theorem Undisturbed.trans {first second third : Host} (earlier : first.Undisturbed second)
    (later : second.Undisturbed third) : first.Undisturbed third :=
  ⟨later.loans.trans earlier.loans, later.next.trans earlier.next, earlier.hub.trans later.hub⟩

theorem Use.undisturbed {before after : Host} (use : before.Use after) :
    before.Undisturbed after := by
  cases use with
  | stored index change => exact ⟨rfl, rfl, .refl _⟩
  | joined id => exact ⟨rfl, rfl, before.hub.keeps_join id⟩
  | accepted accepted => exact ⟨rfl, rfl, Hub.keeps_accept accepted⟩
  | sent index side message => exact ⟨rfl, rfl, before.hub.keeps_send index side message⟩
  | received index side => exact ⟨rfl, rfl, before.hub.keeps_receive index side⟩
  | hungUp index => exact ⟨rfl, rfl, before.hub.keeps_close_far index⟩
  | dropped index => exact ⟨rfl, rfl, before.hub.keeps_drop_far index⟩
  | elsewhere bus hub => exact ⟨congrArg Bus.loans bus, congrArg Bus.next bus, hub ▸ .refl _⟩

theorem Uses.undisturbed {before after : Host} (uses : before.Uses after) :
    before.Undisturbed after := by
  induction uses with
  | refl => exact .refl before
  | tail _ use ih => exact ih.trans use.undisturbed

theorem Uses.elsewhere {before after : Host} (bus : after.bus = before.bus)
    (hub : after.hub = before.hub) : before.Uses after :=
  .single (.elsewhere bus hub)

end Host

/-!
## Parties
-/

theorem note_uses (level : Level) (text : String) (fields : List (String × String)) (host : Host) :
    host.Uses ((note level text fields).run host).2 :=
  .elsewhere rfl rfl

theorem Region.modify_uses (region : Region) (change : Extent → Extent) (host : Host) :
    host.Uses (region.modify change host) := by
  obtain ⟨contents | contents, length⟩ := region
  · exact .single (.stored host contents change)
  · exact .elsewhere rfl rfl

namespace RelayBuffer

theorem write_uses (buffer : RelayBuffer) (start : Nat) (bytes : ByteArray) (host : Host) :
    host.Uses ((buffer.write start bytes).run host).2 := by
  obtain ⟨_ | holding, address, capacity⟩ := buffer
  · exact .refl
  · exact holding.region.modify_uses _ host

theorem clear_uses (buffer : RelayBuffer) (host : Host) :
    host.Uses (buffer.clear.run host).2 := by
  obtain ⟨_ | holding, address, capacity⟩ := buffer
  · exact .refl
  · exact holding.region.modify_uses _ host

end RelayBuffer

namespace Stage

theorem setFront_uses (stage : Stage) (bytes : ByteArray) (host : Host) :
    host.Uses ((stage.setFront bytes).run host).2 := by
  cases stage with
  | relay buffer => exact buffer.write_uses 0 bytes host
  | scratch contents => exact .refl

theorem clear_uses (stage : Stage) (host : Host) : host.Uses (stage.clear.run host).2 := by
  cases stage with
  | relay buffer => exact buffer.clear_uses host
  | scratch contents => exact .refl

end Stage

theorem AddressedMemory.write_uses (memory : AddressedMemory) (address : UInt64)
    (bytes : ByteArray) (host : Host) : host.Uses ((memory.write address bytes).run host).2 := by
  rcases memory.write_cases address bytes host with same | ⟨region, start, wrote⟩
  · rw [same]
  · rw [wrote]
    exact region.modify_uses _ host

namespace SocketTransport

theorem send_uses (transport : SocketTransport) (message : Message) (host : Host) :
    host.Uses ((transport.send message).run host).2 := by
  obtain ⟨untouched, hub⟩ := transport.send_untouched message host
  exact .elsewhere untouched.bus hub

theorem poll_uses (transport : SocketTransport) (host : Host) :
    host.Uses (transport.poll.run host).2 := by
  obtain ⟨untouched, hub⟩ := transport.poll_untouched host
  exact .elsewhere untouched.bus hub

theorem expire_uses (transport : SocketTransport) (limit : Duration) (host : Host) :
    host.Uses ((transport.expire limit).run host).2 := by
  obtain ⟨untouched, hub⟩ := transport.expire_untouched limit host
  exact .elsewhere untouched.bus hub

end SocketTransport

namespace Transport

theorem send_uses (transport : Transport) (message : Message) (host : Host) :
    host.Uses ((transport.send message).run host).2 := by
  cases transport with
  | socket transport => exact transport.send_uses message host
  | link index side =>
    simp only [send]
    rw [HostM.run_get_bind]
    split
    · have told := note_uses .trace "send"
        ((host.hub.idOf index).fields ++ [("msg", message.name)]) host
      exact told.tail (.sent _ index side message)
    · exact .single (.sent host index side message)

theorem poll_uses (transport : Transport) (host : Host) :
    host.Uses (transport.poll.run host).2 := by
  cases transport with
  | socket transport => exact transport.poll_uses host
  | link index side =>
    have received := Host.Use.received host index side
    simp only [poll]
    rw [HostM.run_get_bind]
    split
    · exact .tail (.single received) (.elsewhere rfl rfl)
    · exact .single received

theorem expire_uses (transport : Transport) (limit : Duration) (host : Host) :
    host.Uses ((transport.expire limit).run host).2 := by
  cases transport with
  | socket transport => exact transport.expire_uses limit host
  | link index side => exact .refl

end Transport

theorem report_uses (notices : List Notice) (host : Host) :
    host.Uses ((report notices).run host).2 := by
  obtain ⟨written, told⟩ := report_run notices host
  rw [told]
  exact .elsewhere rfl rfl

/-- Whatever a party asks for, it opens nothing and closes nothing. -/
theorem Station.answer_uses (station : Station) (request : Request) (host : Host) :
    host.Uses ((station.answer request).run host).2 := by
  obtain ⟨stage, transport, wait, memory, reader, writer⟩ := station
  cases request with
  | clear => exact stage.clear_uses host
  | fill => exact stage.setFront_uses _ host
  | drain length => exact .elsewhere rfl rfl
  | flush => exact .refl
  | send message =>
    cases transport with
    | none => exact .refl
    | some transport => exact transport.send_uses message host
  | receive =>
    cases transport with
    | none => exact .refl
    | some transport => exact transport.poll_uses host
  | fetch address length =>
    simp only [answer, answerFetch, StateT.run_bind, StateT.run_get, pure_bind]
    cases memory.read address length host with
    | error error => exact .refl
    | ok bytes => exact stage.setFront_uses bytes host
  | place address length => exact memory.write_uses address _ host

theorem Performs.uses {σ : Type} {act : σ → Action σ} {first last : Situation σ} {log : List Entry}
    (performs : Performs act first log last) : first.host.Uses last.host := by
  induction performs with
  | rest => exact .refl
  | @answered party station next host middle request resume answer log last asks answered _ ih =>
    have told := station.answer_uses request host
    rw [answered] at told
    exact (told.trans (report_uses _ middle)).trans ih
  | @unanswered party station next host middle request resume log last asks answered _ ih =>
    have looked := station.answer_uses request host
    rw [answered] at looked
    exact looked.trans ih
  | @expired party station host middle limit transport resume error log last asks bounded present
      expired _ ih =>
    have waited := transport.expire_uses limit host
    rw [expired] at waited
    exact (waited.trans (report_uses _ middle)).trans ih

end ChunkRelay
