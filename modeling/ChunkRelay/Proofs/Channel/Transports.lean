import ChunkRelay.Channel.Transport
import ChunkRelay.Proofs.Memory.Lookup

/-! What a transport does to its host. Whatever is said and heard, the bus and
the files are what they were, and a socket leaves the hub alone as well. -/

set_option autoImplicit false

namespace ChunkRelay

/-- The bus and the files are what they were. -/
structure Host.Untouched (before after : Host) : Prop where
  bus : after.bus = before.bus
  files : after.files = before.files

theorem Host.Untouched.refl (host : Host) : host.Untouched host :=
  ⟨rfl, rfl⟩

namespace SocketTransport

theorem send_untouched (transport : SocketTransport) (message : Message) (host : Host) :
    host.Untouched ((transport.send message).run host).2 ∧
      ((transport.send message).run host).2.hub = host.hub := by
  obtain ⟨_ | ⟨wire, side⟩, port, claim⟩ := transport
  · exact ⟨⟨rfl, rfl⟩, rfl⟩
  · exact ⟨⟨rfl, rfl⟩, rfl⟩

theorem poll_untouched (transport : SocketTransport) (host : Host) :
    host.Untouched (transport.poll.run host).2 ∧ (transport.poll.run host).2.hub = host.hub := by
  obtain ⟨_ | ⟨wire, side⟩, port, claim⟩ := transport
  · exact ⟨.refl host, rfl⟩
  · rcases got : (changeWire wire fun state => state.readExactly side frameLength).run host with
      ⟨frame?, middle⟩
    have hub : middle.hub = host.hub := congrArg (fun ran => ran.2.hub) got.symm
    have untouched : host.Untouched middle :=
      ⟨congrArg (fun ran => ran.2.bus) got.symm, congrArg (fun ran => ran.2.files) got.symm⟩
    simp only [poll]
    rw [HostM.run_bind_eq got]
    obtain _ | _ | frame := frame?
    · exact ⟨untouched, hub⟩
    · exact ⟨untouched, hub⟩
    · dsimp only
      split
      · exact ⟨⟨untouched.bus, untouched.files⟩, hub⟩
      · exact ⟨untouched, hub⟩

theorem expire_untouched (transport : SocketTransport) (limit : Duration) (host : Host) :
    host.Untouched ((transport.expire limit).run host).2 ∧
      ((transport.expire limit).run host).2.hub = host.hub := by
  obtain ⟨_ | ⟨wire, side⟩, port, claim⟩ := transport
  · exact ⟨.refl host, rfl⟩
  · exact ⟨⟨rfl, rfl⟩, rfl⟩

end SocketTransport

namespace Transport

theorem send_untouched (transport : Transport) (message : Message) (host : Host) :
    host.Untouched ((transport.send message).run host).2 := by
  cases transport with
  | socket transport => exact (transport.send_untouched message host).1
  | link index side =>
    simp only [send]
    rw [HostM.run_get_bind]
    split
    · exact ⟨rfl, rfl⟩
    · exact ⟨rfl, rfl⟩

theorem poll_untouched (transport : Transport) (host : Host) :
    host.Untouched (transport.poll.run host).2 := by
  cases transport with
  | socket transport => exact (transport.poll_untouched host).1
  | link index side =>
    simp only [poll]
    rw [HostM.run_get_bind]
    split
    · exact ⟨rfl, rfl⟩
    · exact ⟨rfl, rfl⟩

theorem expire_untouched (transport : Transport) (limit : Duration) (host : Host) :
    host.Untouched ((transport.expire limit).run host).2 := by
  cases transport with
  | socket transport => exact (transport.expire_untouched limit host).1
  | link index side => exact .refl host

end Transport

end ChunkRelay
