import ChunkRelay.Main
import ChunkRelay.Proofs.Stream.Supply
import ChunkRelay.Rehearsal.Bench
import ChunkRelay.Rehearsal.Preloaded
import ChunkRelay.Proofs.Stream.Intake
import ChunkRelay.Proofs.Memory.History
import ChunkRelay.Proofs.Files.Lookup
import ChunkRelay.Proofs.Exchange.Handover
import ChunkRelay.Proofs.Exchange.Meeting
import ChunkRelay.Proofs.Exchange.Bound
import ChunkRelay.Proofs.Exchange.Arena
import ChunkRelay.Proofs.Exchange.Sending
import ChunkRelay.Proofs.Exchange.Receiving
import ChunkRelay.Proofs.Exchange.Setup
import ChunkRelay.Proofs.Exchange.Delivery
import ChunkRelay.Proofs.Exchange.Agreement
import ChunkRelay.Proofs.Transfer.Contest
import ChunkRelay.Proofs.Transfer.SenderRules
import ChunkRelay.Proofs.Exchange.Schedule
import ChunkRelay.Proofs.Exchange.Conclusion
import ChunkRelay.Proofs.Transfer.ReceiverRules
import ChunkRelay.Proofs.Memory.Segments
import ChunkRelay.Proofs.Exchange.Exclusive
import ChunkRelay.Proofs.Session.Restitution
import ChunkRelay.Proofs.Message.Codec
import ChunkRelay.Proofs.Memory.Traffic
import ChunkRelay.Proofs.Memory.Acquisition
import ChunkRelay.Proofs.Memory.Sharing
import ChunkRelay.Proofs.Transfer.Residue
import ChunkRelay.Proofs.Channel.Bookkeeping
import ChunkRelay.Proofs.Channel.Dialogue
import ChunkRelay.Proofs.Channel.Delivery
import ChunkRelay.Proofs.Channel.Interchange
import ChunkRelay.Proofs.Files.Directory
import ChunkRelay.Proofs.Socket.Sessions
import ChunkRelay.Proofs.Memory.Protocol
import ChunkRelay.Proofs.Memory.Housekeeping
import ChunkRelay.Proofs.Memory.SegmentLookup
import ChunkRelay.Proofs.Memory.Twins
import ChunkRelay.Proofs.Channel.Framing
import ChunkRelay.Proofs.Channel.Expiry
import ChunkRelay.Proofs.Channel.Departure
import ChunkRelay.Proofs.Transfer.Encounter
import ChunkRelay.Proofs.Transfer.SourceRules
import ChunkRelay.Proofs.Transfer.Pace
import ChunkRelay.Proofs.Transfer.Rest
import ChunkRelay.Proofs.Session.Rounds
import ChunkRelay.Proofs.Stream.Offers
import ChunkRelay.Proofs.Stream.Tape
import ChunkRelay.Proofs.Memory.Reservations
import ChunkRelay.Proofs.Transfer.SinkRules
import ChunkRelay.Proofs.Transfer.Custody
import ChunkRelay.Proofs.Transfer.SinkRounds
import ChunkRelay.Proofs.Memory.SegmentNames
import ChunkRelay.Proofs.Command.Capacities
