import ChunkRelay.Channel.Error
import ChunkRelay.Message
import ChunkRelay.Text.Hex

/-!
# Control frames

On a byte stream a message travels as one frame of twenty-four bytes: a tag, a version, two flag
bytes that are written as zero and never looked at, the port, and two operands. Numbers are
little-endian. Messages with one operand leave the second one zero and do not look at it.
-/

set_option autoImplicit false

namespace ChunkRelay

def frameLength : Nat := 24

def frameVersion : UInt8 := 1

/-- The least significant `count` bytes of a number, least significant first. -/
def littleEndian : Nat → Nat → List UInt8
  | 0, _ => []
  | count + 1, value => UInt8.ofNat value :: littleEndian count (value / 256)

def ofLittleEndian : List UInt8 → Nat
  | [] => 0
  | byte :: rest => byte.toNat + 256 * ofLittleEndian rest

namespace Message

def tag : Message → UInt8
  | .dataReady _ _ => 1
  | .readDone _ => 2
  | .writeDone _ _ => 3
  | .baseAddress _ => 4

/-- The two operands of a frame; a message with one operand leaves the second one zero. -/
def operands : Message → UInt64 × UInt64
  | .dataReady address length => (address, length)
  | .readDone length => (length, 0)
  | .writeDone address length => (address, length)
  | .baseAddress address => (address, 0)

/-- The message with that tag and those operands, if the tag is known. -/
def ofOperands? (tag : UInt8) (first second : UInt64) : Option Message :=
  if tag = 1 then some (.dataReady first second)
  else if tag = 2 then some (.readDone first)
  else if tag = 3 then some (.writeDone first second)
  else if tag = 4 then some (.baseAddress first)
  else none

def encode (port : UInt32) (message : Message) : List UInt8 :=
  [message.tag, frameVersion, 0, 0] ++ littleEndian 4 port.toNat ++
    littleEndian 8 message.operands.1.toNat ++ littleEndian 8 message.operands.2.toNat

/-- The port and message of a frame. Length, version and tag are checked in that order. -/
def decode (frame : List UInt8) : Except ChannelError (UInt32 × Message) :=
  if frame.length ≠ frameLength then
    .error (.malformed ("frame is " ++ toString frame.length ++ " bytes, expected " ++
      toString frameLength))
  else
    let version := frame.getD 1 0
    if version ≠ frameVersion then
      .error (.malformed ("unsupported frame version " ++ toString version.toNat))
    else
      let tag := frame.getD 0 0
      let field (start count : Nat) : Nat := ofLittleEndian ((frame.drop start).take count)
      match ofOperands? tag (.ofNat (field 8 8)) (.ofNat (field 16 8)) with
      | none => .error (.malformed ("unknown tag 0x" ++ Text.paddedHex 2 tag.toNat))
      | some message => .ok (.ofNat (field 4 4), message)

end Message

end ChunkRelay
