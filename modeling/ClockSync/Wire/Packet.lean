import ClockSync.Wire.LittleEndian

/-!
# Packets

One packet of 32 bytes serves as request and as reply, so that both take the
same time on the way. All words are little-endian:

* `signature` (4 bytes), the letters `drft`;
* `flags` (4 bytes), bit 0 of which marks a reply;
* `requesterTime` (8 bytes), stamped by the requester and echoed back;
* `responderTime` (8 bytes), stamped by the responder, zero in a request;
* `reserved` (8 bytes), zero.

`serialize` writes a packet, `parse` reads one and names what is wrong with a
datagram that is none, and `decodeReply` and `decodeRequest` ask in addition
which way the packet was going.
-/

namespace ClockSync.Wire

/-- The bytes of a packet on the wire. -/
def packetSize : Nat := 32

/-- The word every packet starts with: `drft` read as a little-endian word. -/
def signature : UInt32 := 0x74667264

/-- Bit 0 of the flags, set by the responder. -/
def replyFlag : UInt32 := 1

/-- A packet, its words in the order of the wire. -/
structure Packet where
  magic : UInt32 := signature
  flags : UInt32 := 0
  requesterTime : UInt64 := 0
  responderTime : UInt64 := 0
  reserved : UInt64 := 0
deriving DecidableEq, Repr, Inhabited

/-- Why a datagram is not the packet that was expected. -/
inductive Malformed where
  /-- It has not exactly `packetSize` bytes, but this many. -/
  | size (bytes : Nat)
  /-- It does not start with the signature. -/
  | signature
  /-- It is a packet, but a reply where a request is expected or the reverse. -/
  | direction
deriving DecidableEq, Repr

namespace Packet

/-- Whether the packet is marked as a reply. -/
def isReply (p : Packet) : Bool := p.flags &&& replyFlag != 0

/-! ## Writing -/

/-- The packet as the bytes of one datagram. -/
def serialize (p : Packet) : Bytes :=
  LittleEndian.write 4 p.magic.toNat ++ LittleEndian.write 4 p.flags.toNat ++
    LittleEndian.write 8 p.requesterTime.toNat ++
      LittleEndian.write 8 p.responderTime.toNat ++
    LittleEndian.write 8 p.reserved.toNat

@[simp] theorem length_serialize (p : Packet) :
    p.serialize.length = packetSize := by
  simp [serialize, packetSize]

/-! ## Reading -/

/-- The 32-bit word at an offset. -/
def word32 (bytes : Bytes) (offset : Nat) : UInt32 :=
  UInt32.ofNat (LittleEndian.read ((bytes.drop offset).take 4))

/-- The 64-bit word at an offset. -/
def word64 (bytes : Bytes) (offset : Nat) : UInt64 :=
  UInt64.ofNat (LittleEndian.read ((bytes.drop offset).take 8))

/-- The packet a datagram holds. The size is looked at before the signature. -/
def parse (bytes : Bytes) : Except Malformed Packet :=
  if bytes.length ≠ packetSize then .error (.size bytes.length)
  else if word32 bytes 0 ≠ signature then .error .signature
  else .ok {
    magic := word32 bytes 0
    flags := word32 bytes 4
    requesterTime := word64 bytes 8
    responderTime := word64 bytes 16
    reserved := word64 bytes 24 }

/-- The reply a datagram holds. -/
def decodeReply (bytes : Bytes) : Except Malformed Packet := do
  let p ← parse bytes
  if p.isReply then .ok p else .error .direction

/-- The request a datagram holds. -/
def decodeRequest (bytes : Bytes) : Except Malformed Packet := do
  let p ← parse bytes
  if p.isReply then .error .direction else .ok p

/-- Puts what was read into a slot and says whether it did. Where there is no
slot nothing can be put, and a failed reading leaves the slot as it was. -/
def storeInto (slot : Option Packet) (read : Except Malformed Packet) :
    Bool × Option Packet :=
  match slot, read with
  | some _, .ok p => (true, some p)
  | slot, _ => (false, slot)

/-! ## Making -/

/-- The request of a sender whose clock shows `now`. -/
def request (now : Int64) : Packet := { requesterTime := now.toUInt64 }

/-- The answer to a request by a responder whose clock shows `now`: all of the
request is echoed but the responder's own stamp and the reserved word. -/
def reply (request : Packet) (now : Int64) : Packet :=
  { request with
    flags := request.flags ||| replyFlag
    responderTime := now.toUInt64
    reserved := 0 }

end Packet

end ClockSync.Wire
