/-
Packets as bytes: `get_header` and `incomplete_header` of `proto.c`, and the writers of
`pktbuf.c`.

The first byte of a regular packet is its type, and four bytes of length follow, which
count themselves but not the type.  A special packet starts with its length, whose first
two bytes are zero, and its type is a code behind it.  Lengths are `uint32_t`, so adding
the byte of the type may wrap around.

A `PktBuf` stands for what has been written to it.  It fails once there is no room for
more: at the end of a fixed buffer, where a size is no `int`, or when `realloc` says so.
`pktbuf_start_packet` leaves room for the length, and `pktbuf_finish_packet` fills it in.
-/
import PgBouncer.Auth.Login

namespace PgBouncer.Wire

open LoginCtx (getUint32be)

/-! ### Headers -/

/-- `NEW_HEADER_LEN`. -/
def newHeaderLen : Nat := 5

/-- `OLD_HEADER_LEN`. -/
def oldHeaderLen : Nat := 8

/-- `PktHdr`: the type is a byte or a code, and of the data only what is there. -/
structure PktHdr where
  type : Nat
  len : Nat
  data : Bytes
  deriving DecidableEq

def incompleteHeader (data : Bytes) : Bool :=
  if oldHeaderLen ≤ data.length then false
  else if data.length < newHeaderLen then true
  -- is it old V2 header?
  else data.head? = some 0

/-- `PKT_CANCEL`, `PKT_SSLREQ`, `PKT_GSSENCREQ`, `PKT_STARTUP_V3`,
`PKT_STARTUP_V3_UNSUPPORTED` and `PKT_STARTUP_V2`. -/
def specialCodes : List Nat := [80877102, 80877103, 80877104, 0x30000, 0x30001, 0x20000]

/-- The type a code stands for. -/
def specialType (code : Nat) : Option Nat :=
  if code = 80877102 then some 80877102
  else if code = 80877103 then some 80877103
  else if code = 80877104 then some 80877104
  else if 0x30000 ≤ code ∧ code < 0x30001 then some 0x30000
  else if 0x30001 ≤ code ∧ code < 0x40000 then some 0x30001
  else if code = 0x20000 then some 0x20000
  else none

/-- The end of `get_header`: do not believe nonsense. -/
def checkLen (maxPacketSize : UInt32) (got : Nat) (data : Bytes) (type len : Nat) : Option PktHdr :=
  if len < got ∨ maxPacketSize.toNat < len then none
  else some { type, len, data := (data.take len).drop got }

/-- The header of a special packet, behind its first byte. -/
def specialHeader : Bytes → Option (Nat × Nat)
  | second :: a :: b :: rest =>
    if second ≠ 0 then none
    else
      (getUint32be rest).bind fun (code, _) =>
        (specialType code).map (·, a.toNat * 256 + b.toNat)
  | _ => none

def getHeader (maxPacketSize : UInt32) (data : Bytes) : Option PktHdr :=
  match data with
  | [] => none
  | type :: rest =>
    if type ≠ 0 then
      (getUint32be rest).bind fun (len, _) =>
        checkLen maxPacketSize newHeaderLen data type.toNat ((len + 1) % 2 ^ 32)
    else
      (specialHeader rest).bind fun (type, len) =>
        checkLen maxPacketSize oldHeaderLen data type len

/-! ### Writing -/

def intMax : Nat := 2 ^ 31 - 1

structure PktBuf where
  /-- What stands in front of `write_pos`. -/
  buf : Bytes := []
  bufLen : Nat
  pktlenPos : Nat := 0
  failed : Bool := false
  fixedBuf : Bool := false

/-- The loop of `make_room`.  A buffer has at least one byte, so 31 turns are enough. -/
def doubled (need : Nat) : Nat → Nat → Nat
  | 0, newlen => newlen
  | turns + 1, newlen =>
    if newlen < need then
      if intMax < newlen * 2 then need else doubled need turns (newlen * 2)
    else newlen

/-- What is put into a packet. -/
inductive Put
  | char (val : UInt8)
  | uint16 (val : Nat)
  | uint32 (val : Nat)
  | uint64 (val : Nat)
  | string (str : Bytes)
  | bytes (data : Bytes)
  deriving DecidableEq

/-- The four bytes of a number. -/
def uint32be (val : Nat) : Bytes :=
  [UInt8.ofNat (val / 2 ^ 24), UInt8.ofNat (val / 2 ^ 16), UInt8.ofNat (val / 2 ^ 8),
    UInt8.ofNat val]

namespace PktBuf

variable (realloc : Nat → Bool)

variable (b : PktBuf)

def makeRoom (len : Nat) : PktBuf :=
  let need := b.buf.length + len
  if need ≤ b.bufLen then b
  else if b.failed then b
  else if b.fixedBuf then { b with failed := true }
  else if intMax < need then { b with failed := true }
  else
    let newlen := doubled need 31 b.bufLen
    if realloc newlen then { b with bufLen := newlen } else { b with failed := true }

/-- Make room, and write if there is. -/
def putRaw (room : Nat) (data : Bytes) : PktBuf :=
  let b := b.makeRoom realloc room
  if b.failed then b else { b with buf := b.buf ++ data }

def putUint32 (val : Nat) : PktBuf := b.putRaw realloc 4 (uint32be val)

/-- The functions `pktbuf_put_char` to `pktbuf_put_bytes`. -/
def put : Put → PktBuf
  | .char val => b.putRaw realloc 1 [val]
  | .uint16 val => b.putRaw realloc 4 [UInt8.ofNat (val / 2 ^ 8), UInt8.ofNat val]
  | .uint32 val => b.putUint32 realloc val
  | .uint64 val => (b.putUint32 realloc (val / 2 ^ 32)).putUint32 realloc (val % 2 ^ 32)
  | .string str => b.putRaw realloc (str.length + 1) (str ++ [0])
  | .bytes data => if data.length = 0 then b else b.putRaw realloc data.length data

def startPacket (type : Nat) : PktBuf :=
  if b.failed then b
  else if type < 256 then
    let b := b.put realloc (.char (UInt8.ofNat type))
    { b with pktlenPos := b.buf.length }.putUint32 realloc 0
  else
    ({ b with pktlenPos := b.buf.length }.putUint32 realloc 0).putUint32 realloc type

def finishPacket : PktBuf :=
  if b.failed then b
  else
    let len := b.buf.length - b.pktlenPos
    { b with
      buf := b.buf.take b.pktlenPos ++ uint32be len ++ b.buf.drop (b.pktlenPos + 4)
      pktlenPos := 0 }

/-- A packet from start to finish; `pktbuf_write_generic` has one put for each letter of
its description. -/
def writeGeneric (type : Nat) (puts : List Put) : PktBuf :=
  (puts.foldl (put realloc) (b.startPacket realloc type)).finishPacket

end PktBuf

/-! ### Reading a buffer -/

/-- `get_header` again and again, over `n` packets at most. -/
def getPackets (maxPacketSize : UInt32) : Nat → Bytes → Option (List PktHdr)
  | _, [] => some []
  | 0, _ => none
  | n + 1, data =>
    (getHeader maxPacketSize data).bind fun pkt =>
      (getPackets maxPacketSize n (data.drop pkt.len)).map (pkt :: ·)

end PgBouncer.Wire
