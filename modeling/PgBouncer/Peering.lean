/-
Cancel requests among peers.

Several pgbouncers may stand behind one load balancer, and then a cancel request may come
to another one than its client is logged in to.  The key a client gets therefore says
where it comes from: its second and third byte are the peer id of the bouncer that has
issued it, and the last two bits of its last byte are a number of hops, which starts at
three.  A bouncer that gets a request with another id than its own lowers the number and
sends the request on to the peer of that id.  A bouncer that finds its own id sets the two
bits again, as they are in every key it has stored, and looks for the client.

A network is a family of such bouncers.  What a bouncer knows as the peer of some id may
be any bouncer, itself included: the addresses of its peers are whatever has been written
into its configuration.
-/
import PgBouncer.Auth.Users

namespace PgBouncer.Peering

/-- `cancel_key`, with `BACKENDKEY_LEN` bytes. -/
abbrev CancelKey := Vector UInt8 8

/-- `CANCELLATION_TTL_MASK`. -/
def cancellationTtlMask : UInt8 := 0x03

/-- The part of `welcome_client` that makes the key of a client out of random bytes. -/
def welcomeClient (peerId : Nat) (random : CancelKey) : CancelKey :=
  let key :=
    if 0 < peerId then
      ((random.set 1 (peerId &&& 0xFF).toUInt8).set 2 ((peerId >>> 8) &&& 0xFF).toUInt8).set 7
        (random[7] ||| cancellationTtlMask)
    else random
  key.set 0 (key[0] &&& 0x7F)

/-- The hops that are left to a request. -/
def ttl (key : CancelKey) : Nat := (key[7] &&& cancellationTtlMask).toNat

/-- A key with the two bits set, as it is stored. -/
def refresh (key : CancelKey) : CancelKey := key.set 7 (key[7] ||| cancellationTtlMask)

/-- The id in a key. -/
def keyPeerId (key : CancelKey) : Nat := key[1].toNat + key[2].toNat <<< 8

/-- A bouncer, as a cancel request finds it; `β` are the bouncers there are. -/
structure Bouncer (β : Type*) where
  /-- `cf_peer_id`. -/
  peerId : Nat
  /-- `find_peer`, with the bouncer that a connection to the peer ends at. -/
  findPeer : Nat → Option β
  /-- The keys of the clients on `active_client_list` and `waiting_client_list` of the pools. -/
  clients : List CancelKey

/-- What becomes of a cancel request at one bouncer. -/
inductive Outcome (β : Type*)
  /-- There is a client with this key. -/
  | found (key : CancelKey)
  /-- The request is sent to a peer with a key. -/
  | forwarded (peer : β) (key : CancelKey)
  | disconnected (reason : Bytes)
  deriving DecidableEq

variable {β : Type*}

namespace Bouncer

def acceptCancelRequestForPeer (b : Bouncer β) (peerId : Nat) (key : CancelKey) : Outcome β :=
  if key[7] &&& cancellationTtlMask = 0 then
    .disconnected (text "failed to forward cancel request because its TTL was exhausted")
  else
    let key := key.set 7 (key[7] - 1)
    match b.findPeer peerId with
    | none => .disconnected (text "could not find peer to forward request to")
    | some peer => .forwarded peer key

/-- `accept_cancel_request`, up to the client it finds. -/
def acceptCancelRequest (b : Bouncer β) (key : CancelKey) : Outcome β :=
  let peerId := key[1].toNat + key[2].toNat <<< 8
  if 0 < b.peerId ∧ b.peerId ≠ peerId then b.acceptCancelRequestForPeer peerId key
  else
    let key := if 0 < b.peerId then key.set 7 (key[7] ||| cancellationTtlMask) else key
    if b.clients.any (· == key) then .found key
    else .disconnected (text "failed cancel request")

end Bouncer

/-- The bouncers and their configurations. -/
abbrev Network (β : Type*) := β → Bouncer β

namespace Network

/-- Where a request is, and with which key, after it has been forwarded `n` times, if it is
forwarded that often. -/
def afterHops (net : Network β) : Nat → β × CancelKey → Option (β × CancelKey)
  | 0, request => some request
  | n + 1, (b, key) =>
    match (net b).acceptCancelRequest key with
    | .forwarded peer key => net.afterHops n (peer, key)
    | _ => none

end Network

end PgBouncer.Peering
