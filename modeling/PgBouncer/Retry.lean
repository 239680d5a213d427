/-
The runs of `handle_client_work` on one packet.

A handler that returns false is run again on the same packet, when more bytes have
come in, when a server is free or when a socket takes data again.  What makes a run
stop is outside the handler: how much of the packet the buffer holds, what
`find_server` finds, whether `sbuf_flush` gets rid of the bytes in front of the
packet, and how many bytes of a direct answer the client's socket takes.  A `Turn`
is one choice of these.

A packet the buffer cannot hold is fetched through the packet callback, and later
runs have all of it.  `sbuf_process_pending` sends what is pending before it makes
the callback, so in these runs the flush has nothing to do.  A run that has called
`sbuf_prepare_skip` when it returns false is not repeated: the stream buffer skips
the packet next time without asking.
-/
import PgBouncer.ClientWork

namespace PgBouncer.Retry

/-- The counters of a pool that a client packet moves. -/
structure PgStats where
  xactCount : Nat := 0
  queryCount : Nat := 0
  clientBytes : Nat := 0
  serverAssignmentCount : Nat := 0
  psClientParseCount : Nat := 0
  psServerParseCount : Nat := 0
  psBindCount : Nat := 0
  deriving DecidableEq

/-- A packet of a client, with the length its header gives. -/
structure Packet where
  pkt : Pkt Bytes
  len : Nat
  /-- `get_header` accepts no length shorter than the header. -/
  header_le : 5 ≤ len

/-- What stays the same over the runs. -/
structure Setup where
  cfg : Config
  /-- `cf_sbuf_len`. -/
  sbufLen : Nat
  /-- `pool->db->admin`. -/
  admin : Bool := false
  /-- What the console writes for the query; nothing if the command fails. -/
  console : Option Bytes := none

/-- What `find_server` of a client without a server comes to. -/
inductive FindServer
  | found
  /-- A server is linked, but has to run a `SET` first. -/
  | settingVars
  | waiting
  deriving DecidableEq

/-- The circumstances of one run. -/
structure Turn where
  /-- Bytes of the packet in the buffer. -/
  received : Nat
  server : FindServer
  /-- `sbuf_flush` returns true. -/
  flushed : Bool
  /-- Bytes of a direct answer the client's socket takes. -/
  written : Nat
  deriving DecidableEq

variable (e : Setup) (pk : Packet) (s : State)

/-- Nothing is in the way. -/
def Turn.clear : Turn :=
  { received := pk.len, server := .found, flushed := true, written := 5 }

structure State where
  /-- The client, and the server it is linked to or is going to get. -/
  link : Link := {}
  /-- `client->link`. -/
  linked : Bool := false
  stats : PgStats := {}
  /-- `query_start` is set. -/
  queryStart : Bool := false
  /-- `xact_start` is set. -/
  xactStart : Bool := false
  /-- Bytes written to the client's socket by the handler itself. -/
  sent : Bytes := []
  /-- `packet_cb_state.flag == CB_HANDLE_COMPLETE_PACKET`. -/
  callback : Bool := false
  deriving DecidableEq

inductive Outcome
  | consumed
  /-- False: the next run starts over. -/
  | again
  /-- False, with the packet already marked to be skipped. -/
  | skipped
  | disconnected (d : Disconnect)
  deriving DecidableEq

/-- How much of the packet a run sees. -/
def Packet.seen (t : Turn) : Nat :=
  if s.callback then pk.len else min t.received pk.len

/-! ### Inspection -/

inductive PreparedStatementAction
  | ignore | handle | handleFullPacket | inspectFailed
  deriving DecidableEq

/-- How far the inspection of a packet reads, for the types that are inspected. -/
def inspectedBytes : Pkt Bytes → Option Nat
  | .parse name _ => some (5 + name.length + 1)
  | .bind portal name => some (5 + portal.length + 1 + name.length + 1)
  | .describe .statement name | .close .statement name => some (5 + 1 + name.length + 1)
  | .describe .portal _ | .close .portal _ => some (5 + 1)
  | _ => none

/-- `inspect_parse_packet`, `inspect_bind_packet` and
`inspect_describe_or_close_packet`, of a packet of which `seen` bytes are there. -/
def inspect (cfg : Config) (p : Pkt Bytes) (seen : Nat) : PreparedStatementAction :=
  match inspectedBytes p with
  | none => .ignore
  | some n =>
    if !cfg.isPreparedStatementsEnabled then .ignore
    else if seen < n then .inspectFailed
    else if !psAction cfg p then .ignore
    else if p.type = .parse then .handleFullPacket
    else .handle

/-! ### One run -/

/-- Packets that end the connection, whatever else. -/
def refused (cfg : Config) : Pkt Bytes → Option Disconnect
  | .unknown => some (.client "unknown pkt")
  | .terminate => some (.client "client close request")
  | .query => if cfg.disablePqexec then some (.client "PQexec disallowed") else none
  | _ => none

/-- Copy packets of a client without a server are dropped. -/
def lateCopy (p : Pkt Bytes) : Bool :=
  !s.linked && (p.type = .copyDone || p.type = .copyFail || p.type = .copyData)

/-- Come back for the rest of the packet, or have all of it fetched. -/
def waitForRest (fetch : Bool) : State × Outcome :=
  (if fetch then { s with callback := true } else s, .again)

/-- The message `SEND_CloseComplete` writes. -/
def closeComplete : Bytes := [0x33, 0, 0, 0, 4]

/-- Forget the client's name of a statement. -/
def forget (name : Bytes) : State :=
  { s with link := { s.link with
      client := (forgetStatement s.link.client s.link.stmts name).1
      stmts := (forgetStatement s.link.client s.link.stmts name).2 } }

/-- Whether a Close is answered on the client's socket, past the server's stream. -/
def answersDirectly : Bool :=
  !s.linked || nothingInFlightToClient s.link.server

def writeDirectly (answer : Bytes) : State :=
  { s with sent := s.sent ++ answer }

/-- The answer waits behind what is in flight. -/
def queueAnswer : State :=
  { s with link := { s.link with
      server := addOutstandingRequest s.link.server .close .fake } }

/-- What `handle_client_work` does after a Close was answered. -/
def closed : State :=
  { s with
    stats := { s.stats with clientBytes := s.stats.clientBytes + pk.len }
    callback := false }

/-- `handle_close_statement_command`, with what `handle_client_work` does after it. -/
def closeNamed (name : Bytes) (s : State) (t : Turn) : State × Outcome :=
  let s := forget s name
  if answersDirectly s then
    let s := writeDirectly s (closeComplete.take t.written)
    if t.written < closeComplete.length then (s, if s.callback then .again else .skipped)
    else (closed pk s, .consumed)
  else (closed pk (queueAnswer s), .consumed)

/-- The first packet of a query, and of a transaction, is counted. -/
def countStart : State :=
  { s with
    stats := { s.stats with
      queryCount := s.stats.queryCount + (if s.queryStart then 0 else 1)
      xactCount := s.stats.xactCount + (if s.xactStart then 0 else 1) }
    queryStart := true
    xactStart := true }

/-- `admin_handle_client`. -/
def adminHandleClient (seen : Nat) : State × Outcome :=
  if seen < pk.len then (s, .disconnected (.client "incomplete pkt"))
  else if pk.pkt.type = .query then
    match e.console with
    | some answer => ({ s with sent := s.sent ++ answer, callback := false }, .consumed)
    | none => (s, .disconnected (.client "failure"))
  else (s, .disconnected (.client "bad packet"))

/-- Whether the shared statement behind a client's name has to be prepared first. -/
def missingOnServer (l : Link) (name : Bytes) : Bool :=
  match getClientPreparedStatement l name with
  | none => false
  | some ps => !l.server.serverPreparedStatements.contains ps.queryId

/-- The counters `prepare.c` moves. -/
def countStatement (cfg : Config) (l : Link) (p : Pkt Bytes) (stats : PgStats) : PgStats :=
  if !psAction cfg p then stats
  else match p with
    | .parse name query =>
      if (l.client.find? name).isSome then stats
      else
        let (ps, found, _) := getPreparedStatement l.stmts query
        { stats with
          psClientParseCount := stats.psClientParseCount + 1
          psServerParseCount := stats.psServerParseCount +
            if found && l.server.serverPreparedStatements.contains ps.queryId then 0 else 1 }
    | .bind _ name =>
      { stats with
        psBindCount := stats.psBindCount + 1
        psServerParseCount := stats.psServerParseCount +
          if missingOnServer l name then 1 else 0 }
    | .describe _ name =>
      { stats with
        psServerParseCount := stats.psServerParseCount +
          if missingOnServer l name then 1 else 0 }
    | _ => stats

/-- What is done with a packet that is there and has a server. -/
def deliver : State × Outcome :=
  match handleClientWork e.cfg s.link pk.pkt with
  | (l, none) =>
    ({ s with
      link := l
      stats := countStatement e.cfg s.link pk.pkt s.stats
      callback := false }, .consumed)
  | (l, some d) =>
    ({ s with link := l, stats := countStatement e.cfg s.link pk.pkt s.stats },
      .disconnected d)

/-- `find_server` has linked a server. -/
def assign : State :=
  { s with
    linked := true
    stats := { s.stats with
      serverAssignmentCount :=
        s.stats.serverAssignmentCount + (if s.linked then 0 else 1) } }

/-- `client_bytes` is counted and the server tagged dirty as soon as there is one. -/
def countBytes : State :=
  { s with
    stats := { s.stats with clientBytes := s.stats.clientBytes + pk.len }
    link := tagDirty s.link }

/-- The second half of `handle_client_work`, for packets that need a server.  A
packet of `prepare.c` first needs the bytes in front of it flushed, and a Describe
has to be complete. -/
def serve (statement : Bool) (s : State) (t : Turn) (seen : Nat) : State × Outcome :=
  let s := countStart s
  if e.admin then adminHandleClient e pk s seen
  else if !s.linked && t.server ≠ .found then
    (if t.server = .settingVars then assign s else s, .again)
  else
    let s := countBytes pk (assign s)
    if statement && !(s.callback || t.flushed) then (s, .again)
    else if statement && pk.pkt.type = .describe && seen < pk.len then (s, .again)
    else deliver e pk s

/-- One run of `handle_client_work`. -/
def attempt (t : Turn) : State × Outcome :=
  match refused e.cfg pk.pkt with
  | some d => (s, .disconnected d)
  | none =>
    if lateCopy s pk.pkt then ({ s with callback := false }, .consumed)
    else
      let seen := pk.seen s t
      match inspect e.cfg pk.pkt seen with
      | .inspectFailed =>
        if pk.len ≤ seen then (s, .disconnected (.client "failed to parse packet"))
        else waitForRest s (e.sbufLen ≤ seen)
      | .handleFullPacket =>
        if seen < pk.len then waitForRest s (e.sbufLen < pk.len)
        else serve e pk true s t seen
      | .handle =>
        match pk.pkt with
        | .close _ name =>
          if seen < pk.len then (s, .again) else closeNamed pk name s t
        | _ => serve e pk true s t seen
      | .ignore => serve e pk false s t seen

/-- The runs on one packet, until one of them is the last. -/
def attempts : State → List Turn → State × Outcome
  | s, [] => (s, .again)
  | s, t :: ts =>
    match attempt e pk s t with
    | (s', .again) => attempts s' ts
    | r => r

/-- The runs that took place, each with the state it started in. -/
def visited : State → List Turn → List (State × Turn)
  | _, [] => []
  | s, t :: ts =>
    match attempt e pk s t with
    | (s', .again) => (s, t) :: visited s' ts
    | _ => [(s, t)]

end PgBouncer.Retry
