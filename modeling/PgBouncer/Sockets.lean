/-
Sockets, the lists they are in, and the links between them.

pgbouncer keeps every socket in the list that belongs to its state, and links a client to
the server that works for it; `objects.c` does both.  Its operations call each other in
circles: closing a client may release its server, which wakes a client that waits for it,
and what that client has sent is read before the call returns.  So a call is put on the
stack `todo` together with what its caller does afterwards, and `tick` carries out what is
on top.  `reading c` stands for the loop that reads from a client: while it is on top that
client may do what clients do, until `readDone`.  All other events need an empty stack.

A socket that has not been used yet is the empty record.  Which of several
things a packet, a timeout or the console leads to is a choice of the events, and `Env`
says what a call depends on beside the sockets; the traffic of queries only changes flags.
`fatal` is set where the program gives up or would follow a pointer to nowhere.

`inFlight` is about the backend: the keys that have been written on connections which the
backend has not closed.  pgbouncer knows nothing of it, and nothing of `target`.
-/
import PgBouncer.Proto
import PgBouncer.Lib.Run
import PgBouncer.Lib.StatLists

namespace PgBouncer.Sockets

/-- `enum SocketState`, the states of clients. -/
inductive ClientState
  | free | justFree | login | waiting | waitingLogin | active | waitingCancel | activeCancel
  deriving DecidableEq

/-- `enum SocketState`, the states of servers. -/
inductive ServerState
  | free | justFree | login | beingCanceled | idle | active | activeCancel | used | tested
  deriving DecidableEq

/-- The lists of clients; most belong to a pool. -/
inductive ClientList
  | justFree
  | login
  | active (pool : Nat)
  | waiting (pool : Nat)
  | activeCancelReq (pool : Nat)
  | waitingCancelReq (pool : Nat)
  deriving DecidableEq

/-- The lists of servers. -/
inductive ServerList
  | justFree
  | new (pool : Nat)
  | used (pool : Nat)
  | tested (pool : Nat)
  | beingCanceled (pool : Nat)
  | idle (pool : Nat)
  | active (pool : Nat)
  | activeCancel (pool : Nat)
  deriving DecidableEq

/-- `PgSocket` of a client. -/
structure Client where
  state : ClientState := .free
  /-- 0 is NULL. -/
  pool : Nat := 0
  /-- 0 is NULL, or a database made up for this client. -/
  db : Nat := 0
  link : Option Nat := none
  /-- The server that is being canceled by this request. -/
  canceledServer : Option Nat := none
  cancelKey : Bytes := []
  replication : Bool := false
  copyMode : Bool := false
  waitForUserConn : Bool := false
  waitForUser : Bool := false
  waitForAuth : Bool := false
  waitForWelcome : Bool := false
  startupMessageReceived : Bool := false
  /-- Its socket is waited for; not so behind `sbuf_pause`. -/
  reading : Bool := false
  /-- The client this request is aimed at. -/
  target : Option Nat := none
  deriving DecidableEq

/-- `PgSocket` of a server. -/
structure Server where
  state : ServerState := .free
  pool : Nat := 0
  link : Option Nat := none
  ready : Bool := false
  /-- The length of `outstanding_requests`. -/
  outstanding : Nat := 0
  sbufIsEmpty : Bool := true
  closeNeeded : Bool := false
  settingVars : Bool := false
  resetting : Bool := false
  replication : Bool := false
  /-- `SBUF_EV_CONNECT_OK` has been seen. -/
  connected : Bool := false
  /-- `send_startup_message` has been called. -/
  startupSent : Bool := false
  cancelKey : Bytes := []
  cancelingClients : StatList Nat := {}
  deriving DecidableEq

/-- `sending_auth_query`. -/
def Client.sendingAuthQuery (cl : Client) : Bool := cl.waitForUserConn || cl.waitForUser

/-- The list a client belongs to. -/
def Client.list (cl : Client) : Option ClientList :=
  match cl.state with
  | .free => none
  | .justFree => some .justFree
  | .login => some .login
  | .waiting | .waitingLogin => some (.waiting cl.pool)
  | .active => some (.active cl.pool)
  | .activeCancel => some (.activeCancelReq cl.pool)
  | .waitingCancel => some (.waitingCancelReq cl.pool)

/-- The list a server belongs to. -/
def Server.list (sv : Server) : Option ServerList :=
  match sv.state with
  | .free => none
  | .justFree => some .justFree
  | .login => some (.new sv.pool)
  | .used => some (.used sv.pool)
  | .tested => some (.tested sv.pool)
  | .beingCanceled => some (.beingCanceled sv.pool)
  | .idle => some (.idle sv.pool)
  | .active => some (.active sv.pool)
  | .activeCancel => some (.activeCancel sv.pool)

/-- The key of a server has been written on a connection. -/
structure Flight where
  conn : Nat
  server : Nat
  key : Bytes
  target : Option Nat
  deriving DecidableEq

/-- Where the program gives up. -/
inductive Fatal
  | clientProto | serverProto | releaseServer | disconnectServer | disconnectClient
  /-- Not a call of `fatal`: NULL, or the head of a list, is taken for a socket. -/
  | wildPointer
  deriving DecidableEq

/-- The loops over a list of clients in which one may be read from. -/
inductive Walk
  | activate (pool : Nat)
  | close
  | closeLogin (pool : Nat)
  deriving DecidableEq

/-- Where a loop is: at a socket, or at the head of a list. -/
inductive Cursor (List : Type)
  | socket (x : Nat)
  | head (list : List)
  deriving DecidableEq

/-- What is still to be done. -/
inductive Task
  | disconnectClient (c : Nat)
  /-- The end of `disconnect_client`. -/
  | closeClient (c : Nat)
  | disconnectServer (s : Nat)
  /-- The end of `disconnect_server`. -/
  | closeServer (s : Nat)
  /-- `sbuf_continue`. -/
  | reading (c : Nat)
  | adminReady (a : Nat)
  | forClients (walk : Walk) (list : ClientList)
  | nextClient (walk : Walk) (list : ClientList) (item : Cursor ClientList)
  /-- `close_server_list`. -/
  | forServers (list : ServerList)
  | nextServer (list : ServerList) (item : Cursor ServerList)
  | freePool (pool : Nat)
  | freeDatabase (db : Nat)
  deriving DecidableEq

structure World where
  clients : Nat → Client := fun _ => {}
  servers : Nat → Server := fun _ => {}
  clientLists : ClientList → StatList Nat := fun _ => {}
  serverLists : ServerList → StatList Nat := fun _ => {}
  /-- `pool_list`, with the databases. -/
  pools : List (Nat × Nat) := []
  nPools : Nat := 0
  databases : List Nat := []
  nDatabases : Nat := 0
  welcomeMsgReady : Nat → Bool := fun _ => false
  todo : List Task := []
  fatal : Option Fatal := none
  inFlight : List Flight := []

structure Config where
  serverResetQuery : Bool := true
  serverResetQueryAlways : Bool := false
  serverCheckQuery : Bool := true
  /-- `cf_server_check_delay == 0`. -/
  serverCheckDelayZero : Bool := false
  serverRoundRobin : Bool := false
  serverFastClose : Bool := false
  /-- The pools in session mode. -/
  session : Nat → Bool := fun _ => false
  /-- The pool of the console. -/
  admin : Nat → Bool := fun _ => false
  /-- The pools of the peers. -/
  peer : Nat → Bool := fun _ => false
  peerId : Nat := 0
  /-- `find_peer` and `get_peer_pool`. -/
  findPeer : Nat → Option Nat := fun _ => none

/-- What a call depends on beside the sockets. -/
structure Env where
  /-- `life_over`. -/
  lifeOver : Bool := false
  /-- What is sent could be sent. -/
  sent : Bool := true
  /-- `sbuf_pause` works. -/
  paused : Bool := true
  /-- `SHUTDOWN_WAIT_FOR_SERVERS`. -/
  shutdown : Bool := false
  /-- The pool or the whole of pgbouncer is paused. -/
  dbPaused : Bool := false
  /-- `check_fast_fail` lets the client go on. -/
  fastFailOk : Bool := true
  /-- `varcache_apply` could send what it had to. -/
  varsSent : Bool := true
  /-- It had something to send. -/
  varchange : Bool := false
  /-- `launch_recheck` has to send a query. -/
  needCheck : Bool := true
  /-- `per_loop_activate` asks for a test, or gives up. -/
  recheck : Bool := false
  stop : Bool := false
  deriving DecidableEq

/-- `connection_pool_mode` is `POOL_SESSION`. -/
def Config.sessionMode (cfg : Config) (sv : Server) : Bool :=
  sv.replication || cfg.session sv.pool

namespace World

/-! ### Changes -/

variable (cfg : Config) (w : World)

def modifyClient (c : Nat) (f : Client → Client) : World :=
  { w with clients := Function.update w.clients c (f (w.clients c)) }

def modifyServer (s : Nat) (f : Server → Server) : World :=
  { w with servers := Function.update w.servers s (f (w.servers s)) }

/-- Calls, with what is to be done after them. -/
def push (tasks : List Task) : World := { w with todo := tasks ++ w.todo }

def die (f : Fatal) : World := { w with fatal := some f }

/-- The state a client changes to. -/
def newClientState : ClientState → ClientState → ClientState
  | .login, .waiting => .waitingLogin
  | .waitingLogin, .active => .login
  | _, newstate => newstate

/-- `change_client_state`. -/
def changeClientState (c : Nat) (newstate : ClientState) : World :=
  let cl := w.clients c
  let cl' := { cl with state := newClientState cl.state newstate }
  { w with
    clients := Function.update w.clients c cl'
    clientLists := StatList.putOn (StatList.takeOff w.clientLists c cl.list) c false cl'.list }

/-- Whether a server is put in front of its list. -/
def prepends (sv : Server) : ServerState → Bool
  | .used => true
  | .idle => !(sv.closeNeeded || cfg.serverRoundRobin)
  | _ => false

/-- `change_server_state`. -/
def changeServerState (s : Nat) (newstate : ServerState) : World :=
  let sv := w.servers s
  let sv' := { sv with state := newstate }
  { w with
    servers := Function.update w.servers s sv'
    serverLists := StatList.putOn (StatList.takeOff w.serverLists s sv.list) s
      (prepends cfg sv newstate) sv'.list }

/-- Set `link` on both sides. -/
def setLink (c s : Nat) : World :=
  (w.modifyClient c fun cl => { cl with link := some s }).modifyServer s
    fun sv => { sv with link := some c }

/-- Clear `link` on both sides. -/
def unlink (c s : Nat) : World :=
  (w.modifyClient c fun cl => { cl with link := none }).modifyServer s
    fun sv => { sv with link := none }

/-! ### Closing -/

/-- The end of `disconnect_client`. -/
def closeClient (c : Nat) : World :=
  (w.changeClientState c .justFree).modifyClient c fun cl => { cl with reading := false }

/-- Requests are taken off a server. -/
def takeOffCancels (s : Nat) (which : Nat → Bool) : World :=
  { w with
    clients := fun c =>
      if c ∈ (w.servers s).cancelingClients.items ∧ which c then
        { w.clients c with canceledServer := none }
      else w.clients c
    servers := Function.update w.servers s
      { w.servers s with
        cancelingClients := (w.servers s).cancelingClients.removeWhere which } }

/-- The end of `disconnect_server`. -/
def closeServer (s : Nat) : World :=
  let w := (w.takeOffCancels s fun _ => true).changeServerState cfg s .justFree
  { w with inFlight := w.inFlight.filter (·.server ≠ s) }

/-- `unlink_server`, and the end of `disconnect_server`. -/
def unlinkServer (s : Nat) : World :=
  match (w.servers s).link with
  | none => w.closeServer cfg s
  | some c => (w.unlink c s).push [.disconnectClient c, .closeServer s]

/-- `disconnect_server`. -/
def disconnectServer (s : Nat) : World :=
  match (w.servers s).state with
  | .activeCancel | .active => w.unlinkServer cfg s
  | .tested | .used | .idle | .beingCanceled => w.closeServer cfg s
  | .login => if (w.servers s).replication then w.unlinkServer cfg s else w.closeServer cfg s
  | .free | .justFree => w.die .disconnectServer

/-! ### `release_server` -/

/-- `activate_client`. -/
def activateClient (c : Nat) : World :=
  ((w.changeClientState c .active).modifyClient c fun cl => { cl with reading := true }).push
    [.reading c]

/-- `reuse_on_release`. -/
def reuseOnRelease (s : Nat) : World :=
  match (w.clientLists (.waiting (w.servers s).pool)).first with
  | none => w
  | some c =>
    if !(w.clients c).replication || (w.clients c).sendingAuthQuery then w.activateClient c else w

/-- What `release_server` does to the link. -/
def unlinkReleased (s : Nat) : World :=
  match (w.servers s).link with
  | none => w
  | some c => (w.unlink c s).modifyClient c fun cl => { cl with copyMode := false }

/-- Where `release_server` puts a server that was in use. -/
def newState (sv : Server) : ServerState :=
  if cfg.serverResetQuery && (cfg.serverResetQueryAlways || cfg.sessionMode sv) then .tested
  else if cfg.serverCheckDelayZero && cfg.serverCheckQuery then .used
  else .idle

/-- `release_server` behind the point where the link is gone. -/
def settleServer (s : Nat) (newstate : ServerState) (env : Env) : World :=
  let w := w.takeOffCancels s fun c => (w.clients c).state = .waitingCancel
  let sv := w.servers s
  -- enforce lifetime immediately on release
  if sv.state ≠ .login ∧ env.lifeOver then w.disconnectServer cfg s
  else if sv.outstanding > 0 then w.disconnectServer cfg s
  else if sv.closeNeeded then w.disconnectServer cfg s
  else if sv.cancelingClients.curCount > 0 then w.changeServerState cfg s .beingCanceled
  else if sv.replication then
    match sv.link with
    | some c => (w.changeServerState cfg s .active).activateClient c
    | none => w.disconnectServer cfg s
  else
    let w := w.changeServerState cfg s newstate
    match newstate with
    | .idle => w.reuseOnRelease s
    | .tested => if env.sent then w else w.disconnectServer cfg s
    | _ => w

/-- `release_server`. -/
def releaseServer (s : Nat) (env : Env) : World :=
  match (w.servers s).state with
  | .beingCanceled | .active =>
    (w.unlinkReleased s).settleServer cfg s (newState cfg (w.servers s)) env
  | .used | .tested | .login => w.settleServer cfg s .idle env
  | .free | .justFree | .idle | .activeCancel => w.die .releaseServer

/-! ### `disconnect_client` -/

/-- The server has to be closed with its client. -/
def mustCloseServer (sv : Server) : Bool :=
  !sv.ready || sv.outstanding > 0 || !sv.sbufIsEmpty

/-- A request is over: it is taken off the server, and if that has waited for it the
server goes back to its pool. -/
def finishCancel (r : Nat) (env : Env) : World :=
  match (w.clients r).canceledServer with
  | none => w
  | some s =>
    let w := (w.modifyServer s fun sv =>
      { sv with cancelingClients := sv.cancelingClients.remove r }).modifyClient r
        fun cl => { cl with canceledServer := none }
    if (w.servers s).state = .beingCanceled ∧ (w.servers s).cancelingClients.curCount = 0 then
      w.releaseServer cfg s env
    else w

/-- A cancel request gives up the connection it is being sent on. -/
def dropConnection (r : Nat) : World :=
  match (w.clients r).link with
  | none => w
  | some s =>
    -- notify disconnect_server() that connect did not fail
    ((w.unlink r s).modifyServer s fun sv => { sv with ready := true }).disconnectServer cfg s

/-- `disconnect_client`.  Where a client may be woken on the way its end is left for later. -/
def disconnectClient (c : Nat) (env : Env) : World :=
  let cl := w.clients c
  match cl.state with
  | .active | .login =>
    match cl.link with
    | none => w.closeClient c
    | some s =>
      if mustCloseServer (w.servers s) then
        ((w.unlink c s).disconnectServer cfg s).closeClient c
      else (w.push [.closeClient c]).releaseServer cfg s env
  | .activeCancel | .waitingCancel =>
    ((w.dropConnection cfg c).push [.closeClient c]).finishCancel cfg c env
  | .waiting | .waitingLogin =>
    match cl.replication, cl.link with
    | true, some s => ((w.unlink c s).disconnectServer cfg s).closeClient c
    | _, _ => w.closeClient c
  | .free | .justFree => w.die .disconnectClient

/-! ### Getting a server -/

/-- `pause_client`. -/
def pauseClient (c : Nat) (env : Env) : World :=
  if env.shutdown then w.disconnectClient cfg c env
  else
    let w := w.changeClientState c .waiting
    if env.paused then w.modifyClient c fun cl => { cl with reading := false }
    else w.disconnectClient cfg c env

/-- The first idle server that is fit for use; those before it are closed. -/
def takeIdle (cfg : Config) (w : World) : List Nat → World × Option Nat
  | [] => (w, none)
  | s :: rest =>
    if (w.servers s).closeNeeded || !(w.servers s).ready then
      takeIdle cfg (w.disconnectServer cfg s) rest
    else (w, some s)

/-- The end of `find_server`, with an idle server. -/
def linkServer (c s : Nat) (varchange : Bool) (env : Env) : World × Bool :=
  let w := (w.setLink c s).changeServerState cfg s .active
  if varchange then
    let w := w.modifyServer s fun sv => { sv with settingVars := true, ready := false }
    if env.paused then (w.modifyClient c fun cl => { cl with reading := false }, false)
    else (w.disconnectClient cfg c env, false)
  else (w, true)

/-- `find_server`, and whether the client can go on. -/
def findServer (c : Nat) (env : Env) : World × Bool :=
  let cl := w.clients c
  if cl.link.isSome then (w, true)
  else if env.dbPaused || (cl.replication && !cl.sendingAuthQuery) then
    (w.pauseClient cfg c env, false)
  else
    match takeIdle cfg w (w.serverLists (.idle cl.pool)).items with
    | (w, none) =>
      if env.fastFailOk then (w.pauseClient cfg c env, false)
      else (w.disconnectClient cfg c env, false)
    | (w, some s) =>
      if cl.sendingAuthQuery then w.linkServer cfg c s false env
      else if env.varsSent then w.linkServer cfg c s env.varchange env
      else ((w.disconnectServer cfg s).pauseClient cfg c env, false)

/-- `start_auth_query`. -/
def startAuthQuery (c pool db : Nat) (env : Env) : World :=
  let w := w.modifyClient c fun cl => { cl with pool, db, waitForUserConn := true }
  match w.findServer cfg c env with
  | (w, false) => w
  | (w, true) =>
    let w := w.modifyClient c fun cl => { cl with waitForUserConn := false, waitForUser := true }
    match (w.clients c).link with
    | none => w.die .wildPointer
    | some s =>
      -- the client has no link any more when it is closed
      if !env.paused then (w.push [.closeClient c]).releaseServer cfg s env
      else
        let w := (w.modifyClient c fun cl => { cl with reading := false }).modifyServer s
          fun sv => { sv with ready := false, outstanding := sv.outstanding + 1 }
        if env.sent then w else w.disconnectServer cfg s

/-- `finish_client_login`, with the key the client is given. -/
def finishClientLogin (c : Nat) (key : Bytes) (env : Env) : World :=
  let w := if (w.clients c).state = .login then w.changeClientState c .active else w
  let w := w.modifyClient c fun cl => { cl with waitForAuth := false }
  if w.welcomeMsgReady (w.clients c).pool || cfg.admin (w.clients c).pool then
    w.modifyClient c fun cl => { cl with waitForWelcome := false, cancelKey := key }
  else (w.modifyClient c fun cl => { cl with waitForWelcome := true }).pauseClient cfg c env

/-- A packet that is forwarded; some are answered, and tracked. -/
def forward (c : Nat) (tracked : Nat) (env : Env) : World :=
  match w.findServer cfg c env with
  | (w, false) => w
  | (w, true) =>
    match (w.clients c).link with
    | none => w.die .wildPointer
    | some s =>
      w.modifyServer s fun sv =>
        { sv with ready := false, outstanding := sv.outstanding + tracked }

/-! ### Cancel requests -/

/-- `CANCELLATION_TTL_MASK`. -/
def cancellationTtlMask : UInt8 := 3

/-- The peer a key belongs to. -/
def peerOf (key : Bytes) : Nat := (key.getD 1 0).toNat + (key.getD 2 0).toNat * 256

/-- A client a request can be aimed at has this key. -/
def hasKey (cl : Client) (key : Bytes) : Bool :=
  (cl.state = .active || cl.state = .waiting || cl.state = .waitingLogin) && cl.cancelKey = key

/-- One of the clients of all pools has this key. -/
def anyKey (key : Bytes) : Bool :=
  w.pools.any fun p =>
    (w.clientLists (.active p.1)).items.any (fun c => (w.clients c).cancelKey = key) ||
      (w.clientLists (.waiting p.1)).items.any fun c => (w.clients c).cancelKey = key

/-- `pause_cancel_request`. -/
def pauseCancelRequest (r : Nat) (env : Env) : World :=
  let w := w.changeClientState r .waitingCancel
  if env.paused then w.modifyClient r fun cl => { cl with reading := false }
  else w.disconnectClient cfg r env

/-- `accept_cancel_request_for_peer`. -/
def acceptCancelRequestForPeer (r : Nat) (key : Bytes) (env : Env) : World :=
  if key.getD 7 0 &&& cancellationTtlMask = 0 then w.disconnectClient cfg r env
  else
    match cfg.findPeer (peerOf key) with
    | none => w.disconnectClient cfg r env
    | some pool =>
      (w.modifyClient r fun cl =>
        { cl with cancelKey := key.set 7 (key.getD 7 0 - 1), pool }).pauseCancelRequest cfg r env

/-- `accept_cancel_request`, with the client the key was found at. -/
def acceptCancelRequest (r : Nat) (key : Bytes) (found : Option Nat) (env : Env) : World :=
  match found with
  | none => w.disconnectClient cfg r env
  | some t =>
    if cfg.admin (w.clients t).pool then w.disconnectClient cfg r env
    else
      match (w.clients t).link with
      | none => w.disconnectClient cfg r env
      | some s =>
        if (w.servers s).settingVars then w.disconnectClient cfg r env
        else
          let w := (w.modifyClient r fun cl =>
            { cl with
              cancelKey := key, canceledServer := some s, pool := (w.clients t).pool
              target := some t }).modifyServer s fun sv =>
              { sv with cancelingClients := sv.cancelingClients.append r }
          w.pauseCancelRequest cfg r env

/-- `forward_cancel_request`, of the first request that waits. -/
def forwardCancelRequest (s r : Nat) (env : Env) : World :=
  let w := w.setLink r s
  match cfg.peer (w.servers s).pool, (w.clients r).canceledServer with
  -- the query that was to be canceled is over
  | false, none => w.disconnectClient cfg r env
  | forwardingToPeer, canceledServer =>
    if !env.sent then w.disconnectClient cfg r env
    else
      let w := (w.changeClientState r .activeCancel).changeServerState cfg s .activeCancel
      match forwardingToPeer, canceledServer with
      | false, some server =>
        { w with inFlight := w.inFlight ++
          [{ conn := s, server, key := (w.servers server).cancelKey
             target := (w.clients r).target }] }
      | _, _ => w

/-! ### Servers -/

/-- `handle_connect`. -/
def handleConnect (s : Nat) (env : Env) : World :=
  let w := w.modifyServer s fun sv => { sv with connected := true }
  match (w.clientLists (.waitingCancelReq (w.servers s).pool)).first with
  | some r => w.forwardCancelRequest cfg s r env
  | none => if cfg.peer (w.servers s).pool then w.disconnectServer cfg s else w

/-- `send_startup_message`. -/
def sendStartupMessage (s : Nat) (env : Env) : World :=
  let w := w.modifyServer s fun sv => { sv with startupSent := true }
  match (w.clientLists (.waiting (w.servers s).pool)).first with
  | none => if env.sent then w else w.disconnectServer cfg s
  | some c =>
    if (w.clients c).replication && !(w.clients c).sendingAuthQuery then
      let w := w.modifyServer s fun sv => { sv with replication := true }
      if env.sent then w.setLink c s else w.disconnectServer cfg s
    else if env.sent then w
    else w.disconnectServer cfg s

/-- `pool_connected_server_count`. -/
def poolConnectedServerCount (p : Nat) : Int :=
  (w.serverLists (.active p)).curCount + (w.serverLists (.beingCanceled p)).curCount +
    (w.serverLists (.idle p)).curCount + (w.serverLists (.tested p)).curCount +
    (w.serverLists (.used p)).curCount

/-- `kill_pool_logins`.  Closing a client that waits wakes no other, so the loop goes over
the list as it was. -/
def killPoolLogins (p : Nat) : List Task :=
  if w.poolConnectedServerCount p ≠ 0 ∧ w.welcomeMsgReady p then []
  else (w.clientLists (.waiting p)).items.map .disconnectClient

/-- `SBUF_EV_FLUSH` of `server_proto`. -/
def flush (s : Nat) (env : Env) : World :=
  let sv := w.servers s
  if !sv.ready then w
  else if sv.settingVars then
    match sv.link with
    | none => w.die .wildPointer
    | some c =>
      ((w.modifyServer s fun sv => { sv with settingVars := false }).modifyClient c
        fun cl => { cl with reading := true }).push [.reading c]
  else if !cfg.sessionMode sv || sv.state = .tested || sv.resetting then
    let w := w.modifyServer s fun sv => { sv with resetting := false }
    match sv.state with
    | .active | .activeCancel | .tested =>
      match sv.link with
      | none => w.releaseServer cfg s env
      | some c =>
        -- keep link if client expects more responses
        if sv.outstanding > 0 || (w.clients c).copyMode then w
        else w.releaseServer cfg s env
    | _ => w
  else w

/-- A server is told what has become of it by the query traffic. -/
def traffic (s : Nat) (ready sbufIsEmpty copyMode : Bool) (outstanding : Nat) : World :=
  let w := w.modifyServer s fun sv => { sv with ready, sbufIsEmpty, outstanding }
  match (w.servers s).link with
  | none => w
  | some c => w.modifyClient c fun cl => { cl with copyMode }

/-- The end of an auth_query in `handle_auth_query_response`: the login of the client goes on
while it is still linked. -/
def authQueryDone (s : Nat) (ready sbufIsEmpty userFound : Bool)
    (outstanding : Nat) (env : Env) : World :=
  let w := w.modifyServer s fun sv => { sv with ready, sbufIsEmpty, outstanding }
  match (w.servers s).link with
  | none => w.die .wildPointer
  | some c =>
    if userFound then
      ((w.modifyServer s fun sv => { sv with resetting := true }).modifyClient c
        fun cl => { cl with reading := true }).push [.reading c]
    else w.disconnectClient cfg c env

/-! ### Upkeep -/

/-- `launch_new_connection`, if it is allowed to. -/
def launchNewConnection (p s : Nat) : World :=
  (w.modifyServer s fun sv => { sv with pool := p }).changeServerState cfg s .login

/-- `accept_client`. -/
def acceptClient (c : Nat) (replication : Bool) : World :=
  (w.modifyClient c fun cl => { cl with replication, reading := true }).changeClientState c .login

/-- `launch_recheck`, over the list of used servers. -/
def launchRecheck (cfg : Config) (w : World) (env : Env) : List Nat → World
  | [] => w
  | s :: rest =>
    if !(w.servers s).ready then launchRecheck cfg (w.disconnectServer cfg s) env rest
    else if env.needCheck then
      let w := w.changeServerState cfg s .tested
      if env.sent then w else w.disconnectServer cfg s
    else w.releaseServer cfg s env

/-- `tag_pool_dirty`. -/
def tagPoolDirty (p : Nat) : World :=
  if cfg.admin p then w
  else
    let tagged (s : Nat) : Bool :=
      [ServerList.idle p, .used p, .tested p, .active p, .new p].any
        fun l => s ∈ (w.serverLists l).items
    { w with
      welcomeMsgReady := Function.update w.welcomeMsgReady p false
      servers := fun s =>
        if tagged s then { w.servers s with closeNeeded := true } else w.servers s }.push
      ((w.serverLists (.new p)).items.map .disconnectServer)

/-- One server in the first loop of `pool_server_maint` over those that are active. -/
def maintServer (s : Nat) : World :=
  let sv := w.servers s
  let fast := cfg.serverFastClose && sv.ready && sv.closeNeeded
  w.push ((if fast then [.disconnectServer s] else []) ++
    if sv.replication && sv.closeNeeded then [.disconnectServer s] else [])

/-- `kill_pool`. -/
def killPool (p : Nat) : List Task :=
  [.forClients .close (.active p), .forClients .close (.waiting p),
    .forClients (.closeLogin p) .login, .forClients .close (.activeCancelReq p),
    .forClients .close (.waitingCancelReq p), .forServers (.active p),
    .forServers (.activeCancel p), .forServers (.beingCanceled p), .forServers (.idle p),
    .forServers (.used p), .forServers (.tested p), .forServers (.new p), .freePool p]

/-! ### Loops -/

/-- What follows a client in the list it is in now. -/
def afterClient (c : Nat) : Cursor ClientList :=
  match (w.clients c).list with
  | none => .socket c
  | some l => ((w.clientLists l).next c).elim (.head l) .socket

/-- What follows a server in the list it is in now. -/
def afterServer (s : Nat) : Cursor ServerList :=
  match (w.servers s).list with
  | none => .socket s
  | some l => ((w.serverLists l).next s).elim (.head l) .socket

/-- One client in a loop. -/
def visit (c : Nat) (env : Env) : Walk → World
  | .close => w.disconnectClient cfg c env
  | .closeLogin p => if (w.clients c).pool = p then w.disconnectClient cfg c env else w
  | .activate p =>
    -- a connection that is launched here is an event of its own
    if (w.clients c).replication then w
    else if (w.serverLists (.idle p)).items ≠ [] then
      if (w.clients c).waitForWelcome && !w.welcomeMsgReady p then w else w.activateClient c
    else if env.recheck then w.launchRecheck cfg env (w.serverLists (.used p)).items
    else w

/-- `per_loop_activate` leaves its loop. -/
def breaks (c : Nat) (env : Env) : Walk → Bool
  | .activate p =>
    env.stop && !(w.clients c).replication && (w.serverLists (.idle p)).items.isEmpty
  | _ => false

/-- Carry out one thing. -/
def perform (env : Env) : Task → World
  | .disconnectClient c => w.disconnectClient cfg c env
  | .closeClient c => w.closeClient c
  | .disconnectServer s => w.disconnectServer cfg s
  | .closeServer s => w.closeServer cfg s
  | .reading _ => w
  | .adminReady a =>
    -- a closed socket cannot be written to
    if env.sent && (w.clients a).state ≠ .justFree then w
    else w.disconnectClient cfg a env
  | .forClients walk list =>
    w.push [.nextClient walk list ((w.clientLists list).first.elim (.head list) .socket)]
  | .nextClient _ list (.head l) => if l = list then w else w.die .wildPointer
  | .nextClient walk list (.socket c) =>
    if breaks w c env walk then w
    else (w.push [.nextClient walk list (w.afterClient c)]).visit cfg c env walk
  | .forServers list =>
    w.push [.nextServer list ((w.serverLists list).first.elim (.head list) .socket)]
  | .nextServer list (.head l) => if l = list then w else w.die .wildPointer
  | .nextServer list (.socket s) =>
    (w.push [.nextServer list (w.afterServer s)]).disconnectServer cfg s
  | .freePool p => { w with pools := w.pools.filter (·.1 ≠ p) }
  | .freeDatabase d => { w with databases := w.databases.filter (· ≠ d) }

end World

/-! ### Events -/

/-- What can happen. -/
inductive Event
  /-- What is on top of the stack is carried out. -/
  | tick (env : Env)
  /-- All that a client has sent is read. -/
  | readDone
  /-- `accept_client`, of one that will ask for replication or not. -/
  | accept (c : Nat) (replication : Bool)
  /-- A client is gone, or sends what makes pgbouncer close it. -/
  | clientLost (c : Nat) (env : Env)
  /-- What a client has sent could not be passed on. -/
  | clientSendFailed (c : Nat)
  /-- `finish_set_pool`; there is no pool for a user that is made up. -/
  | choosePool (c pool db : Nat)
  | startAuthQuery (c pool db : Nat) (env : Env)
  /-- PAM or LDAP are asked. -/
  | askAuth (c : Nat)
  | finishClientLogin (c : Nat) (key : Bytes) (env : Env)
  /-- A `CancelRequest`, and the client its key is found at. -/
  | cancelRequest (r : Nat) (key : Bytes) (found : Option Nat) (env : Env)
  /-- A packet that is forwarded. -/
  | forward (c tracked : Nat) (env : Env)
  /-- `KILL_CLIENT`. -/
  | killClient (a c : Nat)
  /-- `KILL`, of one database or all. -/
  | kill (a : Nat) (pools : List Nat)
  /-- PAM or LDAP have answered. -/
  | authDone (c : Nat) (ok : Bool) (env : Env)
  /-- A server is gone, or sends what makes pgbouncer close it. -/
  | serverLost (s : Nat)
  /-- What a server has sent could not be passed on. -/
  | serverSendFailed (s : Nat) (env : Env)
  /-- `SBUF_EV_CONNECT_OK`. -/
  | connected (s : Nat) (env : Env)
  | sendStartupMessage (s : Nat) (env : Env)
  | backendKeyData (s : Nat) (key : Bytes)
  /-- An ErrorResponse during login; a temporary one is no reason to close clients. -/
  | loginError (s : Nat) (temporary : Bool)
  /-- `answer_authreq` fails, some failures being reason enough to close clients. -/
  | authFailed (s : Nat) (kill : Bool)
  /-- The ReadyForQuery that ends the login. -/
  | loginDone (s : Nat) (env : Env)
  /-- A packet for `handle_server_work`. -/
  | serverPacket (s : Nat) (ready sbufIsEmpty copyMode : Bool) (outstanding : Nat)
  /-- The ReadyForQuery behind an auth_query. -/
  | authQueryDone (s : Nat) (ready sbufIsEmpty userFound : Bool) (outstanding : Nat) (env : Env)
  /-- `SBUF_EV_FLUSH`. -/
  | flush (s : Nat) (env : Env)
  /-- `launch_new_connection` opens one. -/
  | launch (pool s : Nat)
  /-- It makes room for it. -/
  | evict (s : Nat)
  /-- `check_unused_servers` wants an idle server to be tested. -/
  | unused (s : Nat)
  /-- `pool_server_maint`. -/
  | maintServer (s : Nat)
  /-- `per_loop_activate`. -/
  | perLoopActivate (pool : Nat)
  /-- A timeout, or another reason to close a client. -/
  | dropClient (c : Nat) (env : Env)
  /-- A timeout, a pause or another reason to close a server. -/
  | dropServer (s : Nat)
  /-- `tag_pool_dirty`. -/
  | tagPoolDirty (pool : Nat)
  /-- A pool that nobody uses is dropped. -/
  | killPool (pool : Nat)
  /-- `kill_database`. -/
  | killDatabase (db : Nat)
  | addDatabase
  /-- `new_pool`. -/
  | newPool (db : Nat)
  /-- `reuse_just_freed_objects`. -/
  | freeClient (c : Nat)
  | freeServer (s : Nat)
  /-- The backend closes a connection on which a key was written. -/
  | backendCloses (conn : Nat)
  deriving DecidableEq

namespace World

/-- `in_connection_startup_phase`; `none` where it is fatal. -/
def inConnectionStartupPhase (cl : Client) : Option Bool :=
  match cl.state with
  | .login => some true
  | .active => some cl.waitForWelcome
  | _ => none

variable (cfg : Config) (w : World)

/-- Something is read from a client. -/
def reads (c : Nat) : Bool :=
  (w.todo = [] || w.todo.head? = some (.reading c)) && (w.clients c).reading

/-- Connections may be opened: nothing is going on, or a client is being read from, or
`per_loop_activate` is at work. -/
def isOpen : Bool :=
  match w.todo with
  | [] | .reading _ :: _ | .nextClient (.activate _) _ _ :: _ => true
  | _ => false

/-- A packet of a client, for `handle_client_startup` or `handle_client_work`. -/
def packet (c : Nat) (startup : Bool) (allowed : Client → Bool) (f : World → World) :
    Option World :=
  if w.reads c then
    match inConnectionStartupPhase (w.clients c) with
    | none => some (w.die .clientProto)
    | some b => if b = startup ∧ allowed (w.clients c) then some (f w) else none
  else none

/-- A client of the console; what it does besides reading is done at the top. -/
def isConsole (a : Nat) : Bool :=
  cfg.admin (w.clients a).pool && (w.todo = [] || w.todo = [.reading a])

/-- A socket that is open. -/
def clientIsOpen (c : Nat) : Bool :=
  (w.clients c).state ≠ .free ∧ (w.clients c).state ≠ .justFree

def serverIsOpen (s : Nat) : Bool :=
  (w.servers s).state ≠ .free ∧ (w.servers s).state ≠ .justFree

/-- A server whose packets are for `handle_server_startup`. -/
def logsIn (s : Nat) : Bool :=
  w.todo = [] ∧ (w.servers s).state = .login ∧ (w.servers s).startupSent

/-- A server whose packets are for `handle_server_work`. -/
def works (s : Nat) : Bool :=
  w.todo = [] ∧ w.serverIsOpen s ∧ (w.servers s).state ≠ .login

/-- A pool that exists; those of the peers always do. -/
def hasPool (p : Nat) : Bool :=
  cfg.peer p || w.pools.any (·.1 = p)

/-- An auth_query is being answered by this server. -/
def runsAuthQuery (s : Nat) : Bool :=
  match (w.servers s).link with
  | none => false
  | some c => (w.clients c).state = .login

/-- One event; `none` if it cannot happen. -/
def step (e : Event) : Option World :=
  if w.fatal.isSome then none
  else
    match e with
    | .tick env =>
      match w.todo with
      | [] | .reading _ :: _ => none
      | task :: rest => some ({ w with todo := rest }.perform cfg env task)
    | .readDone =>
      match w.todo with
      | .reading _ :: rest => some { w with todo := rest }
      | _ => none
    | .accept c replication =>
      if w.todo = [] ∧ w.clients c = {} then some (w.acceptClient c replication) else none
    | .clientLost c env =>
      if w.reads c && w.clientIsOpen c then some (w.disconnectClient cfg c env) else none
    | .clientSendFailed c =>
      if w.reads c && w.clientIsOpen c then
        some ((w.clients c).link.elim w fun s => w.disconnectServer cfg s)
      else none
    | .choosePool c pool db =>
      if pool = 0 ∨ (pool, db) ∈ w.pools then
        w.packet c true
          (fun cl => !cl.startupMessageReceived && !cl.waitForAuth && !cl.waitForWelcome)
          fun w => w.modifyClient c fun cl =>
            { cl with pool, db, startupMessageReceived := true, waitForUser := false }
      else none
    | .startAuthQuery c pool db env =>
      if w.pools.any (·.1 = pool) && (db = 0 || db ∈ w.databases) && !cfg.admin pool then
        w.packet c true
          (fun cl => !cl.startupMessageReceived && !cl.waitForUser && !cl.waitForAuth &&
            !cl.waitForWelcome)
          fun w => w.startAuthQuery cfg c pool db env
      else none
    | .askAuth c =>
      w.packet c true
        (fun cl => cl.startupMessageReceived && !cl.waitForAuth && !cl.waitForWelcome)
        fun w => w.modifyClient c fun cl => { cl with waitForAuth := true, reading := false }
    | .finishClientLogin c key env =>
      w.packet c true (fun cl => cl.startupMessageReceived && cl.pool ≠ 0)
        fun w => w.finishClientLogin cfg c key env
    | .cancelRequest r key found env =>
      w.packet r true
        (fun cl => !cl.startupMessageReceived && !cl.sendingAuthQuery && !cl.waitForAuth &&
          !cl.waitForWelcome &&
          (if cfg.peerId > 0 && peerOf key ≠ cfg.peerId then found.isNone
          else
            let key :=
              if cfg.peerId > 0 then key.set 7 (key.getD 7 0 ||| cancellationTtlMask) else key
            found.elim (!w.anyKey key) fun t => hasKey (w.clients t) key))
        fun w =>
          if cfg.peerId > 0 && peerOf key ≠ cfg.peerId then
            w.acceptCancelRequestForPeer cfg r key env
          else
            w.acceptCancelRequest cfg r
              (if cfg.peerId > 0 then key.set 7 (key.getD 7 0 ||| cancellationTtlMask) else key)
              found env
    | .forward c tracked env =>
      w.packet c false (fun cl => !cfg.admin cl.pool) fun w => w.forward cfg c tracked env
    | .killClient a c =>
      w.packet a false
        (fun _ => w.isConsole cfg a && w.clientIsOpen c && (w.clients c).state ≠ .login)
        fun w => w.push [.disconnectClient c, .adminReady a]
    | .kill a pools =>
      w.packet a false
        (fun _ => w.isConsole cfg a && pools.all fun p => w.pools.any (·.1 = p) && !cfg.admin p)
        fun w => w.push (pools.flatMap killPool ++ [.adminReady a])
    | .authDone c ok env =>
      if w.todo = [] ∧ (w.clients c).state = .login ∧ (w.clients c).waitForAuth then
        if ok then
          some ((w.modifyClient c fun cl => { cl with reading := true }).push [.reading c])
        else some (w.disconnectClient cfg c env)
      else none
    | .serverLost s =>
      if w.todo = [] && w.serverIsOpen s then some (w.disconnectServer cfg s) else none
    | .serverSendFailed s env =>
      -- it is passed on to the client that is linked
      match (w.servers s).link with
      | some c =>
        if w.todo = [] && w.serverIsOpen s then some (w.disconnectClient cfg c env) else none
      | none => none
    | .connected s env =>
      if w.isOpen && (w.servers s).state = .login && !(w.servers s).connected then
        some (w.handleConnect cfg s env)
      else none
    | .sendStartupMessage s env =>
      if w.isOpen && (w.servers s).state = .login && (w.servers s).connected &&
          !(w.servers s).startupSent then
        some (w.sendStartupMessage cfg s env)
      else none
    | .backendKeyData s key =>
      if w.logsIn s then some (w.modifyServer s fun sv => { sv with cancelKey := key }) else none
    | .loginError s temporary =>
      if w.logsIn s then
        some (w.push ((if (w.servers s).replication || temporary then []
          else w.killPoolLogins (w.servers s).pool) ++ [.disconnectServer s]))
      else none
    | .authFailed s kill =>
      if w.logsIn s then
        some (w.push ((if kill then w.killPoolLogins (w.servers s).pool else []) ++
          [.disconnectServer s]))
      else none
    | .loginDone s env =>
      if w.logsIn s then
        let w := w.modifyServer s fun sv => { sv with ready := true }
        some ({ w with
          welcomeMsgReady := Function.update w.welcomeMsgReady (w.servers s).pool true
          }.releaseServer cfg s env)
      else none
    | .serverPacket s ready sbufIsEmpty copyMode outstanding =>
      if w.works s then some (w.traffic s ready sbufIsEmpty copyMode outstanding) else none
    | .authQueryDone s ready sbufIsEmpty userFound outstanding env =>
      if w.works s && w.runsAuthQuery s then
        some (w.authQueryDone cfg s ready sbufIsEmpty userFound outstanding env)
      else none
    | .flush s env =>
      if w.todo = [] && w.serverIsOpen s then some (w.flush cfg s env) else none
    | .launch p s =>
      if w.isOpen && w.hasPool cfg p && (w.serverLists (.new p)).items.isEmpty &&
          w.servers s = {} then
        some (w.launchNewConnection cfg p s)
      else none
    | .evict s =>
      if w.isOpen && ((w.servers s).state = .idle || (w.servers s).state = .used ||
          (w.servers s).state = .tested) then
        some (w.disconnectServer cfg s)
      else none
    | .unused s =>
      if w.todo = [] ∧ (w.servers s).state = .idle then some (w.changeServerState cfg s .used)
      else none
    | .maintServer s =>
      if w.todo = [] ∧ (w.servers s).state = .active then some (w.maintServer cfg s) else none
    | .perLoopActivate p =>
      if w.todo = [] && !cfg.admin p && (w.clientLists (.waitingCancelReq p)).items.isEmpty then
        some (w.push [.forClients (.activate p) (.waiting p)])
      else none
    | .dropClient c env =>
      if w.todo = [] && w.clientIsOpen c then some (w.disconnectClient cfg c env) else none
    | .dropServer s =>
      if w.todo = [] && w.serverIsOpen s then some (w.disconnectServer cfg s) else none
    | .tagPoolDirty p => if w.todo = [] then some (w.tagPoolDirty cfg p) else none
    | .killPool p =>
      if w.todo = [] && w.pools.any (·.1 = p) && !cfg.admin p &&
          (w.clientLists (.active p)).items.isEmpty &&
          (w.clientLists (.waiting p)).items.isEmpty && w.poolConnectedServerCount p = 0 then
        some (w.push (killPool p))
      else none
    | .killDatabase d =>
      if w.todo = [] && d ∈ w.databases &&
          w.pools.all fun p => p.2 ≠ d || !cfg.admin p.1 then
        some (w.push (((w.pools.filter (·.2 = d)).map Prod.fst).flatMap killPool ++
          [.freeDatabase d]))
      else none
    | .addDatabase =>
      some { w with
        databases := (w.nDatabases + 1) :: w.databases, nDatabases := w.nDatabases + 1 }
    | .newPool d =>
      if d ∈ w.databases then
        some { w with pools := w.pools ++ [(w.nPools + 1, d)], nPools := w.nPools + 1 }
      else none
    | .freeClient c =>
      if w.todo = [] ∧ (w.clients c).state = .justFree then some (w.changeClientState c .free)
      else none
    | .freeServer s =>
      if w.todo = [] ∧ (w.servers s).state = .justFree then some (w.changeServerState cfg s .free)
      else none
    | .backendCloses conn => some { w with inFlight := w.inFlight.filter (·.conn ≠ conn) }

/-- A sequence of events. -/
def run (es : List Event) : Option World :=
  Run.exec (step cfg) w es

end World

end PgBouncer.Sockets
