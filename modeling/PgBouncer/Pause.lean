/-
PAUSE, WAIT_CLOSE and who waits for them.

An admin on the console can pause pgbouncer or one database, and wait until connections
are closed.  The command only sets flags: `cf_pause_mode`, and `db_paused` and
`db_wait_close` of a database.  `per_loop_maint` runs once for each turn of the event
loop; it closes what may be closed, counts what is left, and tells the admins that wait
when nothing is.  It knows that somebody waits, not what for.

The world has three parts.  `Control` are the flags and the lists of databases, `Net` the
pools with their servers, and `Console` the admins.  What clients and servers do is an
`Act`, which changes nothing but `Net`; it may happen at any time, and also inside the
loops of the janitor when these wake a client.  A server that has just been opened is in
state `login`, and only `launchNewConnection` opens one.  Whether it does depends on
limits that are not part of this file, so that is a choice of the act.  A database is a
number here, and a fresh one is used for every new database.

`pauseInForce`, `dbPauseInForce`, `launches`, `pending` and `answers` are not in the
source.  They say which PAUSE has been given and not been taken back, which connections
have been opened, and what has been asked and answered.
-/
import PgBouncer.Lib.Run
import Mathlib.Logic.Function.Basic

namespace PgBouncer.Pause

/-- `cf_pause_mode`. -/
inductive PauseMode
  | none | pause
  deriving DecidableEq

/-- `cf_shutdown`. -/
inductive Shutdown
  | none | waitForClients | waitForServers
  deriving DecidableEq

/-- The states of a server that is open; each has its list in the pool. -/
inductive ServerState
  | login | idle | used | tested | active | activeCancel | beingCanceled
  deriving DecidableEq

structure Server where
  state : ServerState
  closeNeeded : Bool := false
  deriving DecidableEq

/-- `PgDatabase`. -/
structure Database where
  admin : Bool := false
  dbAuto : Bool := false
  dbPaused : Bool := false
  dbWaitClose : Bool := false
  deriving DecidableEq

@[simp] abbrev Database.pause (db : Database) : Database := { db with dbPaused := true }

@[simp] abbrev Database.resume (db : Database) : Database := { db with dbPaused := false }

@[simp] abbrev Database.awaitClose (db : Database) : Database := { db with dbWaitClose := true }

/-! ### The flags -/

structure Control where
  database : Nat → Database := fun _ => {}
  /-- The next database that is made. -/
  nextDb : Nat := 0
  databaseList : List Nat := []
  autodatabaseIdleList : List Nat := []
  cfPauseMode : PauseMode := .none
  cfShutdown : Shutdown := .none
  /-- A PAUSE of everything has been given and not been taken back. -/
  pauseInForce : Bool := false
  /-- A PAUSE of a database has been given and not been taken back. -/
  dbPauseInForce : Nat → Bool := fun _ => false

namespace Control

variable (ctl : Control)

/-- The database exists, in use or idle. -/
def exist (d : Nat) : Bool :=
  ctl.databaseList.contains d || ctl.autodatabaseIdleList.contains d

def modifyDb (d : Nat) (f : Database → Database) : Control :=
  { ctl with database := Function.update ctl.database d (f (ctl.database d)) }

/-- `find_database`, which takes an idle database back into use. -/
def findDatabase (d : Nat) : Option Control :=
  if ctl.databaseList.contains d then some ctl
  else if ctl.autodatabaseIdleList.contains d then
    some { ctl with
      autodatabaseIdleList := ctl.autodatabaseIdleList.filter (· ≠ d)
      databaseList := d :: ctl.databaseList }
  else none

/-- `count_paused_databases`. -/
def countPausedDatabases : Nat :=
  ctl.databaseList.countP fun d => (ctl.database d).dbPaused

end Control

/-! ### Pools and servers -/

/-- A connection that has been opened: to which database, whether a PAUSE of it was in
force, and whether a cancel request was waiting. -/
structure Launch where
  db : Nat
  paused : Bool
  cancelWaits : Bool
  deriving DecidableEq

structure Net where
  poolList : List Nat := []
  poolDb : Nat → Nat := fun _ => 0
  servers : Nat → List Server := fun _ => []
  /-- The length of `waiting_cancel_req_list`. -/
  waitingCancel : Nat → Nat := fun _ => 0
  welcomeMsgReady : Nat → Bool := fun _ => false
  launches : List Launch := []

namespace Net

def setServers (net : Net) (p : Nat) (ss : List Server) : Net :=
  { net with servers := Function.update net.servers p ss }

/-- The servers that are open, with their databases. -/
def openServers (net : Net) : List (Nat × Server) :=
  net.poolList.flatMap fun p => (net.servers p).map (net.poolDb p, ·)

/-- `count_db_active`. -/
def countDbActive (net : Net) (d : Nat) : Nat :=
  (net.openServers.filter (·.1 = d)).length

/-- `kill_pool`. -/
def killPool (net : Net) (p : Nat) : Net :=
  { net.setServers p [] with poolList := net.poolList.filter (· ≠ p) }

/-- The pools of some databases are killed. -/
def killPoolsOf (net : Net) (which : Nat → Bool) : Net :=
  (net.poolList.filter fun p => which (net.poolDb p)).foldl killPool net

/-- `launch_new_connection`: only one connection at a time is being made.  `opens` says
what the limits say. -/
def launchNewConnection (ctl : Control) (net : Net) (p : Nat) (opens : Bool) : Net :=
  if opens && !(net.servers p).any (·.state = .login) then
    { net.setServers p ({ state := .login } :: net.servers p) with
      launches :=
        { db := net.poolDb p
          paused := ctl.pauseInForce || ctl.dbPauseInForce (net.poolDb p)
          cancelWaits := 0 < net.waitingCancel p } :: net.launches }
  else net

end Net

/-- What clients, servers and the janitor do to a pool. -/
inductive Act
  /-- Servers are closed, tagged or used; none is opened. -/
  | servers (p : Nat) (ss : List Server)
  /-- `per_loop_activate` opens a connection for somebody who waits. -/
  | activate (p : Nat) (opens : Bool)
  /-- `find_server`: opens a connection for a replication client, or in
  `check_fast_fail`. -/
  | findServer (p : Nat) (opens : Bool)
  /-- `finish_client_login`. -/
  | finishClientLogin (p : Nat) (opens : Bool)
  /-- `check_pool_size`; `wanted` if there are less servers than `min_pool_size` and
  `pool_size`, and clients or a forced user. -/
  | checkPoolSize (p : Nat) (wanted opens : Bool)
  /-- `accept_cancel_request`. -/
  | cancelRequest (p : Nat) (opens : Bool)
  /-- Requests have been sent, or given up. -/
  | cancelsLeft (p n : Nat)
  /-- The first server has logged in, or the pool has been tagged. -/
  | welcome (p : Nat) (ready : Bool)
  /-- `get_pool` makes a pool. -/
  | newPool (p d : Nat)

variable (ctl : Control)

/-- There is the pool, and it is not that of the console, which has no servers. -/
def Net.has (net : Net) (p : Nat) : Bool :=
  net.poolList.contains p && !(ctl.database (net.poolDb p)).admin

namespace Act

/-- The pool an act is about. -/
def pool : Act → Nat
  | .servers p _ | .activate p _ | .findServer p _ | .finishClientLogin p _
  | .checkPoolSize p _ _ | .cancelRequest p _ | .cancelsLeft p _ | .welcome p _
  | .newPool p _ => p

def apply (ctl : Control) (net : Net) : Act → Net
  | .servers p ss =>
    if net.has ctl p && ss.length ≤ (net.servers p).length then net.setServers p ss else net
  | .activate p opens =>
    -- only called where `per_loop_maint` does not pause the pool
    if net.has ctl p && ctl.cfPauseMode = .none &&
        !(ctl.database (net.poolDb p)).dbPaused then
      net.launchNewConnection ctl p opens
    else net
  | .findServer p opens =>
    if net.has ctl p && ctl.cfPauseMode ≠ .pause &&
        !(ctl.database (net.poolDb p)).dbPaused then
      net.launchNewConnection ctl p opens
    else net
  | .finishClientLogin p opens =>
    if net.has ctl p && !net.welcomeMsgReady p && ctl.cfPauseMode = .none then
      net.launchNewConnection ctl p opens
    else net
  | .checkPoolSize p wanted opens =>
    if net.has ctl p && wanted && ctl.cfPauseMode = .none then
      net.launchNewConnection ctl p opens
    else net
  | .cancelRequest p opens =>
    if net.has ctl p then
      Net.launchNewConnection ctl
        { net with waitingCancel := Function.update net.waitingCancel p (net.waitingCancel p + 1) }
        p opens
    else net
  | .cancelsLeft p n =>
    { net with waitingCancel := Function.update net.waitingCancel p (min n (net.waitingCancel p)) }
  | .welcome p ready =>
    { net with welcomeMsgReady := Function.update net.welcomeMsgReady p ready }
  | .newPool p d =>
    if !net.poolList.contains p && ctl.exist d then
      { net with
        poolList := p :: net.poolList
        poolDb := Function.update net.poolDb p d
        servers := Function.update net.servers p []
        waitingCancel := Function.update net.waitingCancel p 0
        welcomeMsgReady := Function.update net.welcomeMsgReady p false }
    else net

end Act

def Net.acts (net : Net) (as : List Act) : Net := as.foldl (Act.apply ctl) net

/-! ### The console -/

/-- What an admin can wait for, with the databases that are named. -/
inductive Command
  | pause
  | pauseDb (d : Nat)
  | waitClose (ds : List Nat)
  deriving DecidableEq

/-- The tag of the CommandComplete message. -/
inductive Completion
  | pause | waitClose
  deriving DecidableEq

/-- A completion that has been sent: what the admin had asked for, and the servers that
were open. -/
structure Answer where
  admin : Nat
  completion : Completion
  asked : List Command
  stillOpen : List (Nat × Server)
  deriving DecidableEq

structure Console where
  /-- `admin_pool->active_client_list`. -/
  activeClientList : List Nat := []
  waitForResponse : Nat → Bool := fun _ => false
  /-- What an admin has asked for and not been told the end of. -/
  pending : Nat → List Command := fun _ => []
  answers : List Answer := []
  /-- `fatal` has been called. -/
  fatal : Bool := false

namespace Console

/-- The admin asks. -/
def ask (con : Console) (a : Nat) (cmd : Command) : Console :=
  { con with pending := Function.update con.pending a (con.pending a ++ [cmd]) }

/-- The admin is told later. -/
def wait (con : Console) (a : Nat) : Console :=
  { con with waitForResponse := Function.update con.waitForResponse a true }

/-- `admin_ready`. -/
def ready (con : Console) (net : Net) (a : Nat) (completion : Completion) : Console :=
  { con with
    pending := Function.update con.pending a []
    answers := ⟨a, completion, con.pending a, net.openServers⟩ :: con.answers }

/-- A turn of the loops of `admin_pause_done` and `admin_wait_close_done`. -/
def done (net : Net) (completion : Completion) (con : Console) (a : Nat) : Console :=
  if con.waitForResponse a then
    let con := con.ready net a completion
    { con with waitForResponse := Function.update con.waitForResponse a false }
  else con

end Console

/-- `admin_pause_done`. -/
def adminPauseDone (net : Net) (con : Console) : Console :=
  if ctl.cfPauseMode = .pause || 0 < ctl.countPausedDatabases then
    con.activeClientList.foldl (Console.done net .pause) con
  else
    { con with fatal := con.fatal || con.activeClientList.any con.waitForResponse }

/-- `admin_wait_close_done`. -/
def adminWaitCloseDone (net : Net) (con : Console) : Console :=
  con.activeClientList.foldl (Console.done net .waitClose) con

/-! ### The janitor -/

/-- The variables of `per_loop_maint`. -/
structure Loop where
  net : Net
  activeCount : Nat := 0
  waitingCount : Nat := 0
  partialPause : Bool := false
  partialWait : Bool := false

namespace Loop

/-- `per_loop_pause`: closes three lists and counts two. -/
def pause (l : Loop) (p : Nat) : Loop :=
  let left := (l.net.servers p).filter fun s =>
    !(s.state = .idle || s.state = .used || s.state = .login)
  { l with
    net := l.net.setServers p left
    activeCount :=
      l.activeCount + left.countP fun s => s.state = .active || s.state = .tested }

/-- `per_loop_wait_close`: counts in five lists. -/
def waitClose (l : Loop) (p : Nat) : Loop :=
  { l with
    partialWait := true
    waitingCount :=
      l.waitingCount + (l.net.servers p).countP fun s =>
        s.closeNeeded && !(s.state = .activeCancel || s.state = .beingCanceled) }

/-- The switch on `cf_pause_mode`: a pool is activated or paused. -/
def work (ctl : Control) (effects : Nat → List Act) (l : Loop) (p : Nat) : Loop :=
  match ctl.cfPauseMode with
  | .none =>
    if (ctl.database (l.net.poolDb p)).dbPaused then { l.pause p with partialPause := true }
    else { l with net := l.net.acts ctl (effects p) }
  | .pause => l.pause p

/-- A turn of the loop of `per_loop_maint`. -/
def turn (ctl : Control) (effects : Nat → List Act) (l : Loop) (p : Nat) : Loop :=
  if (ctl.database (l.net.poolDb p)).admin then l
  else if (ctl.database (l.net.poolDb p)).dbWaitClose then (l.work ctl effects p).waitClose p
  else l.work ctl effects p

end Loop

structure World where
  ctl : Control := {}
  net : Net := {}
  con : Console := {}

/-- The loop of `per_loop_maint`.  `effects` says what happens while a pool is being
activated. -/
def World.loop (w : World) (effects : Nat → List Act) : Loop :=
  w.net.poolList.foldl (Loop.turn w.ctl effects) { net := w.net }

/-- The second switch on `cf_pause_mode`. -/
def Loop.pauseDone (l : Loop) (ctl : Control) (con : Console) : Console :=
  if l.activeCount = 0 && (ctl.cfPauseMode = .pause || l.partialPause) then
    adminPauseDone ctl l.net con
  else con

def Loop.waitCloseDone (l : Loop) (con : Console) : Console :=
  if l.partialWait && l.waitingCount = 0 && !con.fatal then adminWaitCloseDone l.net con
  else con

/-- `per_loop_maint`. -/
def World.perLoopMaint (w : World) (effects : Nat → List Act) : World :=
  let l := w.loop effects
  { w with net := l.net, con := l.waitCloseDone (l.pauseDone w.ctl w.con) }

/-- An auto-database without clients and servers is put aside. -/
def Control.idleDatabase (d : Nat) : Control :=
  { ctl with
    databaseList := ctl.databaseList.filter (· ≠ d)
    autodatabaseIdleList := ctl.autodatabaseIdleList ++ [d] }

/-- The database is taken from its list. -/
def Control.dropDatabase (d : Nat) : Control :=
  { ctl with
    databaseList := ctl.databaseList.filter (· ≠ d)
    autodatabaseIdleList := ctl.autodatabaseIdleList.filter (· ≠ d) }

/-- `kill_database`. -/
def World.killDatabase (w : World) (d : Nat) : World :=
  { w with ctl := w.ctl.dropDatabase d, net := w.net.killPoolsOf (· = d) }

/-- `do_full_maint`: what happens to the pools, then the auto-databases that are found
`inactive`, the idle ones that have `expired`, and the pools that are `unused`. -/
def World.doFullMaint (w : World) (acts : List Act) (inactive expired unused : List Nat) :
    Option World :=
  let w := { w with net := w.net.acts w.ctl acts }
  if inactive.all fun d =>
      (w.ctl.database d).dbAuto && w.ctl.databaseList.contains d && w.net.countDbActive d = 0 then
    let w := { w with ctl := inactive.foldl Control.idleDatabase w.ctl }
    if expired.all fun d =>
        w.ctl.autodatabaseIdleList.contains d && !(w.ctl.database d).dbPaused then
      let w := expired.foldl World.killDatabase w
      if unused.all fun p =>
          (w.net.servers p).all fun s => s.state = .login || s.state = .activeCancel then
        some { w with net := unused.foldl Net.killPool w.net }
      else none
    else none
  else none

/-! ### What can happen -/

inductive Event
  | act (a : Act)
  | perLoopMaint (effects : Nat → List Act)
  | doFullMaint (acts : List Act) (inactive expired unused : List Nat)
  /-- A database is configured, or registered for a client. -/
  | addDatabase (db : Database)
  /-- A database is gone from the configuration. -/
  | removeDatabase (d : Nat)
  | consoleLogin (a : Nat)
  | consoleClose (a : Nat)
  /-- A cancel request for a client of the console. -/
  | consoleCancel
  | pause (a : Nat)
  | pauseDb (a d : Nat)
  | resume
  | resumeDb (d : Nat)
  | kill
  | killDb (d : Nat)
  | waitClose (a : Nat)
  | waitCloseDb (a d : Nat)
  | shutdownWaitForClients
  | shutdownWaitForServers
  | sigusr1
  | sigusr2
  | sigint
  | sigterm

namespace World

/-- `admin_cmd_pause` without an argument. -/
def adminCmdPause (w : World) (a : Nat) : World :=
  if w.ctl.cfPauseMode = .none then
    { w with
      ctl := { w.ctl with cfPauseMode := .pause, pauseInForce := true }
      con := (w.con.ask a .pause).wait a }
  else w

/-- `admin_cmd_pause` for a database. -/
def adminCmdPauseDb (w : World) (a d : Nat) : World :=
  if w.ctl.cfPauseMode = .none then
    match w.ctl.findDatabase d with
    | none => w
    | some ctl =>
      if (ctl.database d).admin then { w with ctl }
      else
        let ctl := ctl.modifyDb d .pause
        let ctl := { ctl with dbPauseInForce := Function.update ctl.dbPauseInForce d true }
        let con := w.con.ask a (.pauseDb d)
        if 0 < w.net.countDbActive d then { w with ctl, con := con.wait a }
        else { w with ctl, con := con.ready w.net a .pause }
  else w

/-- `admin_cmd_resume` without an argument. -/
def adminCmdResume (w : World) : World :=
  if w.ctl.cfShutdown = .none && w.ctl.cfPauseMode ≠ .none then
    { w with ctl := { w.ctl with cfPauseMode := .none, pauseInForce := false } }
  else w

/-- `admin_cmd_resume` for a database. -/
def adminCmdResumeDb (w : World) (d : Nat) : World :=
  match w.ctl.findDatabase d with
  | none => w
  | some ctl =>
    if (ctl.database d).dbPaused then
      let ctl := ctl.modifyDb d .resume
      { w with
        ctl := { ctl with dbPauseInForce := Function.update ctl.dbPauseInForce d false } }
    else { w with ctl }

/-- A turn of the loop of `admin_cmd_kill`, and of that of `admin_cmd_wait_close`: a flag
of the database of a pool. -/
def flagPoolDb (net : Net) (f : Database → Database) (ctl : Control) (p : Nat) : Control :=
  if (ctl.database (net.poolDb p)).admin then ctl else ctl.modifyDb (net.poolDb p) f

/-- `admin_cmd_kill` without an argument. -/
def adminCmdKill (w : World) : World :=
  if w.ctl.cfPauseMode = .none then
    { w with
      ctl := w.net.poolList.foldl
        (flagPoolDb w.net .pause) w.ctl
      net := w.net.killPoolsOf fun d => !(w.ctl.database d).admin }
  else w

/-- `admin_cmd_kill` for a database. -/
def adminCmdKillDb (w : World) (d : Nat) : World :=
  if w.ctl.cfPauseMode = .none then
    match w.ctl.findDatabase d with
    | none => w
    | some ctl =>
      if (ctl.database d).admin then { w with ctl }
      else
        { w with
          ctl := ctl.modifyDb d .pause
          net := w.net.killPoolsOf (· = d) }
  else w

/-- `admin_cmd_wait_close` without an argument.  The console's own database is flagged
too, but `per_loop_maint` passes it over. -/
def adminCmdWaitClose (w : World) (a : Nat) : World :=
  let ctl := w.net.poolList.foldl
    (flagPoolDb w.net .awaitClose) w.ctl
  let con := w.con.ask a (.waitClose (w.net.poolList.map w.net.poolDb))
  if w.net.poolList.any fun p => 0 < w.net.countDbActive (w.net.poolDb p) then
    { w with ctl, con := con.wait a }
  else { w with ctl, con := con.ready w.net a .waitClose }

/-- `admin_cmd_wait_close` for a database. -/
def adminCmdWaitCloseDb (w : World) (a d : Nat) : World :=
  match w.ctl.findDatabase d with
  | none => w
  | some ctl =>
    if (ctl.database d).admin then { w with ctl }
    else
      let ctl := ctl.modifyDb d .awaitClose
      let con := w.con.ask a (.waitClose [d])
      if 0 < w.net.countDbActive d then { w with ctl, con := con.wait a }
      else { w with ctl, con := con.ready w.net a .waitClose }

/-- One event.  It is impossible after `fatal`, and for an admin that is not there. -/
def step (w : World) (e : Event) : Option World :=
  if w.con.fatal then none
  else
    match e with
    | .act a => some { w with net := a.apply w.ctl w.net }
    | .perLoopMaint effects => some (w.perLoopMaint effects)
    | .doFullMaint acts inactive expired unused => w.doFullMaint acts inactive expired unused
    | .addDatabase db =>
      some { w with
        ctl := { w.ctl with
          database := Function.update w.ctl.database w.ctl.nextDb
            { db with dbPaused := false, dbWaitClose := false }
          nextDb := w.ctl.nextDb + 1
          databaseList := w.ctl.nextDb :: w.ctl.databaseList } }
    | .removeDatabase d => some (w.killDatabase d)
    | .consoleLogin a =>
      if w.con.activeClientList.contains a then none
      else
        some { w with
          con := { w.con with
            activeClientList := a :: w.con.activeClientList
            waitForResponse := Function.update w.con.waitForResponse a false
            pending := Function.update w.con.pending a [] } }
    | .consoleClose a =>
      some { w with
        con := { w.con with
          activeClientList := w.con.activeClientList.filter (· ≠ a)
          waitForResponse := Function.update w.con.waitForResponse a false
          pending := Function.update w.con.pending a [] } }
    | .consoleCancel =>
      -- `admin_handle_cancel`
      some (if w.ctl.cfShutdown = .none then
        { w with ctl := { w.ctl with cfPauseMode := .none } } else w)
    | .pause a => if w.con.activeClientList.contains a then some (w.adminCmdPause a) else none
    | .pauseDb a d =>
      if w.con.activeClientList.contains a then some (w.adminCmdPauseDb a d) else none
    | .resume => some w.adminCmdResume
    | .resumeDb d => some (w.adminCmdResumeDb d)
    | .kill => some w.adminCmdKill
    | .killDb d => some (w.adminCmdKillDb d)
    | .waitClose a =>
      if w.con.activeClientList.contains a then some (w.adminCmdWaitClose a) else none
    | .waitCloseDb a d =>
      if w.con.activeClientList.contains a then some (w.adminCmdWaitCloseDb a d) else none
    | .shutdownWaitForClients =>
      some { w with ctl := { w.ctl with cfShutdown := .waitForClients } }
    | .shutdownWaitForServers =>
      some { w with
        ctl := { w.ctl with cfShutdown := .waitForServers, cfPauseMode := .pause } }
    | .sigusr1 =>
      some (if w.ctl.cfPauseMode = .none then
        { w with ctl := { w.ctl with cfPauseMode := .pause, pauseInForce := true } } else w)
    | .sigusr2 => some w.adminCmdResume
    | .sigint =>
      if w.ctl.cfShutdown = .none then
        some { w with
          ctl := { w.ctl with cfShutdown := .waitForServers, cfPauseMode := .pause } }
      else none
    | .sigterm =>
      if w.ctl.cfShutdown = .none then
        some { w with ctl := { w.ctl with cfShutdown := .waitForClients } }
      else none

def run : World → List Event → Option World := Run.exec step

end World

end PgBouncer.Pause
