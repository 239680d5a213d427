/-
A reload that cannot read its file.

`load_config` clears the three flags, marks every database and every peer as dead, and
relies on the file to undo that.  If the file cannot be read it takes back the mark of
the databases only, and nothing sets the flags again.  So every peer is dropped, and a
timeout that only a user or a database has is enforced from then on only if some global
setting happens to open the loop that looks at it.

`Running` are the worlds pgbouncer can be in between two reloads: nobody on a list is
marked as dead, and the timeouts of users and databases are whole seconds.  The load
functions keep that.
-/
import PgBouncer.Proofs.Maintenance

namespace PgBouncer.Maintenance

/-! ### Whole seconds -/

/-- A timeout as the parsers of users and databases make them. -/
def Whole (t : Usec) : Prop := ∃ val, t = seconds val

theorem whole_zero : Whole 0 := ⟨0, by decide⟩

theorem whole_seconds (val : Int) : Whole (seconds val) := ⟨val, rfl⟩

/-- The largest value of `usec_t`, which is the age of what happens next, is odd.  So a
timeout can always pass. -/
theorem Whole.lt_max {t : Usec} (h : Whole t) : t < 0 - 1 := by
  obtain ⟨val, rfl⟩ := h
  rw [UInt64.lt_iff_toNat_lt, seconds, UInt64.toNat_mul]
  rw [show (1000000 : UInt64).toNat = 1000000 from rfl,
    show (0 - 1 : UInt64).toNat = 18446744073709551615 from rfl]
  omega

structure User.Whole (user : User) : Prop where
  idleTransactionTimeout : Maintenance.Whole user.idleTransactionTimeout
  transactionTimeout : Maintenance.Whole user.transactionTimeout
  queryTimeout : Maintenance.Whole user.queryTimeout
  queryWaitTimeout : Maintenance.Whole user.queryWaitTimeout
  clientIdleTimeout : Maintenance.Whole user.clientIdleTimeout

theorem User.whole_default : User.Whole {} :=
  ⟨whole_zero, whole_zero, whole_zero, whole_zero, whole_zero⟩

/-- All timeouts of users and databases are whole seconds. -/
structure World.Whole (w : World) : Prop where
  users : ∀ name, (w.users name).Whole
  databases : ∀ db ∈ w.databaseList ++ w.autodatabaseIdleList,
    Maintenance.Whole db.queryWaitTimeout

theorem parseUserParams_whole {ps : List UserParam} {user user' : User} {flags flags' : Flags}
    (huser : user.Whole) (h : parseUserParams ps user flags = (flags', some user')) :
    user'.Whole := by
  induction ps generalizing user flags with
  | nil =>
    cases h
    exact huser
  | cons p ps ih =>
    obtain ⟨h₁, h₂, h₃, h₄, h₅⟩ := huser
    cases p with
    | transactionTimeout val =>
      refine ih ?_ h
      exact ⟨h₁, whole_seconds val, h₃, h₄, h₅⟩
    | idleTransactionTimeout val =>
      refine ih ?_ h
      exact ⟨whole_seconds val, h₂, h₃, h₄, h₅⟩
    | queryTimeout val =>
      refine ih ?_ h
      exact ⟨h₁, h₂, whole_seconds val, h₄, h₅⟩
    | queryWaitTimeout val =>
      refine ih ?_ h
      exact ⟨h₁, h₂, h₃, whole_seconds val, h₅⟩
    | clientIdleTimeout val =>
      refine ih ?_ h
      exact ⟨h₁, h₂, h₃, h₄, whole_seconds val⟩
    | other => exact ih ⟨h₁, h₂, h₃, h₄, h₅⟩ h
    | bad => cases h

theorem parseDatabaseParams_whole {ps : List DbParam} {wait wait' : Option Usec}
    {flags flags' : Flags} (hwait : Whole (wait.getD 0))
    (h : parseDatabaseParams ps wait flags = (flags', some wait')) : Whole (wait'.getD 0) := by
  induction ps generalizing wait flags with
  | nil =>
    cases h
    exact hwait
  | cons p ps ih =>
    cases p with
    | queryWaitTimeout val =>
      refine ih ?_ h
      exact whole_seconds val
    | other => exact ih hwait h
    | bad => cases h

variable {w : World}

theorem World.Whole.parseUser (h : w.Whole) (name : Bytes) (ps : List UserParam) :
    (w.parseUser name ps).1.Whole := by
  unfold World.parseUser
  split
  · rename_i flags user hparse
    refine ⟨fun n => ?_, h.databases⟩
    by_cases hn : n = name
    · subst hn
      simpa using parseUserParams_whole User.whole_default hparse
    · simpa [Function.update_of_ne hn] using h.users n
  · exact ⟨h.users, h.databases⟩

theorem World.Whole.findDatabase (h : w.Whole) (name : Bytes) :
    (w.findDatabase name).1.Whole := by
  unfold World.findDatabase
  split
  · exact h
  · split
    · rename_i db hfind
      refine ⟨h.users, fun d hd => h.databases d ?_⟩
      have hmem := List.mem_of_find?_eq_some hfind
      simp only [List.cons_append, List.mem_cons, List.mem_append, List.mem_filter] at hd ⊢
      rcases hd with rfl | hd | hd
      · exact .inr hmem
      · exact .inl hd
      · exact .inr hd.1
    · exact h

theorem World.Whole.addDatabase (h : w.Whole) (name : Bytes) :
    (w.addDatabase name).Whole := by
  have hfind := h.findDatabase name
  unfold World.addDatabase
  generalize w.findDatabase name = found at hfind
  obtain ⟨w', db⟩ := found
  cases db with
  | some db => exact hfind
  | none =>
    refine ⟨hfind.users, fun d hd => ?_⟩
    rcases List.mem_cons.mp hd with rfl | hd
    · exact whole_zero
    · exact hfind.databases d hd

theorem World.Whole.setDatabase (h : w.Whole) (name : Bytes) {f : Database → Database}
    (hf : ∀ db, Maintenance.Whole db.queryWaitTimeout → Maintenance.Whole (f db).queryWaitTimeout) :
    (w.setDatabase name f).Whole := by
  refine ⟨h.users, fun d hd => ?_⟩
  simp only [World.setDatabase, List.mem_append, List.mem_map] at hd
  rcases hd with ⟨db, hdb, rfl⟩ | hd
  · have hwhole := h.databases db (List.mem_append_left _ hdb)
    split
    · exact hf db hwhole
    · exact hwhole
  · exact h.databases d (List.mem_append_right _ hd)

theorem World.Whole.parseDatabase (h : w.Whole) (name : Bytes) (ps : List DbParam) :
    (w.parseDatabase name ps).1.Whole := by
  unfold World.parseDatabase
  split_ifs
  · exact h
  · exact ⟨h.users, h.databases⟩
  · split
    · exact ⟨h.users, h.databases⟩
    · rename_i flags wait hparse
      have hflags : World.Whole { w with flags } := ⟨h.users, h.databases⟩
      have hwait : Maintenance.Whole (wait.getD 0) :=
        parseDatabaseParams_whole (by exact whole_zero) hparse
      exact (hflags.addDatabase name).setDatabase name fun _ _ => hwait

theorem World.Whole.loadHandler (h : w.Whole) (e : Entry) :
    (w.loadHandler e).1.Whole := by
  cases e with
  | mainSection => exact ⟨h.users, h.databases⟩
  | main key val => cases val <;> exact ⟨h.users, h.databases⟩
  | database name ps => exact h.parseDatabase name ps
  | user name ps => exact h.parseUser name ps
  | peer peerId =>
    cases peerId with
    | none => exact h
    | some peerId =>
      simp only [World.loadHandler, World.parsePeer]
      split_ifs <;> exact ⟨h.users, h.databases⟩

theorem World.Whole.parseIniFile (h : w.Whole) (es : List Entry) :
    (w.parseIniFile es).1.Whole := by
  induction es generalizing w with
  | nil => exact h
  | cons e es ih =>
    have hstep := h.loadHandler e
    unfold World.parseIniFile
    generalize w.loadHandler e = loaded at hstep
    obtain ⟨w', ok⟩ := loaded
    cases ok with
    | true => exact ih hstep
    | false => exact hstep

theorem World.Whole.cfLoadFile (h : w.Whole) (file : Option (List Entry)) :
    (w.cfLoadFile file).1.Whole := by
  cases file with
  | none => exact h
  | some es => exact h.parseIniFile es

theorem World.Whole.setDbsDead (h : w.Whole) (flag : Bool) :
    (w.setDbsDead flag).Whole := by
  refine ⟨h.users, fun d hd => ?_⟩
  simp only [World.setDbsDead, List.mem_append, List.mem_map] at hd
  rcases hd with ⟨db, hdb, rfl⟩ | hd
  · have hwhole := h.databases db (List.mem_append_left _ hdb)
    split <;> exact hwhole
  · exact h.databases d (List.mem_append_right _ hd)

/-! ### `config_postprocess` -/

theorem foldl_killDatabase (dbs : List Database) (w : World) :
    dbs.foldl World.killDatabase w =
      { w with
        poolList := w.poolList.filter fun pool => dbs.all (·.name ≠ pool.db)
        databaseList := w.databaseList.filter fun db => dbs.all (·.name ≠ db.name) } := by
  induction dbs generalizing w with
  | nil => simp
  | cons d dbs ih =>
    rw [List.foldl_cons, ih]
    simp only [World.killDatabase, List.filter_filter, List.all_cons]
    congr 1 <;> exact List.filter_congr fun x _ => by
      simp only [ne_eq, decide_not, Bool.and_comm, eq_comm]

theorem foldl_killPeer (peers : List Peer) (w : World) :
    peers.foldl World.killPeer w =
      { w with
        peerPoolList := w.peerPoolList.filter fun peerId => peers.all (·.peerId ≠ peerId)
        peerList := w.peerList.filter fun p => peers.all (·.peerId ≠ p.peerId) } := by
  induction peers generalizing w with
  | nil => simp
  | cons p peers ih =>
    rw [List.foldl_cons, ih]
    simp only [World.killPeer, List.filter_filter, List.all_cons]
    congr 1 <;> exact List.filter_congr fun x _ => by
      simp only [ne_eq, decide_not, Bool.and_comm, eq_comm]

/-- What `config_postprocess` leaves. -/
theorem configPostprocess_eq (w : World) :
    w.configPostprocess =
      { w with
        poolList := w.poolList.filter fun pool =>
          (w.databaseList.filter (·.dbDead)).all (·.name ≠ pool.db)
        databaseList := w.databaseList.filter fun db =>
          (w.databaseList.filter (·.dbDead)).all (·.name ≠ db.name)
        peerPoolList := w.peerPoolList.filter fun peerId =>
          (w.peerList.filter (·.dbDead)).all (·.peerId ≠ peerId)
        peerList := w.peerList.filter fun p =>
          (w.peerList.filter (·.dbDead)).all (·.peerId ≠ p.peerId) } := by
  simp only [World.configPostprocess, foldl_killDatabase, foldl_killPeer]

/-! ### The worlds between two reloads -/

/-- What holds whenever `load_config` has returned. -/
structure Settled (w : World) : Prop where
  whole : w.Whole
  alive : ∀ db ∈ w.databaseList, db.dbDead = false

theorem World.Whole.settled_configPostprocess (h : w.Whole) :
    Settled w.configPostprocess := by
  rw [configPostprocess_eq]
  refine ⟨⟨h.users, fun d hd => h.databases d ?_⟩, fun db hdb => ?_⟩
  · simp only [List.mem_append, List.mem_filter] at hd ⊢
    exact hd.imp And.left id
  · obtain ⟨hmem, hkept⟩ := List.mem_filter.mp hdb
    by_contra hdead
    simp only [List.all_eq_true, List.mem_filter, decide_eq_true_eq] at hkept
    exact hkept db ⟨hmem, by simpa using hdead⟩ rfl

theorem Settled.loadConfig (h : Settled w) (file : Option (List Entry)) :
    Settled (w.loadConfig file).1 := by
  have hflags : World.Whole { w with flags := {} } := ⟨h.whole.users, h.whole.databases⟩
  have hdead := hflags.setDbsDead true
  have hpeers : (World.setPeersDead (World.setDbsDead { w with flags := {} } true) true).Whole :=
    ⟨hdead.users, hdead.databases⟩
  have hload := hpeers.cfLoadFile file
  unfold World.loadConfig
  dsimp only
  generalize World.cfLoadFile _ file = loaded at hload
  obtain ⟨w', ok⟩ := loaded
  cases ok with
  | true => exact hload.settled_configPostprocess
  | false => exact (hload.setDbsDead false).settled_configPostprocess

/-- A world between two reloads. -/
structure Running where
  world : World
  settled : Settled world

/-- Nothing is loaded yet. -/
def Running.initial : Running :=
  ⟨{}, ⟨⟨fun _ => User.whole_default, fun _ h => (nomatch h)⟩, fun _ h => (nomatch h)⟩⟩

def Running.loadConfig (r : Running) (file : Option (List Entry)) : Running :=
  ⟨(r.world.loadConfig file).1, r.settled.loadConfig file⟩

/-! ### A file that cannot be read -/

/-- Marking the databases as dead and taking it back changes nothing. -/
theorem setDbsDead_undone (h : ∀ db ∈ w.databaseList, db.dbDead = false) :
    (w.setDbsDead true).setDbsDead false = w := by
  have hlist : ((w.setDbsDead true).setDbsDead false).databaseList = w.databaseList := by
    simp only [World.setDbsDead, List.map_map]
    conv_rhs => rw [← List.map_id w.databaseList]
    refine List.map_congr_left fun db hdb => ?_
    have halive := h db hdb
    cases hkind : db.admin || db.dbAuto with
    | true => simp only [Function.comp_apply, hkind, if_true, id_eq]
    | false =>
      simp only [Function.comp_apply, hkind, Bool.false_eq_true, if_false, id_eq]
      rw [← halive]
  simpa only [World.setDbsDead] using congrArg (fun l => { w with databaseList := l }) hlist

/-- **What an unreadable file does.**  The flags and the peers are gone. -/
theorem loadConfig_unreadable (h : Settled w) :
    (w.loadConfig none).1 =
      { w with
        flags := {}
        peerList := []
        peerPoolList := w.peerPoolList.filter fun peerId =>
          w.peerList.all (·.peerId ≠ peerId) } := by
  have hdbs : ((World.setDbsDead { w with flags := {} } true).setDbsDead false) =
      { w with flags := {} } := setDbsDead_undone h.alive
  have hmark : World.setDbsDead
        (World.setPeersDead (World.setDbsDead { w with flags := {} } true) true) false =
      World.setPeersDead { w with flags := {} } true :=
    congrArg (World.setPeersDead · true) hdbs
  have hload : (w.loadConfig none).1 =
      (World.setPeersDead { w with flags := {} } true).configPostprocess :=
    congrArg World.configPostprocess hmark
  have hdead : w.databaseList.filter (·.dbDead) = [] :=
    List.filter_eq_nil_iff.mpr fun db hdb => by simp [h.alive db hdb]
  have hpeers : (w.peerList.map fun p => { p with dbDead := true }).filter (·.dbDead) =
      w.peerList.map fun p => { p with dbDead := true } :=
    List.filter_eq_self.mpr fun p hp => by
      obtain ⟨q, -, rfl⟩ := List.mem_map.mp hp
      rfl
  have hnone : (w.peerList.map fun p => { p with dbDead := true }).filter (fun p =>
      (w.peerList.map fun p => { p with dbDead := true }).all (·.peerId ≠ p.peerId)) = [] :=
    List.filter_eq_nil_iff.mpr fun p hp => by
      simp only [List.all_eq_true, decide_eq_true_eq, not_forall]
      exact ⟨p, hp, fun h => h rfl⟩
  rw [hload, configPostprocess_eq]
  simp only [World.setPeersDead, hdead, hpeers, hnone]
  simp [List.all_map, Function.comp_def]

/-! ### What running traffic must not notice -/

/-- A user-level timeout of a server that has passed. -/
def World.ServerPast (w : World) (now : Usec) (server : Server) (link : Client) : Prop :=
  let user := w.users server.loginUser
  (0 < user.queryTimeout ∧ link.queryStart ≠ 0 ∧ user.queryTimeout < now - link.queryStart) ∨
  (0 < user.idleTransactionTimeout ∧ server.idleTx = true ∧
    user.idleTransactionTimeout < now - server.requestTime) ∨
  (0 < user.transactionTimeout ∧ user.transactionTimeout < now - link.xactStart)

/-- **Nothing changes for running traffic** from `w` to `v`: no database, peer or pool is
gone or marked, and a pass in `v` closes everybody who is past a timeout that was set in
`w` for a user or a database. -/
structure Undisturbed (w v : World) : Prop where
  databaseList : v.databaseList = w.databaseList
  autodatabaseIdleList : v.autodatabaseIdleList = w.autodatabaseIdleList
  peerList : v.peerList = w.peerList
  poolList : v.poolList = w.poolList
  peerPoolList : v.peerPoolList = w.peerPoolList
  clientIdle : ∀ now pool, ∀ c ∈ pool.activeClientList, c.linked = false →
    0 < (w.userOf c).clientIdleTimeout →
    (w.userOf c).clientIdleTimeout < now - c.requestTime →
    ∃ r, (c, r) ∈ v.poolClientMaint now pool
  queryWait : ∀ now pool, ∀ c ∈ pool.waitingClientList,
    ((w.userOf c).queryWaitTimeoutSet = true ∨ (w.database c.db).queryWaitTimeoutSet = true) →
    0 < w.effectiveQueryWaitTimeout c → w.effectiveQueryWaitTimeout c < c.waitAge now →
    ∃ r, (c, r) ∈ v.poolClientMaint now pool
  server : ∀ now pool, ∀ p ∈ pool.activeServerList, p.1.ready = false →
    w.ServerPast now p.1 p.2 → ∃ r, (p.1, r) ∈ v.poolServerMaint now pool

/-- Nothing depends on what an unreadable file loses: there is no peer, and every loop
that looks at timeouts of users or databases is opened by a global setting or finds no
such timeout. -/
structure NothingToLose (w : World) : Prop where
  peers : w.peerList = []
  clientIdle : 0 < w.cf.clientIdleTimeout ∨ ∀ name, (w.users name).clientIdleTimeout = 0
  queryWait : 0 < w.cf.queryTimeout ∨ 0 < w.cf.queryWaitTimeout ∨
    (∀ name, (w.users name).queryWaitTimeoutSet = true → (w.users name).queryWaitTimeout = 0) ∧
    (∀ name, (w.database name).queryWaitTimeoutSet = true →
      (w.database name).queryWaitTimeout = 0)
  server : 0 < w.cf.queryTimeout ∨ 0 < w.cf.idleTransactionTimeout ∨
    0 < w.cf.transactionTimeout ∨ ∀ name, (w.users name).queryTimeout = 0 ∧
      (w.users name).idleTransactionTimeout = 0 ∧ (w.users name).transactionTimeout = 0

/-! ### Who is closed in an open loop -/

variable {now : Usec}

theorem exists_closed_waiting {pool : Pool} {c : Client} (hguard : w.waitGuard = true)
    (hmem : c ∈ pool.waitingClientList) (hpos : 0 < w.effectiveQueryWaitTimeout c)
    (hpast : w.effectiveQueryWaitTimeout c < c.waitAge now) :
    ∃ r, (c, r) ∈ w.poolClientMaint now pool := by
  have hverdict : ∃ r, w.waitVerdict now c = some r := by
    simp only [World.waitVerdict, hpos, hpast, decide_true, Bool.and_self, if_true]
    split_ifs
    · exact ⟨_, rfl⟩
    · exact ⟨_, rfl⟩
    · exact ⟨_, rfl⟩
  obtain ⟨r, hr⟩ := hverdict
  refine ⟨r, ?_⟩
  simp only [World.poolClientMaint, List.mem_append, mem_closeSome]
  exact .inl (.inl (.inr ⟨hguard, hmem, hr⟩))

theorem overriding_of_pos {own global : Usec} (h : 0 < own) : overriding own global = own :=
  if_pos h

theorem exists_serverVerdict {server : Server} {link : Client} (hready : server.ready = false)
    (h : w.ServerPast now server link) :
    ∃ r, w.serverVerdict now server link = some r := by
  simp only [World.serverVerdict, hready, Bool.false_eq_true, if_false]
  -- an earlier question may close the server first
  split_ifs with hquery hidle hxact
  · exact ⟨_, rfl⟩
  · exact ⟨_, rfl⟩
  · exact ⟨_, rfl⟩
  · exfalso
    rcases h with ⟨hpos, hstart, hpast⟩ | ⟨hpos, hidleTx, hpast⟩ | ⟨hpos, hpast⟩
    · have hage : link.queryAge now = now - link.queryStart := if_pos hstart
      simp [World.effectiveQueryTimeout, overriding_of_pos hpos, hpos, hage, hpast,
        UInt64.lt_trans hpos hpast] at hquery
    · simp [World.effectiveIdleTransactionTimeout, overriding_of_pos hpos, hpos, hidleTx,
        hpast] at hidle
    · simp [World.effectiveTransactionTimeout, overriding_of_pos hpos, hpos, hpast] at hxact

theorem mem_poolServerMaint_of_verdict {pool : Pool} {p : Server × Client} {r : ServerReason}
    (hguard : w.serverGuard = true) (hmem : p ∈ pool.activeServerList)
    (h : w.serverVerdict now p.1 p.2 = some r) :
    (p.1, r) ∈ w.poolServerMaint now pool := by
  simp only [World.poolServerMaint, hguard, if_true, List.mem_append, List.mem_filterMap]
  exact .inl ⟨p, hmem, by rw [h]; rfl⟩

/-! ### A failed reload -/

theorem userOf_clientIdleTimeout (h : ∀ name, (w.users name).clientIdleTimeout = 0) (c : Client) :
    (w.userOf c).clientIdleTimeout = 0 := by
  unfold World.userOf
  cases c.loginUser with
  | none => rfl
  | some name => exact h name

theorem userOf_queryWaitTimeout
    (h : ∀ name, (w.users name).queryWaitTimeoutSet = true → (w.users name).queryWaitTimeout = 0)
    {c : Client} (hset : (w.userOf c).queryWaitTimeoutSet = true) :
    (w.userOf c).queryWaitTimeout = 0 := by
  unfold World.userOf at hset ⊢
  cases hname : c.loginUser with
  | none => rfl
  | some name =>
    rw [hname] at hset
    exact h name hset

theorem NothingToLose.undisturbed (h : NothingToLose w) (hw : Settled w) :
    Undisturbed w (w.loadConfig none).1 := by
  rw [loadConfig_unreadable hw]
  refine ⟨rfl, rfl, h.peers.symm, rfl, ?_, ?_, ?_, ?_⟩
  · simp [h.peers]
  · intro now pool c hmem hlinked hpos hpast
    rcases h.clientIdle with hglobal | hnone
    · refine ⟨.clientIdleTimeout, mem_poolClientMaint_idle.mpr ⟨?_, hmem, hlinked, ?_⟩⟩
      · simp [World.idleGuard, hglobal]
      · show (if 0 < (w.userOf c).clientIdleTimeout then _ else _) < _
        rw [if_pos hpos]
        exact hpast
    · rw [userOf_clientIdleTimeout hnone] at hpos
      exact absurd hpos (UInt64.lt_irrefl _)
  · intro now pool c hmem hset hpos hpast
    rcases h.queryWait with hglobal | hglobal | ⟨husers, hdbs⟩
    · exact exists_closed_waiting (by simp [World.waitGuard, hglobal]) hmem hpos hpast
    · exact exists_closed_waiting (by simp [World.waitGuard, hglobal]) hmem hpos hpast
    · exfalso
      have hzero : w.effectiveQueryWaitTimeout c = 0 := by
        unfold World.effectiveQueryWaitTimeout
        split_ifs with huser hdb
        · exact userOf_queryWaitTimeout husers huser
        · exact hdbs _ hdb
        · exact absurd hset (by simp [huser, hdb])
      rw [hzero] at hpos
      exact absurd hpos (UInt64.lt_irrefl _)
  · intro now pool p hmem hready hpast
    have hguard : w.cf.queryTimeout > 0 ∨ w.cf.idleTransactionTimeout > 0 ∨
        w.cf.transactionTimeout > 0 := by
      rcases h.server with hglobal | hglobal | hglobal | hnone
      · exact .inl hglobal
      · exact .inr (.inl hglobal)
      · exact .inr (.inr hglobal)
      · obtain ⟨hq, hi, ht⟩ := hnone p.1.loginUser
        simp [World.ServerPast, hq, hi, ht] at hpast
    obtain ⟨r, hr⟩ := exists_serverVerdict hready hpast
    refine ⟨r, mem_poolServerMaint_of_verdict ?_ hmem hr⟩
    rcases hguard with hg | hg | hg <;> simp [World.serverGuard, hg]


theorem Undisturbed.nothingToLose (hw : Settled w) (h : Undisturbed w (w.loadConfig none).1) :
    NothingToLose w := by
  rw [loadConfig_unreadable hw] at h
  refine ⟨h.peerList.symm, ?_, ?_, ?_⟩
  · -- a client of the user that has been idle for the longest possible time
    by_contra hlose
    obtain ⟨hglobal, name, hname⟩ : ¬ 0 < w.cf.clientIdleTimeout ∧
        ∃ name, (w.users name).clientIdleTimeout ≠ 0 := by
      simpa only [not_or, not_forall] using hlose
    let c : Client := { id := 0, loginUser := some name, requestTime := 1 }
    obtain ⟨r, hr⟩ := h.clientIdle 0 { db := [], activeClientList := [c] } c
      (List.mem_singleton_self _) rfl
      (UInt64.pos_iff_ne_zero.mpr hname) (hw.whole.users name).clientIdleTimeout.lt_max
    simp [World.poolClientMaint, closeSome, World.idleGuard, hglobal] at hr
  · by_contra hlose
    simp only [not_or, not_and_or] at hlose
    obtain ⟨hquery, hwait, hlose⟩ := hlose
    rcases hlose with hlose | hlose
    · obtain ⟨name, hset, hname⟩ : ∃ name, (w.users name).queryWaitTimeoutSet = true ∧
          (w.users name).queryWaitTimeout ≠ 0 := by
        simpa only [not_forall, exists_prop] using hlose
      let c : Client := { id := 0, loginUser := some name, requestTime := 1 }
      have hage : c.waitAge 0 = 0 - 1 := if_pos rfl
      have heff : w.effectiveQueryWaitTimeout c = (w.users name).queryWaitTimeout := if_pos hset
      obtain ⟨r, hr⟩ := h.queryWait 0
        { db := [], waitingClientList := [c] } c (List.mem_singleton_self _) (.inl hset)
        (by rw [heff]; exact UInt64.pos_iff_ne_zero.mpr hname)
        (by rw [heff, hage]; exact (hw.whole.users name).queryWaitTimeout.lt_max)
      simp [World.poolClientMaint, closeSome, World.waitGuard, hquery, hwait,
        World.loginVerdict, c] at hr
    · obtain ⟨name, hset, hname⟩ : ∃ name, (w.database name).queryWaitTimeoutSet = true ∧
          (w.database name).queryWaitTimeout ≠ 0 := by
        simpa only [not_forall, exists_prop] using hlose
      let c : Client := { id := 0, db := name, requestTime := 1 }
      have hage : c.waitAge 0 = 0 - 1 := if_pos rfl
      have heff : w.effectiveQueryWaitTimeout c = (w.database name).queryWaitTimeout :=
        (if_neg (by simp [World.userOf, c])).trans (if_pos hset)
      have hwhole : Whole (w.database name).queryWaitTimeout := by
        unfold World.database
        cases hfind : (w.databaseList ++ w.autodatabaseIdleList).find? (·.name = name) with
        | none => exact whole_zero
        | some db => exact hw.whole.databases db (List.mem_of_find?_eq_some hfind)
      obtain ⟨r, hr⟩ := h.queryWait 0
        { db := [], waitingClientList := [c] } c (List.mem_singleton_self _) (.inr hset)
        (by rw [heff]; exact UInt64.pos_iff_ne_zero.mpr hname)
        (by rw [heff, hage]; exact hwhole.lt_max)
      simp [World.poolClientMaint, closeSome, World.waitGuard, hquery, hwait,
        World.loginVerdict, c] at hr
  · by_contra hlose
    simp only [not_or, not_forall] at hlose
    obtain ⟨hquery, hidle, hxact, name, hname⟩ := hlose
    -- a server that has been at work for the user for the longest possible time
    let server : Server := { id := 0, loginUser := name, idleTx := true, requestTime := 1 }
    let link : Client := { id := 0, queryStart := 1, xactStart := 1 }
    have hopen : ¬ w.ServerPast 0 server link := by
      intro hpast
      obtain ⟨r, hr⟩ := h.server 0 { db := [], activeServerList := [(server, link)] } _
        (List.mem_singleton_self _) rfl hpast
      simp [World.poolServerMaint, World.serverGuard, hquery, hidle, hxact] at hr
    have hwhole := hw.whole.users name
    refine hname ⟨?_, ?_, ?_⟩
    · by_contra hne
      exact hopen (.inl ⟨UInt64.pos_iff_ne_zero.mpr hne, by decide,
        hwhole.queryTimeout.lt_max⟩)
    · by_contra hne
      exact hopen (.inr (.inl ⟨UInt64.pos_iff_ne_zero.mpr hne, rfl,
        hwhole.idleTransactionTimeout.lt_max⟩))
    · by_contra hne
      exact hopen (.inr (.inr ⟨UInt64.pos_iff_ne_zero.mpr hne,
        hwhole.transactionTimeout.lt_max⟩))

/-- **A failed reload.**  From every world pgbouncer can be in between two reloads, a
reload that cannot read its file leaves running traffic undisturbed exactly if there is
nothing to lose. -/
theorem failed_reload_undisturbed_iff (r : Running) :
    Undisturbed r.world (r.loadConfig none).world ↔ NothingToLose r.world :=
  ⟨Undisturbed.nothingToLose r.settled, fun h => h.undisturbed r.settled⟩

/-- A peer and a user with a `client_idle_timeout` of ten minutes are configured.  After a
reload without a file the peer is gone, and a client of the user that has been idle for
an hour is not closed any more. -/
theorem failed_reload_loses_peer :
    let r := Running.initial.loadConfig
      (some [.mainSection, .peer (some 2), .user [97] [.clientIdleTimeout 600]])
    let pool : Pool := { db := [], activeClientList := [{ id := 1, loginUser := some [97] }] }
    (r.world.peerList.map (·.peerId) = [2] ∧
      (r.world.poolClientMaint (seconds 3600) pool).map (·.2) = [.clientIdleTimeout]) ∧
    ((r.loadConfig none).world.peerList = [] ∧
      (r.loadConfig none).world.poolClientMaint (seconds 3600) pool = []) ∧
    ¬ Undisturbed r.world (r.loadConfig none).world := by
  intro r pool
  have hbefore : r.world.peerList.map (·.peerId) = [2] := by decide
  refine ⟨⟨hbefore, by decide⟩, ⟨by decide, by decide⟩, fun h => ?_⟩
  have hafter : (r.loadConfig none).world.peerList = [] := by decide
  rw [← h.peerList, hafter] at hbefore
  exact absurd hbefore (by decide)

end PgBouncer.Maintenance
