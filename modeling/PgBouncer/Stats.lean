/-
`SHOW STATS`: a row for every database that has a pool.

`admin_database_stats` goes over `pool_list` once and writes a row whenever the database
changes, so it relies on the order of that list.  A pool counts what it does; `refresh_stats`
keeps two older copies of the counters and the times they were taken at, and averages are
over the time since the older one.

A pointer to a database or to credentials is a number here.  The memory of a database that
has been dropped keeps its name until it is used again for the next one.  Counters are
`uint64_t` and wrap around; a time is a number that never gets near to that.  `sinceOld` and
`sinceNew` are not fields of the source: they are what has been counted since each copy.
-/
import PgBouncer.PoolList

namespace PgBouncer.Stats

open PoolList (Name strcmp)

/-- The counters of a `PgStats`. -/
inductive Counter
  | serverBytes
  | clientBytes
  | serverAssignmentCount
  | queryCount
  | queryTime
  | xactCount
  | xactTime
  | waitTime
  | psClientParseCount
  | psServerParseCount
  | psBindCount
  | clientLoginCount
  deriving DecidableEq

abbrev PgStats := Counter → UInt64

def resetStats : PgStats := fun _ => 0

def statAdd (total stat : PgStats) : PgStats := fun c => total c + stat c

/-- The counter of events that a time is divided by. -/
def Counter.events : Counter → Option Counter
  | .queryTime => some .queryCount
  | .xactTime => some .xactCount
  | .waitTime => some .serverAssignmentCount
  | _ => none

/-- `USEC`. -/
def usec : UInt64 := 1000000

/-- `calc_average`, with the time since `old_stamp`. -/
def calcAverage (dur : Nat) (cur old : PgStats) : PgStats :=
  if dur = 0 then resetStats
  else fun c =>
    match c.events with
    | some e => if cur e - old e > 0 then (cur c - old c) / (cur e - old e) else 0
    | none => .ofNat ((usec * (cur c - old c)).toNat / dur)

/-- `PgPool`. -/
structure Pool where
  db : Nat
  user : Nat
  stats : PgStats := resetStats
  newerStats : PgStats := resetStats
  olderStats : PgStats := resetStats
  sinceNew : Counter → Nat := fun _ => 0
  sinceOld : Counter → Nat := fun _ => 0

def Pool.count (p : Pool) (c : Counter) (n : UInt64) : Pool :=
  { p with
    stats := Function.update p.stats c (p.stats c + n)
    sinceNew := Function.update p.sinceNew c (p.sinceNew c + n.toNat)
    sinceOld := Function.update p.sinceOld c (p.sinceOld c + n.toNat) }

structure World where
  /-- The names in the memory of databases, and the databases there are. -/
  dbName : Nat → Name := fun _ => []
  databaseList : List Nat := []
  userName : Nat → Name := fun _ => []
  poolList : List Pool := []
  now : Nat
  oldStamp : Nat
  newStamp : Nat
  /-- `fatal` has been called. -/
  fatal : Bool := false

structure Row where
  dbname : Name
  stat : PgStats
  avg : PgStats

/-- The variables of the loop in `admin_database_stats`, with the rows that are written. -/
structure Pass where
  rows : List Row := []
  curDb : Option Nat := none
  stDb : PgStats := resetStats
  oldDb : PgStats := resetStats

namespace World

/-- `stats_setup`, a second after `start`. -/
def statsSetup (start : Nat) : World :=
  { now := start + usec.toNat, newStamp := start + usec.toNat, oldStamp := start }

variable (w : World)

def writeStats (d : Nat) (stat old : PgStats) : Row :=
  { dbname := w.dbName d, stat, avg := calcAverage (w.now - w.oldStamp) stat old }

/-- The body of the loop. -/
def visit (s : Pass) (p : Pool) : Pass :=
  let cur := s.curDb.getD p.db
  let s : Pass :=
    if p.db ≠ cur then
      { rows := s.rows ++ [w.writeStats cur s.stDb s.oldDb], curDb := some p.db }
    else { s with curDb := some cur }
  { s with stDb := statAdd s.stDb p.stats, oldDb := statAdd s.oldDb p.olderStats }

def adminDatabaseStats : List Row :=
  let s := w.poolList.foldl w.visit {}
  match s.curDb with
  | some cur => s.rows ++ [w.writeStats cur s.stDb s.oldDb]
  | none => s.rows

def refreshStats : World :=
  { w with
    oldStamp := w.newStamp
    newStamp := w.now
    poolList := w.poolList.map fun p =>
      { p with
        olderStats := p.newerStats, newerStats := p.stats
        sinceOld := p.sinceNew, sinceNew := fun _ => 0 } }

/-- `cmp_pool`. -/
def cmpPool (p₁ p₂ : Pool) : Ordering :=
  if p₁.db ≠ p₂.db then strcmp (w.dbName p₁.db) (w.dbName p₂.db)
  else if p₁.user ≠ p₂.user then strcmp (w.userName p₁.user) (w.userName p₂.user)
  else .eq

def newPool (d u : Nat) : World :=
  match PutInOrder.put w.cmpPool { db := d, user := u } w.poolList with
  | none => { w with fatal := true }
  | some poolList => { w with poolList }

inductive Event
  | newDatabase (d : Nat) (name : Name)
  | killDatabase (d : Nat)
  /-- Credentials get their name, or another one. -/
  | nameUser (u : Nat) (name : Name)
  /-- A `get_pool` that does not find the pool. -/
  | newPool (d u : Nat)
  | killPool (d u : Nat)
  | count (d u : Nat) (c : Counter) (n : UInt64)
  | time (now : Nat)
  | refreshStats
  deriving DecidableEq

/-- One event.  Memory that is in use is not used for another database. -/
def step (e : Event) : Option World :=
  if w.fatal then none
  else
    match e with
    | .newDatabase d name =>
      if d ∈ w.databaseList then none
      else
        some { w with
          dbName := Function.update w.dbName d name, databaseList := d :: w.databaseList }
    | .killDatabase d =>
      some { w with
        databaseList := w.databaseList.filter (· ≠ d), poolList := w.poolList.filter (·.db ≠ d) }
    | .nameUser u name => some { w with userName := Function.update w.userName u name }
    | .newPool d u => some (w.newPool d u)
    | .killPool d u =>
      some { w with poolList := w.poolList.filter fun p => ¬(p.db = d ∧ p.user = u) }
    | .count d u c n =>
      some { w with
        poolList := w.poolList.map fun p => if p.db = d ∧ p.user = u then p.count c n else p }
    | .time now => if w.now ≤ now then some { w with now } else none
    | .refreshStats => some w.refreshStats

end World

end PgBouncer.Stats
