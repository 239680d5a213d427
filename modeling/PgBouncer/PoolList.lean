/-
The list of pools, and who owns a pool.

`pool_list` is ordered by the names of the database and of the user of a pool.  The names
are not in the pool: it points to its database and to the credentials it logs in with.
These are of four kinds.  Every global user has some of its own; there are more for what an
auth_query has returned, for PAM, and for the user that is forced in the settings of a
database.  All of them point to a global user, which has a list of its pools, and this list
is where `get_pool` looks.

A pointer is the place it points to here: the kind of the credentials, with the database or
the name they are found by.  A global user is its name, as there is at most one for each.
Databases are numbered, and no number is used twice.  Names are bytes without a zero, and
`compare` orders them as `strcmp` does.

What a login or a reload does otherwise is not part of this file: the events are the calls
that make users, databases and pools, or drop them.  The pools of peers are on a list of
their own.
-/
import PgBouncer.Lib.Run
import PgBouncer.Lib.PutInOrder
import Mathlib.Logic.Function.Basic

namespace PgBouncer.PoolList

abbrev Name := List UInt8

/-- `strcmp`. -/
abbrev strcmp (a b : Name) : Ordering := compare a b

/-- `MAX_USERNAME`, with the zero. -/
def maxUsername : Nat := 128

/-- `MAX_DBNAME`, with the zero. -/
def maxDbname : Nat := 64

/-- `safe_strcpy`, which cuts off what does not fit. -/
def safeStrcpy (size : Nat) (s : Name) : Name := s.take (size - 1)

/-- A pointer to a `PgCredentials`. -/
inductive Credentials
  /-- The ones inside of a global user. -/
  | own (user : Name)
  /-- In the `user_tree` of a database. -/
  | dynamic (db : Nat) (user : Name)
  /-- In `pam_user_tree`. -/
  | pam (user : Name)
  /-- `forced_user_credentials` of a database. -/
  | forced (db : Nat)
  deriving DecidableEq

/-- The fields of `forced_user_credentials`. -/
structure Forced where
  name : Name
  globalUser : Name
  deriving DecidableEq

/-- `PgDatabase`. -/
structure Database where
  name : Name := []
  forced : Option Forced := none
  deriving DecidableEq

/-- `PgPool`. -/
structure Pool where
  db : Nat
  userCredentials : Credentials
  deriving DecidableEq

structure World where
  /-- `user_list` and `user_tree`. -/
  users : List Name := []
  database : Nat → Database := fun _ => {}
  nextDb : Nat := 0
  /-- `database_list` and `autodatabase_idle_list`. -/
  databaseList : List Nat := []
  poolList : List Pool := []
  /-- `fatal` has been called. -/
  fatal : Bool := false

namespace World

/-! ### Credentials -/

variable (w : World)

/-- `name` of credentials. -/
def name : Credentials → Name
  | .own user | .dynamic _ user | .pam user => user
  | .forced d => ((w.database d).forced.map (·.name)).getD []

/-- `global_user` of credentials. -/
def globalUser : Credentials → Name
  | .own user | .dynamic _ user | .pam user => user
  | .forced d => ((w.database d).forced.map (·.globalUser)).getD []

/-- There are such credentials. -/
def exist : Credentials → Bool
  | .own user | .dynamic _ user | .pam user => w.users.contains user
  | .forced d => (w.database d).forced.isSome

/-- `find_or_add_new_global_user`.  The name is looked for as it is, and cut off when it is
stored; `put_in_order` then gives up if there is a user with the shorter name. -/
def findOrAddNewGlobalUser (user : Name) : World × Name :=
  if w.users.contains user then (w, user)
  else
    let stored := safeStrcpy maxUsername user
    if w.users.contains stored then ({ w with fatal := true }, stored)
    else ({ w with users := stored :: w.users }, stored)

/-! ### Databases -/

/-- `find_database`. -/
def findDatabase (dbname : Name) : Option Nat :=
  w.databaseList.find? fun d => (w.database d).name = dbname

def newDatabase (dbname : Name) : World :=
  { w with
    database := Function.update w.database w.nextDb { name := dbname }
    nextDb := w.nextDb + 1
    databaseList := w.nextDb :: w.databaseList }

/-- `add_database`. -/
def addDatabase (dbname : Name) : World × Option Nat :=
  match w.findDatabase dbname with
  | some d => (w, some d)
  | none =>
    if maxDbname ≤ dbname.length then (w, none)
    else (w.newDatabase dbname, some w.nextDb)

def setForced (d : Nat) (forced : Forced) : World :=
  { w with
    database := Function.update w.database d { w.database d with forced := some forced } }

/-- `force_user_credentials`.  Credentials that are there get the name, and keep their
global user. -/
def forceUserCredentials (d : Nat) (user : Name) : World :=
  match (w.database d).forced with
  | some forced => w.setForced d { forced with name := safeStrcpy maxUsername user }
  | none =>
    let (w, globalUser) := w.findOrAddNewGlobalUser user
    w.setForced d { name := safeStrcpy maxUsername user, globalUser }

/-- The `auth_user` of a database. -/
def addAuthUser : Option Name → World
  | some authUser => (w.findOrAddNewGlobalUser authUser).1
  | none => w

/-- `parse_database`, with its `user` and its `auth_user`. -/
def parseDatabase (dbname : Name) (user authUser : Option Name) : World :=
  match w.addDatabase dbname with
  | (w, none) => w
  | (w, some d) =>
    match user with
    | some user => (w.addAuthUser authUser).forceUserCredentials d user
    -- losing forced user not supported
    | none => w.addAuthUser authUser

/-- `kill_database`. -/
def killDatabase (d : Nat) : World :=
  { w with
    databaseList := w.databaseList.filter (· ≠ d)
    poolList := w.poolList.filter (·.db ≠ d) }

/-! ### Pools -/

/-- `cmp_pool`. -/
def cmpPool (p₁ p₂ : Pool) : Ordering :=
  if p₁.db ≠ p₂.db then strcmp (w.database p₁.db).name (w.database p₂.db).name
  else if p₁.userCredentials ≠ p₂.userCredentials then
    strcmp (w.name p₁.userCredentials) (w.name p₂.userCredentials)
  else .eq

/-- `new_pool`. -/
def newPool (d : Nat) (c : Credentials) : World × Option Pool :=
  match PutInOrder.put w.cmpPool ⟨d, c⟩ w.poolList with
  | none => ({ w with fatal := true }, none)
  | some poolList => ({ w with poolList }, some ⟨d, c⟩)

/-- `get_pool`.  The list of the pools of a global user is part of `pool_list`, and has one
for a database at most. -/
def getPool (d : Nat) (c : Credentials) : World × Option Pool :=
  match w.poolList.find? fun p =>
      w.globalUser p.userCredentials = w.globalUser c && p.db = d with
  | some p => (w, some p)
  | none => w.newPool d c

/-! ### What can happen -/

inductive Event
  /-- A line of the section `[databases]`, or an auto-database. -/
  | parseDatabase (dbname : Name) (user authUser : Option Name)
  /-- A user is found or made, for the auth_file, the section `[users]`, or a login. -/
  | findOrAddNewGlobalUser (user : Name)
  | killDatabase (d : Nat)
  /-- A login, an auth_query, or the janitor. -/
  | getPool (d : Nat) (c : Credentials)
  | killPool (p : Pool)
  deriving DecidableEq

/-- Credentials that belong to a database are used for its pools only. -/
def fits (d : Nat) : Credentials → Bool
  | .own _ | .pam _ => true
  | .dynamic d' _ | .forced d' => d' = d

/-- One event.  Nothing happens after `fatal`, and `get_pool` needs credentials that are
there.  A login that has found its database still has it when the database is gone. -/
def step (e : Event) : Option World :=
  if w.fatal then none
  else
    match e with
    | .parseDatabase dbname user authUser => some (w.parseDatabase dbname user authUser)
    | .findOrAddNewGlobalUser user => some (w.findOrAddNewGlobalUser user).1
    | .killDatabase d => some (w.killDatabase d)
    | .getPool d c =>
      if d < w.nextDb && w.exist c && fits d c then some (w.getPool d c).1 else none
    | .killPool p => some { w with poolList := w.poolList.filter (· ≠ p) }

def run : World → List Event → Option World := Run.exec step

end World

end PgBouncer.PoolList
