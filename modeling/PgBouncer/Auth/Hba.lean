/-
Host-based access rules, and what a configuration says about logins.

A rule of the HBA file is matched on the kind and address of a connection, on the
database and on the user.  The first rule that matches decides.  A physical
replication connection has no database, so for it the rule has to name `replication`;
every other connection is matched on the database's name.
-/
import PgBouncer.Auth.Scram
import PgBouncer.StrList

namespace PgBouncer

/-- `ReplicationType`. -/
inductive ReplicationType
  | none | logical | physical
  deriving DecidableEq

/-- Where a client comes from. -/
inductive PgAddr
  | unix
  | inet4 (addr : Bytes)
  | inet6 (addr : Bytes)
  deriving DecidableEq

/-- `pga_is_unix`. -/
def PgAddr.isUnix : PgAddr → Bool
  | .unix => true
  | _ => false

/-! ### Rules -/

inductive RuleType
  | socket | host | hostssl | hostnossl
  deriving DecidableEq

/-- `HBAAddress`. -/
inductive HbaAddress
  | all
  | inet4 (addr mask : Bytes)
  | inet6 (addr mask : Bytes)
  deriving DecidableEq

/-- `HBAName`: the flags and the set of names. -/
structure HbaName where
  all : Bool := false
  sameuser : Bool := false
  replication : Bool := false
  nameSet : List Bytes := []
  deriving DecidableEq

/-- The methods an HBA file can name. -/
inductive HbaMethod
  | trust | reject | md5 | password | peer | cert | scramSha256 | ldap
  deriving DecidableEq

/-- `rule_method`. -/
def HbaMethod.authType : HbaMethod → AuthType
  | .trust => .trust
  | .reject => .reject
  | .md5 => .md5
  | .password => .plain
  | .peer => .peer
  | .cert => .cert
  | .scramSha256 => .scramSha256
  | .ldap => .ldap

/-- `Mapping`, a line of an ident map. -/
structure Mapping where
  systemUserName : Bytes
  postgresUserName : Bytes
  nameAll : Bool
  deriving DecidableEq

/-- `HBARule`. -/
structure HbaRule where
  ruleType : RuleType
  address : HbaAddress := .all
  dbName : HbaName
  userName : HbaName
  ruleMethod : HbaMethod
  identmap : Option (List Mapping) := none
  deriving DecidableEq

/-- `name_match`. -/
def HbaName.nameMatch (hname : HbaName) (name pair : Bytes) : Bool :=
  hname.all || (hname.sameuser && name = pair) || hname.nameSet.contains name

/-- `match_inet4` and `match_inet6`. -/
def masked (src mask base : Bytes) : Bool :=
  List.zipWith (· &&& ·) src mask = base

/-- `address_match`. -/
def HbaAddress.addressMatch : HbaAddress → PgAddr → Bool
  | .all, _ => true
  | .inet4 base mask, .inet4 src => masked src mask base
  | .inet6 base mask, .inet6 src => masked src mask base
  | _, _ => false

/-- The address part of a turn of `hba_eval`. -/
def HbaRule.connectionMatch (rule : HbaRule) (addr : PgAddr) (isTls : Bool) : Bool :=
  if addr.isUnix then rule.ruleType = .socket
  else
    match rule.ruleType with
    | .socket => false
    | .hostssl => isTls && rule.address.addressMatch addr
    | .hostnossl => !isTls && rule.address.addressMatch addr
    | .host => rule.address.addressMatch addr

/-- The rest of a turn of `hba_eval`. -/
def HbaRule.namesMatch (rule : HbaRule) (replication : ReplicationType)
    (dbname username : Bytes) : Bool :=
  (if replication = .physical then rule.dbName.replication
    else rule.dbName.nameMatch dbname username) &&
  rule.userName.nameMatch username dbname

/-- `hba_eval`. -/
def hbaEval (hba : List HbaRule) (addr : PgAddr) (isTls : Bool) (replication : ReplicationType)
    (dbname username : Bytes) : Option HbaRule :=
  hba.find? fun rule =>
    rule.connectionMatch addr isTls && rule.namesMatch replication dbname username

/-- The loops over an ident map in `login_via_cert` and `login_as_unix_peer`, and what is
done without a map: the connection `vouches` for a name. -/
def identMatch (vouches : Bytes → Bool) (login : Bytes) : Option (List Mapping) → Bool
  | some mappings =>
    mappings.any fun m => vouches m.systemUserName && (m.nameAll || login = m.postgresUserName)
  | none => vouches login

/-! ### The configuration -/

/-- `PgDatabase`, as far as logins read it. -/
structure PgDatabase where
  name : Bytes
  admin : Bool := false
  /-- There is no such database; it is made up to be refused. -/
  fake : Bool := false
  dbDisabled : Bool := false
  /-- `forced_user_credentials` is set. -/
  forcedUser : Bool := false
  /-- The user whose credentials `auth_user_credentials` are. -/
  authUser : Option Bytes := none
  authDbname : Option Bytes := none
  deriving DecidableEq

structure AuthConfig where
  /-- `cf_auth_type`. -/
  authType : AuthType
  /-- `parsed_hba`. -/
  hba : List HbaRule := []
  databases : List PgDatabase := []
  /-- What `cf_autodb_connstr` says about every database that is not configured. -/
  autodb : Option PgDatabase := none
  /-- `cf_admin_users`, as it is written. -/
  adminUsers : Bytes := []
  /-- `cf_stats_users`. -/
  statsUsers : Bytes := []
  /-- `cf_auth_user`. -/
  authUser : Option Bytes := none
  /-- `cf_auth_dbname`. -/
  authDbname : Option Bytes := none
  /-- Built with `HAVE_LDAP`. -/
  haveLdap : Bool := true
  /-- `cf_auth_ldap_options` is set. -/
  authLdapOptions : Bool := true
  /-- `client_accept_sslmode` is not `SSLMODE_DISABLED`. -/
  sslAllowed : Bool := false
  /-- `client_accept_sslmode` is at least `SSLMODE_REQUIRE`. -/
  sslRequired : Bool := false
  /-- `parse_bool`. -/
  parseBool : Bytes → Option Bool := fun _ => none
  /-- Why a startup parameter that is not about the login is refused, if it is. -/
  refusesParam : ReplicationType → Bytes → Bytes → Option Bytes := fun _ _ _ => none

namespace AuthConfig

/-- `strlist_contains(cf_admin_users, name)`. -/
def isAdminUser (cfg : AuthConfig) (name : Bytes) : Bool :=
  StrList.strlistContains cfg.adminUsers name

/-- `strlist_contains(cf_stats_users, name)`. -/
def isStatsUser (cfg : AuthConfig) (name : Bytes) : Bool :=
  StrList.strlistContains cfg.statsUsers name

/-- `find_or_register_database`, with `register_auto_database`. -/
def findOrRegisterDatabase (cfg : AuthConfig) (name : Bytes) : Option PgDatabase :=
  match cfg.databases.find? (·.name = name) with
  | some db => some db
  | none => cfg.autodb.map fun db => { db with name := name }

theorem findOrRegisterDatabase_name {cfg : AuthConfig} {name : Bytes} {db : PgDatabase}
    (h : cfg.findOrRegisterDatabase name = some db) : db.name = name := by
  unfold findOrRegisterDatabase at h
  split at h
  · rename_i db' hfind
    cases h
    simpa using List.find?_some hfind
  · obtain ⟨db', -, rfl⟩ := Option.map_eq_some_iff.mp h
    rfl

end AuthConfig

end PgBouncer
