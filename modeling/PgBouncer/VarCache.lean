/-
Session parameters that follow the client.

pgbouncer knows of some parameters which value a client asked for and which value a server
has.  Before a client gets a server the two are compared, and the server is sent a SET for
each that differs; the functions are those of `varcache.c`, with what `find_server`,
`load_parameter` and the handling of ReadyForQuery do with them.

A tracked parameter is its place in the list of names, as it is in the source.  The backend
is a parameter: what it makes of a value, and which values it reports.  `effective` is the
value a backend really has, and `asked` the value a client means; pgbouncer knows neither.
The world has one pool, since servers and clients of two pools do not meet.
-/
import PgBouncer.Auth.Login
import PgBouncer.Lib.Run
import PgBouncer.Lib.SqlLiteral

namespace PgBouncer.Vars

/-! ### Names -/

/-- `tolower`. -/
def toLower (c : UInt8) : UInt8 := if ch 'A' ≤ c ∧ c ≤ ch 'Z' then c + 32 else c

/-- The names of parameters are compared without regard to case. -/
def sameName (a b : Bytes) : Bool := a.map toLower = b.map toLower

/-- The names that are always tracked. -/
def staticNames : List Bytes :=
  [text "DateStyle", text "client_encoding", text "TimeZone", text "standard_conforming_strings",
    text "application_name", text "default_transaction_read_only", text "IntervalStyle",
    text "search_path", text "scram_iterations", text "session_authorization"]

/-- `HASH_FIND_STR` in `lookup_map`. -/
def lookup (names : List Bytes) (key : Bytes) : Option Nat := names.findIdx? (sameName key)

/-! ### Caches -/

/-- `VarCache`: the value of each tracked parameter, or NULL. -/
abbrev VarCache := Nat → Option Bytes

/-- `varcache_set` of a value. -/
def varcacheSet (names : List Bytes) (cache : VarCache) (key value : Bytes) : VarCache × Bool :=
  match lookup names key with
  | none => (cache, false)
  | some i => (Function.update cache i (some value), true)

/-- `varcache_fill_unset`. -/
def varcacheFillUnset (src dst : VarCache) : VarCache := fun i => (dst i).or (src i)

/-- `varcache_set_canonical` for one parameter: the values of server and client. -/
def setCanonical (orig server client : Option Bytes) : Option Bytes × Option Bytes :=
  if orig.isNone then (client, client)
  else
    match client, server with
    | some _, some server => (some server, some server)
    | some client, none => (some client, some client)
    | none, _ => (none, none)

/-! ### Statements -/

/-- A statement of the query of `varcache_apply`. -/
inductive Stmt
  | set (i : Nat) (value : Bytes)
  | reset (i : Nat)
  deriving DecidableEq

/-- The parameter a statement is about. -/
def Stmt.index : Stmt → Nat
  | .set i _ | .reset i => i

/-- `variable_is_guc_list_quote`. -/
def variableIsGucListQuote (key : Bytes) : Bool := sameName (text "search_path") key

/-- The right side of a SET; `none` if the value does not fit into `qbuf`. -/
def setValue (key cval : Bytes) : Option Bytes :=
  if variableIsGucListQuote key then
    some (if cval = text "\"\"" then text "''" else cval)
  else SqlLiteral.write 128 cval

/-- `apply_var`. -/
def applyVar (names : List Bytes) (i : Nat) (cval sval : Option Bytes) : Option Stmt :=
  if cval = sval then none
  else
    match cval with
    | none => some (.reset i)
    | some cval => (setValue (names.getD i []) cval).map (.set i)

/-- `varcache_apply`: the statements, in the order of the names. -/
def varcacheApply (names : List Bytes) (server client : VarCache) : List Stmt :=
  (List.range names.length).filterMap fun i => applyVar names i (client i) (server i)

/-! ### The backend -/

/-- What a backend makes of values.  A value has a canonical spelling, which is the one that
is reported. -/
structure Backend where
  /-- The value a parameter has after a startup packet that asks for this text; `none` if the
  backend refuses it. -/
  startup : Nat → Bytes → Option Bytes
  /-- The value it has after a SET with this text behind the equals sign. -/
  set : Nat → Bytes → Option Bytes
  /-- Whether it is reported. -/
  reports : Nat → Bool
  /-- Whether a list is expected, in which a literal is one element. -/
  listQuote : Nat → Bool
  set_literal : ∀ {i value v}, listQuote i = false → SqlLiteral.read value = some v →
    set i value = startup i v
  set_canonical : ∀ {i value v}, set i value = some v → startup i v = some v
  startup_canonical : ∀ {i value v}, startup i value = some v → startup i v = some v

/-- The backend runs statements: the values afterwards, `none` for an error. -/
def Backend.exec (b : Backend) (default : Nat → Bytes) :
    (Nat → Bytes) → List Stmt → Option (Nat → Bytes)
  | effective, [] => some effective
  | effective, .set i value :: stmts =>
    (b.set i value).bind fun v => b.exec default (Function.update effective i v) stmts
  | effective, .reset i :: stmts =>
    b.exec default (Function.update effective i (default i)) stmts

/-! ### The world -/

/-- A client that is linked to a server. -/
structure Link where
  client : Nat
  /-- The server runs the client's auth_query; no packet of the client has gone to it. -/
  authQuery : Bool := false
  deriving DecidableEq

structure Server where
  vars : VarCache := fun _ => none
  /-- What a SET has been sent for; `setting_vars` as long as it is not empty. -/
  pending : List Stmt := []
  link : Option Link := none
  /-- The values the backend has. -/
  effective : Nat → Bytes
  /-- The values it had at the start of the session. -/
  default : Nat → Bytes

structure Client where
  vars : VarCache := fun _ => none
  replication : Bool := false
  /-- Tracked parameters in the `startup_options` of a replication client. -/
  startupOptions : VarCache := fun _ => none
  welcomed : Bool := false
  link : Option Nat := none
  /-- The values the client means. -/
  asked : VarCache := fun _ => none

structure World where
  servers : Nat → Option Server := fun _ => none
  clients : Nat → Option Client := fun _ => none
  origVars : VarCache := fun _ => none
  welcomeMsgReady : Bool := false

inductive Event
  /-- The startup packet of a client, with the assignments in its `options`. -/
  | startup (c : Nat) (params : List (Bytes × Bytes)) (replication : Bool)
      (options : List (Bytes × Bytes))
  /-- `welcome_client`. -/
  | welcome (c : Nat)
  /-- A server logs in; its values at the start. -/
  | login (s : Nat) (values : List Bytes)
  /-- A server logs in for a replication client. -/
  | loginReplication (s c : Nat) (values : List Bytes)
  /-- `find_server`. -/
  | findServer (s c : Nat)
  /-- `find_server` for an auth_query. -/
  | authQuery (s c : Nat)
  /-- The backend answers the query of `varcache_apply`. -/
  | answer (s : Nat)
  /-- A parameter has changed in the backend. -/
  | parameterStatus (s : Nat) (key value : Bytes)
  | release (s : Nat)
  | closeServer (s : Nat)
  /-- The server of the client is closed as well, or it is released. -/
  | closeClient (c : Nat) (keep : Bool)
  | tagPoolDirty
  deriving DecidableEq

/-- Several assignments of a startup packet; `none` if a parameter is not tracked. -/
def setAll (names : List Bytes) (cache : VarCache) : List (Bytes × Bytes) → Option VarCache
  | [] => some cache
  | (key, value) :: rest =>
    let r := varcacheSet names cache key value
    if r.2 then setAll names r.1 rest else none

namespace World

variable (names : List Bytes) (b : Backend) (w : World)

def putServer (s : Nat) (sv : Option Server) : World :=
  { w with servers := Function.update w.servers s sv }

def putClient (c : Nat) (cl : Option Client) : World :=
  { w with clients := Function.update w.clients c cl }

/-- What a new server reports: its cache. -/
def reported (effective : Nat → Bytes) : VarCache :=
  fun i => if i < names.length ∧ b.reports i then some (effective i) else none

/-- `add_welcome_parameter` for all of it, and `finish_welcome_msg`. -/
def addWelcome (effective : Nat → Bytes) : World :=
  if w.welcomeMsgReady then w
  else
    { w with
      origVars := fun i => (reported names b effective i).or (w.origVars i)
      welcomeMsgReady := true }

/-- The values a session can start with are canonical. -/
def canStart (values : List Bytes) : Bool :=
  (List.range names.length).all fun i => b.startup i (values.getD i []) = some (values.getD i [])

/-- The values behind a startup packet: those of the session, overwritten by the options and
then by the parameters; `none` if one of them is refused. -/
def startValues (values : List Bytes) (options vars : VarCache) : Option (Nat → Bytes) :=
  let value (i : Nat) : Option Bytes :=
    match (vars i).or (options i) with
    | some v => b.startup i v
    | none => some (values.getD i [])
  if (List.range names.length).all fun i => (value i).isSome then some fun i => (value i).getD []
  else none

/-- The client is told of a value: `load_parameter`, and whether it means it from now on. -/
def tell (cl : Client) (i : Nat) (v : Bytes) (means : Bool) : Client :=
  { cl with
    vars := Function.update cl.vars i (some v)
    asked := if means then Function.update cl.asked i (some v) else cl.asked }

/-- `disconnect_server`, with the client it is linked to. -/
def disconnectServer (s : Nat) (sv : Server) : World :=
  let w := w.putServer s none
  match sv.link with
  | some l => w.putClient l.client none
  | none => w

/-- The answer to the query of `varcache_apply`. -/
def answerStep (s : Nat) : Option World :=
  match w.servers s with
  | none => none
  | some sv =>
    match sv.link with
    | none => none
    | some l =>
      match w.clients l.client with
      | none => none
      | some cl =>
        if sv.pending.isEmpty then none
        else
          match b.exec sv.default sv.effective sv.pending with
          -- an ErrorResponse while setting_vars
          | none => some (w.disconnectServer s sv)
          | some effective =>
            -- what has changed is reported to both, before ReadyForQuery
            let changed (i : Nat) : Bool :=
              i < names.length ∧ b.reports i ∧ effective i ≠ sv.effective i
            let server : VarCache := fun i =>
              if changed i then some (effective i) else sv.vars i
            let client : VarCache := fun i =>
              if changed i then some (effective i) else cl.vars i
            let vars := fun i => setCanonical (w.origVars i) (server i) (client i)
            some ((w.putServer s (some { sv with
              effective, pending := [], vars := fun i => (vars i).1 })).putClient l.client
                (some { cl with
                  vars := fun i => (vars i).2
                  asked := fun i => (cl.asked i).or (vars i).2 }))

/-- One event; `none` if it cannot happen. -/
def step : Event → Option World
  | .startup c params replication options =>
    if (w.clients c).isSome then none
    else
      -- only replication clients have their options passed on as they are
      let parsed := if replication then params else params ++ options
      match setAll names (fun _ => none) parsed with
      | none => some w
      | some vars =>
        let rest : VarCache := fun i =>
          if replication then
            (options.reverse.find? fun o => lookup names o.1 = some i).map Prod.snd
          else none
        some (w.putClient c (some
          { vars, replication, startupOptions := rest
            asked := fun i => (vars i).or (rest i) }))
  | .welcome c =>
    match w.clients c with
    | none => none
    | some cl =>
      if w.welcomeMsgReady ∧ !cl.welcomed then
        some (w.putClient c (some { cl with
          vars := varcacheFillUnset w.origVars cl.vars
          welcomed := true
          asked := varcacheFillUnset w.origVars cl.asked }))
      else none
  | .login s values =>
    if (w.servers s).isNone ∧ canStart names b values then
      let effective := fun i => values.getD i []
      some ((w.addWelcome names b effective).putServer s (some
        { vars := reported names b effective, effective, default := effective }))
    else none
  | .loginReplication s c values =>
    match w.clients c with
    | none => none
    | some cl =>
      if (w.servers s).isNone ∧ canStart names b values ∧ cl.replication ∧ cl.link = none then
        match startValues names b values cl.startupOptions cl.vars with
        -- the login fails
        | none => some w
        | some effective =>
          let told := reported names b effective
          some (((w.addWelcome names b effective).putServer s (some
            { vars := told, effective, default := effective, link := some { client := c } }
            )).putClient c (some { cl with
              vars := fun i => (told i).or (cl.vars i)
              link := some s
              asked := fun i => (cl.asked i).or (told i) }))
      else none
  | .findServer s c =>
    match w.servers s, w.clients c with
    | some sv, some cl =>
      -- a client that is linked keeps its server, also the one of its auth_query
      if cl.link = some s ∧ cl.welcomed then
        some (w.putServer s (some { sv with link := some { client := c } }))
      else if sv.link = none ∧ sv.pending = [] ∧ cl.link = none ∧ cl.welcomed ∧
          !cl.replication then
        some ((w.putServer s (some { sv with
          link := some { client := c }, pending := varcacheApply names sv.vars cl.vars
          })).putClient c (some { cl with link := some s }))
      else none
    | _, _ => none
  | .authQuery s c =>
    match w.servers s, w.clients c with
    | some sv, some cl =>
      if sv.link = none ∧ sv.pending = [] ∧ cl.link = none ∧ !cl.welcomed then
        some ((w.putServer s (some { sv with
          link := some { client := c, authQuery := true } })).putClient c
            (some { cl with link := some s }))
      else none
    | _, _ => none
  | .answer s => w.answerStep names b s
  | .parameterStatus s key value =>
    match w.servers s, lookup names key with
    | some sv, some i =>
      if b.reports i ∧ b.startup i value = some value then
        let w' := w.putServer s (some { sv with
          effective := Function.update sv.effective i value
          vars := Function.update sv.vars i (some value) })
        match sv.link with
        | none => some w'
        | some l =>
          -- what is being set for the client stays what the client means
          let means := !l.authQuery && !sv.pending.any (·.index = i)
          some (w'.putClient l.client
            ((w.clients l.client).map fun cl => tell cl i value means))
      else none
    | some _, none => some w
    | none, _ => none
  | .release s =>
    match w.servers s with
    | none => none
    | some sv =>
      match sv.link with
      | none => none
      | some l =>
        if sv.pending = [] then
          some ((w.putServer s (some { sv with link := none })).putClient l.client
            ((w.clients l.client).map fun cl => { cl with link := none }))
        else none
  | .closeServer s => (w.servers s).map (w.disconnectServer s)
  | .closeClient c keep =>
    match w.clients c with
    | none => none
    | some cl =>
      match cl.link with
      | none => some (w.putClient c none)
      | some s =>
        some ((w.putServer s ((w.servers s).bind fun sv =>
          if keep ∧ sv.pending = [] then some { sv with link := none } else none)).putClient
            c none)
  | .tagPoolDirty => some { w with welcomeMsgReady := false }

/-- A sequence of events. -/
def run (es : List Event) : Option World := Run.exec (step names b) w es

end World

end PgBouncer.Vars
