/-
The TLS settings, and the connections to servers that are made with them.

`sbuf_tls_setup` builds new TLS configurations out of the configured settings and puts them
in place only when every step has succeeded, so that a RELOAD, a SIGHUP or a SET with bad
values leaves in force what was applied before.  The configured settings themselves have
been overwritten by then: `cf_server_tls_sslmode` is the rejected mode, and
`server_connect_sslmode` the one that is still applied.  A connection is made in two steps
that each read these variables, and the settings may be loaded again in between.
`handle_connect` decides whether to ask for TLS.  `handle_sslchar` decides whether the
server may refuse, and through `sbuf_tls_connect` what the TLS library is given.

What the library makes of a list of ciphers, a curve or a certificate file, and whether it
finds memory, is a parameter of each call.
-/
import PgBouncer.Auth.Scram

namespace PgBouncer.Tls

/-! ### Settings -/

/-- `enum SSLMode`. -/
inductive SslMode
  | disabled | allow | prefer | require | verifyCa | verifyFull
  deriving DecidableEq

/-- The value of the enumeration, for its comparisons. -/
def SslMode.value : SslMode → Nat
  | .disabled => 0
  | .allow => 1
  | .prefer => 2
  | .require => 3
  | .verifyCa => 4
  | .verifyFull => 5

/-- The settings `client_tls_…` or `server_tls_…`. -/
structure SideSettings where
  sslmode : SslMode
  protocols : Bytes := text "secure"
  ciphers : Bytes := text "default"
  /-- `client_tls13_ciphers` or `server_tls13_ciphers`, which need not be set. -/
  tls13Ciphers : Option Bytes := none
  keyFile : Bytes := []
  certFile : Bytes := []
  caFile : Bytes := []
  deriving DecidableEq

/-- The configured settings that `sbuf_tls_setup` reads, with their defaults. -/
structure Settings where
  client : SideSettings := { sslmode := .disabled }
  clientDheparams : Bytes := text "auto"
  clientEcdhecurve : Bytes := text "auto"
  server : SideSettings := { sslmode := .prefer }
  authType : AuthType := .md5
  deriving DecidableEq

/-! ### The TLS library -/

/-- `verify_client` of a configuration. -/
inductive VerifyClient
  | no | required | optional
  deriving DecidableEq

/-- `struct tls_config`. -/
structure TlsConfig where
  caFile : Bytes
  ciphers : Bytes
  cipherSuites : Option Bytes
  certFile : Option Bytes
  keyFile : Option Bytes
  dheparams : Int
  ecdhecurve : Int
  protocols : Nat
  verifyCert : Bool
  verifyName : Bool
  verifyClient : VerifyClient
  deriving DecidableEq

/-- What the library answers during one call of `sbuf_tls_setup`. -/
structure Library where
  /-- `tls_config_new` finds memory for a configuration for servers, or for clients. -/
  configNew : Bool → Bool
  /-- `tls_config_parse_protocols`. -/
  parseProtocols : Bytes → Option Nat
  /-- `tls_config_set_ciphers` accepts a list of ciphers. -/
  acceptsCiphers : Bytes → Bool
  /-- `tls_config_set_dheparams` and `tls_config_set_ecdhecurve`. -/
  dheparams : Bytes → Option Int
  ecdhecurve : Bytes → Option Int
  /-- `set_string` finds memory for a copy. -/
  setString : Bytes → Bool
  /-- `tls_server` finds memory. -/
  tlsServer : Bool
  /-- The error `tls_configure` ends with, if it does. -/
  configure : TlsConfig → Option Bytes

/-- `TLS_PROTOCOL_TLSv1_3`. -/
def protocolTls13 : Nat := 16

/-- `TLS_PROTOCOLS_DEFAULT`: TLS 1.2 and TLS 1.3. -/
def protocolsDefault : Nat := 8 ||| protocolTls13

/-- `USUAL_TLS_CA_FILE`, a path that is found when pgbouncer is built. -/
def usualTlsCaFile : Bytes := text "/etc/ssl/certs/ca-certificates.crt"

/-- What `tls_config_new` returns. -/
def tlsConfigNew : TlsConfig where
  caFile := usualTlsCaFile
  ciphers := text "secure"
  cipherSuites := none
  certFile := none
  keyFile := none
  dheparams := 0
  ecdhecurve := -1
  protocols := protocolsDefault
  verifyCert := true
  verifyName := true
  verifyClient := .no

/-- `tls_config_equal`, which does not look at the cipher suites of TLS 1.3. -/
def TlsConfig.equal (c d : TlsConfig) : Bool :=
  decide ({ c with cipherSuites := none } = { d with cipherSuites := none })

/-! ### `setup_tls` -/

/-- One step of `setup_tls`: a setting that is not empty is handed to the library. -/
def applySetting (pfx name value : Bytes) (set : TlsConfig → Bytes → Option TlsConfig)
    (conf : TlsConfig) : Except Bytes TlsConfig :=
  if value = [] then .ok conf
  else match set conf value with
    | some conf => .ok conf
    | none => .error (text "invalid " ++ pfx ++ name ++ text ": " ++ value)

variable (lib : Library) (cf : Settings)

/-- `tls_config_set_ciphers_v13`, which keeps the suites only where TLS 1.3 is allowed. -/
def setCiphersV13 (conf : TlsConfig) (suites : Bytes) : Option TlsConfig :=
  if conf.protocols &&& protocolTls13 ≠ 0 ∧ suites ≠ [] then
    if lib.setString suites then some { conf with cipherSuites := some suites } else none
  else some conf

/-- The step of `setup_tls` for the suites of TLS 1.3, which need not be set; its error
names the setting of the other ciphers. -/
def applyCiphersV13 (pfx : Bytes) (ciphers13 : Option Bytes)
    (conf : TlsConfig) : Except Bytes TlsConfig :=
  match ciphers13 with
  | none => .ok conf
  | some suites =>
    match setCiphersV13 lib conf suites with
    | some conf => .ok conf
    | none => .error (text "invalid " ++ pfx ++ text "_ciphers: " ++ suites)

/-- The end of `setup_tls`: what is checked of the other side. -/
def TlsConfig.verifyPeer (conf : TlsConfig) (sslmode : SslMode) (doesConnect : Bool) : TlsConfig :=
  if doesConnect then
    match sslmode with
    | .verifyFull => { conf with verifyCert := true, verifyName := true }
    | .verifyCa => { conf with verifyCert := true, verifyName := false }
    | _ => { conf with verifyCert := false, verifyName := false }
  else
    match sslmode with
    | .verifyFull | .verifyCa => { conf with verifyClient := .required }
    | _ => { conf with verifyClient := .optional }

def setupTls (conf : TlsConfig) (pfx : Bytes) (s : SideSettings)
    (dheparams ecdhecurve : Bytes) (doesConnect : Bool) : Except Bytes TlsConfig := do
  let conf ← applySetting pfx (text "_protocols") s.protocols
    (fun conf v => (lib.parseProtocols v).map fun p => { conf with protocols := p }) conf
  let conf ← applySetting pfx (text "_ciphers") s.ciphers
    (fun conf v => if lib.acceptsCiphers v then some { conf with ciphers := v } else none) conf
  let conf ← applyCiphersV13 lib pfx s.tls13Ciphers conf
  let conf ← applySetting pfx (text "_dheparams") dheparams
    (fun conf v => (lib.dheparams v).map fun d => { conf with dheparams := d }) conf
  let conf ← applySetting pfx (text "_ecdhecurve") ecdhecurve
    (fun conf v => (lib.ecdhecurve v).map fun n => { conf with ecdhecurve := n }) conf
  let conf ← applySetting pfx (text "_ca_file") s.caFile
    (fun conf v => if lib.setString v then some { conf with caFile := v } else none) conf
  let conf ← applySetting pfx (text "_key_file") s.keyFile
    (fun conf v => if lib.setString v then some { conf with keyFile := some v } else none) conf
  let conf ← applySetting pfx (text "_cert_file") s.certFile
    (fun conf v => if lib.setString v then some { conf with certFile := some v } else none) conf
  return conf.verifyPeer s.sslmode doesConnect

/-! ### `sbuf_tls_setup` -/

/-- The global variables that hold the applied configuration. -/
structure Applied where
  /-- `client_accept_conf`, which `client_accept_base` is made of. -/
  clientAcceptConf : Option TlsConfig := none
  clientAcceptSslmode : SslMode := .disabled
  serverConnectConf : Option TlsConfig := none
  serverConnectSslmode : SslMode := .disabled
  deriving DecidableEq

/-- The checks `sbuf_tls_setup` begins with. -/
def checkSettings : Except Bytes Unit :=
  if cf.client.sslmode ≠ .disabled ∧ (cf.client.keyFile = [] ∨ cf.client.certFile = []) then
    .error (text ("To allow TLS connections from clients, client_tls_key_file and " ++
      "client_tls_cert_file must be set."))
  else if cf.authType = .cert then
    if cf.client.sslmode ≠ .verifyFull then
      .error (text "auth_type=cert requires client_tls_sslmode=SSLMODE_VERIFY_FULL")
    else if cf.client.caFile = [] then
      .error (text "auth_type=cert requires client_tls_ca_file")
    else .ok ()
  else if SslMode.verifyCa.value < cf.client.sslmode.value ∧ cf.client.caFile = [] then
    .error (text "client_tls_sslmode requires client_tls_ca_file")
  else .ok ()

/-- The new `server_connect_conf`. -/
def newServerConnectConf : Except Bytes (Option TlsConfig) :=
  if cf.server.sslmode = .disabled then .ok none
  else if !lib.configNew true then .error (text "tls_config_new failed 1")
  else (setupTls lib tlsConfigNew (text "server_tls") cf.server [] [] true).map some

/-- The new `client_accept_conf`, with a `client_accept_base` that takes it. -/
def newClientAcceptConf : Except Bytes (Option TlsConfig) :=
  if cf.client.sslmode = .disabled then .ok none
  else if !lib.configNew false then .error (text "tls_config_new failed 2")
  else do
    let conf ← setupTls lib tlsConfigNew (text "client_tls") cf.client cf.clientDheparams
      cf.clientEcdhecurve false
    if !lib.tlsServer then .error (text "server_base failed")
    else match lib.configure conf with
      | some error => .error (text "TLS setup failed: " ++ error)
      | none => .ok (some conf)

def tlsChangeRequiresReconnect (applied : Applied) (newConf : Option TlsConfig) : Bool :=
  if applied.serverConnectSslmode ≠ cf.server.sslmode then true
  else match applied.serverConnectConf, newConf with
    | none, _ => true
    | some _, none => true
    | some old, some new => !new.equal old

/-- `sbuf_tls_setup`: the new values of the global variables, and whether all server
connections are marked dirty, or the error that is logged. -/
def sbufTlsSetup (applied : Applied) : Except Bytes (Applied × Bool) := do
  checkSettings cf
  let serverConf ← newServerConnectConf lib cf
  let clientConf ← newClientAcceptConf lib cf
  let dirty := (applied.serverConnectConf.isSome || serverConf.isSome) &&
    tlsChangeRequiresReconnect cf applied serverConf
  return ({ clientAcceptConf := clientConf
            clientAcceptSslmode := cf.client.sslmode
            serverConnectConf := serverConf
            serverConnectSslmode := cf.server.sslmode }, dirty)

/-! ### A connection to a server -/

/-- The variables a connection reads. -/
structure Globals where
  cf : Settings
  applied : Applied

/-- What `handle_connect` sends to a server that is to be logged in to. -/
inductive FirstPacket
  | sslRequest | startup
  deriving DecidableEq

def Globals.handleConnect (g : Globals) (isUnix : Bool) : FirstPacket :=
  if SslMode.disabled.value < g.applied.serverConnectSslmode.value ∧ !isUnix then .sslRequest
  else .startup

/-- What the library answers while a connection is made. -/
structure ConnectLibrary where
  /-- `tls_client` finds memory. -/
  tlsClient : Bool
  /-- The error `tls_connect_fds` meets with a configuration, other than that it lacks the
  name of the server. -/
  connectFds : TlsConfig → Option Bytes

/-- `tls_connect_fds`. -/
def tlsConnectFds (lib : ConnectLibrary) (conf : TlsConfig) (servername : Option Bytes) :
    Except Bytes Unit :=
  match lib.connectFds conf with
  | some error => .error error
  | none =>
    if conf.verifyName && servername.isNone then .error (text "server name not specified")
    else .ok ()

/-- How the SSLRequest ends. -/
inductive Outcome
  /-- The login goes on without TLS. -/
  | startup
  /-- A TLS handshake is begun with a configuration and a server name. -/
  | handshake (conf : TlsConfig) (servername : Option Bytes)
  | disconnect (reason : Bytes)
  deriving DecidableEq

/-- The name of the server that `sbuf_tls_connect` hands to the library. -/
def Globals.servername (g : Globals) (hostname : Bytes) : Option Bytes :=
  if g.cf.server.sslmode ≠ .verifyFull then none else some hostname

/-- `sbuf_tls_connect`. -/
def Globals.sbufTlsConnect (g : Globals) (lib : ConnectLibrary) (hostname : Bytes) :
    Option (TlsConfig × Option Bytes) :=
  if !lib.tlsClient then none
  else
    -- The library takes its default configuration where it is given none.
    let conf := g.applied.serverConnectConf.getD tlsConfigNew
    match tlsConnectFds lib conf (g.servername hostname) with
    | .error _ => none
    | .ok () => some (conf, g.servername hostname)

/-- The server is ready for TLS. -/
def Globals.launchTls (g : Globals) (lib : ConnectLibrary) (hostname : Bytes) : Outcome :=
  match g.sbufTlsConnect lib hostname with
  | some (conf, servername) => .handshake conf servername
  | none => .disconnect (text "sslreq processing failed")

/-- `handle_sslchar`, for the bytes that have been received. -/
def Globals.handleSslchar (g : Globals) (lib : ConnectLibrary) (hostname data : Bytes) : Outcome :=
  match data with
  | [] => .disconnect (text "bad sslreq answer")
  | schar :: rest =>
    if schar ≠ ch 'S' ∧ schar ≠ ch 'N' then .disconnect (text "bad sslreq answer")
    else if rest ≠ [] then
      .disconnect (text "received unencrypted data after SSL response")
    else if schar = ch 'S' then g.launchTls lib hostname
    else if SslMode.require.value ≤ g.applied.serverConnectSslmode.value then
      .disconnect (text "server refused SSL")
    else .startup

/-- A connection to a server: `handle_connect` with some values of the variables, and
`handle_sslchar` later, perhaps with others. -/
def connection (g g' : Globals) (lib : ConnectLibrary) (isUnix : Bool) (hostname data : Bytes) :
    FirstPacket × Option Outcome :=
  match g.handleConnect isUnix with
  | .startup => (.startup, none)
  | .sslRequest => (.sslRequest, some (g'.handleSslchar lib hostname data))

/-! ### A life of the settings -/

structure World where
  now : Globals
  /-- The variables as the last call of `sbuf_tls_setup` left them that succeeded. -/
  good : Globals

inductive Event
  /-- The settings are read again, or one of them is set. -/
  | configure (cf : Settings)
  /-- A call of `sbuf_tls_setup`, after a RELOAD, a SIGHUP, or a SET of a TLS setting. -/
  | setup (lib : Library)

/-- At the start `sbuf_tls_setup` has to succeed, or pgbouncer dies. -/
def World.start : Option World :=
  match sbufTlsSetup lib cf {} with
  | .error _ => none
  | .ok (applied, _) => some { now := { cf, applied }, good := { cf, applied } }

def World.step (w : World) : Event → World
  | .configure cf => { w with now := { w.now with cf } }
  | .setup lib =>
    match sbufTlsSetup lib w.now.cf w.now.applied with
    | .error _ => w
    | .ok (applied, _) =>
      { now := { w.now with applied }, good := { w.now with applied } }

def World.run (w : World) (es : List Event) : World := es.foldl World.step w

end PgBouncer.Tls
