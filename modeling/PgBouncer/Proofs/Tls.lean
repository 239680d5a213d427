/-
Whether rejected TLS settings have an effect.

A call of `sbuf_tls_setup` that fails leaves the applied configuration alone, so the
connections to servers should go on as after the last call that succeeded.  Two of the
three decisions do: whether TLS is asked for and whether a refusal is tolerated are read
off `server_connect_sslmode`, and the configuration is `server_connect_conf`.  The third,
whether the TLS library is told the name of the server, is read off
`cf_server_tls_sslmode`, the configured mode.  If the applied mode is verify-full and the
rejected one is not, the library has a configuration that wants the name to be verified
and no name, and every connection fails.  The other way round the name is not verified,
as it should not be, but the server is told it.  `World.connection_iff` says that these
are the only ways in which rejected values come through.
-/
import PgBouncer.Tls

namespace PgBouncer.Tls

/-! ### What a successful call leaves -/

theorem ok_of_bind {ε α β : Type} {x : Except ε α} {f : α → Except ε β} {b : β}
    (h : x >>= f = .ok b) : ∃ a, x = .ok a ∧ f a = .ok b := by
  cases x with
  | error e => nomatch h
  | ok a => exact ⟨a, rfl, h⟩

/-- `setup_tls` sets what is verified last, so no other setting has a say in it. -/
theorem setupTls_verifyPeer {lib : Library} {conf conf' : TlsConfig} {pfx dheparams ecdhecurve}
    {s : SideSettings} {doesConnect : Bool}
    (h : setupTls lib conf pfx s dheparams ecdhecurve doesConnect = .ok conf') :
    ∃ conf₀ : TlsConfig, conf' = conf₀.verifyPeer s.sslmode doesConnect := by
  unfold setupTls at h
  -- The settings are eight binds, and the return is what comes after them.
  repeat obtain ⟨_, -, h⟩ := ok_of_bind h
  exact ⟨_, (Except.ok.inj h).symm⟩

theorem verifyPeer_verifyName (conf : TlsConfig) (sslmode : SslMode) :
    (conf.verifyPeer sslmode true).verifyName = (sslmode == .verifyFull) := by
  cases sslmode <;> rfl

theorem newServerConnectConf_ok {lib : Library} {cf : Settings} {conf : Option TlsConfig}
    (hmode : cf.server.sslmode ≠ .disabled) (h : newServerConnectConf lib cf = .ok conf) :
    ∃ c, conf = some c ∧ c.verifyName = (cf.server.sslmode == .verifyFull) := by
  unfold newServerConnectConf at h
  rw [if_neg hmode] at h
  by_cases hnew : lib.configNew true
  · rw [hnew] at h
    cases hsetup : setupTls lib tlsConfigNew (text "server_tls") cf.server [] [] true with
    | error e =>
      rw [hsetup] at h
      nomatch h
    | ok c =>
      rw [hsetup] at h
      obtain ⟨conf₀, rfl⟩ := setupTls_verifyPeer hsetup
      exact ⟨_, (Except.ok.inj h).symm, verifyPeer_verifyName _ _⟩
  · rw [Bool.eq_false_iff.mpr hnew] at h
    nomatch h

/-- The applied values are those of the configured settings. -/
structure Globals.Settled (g : Globals) : Prop where
  sslmode : g.applied.serverConnectSslmode = g.cf.server.sslmode
  conf : g.cf.server.sslmode ≠ .disabled → ∃ conf, g.applied.serverConnectConf = some conf ∧
    conf.verifyName = (g.cf.server.sslmode == .verifyFull)

theorem sbufTlsSetup_settled {lib : Library} {cf : Settings} {applied applied' : Applied}
    {dirty : Bool} (h : sbufTlsSetup lib cf applied = .ok (applied', dirty)) :
    Globals.Settled ⟨cf, applied'⟩ := by
  obtain ⟨-, -, h⟩ := ok_of_bind h
  obtain ⟨serverConf, hserver, h⟩ := ok_of_bind h
  obtain ⟨clientConf, -, h⟩ := ok_of_bind h
  obtain ⟨rfl, -⟩ := Prod.mk.inj (Except.ok.inj h)
  exact ⟨rfl, fun hmode => newServerConnectConf_ok hmode hserver⟩

/-! ### Every run -/

/-- What is applied is what the last successful call has left. -/
structure World.Sound (w : World) : Prop where
  applied : w.now.applied = w.good.applied
  settled : w.good.Settled

theorem World.Sound.start {lib : Library} {cf : Settings} {w : World}
    (h : World.start lib cf = some w) : w.Sound := by
  unfold World.start at h
  cases hsetup : sbufTlsSetup lib cf {} with
  | error e =>
    rw [hsetup] at h
    nomatch h
  | ok r =>
    rw [hsetup] at h
    obtain rfl := (Option.some.inj h).symm
    exact ⟨rfl, sbufTlsSetup_settled hsetup⟩

theorem World.Sound.step {w : World} (hw : w.Sound) (e : Event) : (w.step e).Sound := by
  cases e with
  | configure cf => exact ⟨hw.applied, hw.settled⟩
  | setup lib =>
    unfold World.step
    dsimp only
    cases hsetup : sbufTlsSetup lib w.now.cf w.now.applied with
    | error e => exact hw
    | ok r => exact ⟨rfl, sbufTlsSetup_settled hsetup⟩

theorem World.Sound.run {w : World} (hw : w.Sound) (es : List Event) : (w.run es).Sound := by
  induction es generalizing w with
  | nil => exact hw
  | cons e es ih => exact ih (hw.step e)

/-! ### One connection -/

/-- What counts of an outcome: the name of the server only where it is verified, and not
where the server is merely told it. -/
def Outcome.checked : Outcome → Outcome
  | .handshake conf servername => .handshake conf (if conf.verifyName then servername else none)
  | outcome => outcome

/-- A connection with an outcome that is looked at in some way. -/
def seen (f : Outcome → Outcome) (c : FirstPacket × Option Outcome) :
    FirstPacket × Option Outcome :=
  (c.1, c.2.map f)

/-- A library that finds nothing wrong. -/
def willing : ConnectLibrary := ⟨true, fun _ => none⟩

section Connection

variable {g good : Globals} {lib : ConnectLibrary} {isUnix : Bool} {hostname data : Bytes}

/-- Only what the library is given depends on the configured settings. -/
theorem handleSslchar_congr (happlied : g.applied = good.applied) {f : Outcome → Outcome}
    (hlaunch : f (g.launchTls lib hostname) = f (good.launchTls lib hostname)) :
    f (g.handleSslchar lib hostname data) = f (good.handleSslchar lib hostname data) := by
  unfold Globals.handleSslchar
  rw [happlied]
  cases data with
  | nil => rfl
  | cons schar rest =>
    dsimp only
    split_ifs
    · rfl
    · rfl
    · exact hlaunch
    · rfl
    · rfl

theorem servername_congr (hostname : Bytes)
    (hmode : g.cf.server.sslmode = .verifyFull ↔ good.cf.server.sslmode = .verifyFull) :
    g.servername hostname = good.servername hostname := by
  unfold Globals.servername
  simp only [ne_eq, hmode]

theorem launchTls_congr (happlied : g.applied = good.applied)
    (hname : g.servername hostname = good.servername hostname) :
    g.launchTls lib hostname = good.launchTls lib hostname := by
  unfold Globals.launchTls Globals.sbufTlsConnect
  rw [happlied, hname]

/-- Where the name is not verified, it does not count whether the library knows it. -/
theorem launchTls_checked_congr (happlied : g.applied = good.applied) {conf : TlsConfig}
    (hconf : good.applied.serverConnectConf = some conf) (hname : conf.verifyName = false) :
    (g.launchTls lib hostname).checked = (good.launchTls lib hostname).checked := by
  have hfds : ∀ servername, tlsConnectFds lib conf servername = tlsConnectFds lib conf none := by
    intro servername
    unfold tlsConnectFds
    simp only [hname, Bool.false_and]
  unfold Globals.launchTls Globals.sbufTlsConnect
  simp only [happlied, hconf, Option.getD_some, hfds]
  cases lib.tlsClient with
  | false => rfl
  | true =>
    cases tlsConnectFds lib conf none with
    | error e => rfl
    | ok u => simp only [Bool.not_true, Bool.false_eq_true, if_false, Outcome.checked, hname]

/-- What a library does with the configuration that finds nothing else wrong. -/
theorem launchTls_willing {conf : TlsConfig} (hconf : g.applied.serverConnectConf = some conf) :
    g.launchTls willing hostname =
      if conf.verifyName && (g.servername hostname).isNone then
        .disconnect (text "sslreq processing failed")
      else .handshake conf (g.servername hostname) := by
  unfold Globals.launchTls Globals.sbufTlsConnect tlsConnectFds willing
  rw [hconf]
  dsimp only [Option.getD_some]
  cases conf.verifyName && (g.servername hostname).isNone <;> rfl

theorem servername_of_full (h : g.cf.server.sslmode = .verifyFull) :
    g.servername hostname = some hostname :=
  if_neg (not_not_intro h)

theorem servername_of_not_full (h : g.cf.server.sslmode ≠ .verifyFull) :
    g.servername hostname = none :=
  if_pos h

/-- If the name has to be verified and is not known, no handshake is begun. -/
theorem launchTls_checked_iff (hgood : good.Settled) (hmode : good.cf.server.sslmode ≠ .disabled)
    (happlied : g.applied = good.applied) :
    (∀ lib hostname, (g.launchTls lib hostname).checked =
        (good.launchTls lib hostname).checked) ↔
      (good.cf.server.sslmode = .verifyFull → g.cf.server.sslmode = .verifyFull) := by
  obtain ⟨conf, hconf, hname⟩ := hgood.conf hmode
  constructor
  · intro h hfull
    by_contra hother
    have hlaunch := h willing []
    rw [launchTls_willing (happlied ▸ hconf), launchTls_willing hconf,
      servername_of_full hfull, servername_of_not_full hother, hname, hfull] at hlaunch
    nomatch hlaunch
  · intro h lib hostname
    by_cases hfull : good.cf.server.sslmode = .verifyFull
    · have hsame := servername_congr hostname (iff_of_true (h hfull) hfull)
      rw [launchTls_congr happlied hsame]
    · refine launchTls_checked_congr happlied hconf ?_
      rw [hname]
      exact beq_eq_false_iff_ne.mpr hfull

theorem launchTls_iff (hgood : good.Settled) (hmode : good.cf.server.sslmode ≠ .disabled)
    (happlied : g.applied = good.applied) :
    (∀ lib hostname, g.launchTls lib hostname = good.launchTls lib hostname) ↔
      (g.cf.server.sslmode = .verifyFull ↔ good.cf.server.sslmode = .verifyFull) := by
  constructor
  · intro h
    have hback := (launchTls_checked_iff hgood hmode happlied).mp
      fun lib hostname => congrArg Outcome.checked (h lib hostname)
    refine ⟨fun hfull => ?_, hback⟩
    by_contra hother
    obtain ⟨conf, hconf, hname⟩ := hgood.conf hmode
    have hlaunch := h willing []
    rw [launchTls_willing (happlied ▸ hconf), launchTls_willing hconf,
      servername_of_full hfull, servername_of_not_full hother, hname,
      beq_eq_false_iff_ne.mpr hother] at hlaunch
    nomatch hlaunch
  · intro h lib hostname
    exact launchTls_congr happlied (servername_congr hostname h)

/-- A connection goes as it should if the handshake does, or none is asked for. -/
theorem connection_congr {g' : Globals} (hgood : good.Settled)
    (happlied : g.applied = good.applied) (happlied' : g'.applied = good.applied)
    (f : Outcome → Outcome) :
    (∀ lib isUnix hostname data, seen f (connection g g' lib isUnix hostname data) =
        seen f (connection good good lib isUnix hostname data)) ↔
      good.cf.server.sslmode = .disabled ∨
        ∀ lib hostname, f (g'.launchTls lib hostname) = f (good.launchTls lib hostname) := by
  have hfirst : ∀ isUnix, g.handleConnect isUnix = good.handleConnect isUnix := by
    intro isUnix
    unfold Globals.handleConnect
    rw [happlied]
  constructor
  · intro h
    by_cases hmode : good.cf.server.sslmode = .disabled
    · exact Or.inl hmode
    · right
      intro lib hostname
      have hask : good.handleConnect false = .sslRequest := by
        unfold Globals.handleConnect
        rw [hgood.sslmode]
        cases hm : good.cf.server.sslmode with
        | disabled => exact absurd hm hmode
        | _ => rfl
      have hconn := h lib false hostname [ch 'S']
      unfold connection seen at hconn
      rw [hfirst, hask] at hconn
      exact Option.some.inj (Prod.mk.inj hconn).2
  · intro h lib isUnix hostname data
    unfold connection seen
    rw [hfirst]
    cases hask : good.handleConnect isUnix with
    | startup => rfl
    | sslRequest =>
      have hmode : good.cf.server.sslmode ≠ .disabled := by
        intro hm
        unfold Globals.handleConnect at hask
        rw [hgood.sslmode, hm] at hask
        nomatch hask
      have hlaunch := (h.resolve_left hmode) lib hostname
      exact congrArg (fun o => (FirstPacket.sslRequest, some o))
        (handleSslchar_congr happlied' hlaunch)

end Connection

/-- **Rejected settings.**  In every life of the settings, a connection is made at some time
and its SSLRequest is answered later, with no successful call of `sbuf_tls_setup` in between.
Then TLS is asked for, a refusal is tolerated, the configuration is the one and the name of
the server is verified as right after the last successful call, in all cases, exactly if the
mode applied then is not verify-full or the configured mode is still verify-full.  That the
library is also told the name in the same cases takes more. -/
theorem World.connection_iff {lib : Library} {cf : Settings} {w₀ : World}
    (hstart : World.start lib cf = some w₀) (es es' : List Event)
    (hgood : ((w₀.run es).run es').good = (w₀.run es).good) :
    let w := w₀.run es
    let w' := w.run es'
    ((∀ lib isUnix hostname data,
        seen .checked (connection w.now w'.now lib isUnix hostname data) =
          seen .checked (connection w.good w.good lib isUnix hostname data)) ↔
      (w.good.cf.server.sslmode = .verifyFull → w'.now.cf.server.sslmode = .verifyFull)) ∧
    ((∀ lib isUnix hostname data,
        connection w.now w'.now lib isUnix hostname data =
          connection w.good w.good lib isUnix hostname data) ↔
      w.good.cf.server.sslmode = .disabled ∨
        (w'.now.cf.server.sslmode = .verifyFull ↔ w.good.cf.server.sslmode = .verifyFull)) := by
  have hw : (w₀.run es).Sound := (Sound.start hstart).run es
  have happlied' : ((w₀.run es).run es').now.applied = (w₀.run es).good.applied := by
    rw [(hw.run es').applied, hgood]
  intro w w'
  constructor
  · rw [connection_congr hw.settled hw.applied happlied' Outcome.checked]
    by_cases hmode : w.good.cf.server.sslmode = .disabled
    · refine iff_of_true (Or.inl hmode) fun hfull => ?_
      rw [hmode] at hfull
      nomatch hfull
    · rw [or_iff_right hmode]
      exact launchTls_checked_iff hw.settled hmode happlied'
  · have hwhole := connection_congr hw.settled hw.applied happlied' id
    simp only [seen, Option.map_id, id_eq] at hwhole
    rw [hwhole]
    by_cases hmode : w.good.cf.server.sslmode = .disabled
    · exact iff_of_true (Or.inl hmode) (Or.inl hmode)
    · rw [or_iff_right hmode, or_iff_right hmode]
      exact launchTls_iff hw.settled hmode happlied'

/-! ### A reload that is rejected -/

/-- A library that takes every setting, but cannot read any certificate of pgbouncer's. -/
def noCertificate : Library where
  configNew _ := true
  parseProtocols _ := some protocolsDefault
  acceptsCiphers _ := true
  dheparams _ := some (-1)
  ecdhecurve _ := some (-1)
  setString _ := true
  tlsServer := true
  configure _ := some (text "failed to load certificate")

/-- Servers' certificates are verified in full, and clients do without TLS. -/
def careful : Settings where
  server := { sslmode := .verifyFull, caFile := text "root.crt" }

/-- Clients may use TLS, with a certificate that cannot be read, and the names of servers are
not to be verified any more. -/
def rejected : Settings where
  client := { sslmode := .prefer, keyFile := text "client.key", certFile := text "client.crt" }
  server := { sslmode := .verifyCa, caFile := text "root.crt" }

theorem connection_iff_careful :
    ∃ w₀ : World, World.start noCertificate careful = some w₀ ∧
      (w₀.run [.configure rejected, .setup noCertificate]).good = w₀.good ∧
      ¬∀ lib isUnix hostname data,
        seen .checked (connection w₀.now
            (w₀.run [.configure rejected, .setup noCertificate]).now lib isUnix hostname data) =
          seen .checked (connection w₀.good w₀.good lib isUnix hostname data) := by
  refine ⟨_, rfl, rfl, fun h => ?_⟩
  have hstart : World.start noCertificate careful = some _ := rfl
  have hmode := (World.connection_iff hstart [] [.configure rejected, .setup noCertificate]
    rfl).1.mp h rfl
  nomatch hmode

/-- After a reload that was rejected no connection to a server is made, although the last
successful call has asked for a handshake in which the name is verified. -/
theorem rejected_sslmode_used :
    ∃ w : World, (World.start noCertificate careful).map
        (·.run [.configure rejected, .setup noCertificate]) = some w ∧
      w.now.applied = w.good.applied ∧
      connection w.now w.now willing false (text "db") [ch 'S'] =
        (.sslRequest, some (.disconnect (text "sslreq processing failed"))) ∧
      ∃ conf, conf.verifyName = true ∧
        connection w.good w.good willing false (text "db") [ch 'S'] =
          (.sslRequest, some (.handshake conf (some (text "db")))) :=
  ⟨_, rfl, rfl, rfl, _, rfl, rfl⟩

end PgBouncer.Tls
