/-
Who gets to the console.

`admin_pre_login` knows the user pgbouncer runs as, and with auth_type=any the members of
`admin_users`; `admin_post_login` looks at the name of the login user.  Between them lies
everything else that can happen to a login, so what they find out has to be carried to the
moment the client becomes active, and from there on.
-/
import PgBouncer.Lib.Run
import PgBouncer.Proofs.Login
import PgBouncer.Proofs.StrList

namespace PgBouncer

open LoginCtx StrList

namespace LoginWorld

variable {cfg : AuthConfig} {c : Crypto} {w : LoginWorld} {i : Nat}

/-- The console user `pgbouncer`: on a unix socket, with the uid of pgbouncer, and under
that name in a startup packet. -/
def OwnUser (es : List LoginEvent) (i : Nat) (cl : PgSocket) : Prop :=
  cl.ownUser = true ∧ cl.connection.remoteAddr.isUnix = true ∧ cl.connection.sameUid = true ∧
    ∃ packet env, .packet i (.startup packet) env ∈ es ∧ startupUser packet = pgbouncerName

/-- Becoming active without a pool is the end of the process. -/
theorem finishClientLogin_pool (env : Env) {x : LoginCtx} (h : x.client.state = .login)
    (halive : (x.finishClientLogin env).1.died = false) :
    Shut x (x.finishClientLogin env).1 ∨ x.client.pool ≠ none := by
  by_cases hpool : x.client.pool = none
  · refine .inl ?_
    have hdies : x.activateLogin.died = true := by
      simp [activateLogin, update, hpool, die]
    unfold finishClientLogin at halive ⊢
    split
    · exact die_shut x
    · repeat' split
      all_goals first
        | exact fail_shut _ _ _
        | exact die_shut x
        | (rename_i hstate; exact absurd (h.symm.trans hstate) (by decide))
        | simp_all
  · exact .inr hpool

variable {w₀ w₁ w₂ : LoginWorld} {es es₁ es₂ : List LoginEvent} {pkt : LoginPkt} {env : Env}
  {y : LoginCtx}

/-- The pool of a client that has got in is that of its database. -/
theorem EntryOf.pool (h : EntryOf cfg c w₀ es w i es₁ pkt env es₂ w₁ w₂ y)
    (halive : w₂.died = false) (hopen : (w.clients i).state ≠ .justFree) {db : PgDatabase}
    (hdb : (w.clients i).db = some db) : y.client.pool.map (·.db) = some db := by
  have hslot : (y.finishClientLogin env).1.slot = i :=
    (finishClientLogin_frame env y).slot.trans h.enters.slot
  have hactive := h.active
  rw [h.enters.after] at halive hactive
  simp only [LoginWorld.put, LoginCtx.update, hslot, Function.update_self] at halive hactive
  have hnotShut : ¬ Shut y (y.finishClientLogin env).1 := fun hshut =>
    absurd ((hshut.wasActive.trans h.enters.entry.wasActive).symm.trans hactive) Bool.false_ne_true
  have hpool := (finishClientLogin_pool env h.enters.entry.state halive).resolve_left hnotShut
  obtain ⟨-, -, db', hdb', hreal⟩ :=
    (finishClientLogin_login env h.enters.entry.state).resolve_left hnotShut
  obtain ⟨p, hp⟩ := Option.ne_none_iff_exists'.1 hpool
  obtain ⟨db'', hdb'', hsame⟩ := h.enters.entry.pool p hp
  have hy : y.client.db = some db := (h.same.stays hopen).2.2.symm.trans hdb
  cases hdb'.symm.trans hdb''
  cases hdb'.symm.trans hy
  rw [hp]
  rcases hsame with hfake | hsame
  · exact absurd (hreal.symm.trans hfake) Bool.false_ne_true
  · exact congrArg some hsame

/-- What the client was when it got in it still is. -/
theorem EntryOf.ownUser (h : EntryOf cfg c w₀ es w i es₁ pkt env es₂ w₁ w₂ y)
    (hown : y.client.ownUser = true) : OwnUser es i (w.clients i) := by
  obtain ⟨hunix, huid, packet, rfl, hname⟩ := h.enters.entry.own hown
  refine ⟨h.same.ownUser.trans hown, ?_, ?_, packet, env, by simp [h.split], hname⟩
  · rw [h.same.connection]
    exact hunix
  · rw [h.same.connection]
    exact huid

/-- The credentials a client got in with are still there. -/
theorem EntryOf.loginCredentials (h : EntryOf cfg c w₀ es w i es₁ pkt env es₂ w₁ w₂ y)
    (hinit : Initial w₀) (halive : w.died = false) (hopen : (w.clients i).state ≠ .justFree)
    {creds : Credentials} (hcreds : y.client.loginCredentials y.users = some creds) :
    ∃ creds', (w.clients i).loginCredentials w.users = some creds' ∧ creds'.name = creds.name := by
  have husers : w₂.users = y.users := by
    rw [h.enters.after]
    exact (finishClientLogin_frame env y).users
  have hrun : w₀.run cfg c (es₁ ++ [.packet i pkt env]) = some w₂ :=
    Run.exec_concat.2 ⟨w₁, h.before, h.packet⟩
  have hev := hinit.users_evolve_of_run hrun h.after halive
  rw [husers] at hev
  obtain ⟨creds', hcreds', hgrows⟩ := loginCredentials_grows hev.grows hcreds
  refine ⟨creds', ?_, hgrows.name⟩
  rw [← hcreds']
  unfold PgSocket.loginCredentials
  rw [(h.same.stays hopen).2.1]

/-- **Console access.**  Unless auth_type is any, an active client of the console is the
user pgbouncer runs as, or its login user is listed in `admin_users` or `stats_users`.
Administrators are, whatever the auth_type, that user and those listed in `admin_users`. -/
theorem console_access {w₀ : LoginWorld} (hinit : Initial w₀) {es : List LoginEvent}
    (hrun : w₀.run cfg c es = some w) (halive : w.died = false) :
    (cfg.authType ≠ .any →
      ((w.clients i).state = .active ∨ (w.clients i).state = .waiting) →
      (w.clients i).db.map (·.admin) = some true →
      OwnUser es i (w.clients i) ∨
      ∃ creds, (w.clients i).loginCredentials w.users = some creds ∧
        (Listed cfg.adminUsers creds.name ∨ Listed cfg.statsUsers creds.name)) ∧
    (OnItsWay (w.clients i) ∨ (w.clients i).state = .active ∨ (w.clients i).state = .waiting →
      (w.clients i).adminUser = true →
      OwnUser es i (w.clients i) ∨
      (∃ packet env, .packet i (.startup packet) env ∈ es ∧
        Listed cfg.adminUsers (startupUser packet)) ∨
      ∃ creds, (w.clients i).loginCredentials w.users = some creds ∧
        Listed cfg.adminUsers creds.name) := by
  have hinv : Inv cfg c w := hinit.inv_of_run hrun halive
  have hentry : (w.clients i).state = .active ∨ (w.clients i).state = .waiting →
      (w.clients i).state ≠ .justFree ∧ ∃ es₁ pkt env es₂ w₁ w₂ y,
        EntryOf cfg c w₀ es w i es₁ pkt env es₂ w₁ w₂ y := by
    intro hactive
    refine ⟨?_, hinit.enters_of_wasActive hrun (hinv.active i hactive)⟩
    rcases hactive with hs | hs <;> rw [hs] <;> decide
  constructor
  · intro hany hactive hconsole
    obtain ⟨hopen, es₁, pkt, env, es₂, w₁, w₂, y, hy⟩ := hentry hactive
    obtain ⟨db, hdb, hadmin⟩ := Option.map_eq_some_iff.1 hconsole
    have hpool : y.client.pool.map (·.db.admin) = some true := by
      obtain ⟨p, hp, hpdb⟩ :=
        Option.map_eq_some_iff.1 (hy.pool (alive_of_run hy.after halive) hopen hdb)
      rw [hp, Option.map_some, hpdb, hadmin]
    rcases hy.enters.entry.console hany hpool with hown | ⟨creds, hcreds, hname⟩
    · exact .inl (hy.ownUser hown)
    · obtain ⟨creds', hcreds', hsame⟩ := hy.loginCredentials hinit halive hopen hcreds
      exact .inr ⟨creds', hcreds', hsame ▸ hname.imp listed_of_contains listed_of_contains⟩
  · intro hstate hadmin
    rcases hstate with hway | hactive
    · have hok := hinv.login i hway
      cases hs : (w.clients i).startupMessageReceived with
      | false => exact absurd ((hok.fresh hs).adminUser.symm.trans hadmin) Bool.false_ne_true
      | true =>
        obtain ⟨creds, hcreds, hname⟩ := (hok.asked hs).adminUser hadmin
        exact .inr (.inr ⟨creds, hcreds, listed_of_contains hname⟩)
    · obtain ⟨hopen, es₁, pkt, env, es₂, w₁, w₂, y, hy⟩ := hentry hactive
      rw [hy.same.adminUser] at hadmin
      rcases hy.enters.entry.adminUser hadmin with hown | ⟨packet, rfl, hname⟩ |
        ⟨creds, hcreds, hname⟩
      · exact .inl (hy.ownUser hown)
      · exact .inr (.inl ⟨packet, env, by simp [hy.split], listed_of_contains hname⟩)
      · obtain ⟨creds', hcreds', hsame⟩ := hy.loginCredentials hinit halive hopen hcreds
        exact .inr (.inr ⟨creds', hcreds', hsame ▸ listed_of_contains hname⟩)

/-- The configuration of a pgbouncer with one administrator and the console for its only
database. -/
def consoleOnly (authType : AuthType) : AuthConfig :=
  { authType, adminUsers := text "root",
    databases := [{ name := pgbouncerName, admin := true, forcedUser := true }] }

/-- An administrator gets to the console by trust. -/
theorem console_access_root : ∃ w : LoginWorld, (w.clients 0).state = .active ∧
    (w.clients 0).adminUser = true ∧
    (OwnUser [.accept 0 { remoteAddr := .unix },
      .packet 0 (startupOf (text "root") pgbouncerName) {}]
        0 (w.clients 0) ∨
      ∃ creds, (w.clients 0).loginCredentials w.users = some creds ∧
        (Listed (text "root") creds.name ∨ Listed [] creds.name)) := by
  have hrun : ((onlyUser { name := text "root", held := [[]] }).run (consoleOnly .trust) .masking
      [.accept 0 { remoteAddr := .unix },
        .packet 0 (startupOf (text "root") pgbouncerName) {}]).any (fun w => w.died = false ∧
      (w.clients 0).state = .active ∧ (w.clients 0).adminUser = true ∧
      (w.clients 0).db.map (·.admin) = some true) := by decide
  simp only [Option.any_eq_true, decide_eq_true_eq] at hrun
  obtain ⟨w, hw, halive, hstate, hadmin, hdb⟩ := hrun
  have hinit := @initial_onlyUser { name := text "root", held := [[]] } rfl
    (List.mem_singleton_self _) rfl
  exact ⟨w, hstate, hadmin,
    (console_access (i := 0) hinit hw halive).1 (by decide) (.inl hstate) hdb⟩

/-- With auth_type=any everybody gets to the console, as the documentation says. -/
theorem console_any : ∃ w : LoginWorld,
    ({ users := ⟨fun r => if r = .forced pgbouncerName then
        some { name := pgbouncerName, held := [[]] } else none⟩ } : LoginWorld).run
      (consoleOnly .any) .masking [.accept 0 { remoteAddr := .inet4 [127, 0, 0, 1] },
        .packet 0 (startupOf (text "eve") pgbouncerName) {}] = some w ∧
    w.died = false ∧ (w.clients 0).state = .active ∧ (w.clients 0).db.map (·.admin) = some true ∧
    (w.clients 0).ownUser = false ∧ text "eve" ∉ elements (consoleOnly .any).adminUsers ∧
    text "eve" ∉ elements (consoleOnly .any).statsUsers := by
  refine Run.exists_of_any (P := fun w => w.died = false ∧ (w.clients 0).state = .active ∧
    (w.clients 0).db.map (·.admin) = some true ∧ (w.clients 0).ownUser = false)
    (by decide) ?_
  rintro w - ⟨halive, hstate, hadmin, hown⟩
  exact ⟨halive, hstate, hadmin, hown, by decide, by decide⟩

end LoginWorld

end PgBouncer
