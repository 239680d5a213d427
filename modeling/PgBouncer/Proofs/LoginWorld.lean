/-
Every event of a login, and what is true whatever happens.

`Stepped` says once what an event can do; every statement about runs is proved from it.

`Inv` holds in every world that can be reached: every client on its way in is as
`LoginOk` says, every active client has been let in once, and every request in the
queue of a thread was made by the client it names, if that client is still the one that
made it.
-/
import PgBouncer.Proofs.LoginInv

namespace PgBouncer

open LoginCtx

variable {cfg : AuthConfig} {c : Crypto}

/-! ### What a packet touches -/

/-- How a packet changes the users. -/
inductive UsersChange (c : Crypto) (env : Env) (x : LoginCtx) (u : Users) : Prop
  | adds (h : x.users.Extends u)
  /-- The first message of a SCRAM exchange. -/
  | first (creds creds' : Credentials) (data : Bytes) (st : ScramState)
      (hcreds : x.loginCredentials = some creds) (start : x.client.scramState.serverNonce = none)
      (hfirst : scramClientFirst c env.scram creds x.client.scramState data = some (st, creds'))
      (hu : u = (x.putCredentials creds').users)
  /-- Its end. -/
  | saved (body : Bytes) (st : ScramState) (r : CredRef)
      (running : x.client.scramState.serverNonce ≠ none)
      (final : scramClientFinal c x.client.scramState body = some st) (kept : st.adhoc = false)
      (user : x.client.loginUser = some (.stored r))
      (hu : u = x.users.modify r fun cr =>
        { cr with
          scramClientKey := st.clientKey, scramServerKey := st.serverKey
          scramPassthroughValid := true })

theorem saveScramKeys_users (x : LoginCtx) (st : ScramState) :
    (x.saveScramKeys st).users = x.users ∨ ∃ r, st.adhoc = false ∧
      x.client.loginUser = some (.stored r) ∧
      (x.saveScramKeys st).users = x.users.modify r fun cr =>
        { cr with
          scramClientKey := st.clientKey, scramServerKey := st.serverKey
          scramPassthroughValid := true } := by
  unfold saveScramKeys
  split
  · exact .inl rfl
  split
  · exact .inl rfl
  rename_i hkept
  split
  · exact .inl rfl
  split
  · rename_i huser
    simp only [Bool.or_eq_true, not_or, Bool.not_eq_true] at hkept
    exact .inr ⟨_, hkept.1, huser, rfl⟩
  · exact .inl rfl

variable {env : Env} {x : LoginCtx} {u : Users} {pkt : LoginPkt} {r : LoginCtx × Bool}

theorem UsersChange.evolves (h : UsersChange c env x u) (hsound : x.users.Sound c) :
    x.users.Evolves c u := by
  cases h with
  | adds h => exact h.evolves
  | first creds creds' data st hcreds start hfirst hu =>
    exact hu ▸ putCredentials_evolves hsound hcreds hfirst
  | saved body st r running final kept user hu =>
    exact hu ▸ Users.modify_evolves (fun cr h => { h with })
      fun cr => ⟨rfl, fun _ => id⟩

/-- The rest of the world, while a packet is handled. -/
structure Touches (c : Crypto) (env : Env) (x : LoginCtx) (pkt : LoginPkt)
    (r : LoginCtx × Bool) : Prop where
  users : UsersChange c env x r.1.users
  dbAuthUser : x.dbAuthUser ⊆ r.1.dbAuthUser
  connectTime : r.1.client.connectTime = x.client.connectTime
  /-- A request is the only thing that is added to a queue. -/
  queue : r.1.queue = x.queue ∨ ∃ checker creds body passwd rest,
    x.loginCredentials = some creds ∧ pkt = .password body ∧
    getString body = some (passwd, rest) ∧ x.client.clientAuthType = methodOf checker ∧
    r = (x.authBegin checker creds passwd, false)

/-- The same, as long as the process lives. -/
structure Footprint (c : Crypto) (env : Env) (x : LoginCtx) (pkt : LoginPkt)
    (r : LoginCtx × Bool) : Prop where
  slot : r.1.slot = x.slot
  alive : r.1.died = false → Touches c env x pkt r

theorem LoginCtx.Adds.footprint (h : Adds x r.1) : Footprint c env x pkt r :=
  ⟨h.slot, fun _ => ⟨.adds h.users, h.dbAuthUser, h.connectTime, .inl h.queue⟩⟩

theorem LoginCtx.Frame.footprint (h : Frame x r.1) : Footprint c env x pkt r :=
  h.adds.footprint

/-- A frame around a change of the users. -/
theorem Footprint.of_frame {y : LoginCtx}
    (hy : y = { x with users := y.users, client := y.client, died := y.died })
    (htime : y.client.connectTime = x.client.connectTime) (hev : UsersChange c env x y.users)
    (h : Frame y r.1) : Footprint c env x pkt r := by
  refine ⟨?_, fun _ => ⟨h.users ▸ hev, ?_, h.connectTime.trans htime, .inl ?_⟩⟩
  · rw [h.slot, hy]
  · rw [h.dbAuthUser, hy]
    exact List.Subset.refl _
  · rw [h.queue, hy]

theorem putCredentials_eq (x : LoginCtx) (creds : Credentials) :
    x.putCredentials creds = { x with
      users := (x.putCredentials creds).users
      client := (x.putCredentials creds).client
      died := (x.putCredentials creds).died } := by
  unfold putCredentials
  split <;> rfl

theorem saveScramKeys_eq (x : LoginCtx) (st : ScramState) :
    x.saveScramKeys st = { x with
      users := (x.saveScramKeys st).users
      client := (x.saveScramKeys st).client
      died := (x.saveScramKeys st).died } := by
  unfold saveScramKeys
  repeat' split
  all_goals rfl

theorem handlePassword_footprint (env : Env) (x : LoginCtx) (body : Bytes) :
    Footprint c env x (.password body) (handlePassword c env x body) := by
  unfold handlePassword
  split
  · exact (fail_frame _ _ _).footprint
  rename_i creds hcreds
  split
  · split
    · rename_i hstart
      have hstart : x.client.scramState.serverNonce = none := by simpa using hstart
      have hcases := saslInitialResponse_cases (c := c) env x creds body
      generalize saslInitialResponse c env x creds body = r at hcases
      cases hcases with
      | shut hshut frame => exact frame.footprint
      | incomplete => exact (Frame.refl x).footprint
      | unsent data st creds' first hshut frame =>
        exact .of_frame (putCredentials_eq x creds') (by rw [putCredentials_client])
          (.first creds creds' data st hcreds hstart first rfl) frame
      | sent data st creds' first sent =>
        refine .of_frame (putCredentials_eq x creds') (by rw [putCredentials_client])
          (.first creds creds' data st hcreds hstart first rfl) ?_
        exact rfl
    · rename_i hrunning
      have hrunning : x.client.scramState.serverNonce ≠ none := by simpa using hrunning
      have hcases := saslResponse_cases (c := c) env x body
      generalize saslResponse c env x body = r at hcases
      cases hcases with
      | shut hshut slot frame =>
        refine ⟨slot, fun halive => ?_⟩
        rcases frame with hdied | frame
        · exact absurd (halive.symm.trans hdied) Bool.false_ne_true
        · exact frame.footprint.alive halive
      | verified st final sent y saved alive =>
        have hev : UsersChange c env x
            ((x.update fun cl => { cl with sent := sent }).saveScramKeys st).users := by
          rcases saveScramKeys_users (x.update fun cl => { cl with sent := sent }) st with
            heq | ⟨r, hkept, huser, heq⟩
          · rw [heq]
            exact .adds (.refl _)
          · exact .saved body st r hrunning final hkept huser heq
        have heq := saveScramKeys_eq (x.update fun cl => { cl with sent := sent }) st
        have hclient := saveScramKeys_client (x.update fun cl => { cl with sent := sent }) st
        rw [← saved] at hev heq hclient
        exact .of_frame heq (by rw [hclient]; rfl) hev
          ((finishClientLogin_frame _ _).of_update rfl rfl)
  · have hcases := passwordMessage_cases (c := c) env x creds body
    generalize passwordMessage c env x creds body = r at hcases
    cases hcases with
    | shut hshut frame => exact frame.footprint
    | ignored => exact (Frame.refl x).footprint
    | begun checker passwd rest method string =>
      exact ⟨rfl, fun _ => ⟨.adds (.refl _), List.Subset.refl _, rfl,
        .inr ⟨checker, creds, body, passwd, rest, hcreds, rfl, string, method, rfl⟩⟩⟩
    | accepted passwd rest string ok => exact (finishClientLogin_frame _ _).footprint

/-- **What a packet touches.** -/
theorem handleClientStartup_footprint (env : Env) (x : LoginCtx) (pkt : LoginPkt) :
    Footprint c env x pkt (handleClientStartup cfg c env x pkt) := by
  unfold handleClientStartup
  split
  · exact (finishClientLogin_frame _ _).footprint
  cases pkt with
  | password body => exact handlePassword_footprint env x body
  | startup packet =>
    unfold handleStartup
    dsimp only
    repeat' split
    · exact (fail_frame _ _ _).footprint
    · exact (fail_frame _ _ _).footprint
    · exact ((finishSetPool_frame _ _).of_update rfl rfl).footprint
    · exact (decideStartupPool_adds _ _ _).footprint
  | sslRequest =>
    unfold handleSslRequest
    dsimp only
    repeat' split
    all_goals first
      | exact (fail_frame _ _ _).footprint
      | exact Frame.footprint rfl
  | gssEncRequest =>
    dsimp only
    split
    · exact Frame.footprint rfl
    · exact (fail_frame _ _ _).footprint
  | startupV2 => exact (fail_frame _ _ _).footprint
  | cancel wellFormed =>
    dsimp only
    repeat' split
    · exact (fail_frame _ _ _).footprint
    · exact (fail_frame _ _ _).footprint
    · exact Frame.footprint rfl
  | other => exact (fail_frame _ _ _).footprint

namespace LoginWorld

variable {w : LoginWorld} {i : Nat}

theorem put_client (h : x.slot = i) : (w.put x).clients i = x.client := by
  rw [← h]
  exact Function.update_self _ _ _

theorem put_update_client {f : PgSocket → PgSocket} (h : x.slot = i) :
    (w.put (x.update f)).clients i = f x.client :=
  put_client h

theorem put_other {j : Nat} (h : x.slot = i) (hj : j ≠ i) :
    (w.put x).clients j = w.clients j :=
  Function.update_of_ne (h ▸ hj) _ _

theorem put_update_other {f : PgSocket → PgSocket} {j : Nat} (h : x.slot = i) (hj : j ≠ i) :
    (w.put (x.update f)).clients j = w.clients j :=
  put_other h hj

/-! ### Events -/

variable {w' : LoginWorld} {cl : PgSocket} {checker : Checker} {queue : List AuthRequest}
  {request : AuthRequest} {u' : Users}

/-- A packet is handled when nothing else is in the way. -/
theorem packetStep_cases (h : w.packetStep cfg c i pkt env = some w') :
    inStartupPhase (w.clients i) = true ∧ (w.clients i).paused = false ∧
      (∀ p, (w.clients i).pending = some p → p = pkt) ∧
      w' = w.put ((handleClientStartup cfg c env (w.ctx i) pkt).1.update fun cl =>
        { cl with
          pending :=
            if (handleClientStartup cfg c env (w.ctx i) pkt).2 then none else some pkt }) := by
  unfold packetStep at h
  dsimp only at h
  split at h
  · rename_i hguard
    simp only [Bool.and_eq_true, Bool.not_eq_true'] at hguard
    cases h
    refine ⟨hguard.1.1, hguard.1.2, fun p hp => ?_, rfl⟩
    simpa [hp] using hguard.2
  · cases h

theorem inStartupPhase_cases (h : inStartupPhase cl = true) :
    cl.state = .login ∨ cl.state = .active ∧ cl.waitForWelcome = true := by
  simpa only [inStartupPhase, Bool.or_eq_true, Bool.and_eq_true, decide_eq_true_eq] using h

/-- A client that had to wait for its welcome or for a thread. -/
theorem handleClientStartup_resumed {x : LoginCtx}
    (h : x.client.waitForWelcome = true ∨ x.client.waitForAuth = true) (env : Env)
    (pkt : LoginPkt) : handleClientStartup cfg c env x pkt = x.finishClientLogin env := by
  unfold handleClientStartup
  exact if_pos (by rw [Bool.or_eq_true]; exact h)

theorem awaitsRows_cases (h : awaitsRows cl = true) :
    cl.state = .login ∧ cl.waitForUser = true := by
  simp only [awaitsRows, Bool.and_eq_true, decide_eq_true_eq] at h
  exact h.1

/-- The client with the credentials a row gives it. -/
def withRow (w : LoginWorld) (i : Nat) (db : PgDatabase) (username password : Bytes) : LoginCtx :=
  let name := rowField maxUsername username
  let users := w.users.addDynamicCredentials db.name name (rowField maxPassword password)
  { w.ctx i with users }.setLoginUser (some (.stored (.dynamic db.name name)))

/-- A row changes nothing, or gives the client credentials. -/
theorem authRowStep_cases {username password : Option Bytes}
    (h : w.authRowStep cfg i username password env = some w') :
    awaitsRows (w.clients i) = true ∧ (username = none ∧ w' = w ∨
      (∃ name, username = some name ∧ w' = { w with died := true }) ∨
      ∃ name db, username = some name ∧ (w.clients i).db = some db ∧ w' = w.put
        (checkUserConnectionCount cfg env
          (w.withRow i db name (password.getD nullPassword)) db).1) := by
  unfold authRowStep at h
  split at h
  · rename_i hawaits
    refine ⟨hawaits, ?_⟩
    split at h
    · cases h
      exact .inl ⟨rfl, rfl⟩
    · cases h
      exact .inr (.inl ⟨_, rfl, rfl⟩)
    · rename_i name db hdb
      cases h
      exact .inr (.inr ⟨name, db, rfl, hdb, rfl⟩)
  · cases h

theorem mem_of_takeRequest {rest : List AuthRequest}
    (h : takeRequest checker queue = some (request, rest)) :
    request ∈ queue ∧ rest ⊆ queue := by
  induction queue generalizing rest with
  | nil => cases h
  | cons first queue ih =>
    unfold takeRequest at h
    split at h
    · cases h
      exact ⟨List.mem_cons_self, List.subset_cons_self _ _⟩
    · obtain ⟨⟨taken, others⟩, htaken, heq⟩ := Option.map_eq_some_iff.1 h
      cases heq
      obtain ⟨hmem, hsub⟩ := ih htaken
      exact ⟨List.mem_cons_of_mem _ hmem, List.cons_subset_cons _ hsub⟩

/-- A thread only writes into the status of a request. -/
theorem mem_of_checkRequest {ok : Bool} {queue' : List AuthRequest}
    (h : checkRequest checker ok queue = some queue') (hr : request ∈ queue') :
    ∃ old ∈ queue, ∃ status, request = { old with status } := by
  induction queue generalizing queue' with
  | nil => cases h
  | cons first queue ih =>
    unfold checkRequest at h
    split at h
    · cases h
      rcases List.mem_cons.1 hr with rfl | hr
      · exact ⟨first, List.mem_cons_self, _, rfl⟩
      · exact ⟨request, List.mem_cons_of_mem _ hr, request.status, rfl⟩
    · obtain ⟨rest, hrest, heq⟩ := Option.map_eq_some_iff.1 h
      subst heq
      rcases List.mem_cons.1 hr with rfl | hr
      · exact ⟨request, List.mem_cons_self, request.status, rfl⟩
      · obtain ⟨old, hold, hstatus⟩ := ih hrest hr
        exact ⟨old, List.mem_cons_of_mem _ hold, hstatus⟩

/-- What an event can do. -/
inductive Stepped (cfg : AuthConfig) (c : Crypto) (w : LoginWorld) : LoginEvent → LoginWorld → Prop
  | accept (i : Nat) (connection : Connection) (free : (w.clients i).state = .free) :
      Stepped cfg c w (.accept i connection)
        { w.modify i fun _ => { state := .login, connection, connectTime := w.now } with
          now := w.now + 1 }
  | packet (i : Nat) (pkt : LoginPkt) (env : Env) (phase : inStartupPhase (w.clients i) = true)
      (unpaused : (w.clients i).paused = false)
      (pending : ∀ p, (w.clients i).pending = some p → p = pkt) :
      Stepped cfg c w (.packet i pkt env)
        (w.put ((handleClientStartup cfg c env (w.ctx i) pkt).1.update fun cl =>
          { cl with pending :=
              if (handleClientStartup cfg c env (w.ctx i) pkt).2 then none else some pkt }))
  | incomplete (i : Nat) : Stepped cfg c w (.incomplete i) w
  | activate (i : Nat) (waiting : (w.clients i).state = .waiting) :
      Stepped cfg c w (.activate i)
        (w.put ((w.ctx i).update fun cl => { cl with state := .active, paused := false }))
  | activateLogin (i : Nat) (waiting : (w.clients i).state = .waitingLogin) :
      Stepped cfg c w (.activate i)
        (w.put ((w.ctx i).update fun cl => { cl with state := .login, paused := false }))
  | wait (i : Nat) (active : (w.clients i).state = .active) :
      Stepped cfg c w (.wait i)
        (w.put ((w.ctx i).update fun cl => { cl with state := .waiting, paused := true }))
  /-- The row of no user. -/
  | noRow (i : Nat) (password : Option Bytes) (env : Env)
      (awaits : awaitsRows (w.clients i) = true) :
      Stepped cfg c w (.authRow i none password env) w
  | noDb (i : Nat) (username : Bytes) (password : Option Bytes) (env : Env) :
      Stepped cfg c w (.authRow i (some username) password env) { w with died := true }
  | row (i : Nat) (username : Bytes) (password : Option Bytes) (env : Env) (db : PgDatabase)
      (awaits : awaitsRows (w.clients i) = true) (hdb : (w.clients i).db = some db) :
      Stepped cfg c w (.authRow i (some username) password env) (w.put (checkUserConnectionCount
        cfg env (w.withRow i db username (password.getD nullPassword)) db).1)
  | authNotice (i : Nat) : Stepped cfg c w (.authNotice i) w
  /-- Nobody has been found. -/
  | noUser (i : Nat) (awaits : awaitsRows (w.clients i) = true)
      (nobody : (w.clients i).loginUser = none) :
      Stepped cfg c w (.authReady i) (w.put ((w.ctx i).disconnect (text "no such user")))
  | resumed (i : Nat) (awaits : awaitsRows (w.clients i) = true)
      (found : (w.clients i).loginUser ≠ none) :
      Stepped cfg c w (.authReady i)
        (w.put ((w.ctx i).update fun cl => { cl with paused := false }))
  | authError (i : Nat) (reason : Bytes) (awaits : awaitsRows (w.clients i) = true) :
      Stepped cfg c w (.authError i reason) (w.put ((w.ctx i).disconnect reason))
  | checked (checker : Checker) (ok : Bool) (queue : List AuthRequest)
      (written : checkRequest checker ok w.queue = some queue) :
      Stepped cfg c w (.checked checker ok) { w with queue }
  /-- The client of a request is not there any more. -/
  | dropped (checker : Checker) (request : AuthRequest) (rest : List AuthRequest)
      (taken : takeRequest checker w.queue = some (request, rest))
      (stale : ¬ { w with queue := rest }.isValidSocket request = true) :
      Stepped cfg c w (.poll checker) { w with queue := rest }
  | finished (checker : Checker) (request : AuthRequest) (rest : List AuthRequest)
      (taken : takeRequest checker w.queue = some (request, rest))
      (valid : { w with queue := rest }.isValidSocket request = true) :
      Stepped cfg c w (.poll checker) ({ w with queue := rest }.authFinish request)
  | close (i : Nat) (reason : Bytes) (used : (w.clients i).state ≠ .free)
      (isOpen : (w.clients i).state ≠ .justFree) :
      Stepped cfg c w (.close i reason) (w.put ((w.ctx i).disconnect reason))
  | free (i : Nat) (gone : (w.clients i).state = .justFree) :
      Stepped cfg c w (.free i) (w.put ((w.ctx i).update fun _ => {}))
  | loadAuthFile (file : Bytes) :
      Stepped cfg c w (.loadAuthFile file) { w with users := w.users.loadAuthFile file }

theorem alive_of_step {e : LoginEvent} (h : w.step cfg c e = some w') :
    w.died = false := by
  unfold step at h
  split at h
  · cases h
  · rename_i hd
    simpa using hd

/-- **What an event can do.** -/
theorem stepped_of_step {e : LoginEvent} (hstep : w.step cfg c e = some w') :
    Stepped cfg c w e w' := by
  unfold step at hstep
  rw [if_neg (by rw [alive_of_step hstep]; exact Bool.false_ne_true)] at hstep
  cases e with
  | accept i connection =>
    dsimp only at hstep
    split at hstep
    · cases hstep
      exact .accept i connection (by assumption)
    · cases hstep
  | packet i pkt env =>
    obtain ⟨hphase, hpaused, hpending, rfl⟩ := packetStep_cases hstep
    exact .packet i pkt env hphase hpaused hpending
  | incomplete i =>
    dsimp only at hstep
    split at hstep
    · cases hstep
      exact .incomplete i
    · cases hstep
  | activate i =>
    dsimp only at hstep
    split at hstep
    · cases hstep
      exact .activate i (by assumption)
    · cases hstep
      exact .activateLogin i (by assumption)
    · cases hstep
  | wait i =>
    dsimp only at hstep
    split at hstep
    · rename_i hguard
      simp only [Bool.and_eq_true, decide_eq_true_eq] at hguard
      cases hstep
      exact .wait i hguard.1
    · cases hstep
  | authRow i username password env =>
    obtain ⟨hawaits, ⟨rfl, rfl⟩ | ⟨name, rfl, rfl⟩ | ⟨name, db, rfl, hdb, rfl⟩⟩ :=
      authRowStep_cases hstep
    · exact .noRow i password env hawaits
    · exact .noDb i name password env
    · exact .row i name password env db hawaits hdb
  | authNotice i =>
    dsimp only at hstep
    split at hstep
    · cases hstep
      exact .authNotice i
    · cases hstep
  | authReady i =>
    dsimp only [authReadyStep] at hstep
    split at hstep
    · rename_i hawaits
      split at hstep
      · rename_i hnone
        cases hstep
        exact .noUser i hawaits (by simpa using hnone)
      · rename_i hsome
        cases hstep
        exact .resumed i hawaits (by simpa using hsome)
    · cases hstep
  | authError i reason =>
    dsimp only at hstep
    split at hstep
    · cases hstep
      exact .authError i reason (by assumption)
    · cases hstep
  | checked checker ok =>
    obtain ⟨queue, hqueue, rfl⟩ := Option.map_eq_some_iff.1 hstep
    exact .checked checker ok queue hqueue
  | poll checker =>
    dsimp only [pollStep] at hstep
    split at hstep
    · cases hstep
    · rename_i request rest htake
      split at hstep
      · cases hstep
      · cases hstep
        split
        · exact .finished checker request rest htake (by assumption)
        · exact .dropped checker request rest htake (by assumption)
  | close i reason =>
    dsimp only at hstep
    split at hstep
    · cases hstep
    · cases hstep
    · cases hstep
      exact .close i reason (by assumption) (by assumption)
  | free i =>
    dsimp only at hstep
    split at hstep
    · cases hstep
      exact .free i (by assumption)
    · cases hstep
  | loadAuthFile file =>
    cases hstep
    exact .loadAuthFile file

/-! ### The invariant -/

/-- A client on its way in. -/
def OnItsWay (cl : PgSocket) : Prop := cl.state = .login ∨ cl.state = .waitingLogin

/-- A request was made by the client it names, if that client is still there. -/
def Requested (u : Users) (request : AuthRequest) (cl : PgSocket) : Prop :=
  OnItsWay cl → cl.connectTime = request.connectTime →
    RequestOf u request cl ∧ cl.waitForAuth = true

/-- What is true in every world. -/
structure Inv (cfg : AuthConfig) (c : Crypto) (w : LoginWorld) : Prop where
  users : w.users.Sound c
  login : ∀ i, OnItsWay (w.clients i) →
    LoginOk cfg c w.users w.dbAuthUser i (w.clients i)
  active : ∀ i, (w.clients i).state = .active ∨ (w.clients i).state = .waiting →
    (w.clients i).wasActive = true
  time : ∀ i, (w.clients i).state ≠ .free → (w.clients i).connectTime < w.now
  queue : ∀ request ∈ w.queue, request.connectTime < w.now ∧
    Requested w.users request (w.clients request.client)

theorem Requested.mono (h : u.Grows u') (hr : Requested u request cl) : Requested u' request cl :=
  fun hs ht => ⟨(hr hs ht).1.mono h, (hr hs ht).2⟩

/-- A handler has worked for the client in slot `i`. -/
structure Handler (cfg : AuthConfig) (c : Crypto) (w : LoginWorld) (i : Nat) (x : LoginCtx) :
    Prop where
  slot : x.slot = i
  users : w.users.Evolves c x.users
  dbAuthUser : w.dbAuthUser ⊆ x.dbAuthUser
  connectTime : x.client.connectTime = (w.clients i).connectTime
  login : OnItsWay x.client → LoginOk cfg c x.users x.dbAuthUser i x.client
  active : x.client.state = .active ∨ x.client.state = .waiting → x.client.wasActive = true
  queue : ∀ request ∈ x.queue,
    (request ∈ w.queue ∨ request.connectTime = (w.clients i).connectTime) ∧
    (request.client = i → Requested x.users request x.client) ∧
    (request.client ≠ i → request ∈ w.queue)

theorem Inv.put (h : Inv cfg c w) (hused : (w.clients i).state ≠ .free) (hx : Handler cfg c w i x) :
    Inv cfg c (w.put x) := by
  have hslot := hx.slot
  subst hslot
  refine ⟨hx.users.sound h.users, fun j hj => ?_, fun j hj => ?_, fun j hj => ?_,
    fun request hr => ⟨?_, ?_⟩⟩
  all_goals simp only [LoginWorld.put] at *
  · by_cases hji : j = x.slot
    · subst hji
      rw [Function.update_self] at hj ⊢
      exact hx.login hj
    · rw [Function.update_of_ne hji] at hj ⊢
      exact (h.login j hj).mono hx.users.grows hx.dbAuthUser
  · by_cases hji : j = x.slot
    · subst hji
      rw [Function.update_self] at hj ⊢
      exact hx.active hj
    · rw [Function.update_of_ne hji] at hj ⊢
      exact h.active j hj
  · by_cases hji : j = x.slot
    · subst hji
      rw [Function.update_self, hx.connectTime]
      exact h.time _ hused
    · rw [Function.update_of_ne hji] at hj ⊢
      exact h.time j hj
  · rcases (hx.queue request hr).1 with hold | htime
    · exact (h.queue request hold).1
    · rw [htime]
      exact h.time _ hused
  · by_cases hi : request.client = x.slot
    · rw [hi, Function.update_self]
      exact (hx.queue request hr).2.1 hi
    · rw [Function.update_of_ne hi]
      exact (h.queue request ((hx.queue request hr).2.2 hi)).2.mono hx.users.grows

/-- The queue is as it was, and the client is done with its login. -/
theorem Handler.of_gone (hslot : x.slot = i) (husers : w.users.Evolves c x.users)
    (hdb : w.dbAuthUser ⊆ x.dbAuthUser) (htime : x.client.connectTime = (w.clients i).connectTime)
    (hqueue : x.queue = w.queue) (hgone : ¬ OnItsWay x.client)
    (hactive : x.client.state = .active ∨ x.client.state = .waiting → x.client.wasActive = true) :
    Handler cfg c w i x := by
  refine ⟨hslot, husers, hdb, htime, fun hs => absurd hs hgone, hactive, fun request hr => ?_⟩
  rw [hqueue] at hr
  exact ⟨.inl hr, fun _ hs => absurd hs hgone, fun _ => hr⟩

theorem disconnect_state (hused : (w.clients i).state ≠ .free)
    (hopen : (w.clients i).state ≠ .justFree) (reason : Bytes) :
    ((w.ctx i).disconnect reason).client.state = .justFree := by
  unfold LoginCtx.disconnect
  split
  · rename_i hfree; exact absurd hfree hused
  · rename_i hfree; exact absurd hfree hopen
  · rfl

/-- A client is closed. -/
theorem Inv.disconnect (h : Inv cfg c w) (hused : (w.clients i).state ≠ .free)
    (hopen : (w.clients i).state ≠ .justFree) (reason : Bytes) :
    Inv cfg c (w.put ((w.ctx i).disconnect reason)) := by
  have hframe := disconnect_frame (w.ctx i) reason true
  have hstate := disconnect_state hused hopen reason
  refine h.put hused (.of_gone hframe.slot (hframe.users ▸ .refl _)
    (hframe.dbAuthUser ▸ List.Subset.refl _) hframe.connectTime hframe.queue ?_ ?_)
  · rintro (hs | hs) <;> rw [hstate] at hs <;> cases hs
  · rintro (hs | hs) <;> rw [hstate] at hs <;> cases hs

/-! ### Packets -/

theorem Inv.receives (h : Inv cfg c w) (hstate : (w.clients i).state = .login)
    (hpaused : (w.clients i).paused = false)
    (hpending : ∀ p, (w.clients i).pending = some p → p = pkt) :
    Receives cfg c (w.ctx i) pkt :=
  ⟨h.users, hstate, h.login i (.inl hstate), hpaused, hpending⟩

/-- A client that waits for a thread is done with its login when it gets a packet. -/
theorem not_onItsWay_of_waitForAuth (hstate : x.client.state = .login)
    (hauth : x.client.waitForAuth = true)
    (halive : (handleClientStartup cfg c env x pkt).1.died = false) :
    ¬ OnItsWay (handleClientStartup cfg c env x pkt).1.client := by
  rw [handleClientStartup_resumed (.inr hauth)] at halive ⊢
  obtain ⟨hlogin, hwaiting⟩ := (finishClientLogin_settled env hstate).not_login halive
  exact fun hway => hway.elim hlogin hwaiting

theorem Inv.packet (h : Inv cfg c w) (hphase : inStartupPhase (w.clients i) = true)
    (hpaused : (w.clients i).paused = false)
    (hpending : ∀ p, (w.clients i).pending = some p → p = pkt)
    (halive : (handleClientStartup cfg c env (w.ctx i) pkt).1.died = false) :
    Inv cfg c (w.put ((handleClientStartup cfg c env (w.ctx i) pkt).1.update fun cl =>
      { cl with
        pending :=
          if (handleClientStartup cfg c env (w.ctx i) pkt).2 then none else some pkt })) := by
  have hfoot := @handleClientStartup_footprint cfg c env (w.ctx i) pkt
  have htouch := hfoot.alive halive
  rcases inStartupPhase_cases hphase with hstate | ⟨hactive, hwelcome⟩
  · have hverdict := (h.receives hstate hpaused hpending).verdict env
    have hused : (w.clients i).state ≠ .free := by rw [hstate]; decide
    refine h.put hused ⟨hfoot.slot, htouch.users.evolves h.users, htouch.dbAuthUser,
      htouch.connectTime, hverdict.login halive, hverdict.active halive, fun request hr => ?_⟩
    have hold : request ∈ w.queue → (request ∈ w.queue ∨
        request.connectTime = (w.clients i).connectTime) ∧
        (request.client = i → Requested (handleClientStartup cfg c env (w.ctx i) pkt).1.users
          request { (handleClientStartup cfg c env (w.ctx i) pkt).1.client with
            pending := if (handleClientStartup cfg c env (w.ctx i) pkt).2 then none
              else some pkt }) ∧ (request.client ≠ i → request ∈ w.queue) := by
      intro hmem
      refine ⟨.inl hmem, fun hi hs ht => ?_, fun _ => hmem⟩
      -- an older request means that the client waits for it, and then it is done
      have hold := (h.queue request hmem).2
      rw [hi] at hold
      have hauth := (hold (.inl hstate) (htouch.connectTime ▸ ht)).2
      exact absurd hs (not_onItsWay_of_waitForAuth (x := w.ctx i) hstate hauth halive)
    rcases htouch.queue with hsame | ⟨checker, creds, body, passwd, rest, hcreds, hpkt, hstring,
        hmethod, heq⟩
    · have hr' : request ∈ (handleClientStartup cfg c env (w.ctx i) pkt).1.queue := hr
      rw [hsame] at hr'
      exact hold hr'
    · have hr' : request ∈ (handleClientStartup cfg c env (w.ctx i) pkt).1.queue := hr
      rw [heq] at hr'
      rcases List.mem_append.mp hr' with hmem | hnew
      · exact hold hmem
      · rw [List.mem_singleton] at hnew
        subst hnew
        refine ⟨.inr rfl, fun _ _ _ => ?_, fun hne => absurd rfl hne⟩
        show RequestOf (handleClientStartup cfg c env (w.ctx i) pkt).1.users _
          { (handleClientStartup cfg c env (w.ctx i) pkt).1.client with
            pending := if (handleClientStartup cfg c env (w.ctx i) pkt).2 then none
              else some pkt } ∧
          (handleClientStartup cfg c env (w.ctx i) pkt).1.client.waitForAuth = true
        rw [heq]
        refine ⟨⟨creds, body, passwd, rest, hcreds, rfl, ?_, hstring, rfl, hmethod⟩, rfl⟩
        rw [hpkt]
        rfl
  · -- the client has been let in, and waits for its welcome
    have heq := @handleClientStartup_resumed cfg c (w.ctx i) (.inl hwelcome) env pkt
    obtain ⟨hsettled, hwas⟩ := finishClientLogin_active env (x := w.ctx i) hactive
    have hframe := finishClientLogin_frame env (w.ctx i)
    rw [← heq] at hsettled hwas hframe
    have hused : (w.clients i).state ≠ .free := by rw [hactive]; decide
    refine h.put hused (.of_gone hfoot.slot (htouch.users.evolves h.users) htouch.dbAuthUser
      htouch.connectTime hframe.queue ?_ fun _ => hwas.trans (h.active i (.inl hactive)))
    exact fun hway => hway.elim (hsettled.not_login halive).1 (hsettled.not_login halive).2

/-! ### The auth_query -/

/-- While rows are awaited nothing has been decided. -/
theorem Inv.fresh_of_awaitsRows (h : Inv cfg c w) (hawaits : awaitsRows (w.clients i) = true) :
    LoginOk cfg c w.users w.dbAuthUser i (w.clients i) ∧
      (w.clients i).startupMessageReceived = false := by
  obtain ⟨hstate, huser⟩ := awaitsRows_cases hawaits
  have hok := h.login i (.inl hstate)
  refine ⟨hok, ?_⟩
  cases hs : (w.clients i).startupMessageReceived with
  | false => rfl
  | true => exact absurd ((hok.asked hs).waitForUser.symm.trans huser) Bool.false_ne_true

/-- A client about which nothing has been decided is changed in what does not matter. -/
theorem Inv.put_fresh (h : Inv cfg c w) (hway : OnItsWay (w.clients i))
    (hs : (w.clients i).startupMessageReceived = false) (hslot : x.slot = i)
    (husers : w.users.Evolves c x.users) (hdb : w.dbAuthUser ⊆ x.dbAuthUser)
    (hqueue : x.queue = w.queue) (hcl : x.client = cl)
    (htime : cl.connectTime = (w.clients i).connectTime) (hstate : cl.state = .login)
    (hwas : cl.wasActive = false) (hwelcome : cl.waitForWelcome = false)
    (hstartup : cl.startupMessageReceived = false) (hfresh : Fresh cfg x.dbAuthUser cl) :
    Inv cfg c (w.put x) := by
  subst hcl
  have hused : (w.clients i).state ≠ .free := by
    rcases hway with hs | hs <;> rw [hs] <;> decide
  refine h.put hused ⟨hslot, husers, hdb, htime, fun _ => ⟨hwas, hwelcome, fun _ => hfresh,
    fun hs => absurd (hstartup.symm.trans hs) Bool.false_ne_true⟩, fun hs => ?_,
    fun request hr => ?_⟩
  · rcases hs with hs | hs <;> exact absurd (hstate.symm.trans hs) (by decide)
  · rw [hqueue] at hr
    refine ⟨.inl hr, fun hi _ ht => ?_, fun _ => hr⟩
    -- nobody has been asked for a password, so there is no request
    have hold := (h.queue request hr).2
    rw [hi] at hold
    have hauth := (hold hway (htime ▸ ht)).2
    have hno := ((h.login i hway).fresh hs).waitForAuth
    exact absurd (hno.symm.trans hauth) Bool.false_ne_true

theorem Inv.row (h : Inv cfg c w) (hawaits : awaitsRows (w.clients i) = true) {name : Bytes}
    {password : Option Bytes} {db : PgDatabase} (halive : (checkUserConnectionCount cfg env
      (w.withRow i db name (password.getD nullPassword)) db).1.died = false) :
    Inv cfg c (w.put (checkUserConnectionCount cfg env
      (w.withRow i db name (password.getD nullPassword)) db).1) := by
  obtain ⟨hok, hs⟩ := h.fresh_of_awaitsRows hawaits
  obtain ⟨hstate, -⟩ := awaitsRows_cases hawaits
  have hf := hok.fresh hs
  have hev : w.users.Evolves c (w.withRow i db name (password.getD nullPassword)).users :=
    Users.addDynamicCredentials_evolves w.users db.name _ _
  rcases @checkUserConnectionCount_cases cfg env
    (w.withRow i db name (password.getD nullPassword)) db with heq | ⟨hshut, -⟩
  · rw [heq]
    refine h.put_fresh (.inl hstate) hs rfl hev (List.Subset.refl _) rfl rfl rfl hstate
      hok.wasActive hok.waitForWelcome hs ?_
    exact { hf with
      noMock := fun cr hcr => (nomatch hcr)
      real := fun hw => absurd (hstate.symm.trans hw) (by decide) }
  · have hframe := @checkUserConnectionCount_frame cfg env
      (w.withRow i db name (password.getD nullPassword)) db
    have hclosed := hshut.closed.resolve_left
      fun hd => absurd (halive.symm.trans hd) Bool.false_ne_true
    have hused : (w.clients i).state ≠ .free := by rw [hstate]; decide
    refine h.put hused (.of_gone hframe.slot (hframe.users ▸ hev)
      (hframe.dbAuthUser ▸ List.Subset.refl _) hframe.connectTime hframe.queue ?_ ?_)
    · rintro (hc | hc) <;> exact absurd (hclosed.symm.trans hc) (by decide)
    · rintro (hc | hc) <;> exact absurd (hclosed.symm.trans hc) (by decide)

theorem Inv.disconnect_awaiting (h : Inv cfg c w) (hawaits : awaitsRows (w.clients i) = true)
    (reason : Bytes) : Inv cfg c (w.put ((w.ctx i).disconnect reason)) := by
  have hstate := (awaitsRows_cases hawaits).1
  exact h.disconnect (by rw [hstate]; decide) (by rw [hstate]; decide) reason

/-! ### The threads -/

theorem Inv.checked (h : Inv cfg c w) {ok : Bool}
    (hqueue : checkRequest checker ok w.queue = some queue) :
    Inv cfg c { w with queue } := by
  refine { h with queue := fun request hr => ?_ }
  obtain ⟨old, hold, status, rfl⟩ := mem_of_checkRequest hqueue hr
  exact h.queue old hold

theorem Inv.sublist (h : Inv cfg c w) (hsub : queue ⊆ w.queue) :
    Inv cfg c { w with queue } :=
  { h with queue := fun request hr => h.queue request (hsub hr) }

/-- A client a thread has reported success for.  Its user has got the password the thread
has checked. -/
def grantedTo (cl : PgSocket) (user : Option LoginUser) (request : AuthRequest) : PgSocket :=
  { cl with loginUser := user, paused := false, granted := some request }

/-- The login user is the one it was, with another password. -/
structure SameUser (u u' : Users) (cl : PgSocket) (user : Option LoginUser) : Prop where
  grows : ∀ creds, cl.loginCredentials u = some creds → ∃ creds',
    ({ cl with loginUser := user }).loginCredentials u' = some creds' ∧ CredGrows creds creds'
  stored : ∀ r, user = some (.stored r) → cl.loginUser = some (.stored r)
  mock : ∀ cr, user = some (.mock cr) → ∃ old, cl.loginUser = some (.mock old) ∧
    cr.mockAuth = old.mockAuth

theorem SameUser.requestOf {user : Option LoginUser} (hu : SameUser u u' cl user)
    {other : AuthRequest} (hr : RequestOf u other cl) :
    RequestOf u' other (grantedTo cl user request) := by
  obtain ⟨creds, body, passwd, rest, hcreds, hname, hrest⟩ := hr
  obtain ⟨creds', hcreds', hg⟩ := hu.grows creds hcreds
  exact ⟨creds', body, passwd, rest, hcreds', hname.trans hg.name.symm, hrest⟩

theorem SameUser.asked {user : Option LoginUser} (hu : SameUser u u' cl user)
    (ha : Asked cfg c u i cl) (hr : RequestOf u request cl) (hstatus : request.status = .success)
    (hclient : request.client = i) (htime : request.connectTime = cl.connectTime) :
    Asked cfg c u' i (grantedTo cl user request) where
  __ := ha
  selected := by
    obtain ⟨rule, db, creds, tls, passwd, hdb, hcreds, hheld, htls, hmethod⟩ := ha.selected
    obtain ⟨creds', hcreds', hg⟩ := hu.grows creds hcreds
    have hcongr : authMethod cfg { cl with tls := tls } db { creds' with passwd := passwd } =
        authMethod cfg { cl with tls := tls } db { creds with passwd := passwd } :=
      authMethod_congr hg.name rfl
    exact ⟨rule, db, creds', tls, passwd, hdb, hcreds', hg.held _ hheld, htls,
      hcongr.trans hmethod⟩
  mock := fun cr hcr => by
    obtain ⟨old, hold, hm⟩ := hu.mock cr hcr
    obtain ⟨hmock, hadhoc, hpool⟩ := ha.mock old hold
    exact ⟨hm.trans hmock, hadhoc, hpool⟩
  console := fun hp => by
    obtain ⟨creds, hcreds, hname⟩ := ha.console hp
    obtain ⟨creds', hcreds', hg⟩ := hu.grows creds hcreds
    exact ⟨creds', hcreds', hg.name ▸ hname⟩
  adminUser := fun hp => by
    obtain ⟨creds, hcreds, hname⟩ := ha.adminUser hp
    obtain ⟨creds', hcreds', hg⟩ := hu.grows creds hcreds
    exact ⟨creds', hcreds', hg.name ▸ hname⟩
  scram := fun r hr hn => by
    obtain ⟨creds, hcreds, passwd, hheld, hkeys⟩ := ha.scram r (hu.stored r hr) hn
    obtain ⟨creds', hcreds', hg⟩ := hu.grows creds hcreds
    exact ⟨creds', hcreds', passwd, hg.held _ hheld, hkeys⟩
  auth := fun _ => .inr ⟨request, rfl, hstatus, hclient, htime, hu.requestOf hr⟩

/-- The login user gets the password a thread has checked. -/
theorem setLoginPasswd_cases (passwd : Bytes)
    (halive : (setLoginPasswd (w.ctx i) passwd).died = false) :
    ∃ user users, setLoginPasswd (w.ctx i) passwd =
        { (w.ctx i) with users := users, client := { w.clients i with loginUser := user } } ∧
      w.users.Evolves c users ∧ SameUser w.users users (w.clients i) user := by
  unfold setLoginPasswd at halive ⊢
  cases hu : (w.ctx i).client.loginUser with
  | none =>
    rw [hu] at halive
    cases halive
  | some user =>
    cases user with
    | stored r =>
      have hev : w.users.Evolves c (w.users.modify r fun u => u.setPasswd passwd) :=
        Users.modify_evolves (fun cr hcr => hcr.setPasswd passwd)
          fun cr => setPasswd_grows cr passwd
      refine ⟨some (.stored r), _, ?_, hev, ?_, fun _ hr => hu.trans hr, by simp⟩
      · dsimp only
        rw [← hu]
        rfl
      · intro creds hcreds
        rw [← hu]
        exact loginCredentials_grows hev.grows hcreds
    | mock old =>
      refine ⟨some (.mock (old.setPasswd passwd)), w.users, rfl, .refl _, fun creds hcreds => ?_,
        by simp, fun cr hcr => ⟨old, hu, ?_⟩⟩
      · refine ⟨old.setPasswd passwd, rfl, ?_⟩
        have hclient : (w.clients i).loginUser = some (.mock old) := hu
        rw [PgSocket.loginCredentials, hclient] at hcreds
        cases hcreds
        exact setPasswd_grows old passwd
      · cases hcr
        rfl

theorem Inv.authFinish (h : Inv cfg c w) (hvalid : w.isValidSocket request = true)
    (hreq : Requested w.users request (w.clients request.client))
    (halive : (w.authFinish request).died = false) : Inv cfg c (w.authFinish request) := by
  simp only [isValidSocket, Bool.and_eq_true, decide_eq_true_eq] at hvalid
  obtain ⟨hstate, htime⟩ := hvalid
  have hused : (w.clients request.client).state ≠ .free := by rw [hstate]; decide
  obtain ⟨hof, hauth⟩ := hreq (.inl hstate) htime
  have hok := h.login _ (.inl hstate)
  have hs : (w.clients request.client).startupMessageReceived = true := by
    cases hs : (w.clients request.client).startupMessageReceived with
    | true => rfl
    | false => exact absurd ((hok.fresh hs).waitForAuth.symm.trans hauth) Bool.false_ne_true
  unfold LoginWorld.authFinish at halive ⊢
  dsimp only at halive ⊢
  split
  case isFalse => exact h.disconnect hused (by rw [hstate]; decide) _
  case isTrue hstatus =>
    rw [if_pos hstatus] at halive
    obtain ⟨user, users, heq, hev, hsame⟩ := setLoginPasswd_cases (c := c) request.password halive
    rw [heq]
    have hasked := hsame.asked (hok.asked hs) hof hstatus rfl htime.symm
    refine h.put hused ⟨rfl, hev, List.Subset.refl _, rfl, fun _ => ⟨hok.wasActive,
      hok.waitForWelcome, fun hf => absurd (hf.symm.trans hs) Bool.false_ne_true,
      fun _ => hasked⟩, fun hc => ?_, fun other hother => ⟨.inl hother, ?_, fun _ => hother⟩⟩
    · rcases hc with hc | hc <;> exact absurd (hstate.symm.trans hc) (by decide)
    · intro hclient hway ht
      have hold := (h.queue other hother).2
      rw [hclient] at hold
      exact ⟨hsame.requestOf (hold (.inl hstate) ht).1, hauth⟩

/-! ### The other events -/

/-- A slot gets a new client, or none. -/
theorem Inv.reset (h : Inv cfg c w) {now : Nat} (hnow : w.now ≤ now) (hlogin : OnItsWay cl →
      LoginOk cfg c w.users w.dbAuthUser i cl ∧ w.now = cl.connectTime)
    (hactive : ¬ (cl.state = .active ∨ cl.state = .waiting))
    (htime : cl.state ≠ .free → cl.connectTime < now) :
    Inv cfg c { w.modify i fun _ => cl with now := now } := by
  refine ⟨h.users, fun j hj => ?_, fun j hj => ?_, fun j hj => ?_, fun request hr => ⟨?_, ?_⟩⟩
  all_goals simp only [LoginWorld.modify] at *
  · by_cases hji : j = i
    · rw [hji, Function.update_self] at hj ⊢
      exact (hlogin hj).1
    · rw [Function.update_of_ne hji] at hj ⊢
      exact h.login j hj
  · by_cases hji : j = i
    · rw [hji, Function.update_self] at hj
      exact absurd hj hactive
    · rw [Function.update_of_ne hji] at hj ⊢
      exact h.active j hj
  · by_cases hji : j = i
    · rw [hji, Function.update_self] at hj ⊢
      exact htime hj
    · rw [Function.update_of_ne hji] at hj ⊢
      exact Nat.lt_of_lt_of_le (h.time j hj) hnow
  · exact Nat.lt_of_lt_of_le (h.queue request hr).1 hnow
  · by_cases hi : request.client = i
    · -- all requests were made before this client came
      rw [hi, Function.update_self]
      intro hway ht
      exact absurd ((hlogin hway).2.trans ht) (Nat.ne_of_gt (h.queue request hr).1)
    · rw [Function.update_of_ne hi]
      exact (h.queue request hr).2

theorem Inv.loadAuthFile (h : Inv cfg c w) (file : Bytes) :
    Inv cfg c { w with users := w.users.loadAuthFile file } := by
  have hev : w.users.Evolves c (w.users.loadAuthFile file) := Users.loadAuthFile_evolves _ _
  exact ⟨hev.sound h.users, fun j hj => (h.login j hj).mono hev.grows (List.Subset.refl _),
    h.active, h.time, fun request hr => ⟨(h.queue request hr).1,
      (h.queue request hr).2.mono hev.grows⟩⟩

/-- A client that is not on its way in gets another state. -/
theorem Inv.put_active (h : Inv cfg c w)
    (hactive : (w.clients i).state = .active ∨ (w.clients i).state = .waiting) {s : SocketState}
    (hs : s = .active ∨ s = .waiting) (paused : Bool) :
    Inv cfg c (w.put ((w.ctx i).update fun cl => { cl with state := s, paused := paused })) := by
  have hused : (w.clients i).state ≠ .free := by
    rcases hactive with hs | hs <;> rw [hs] <;> decide
  refine h.put hused (.of_gone rfl (.refl _) (List.Subset.refl _) rfl rfl ?_
    fun _ => h.active i hactive)
  rcases hs with rfl | rfl <;> rintro (hs | hs) <;> cases hs

/-- **One event.** -/
theorem Inv.step (h : Inv cfg c w) {e : LoginEvent} {w' : LoginWorld}
    (hstep : w.step cfg c e = some w') (halive : w'.died = false) : Inv cfg c w' := by
  cases stepped_of_step hstep with
  | accept i connection free =>
    refine h.reset (Nat.le_succ _) (fun _ => ⟨⟨rfl, rfl, fun _ => ⟨rfl, rfl, rfl, rfl, rfl,
      nofun, fun hp => absurd rfl hp, fun _ _ hc => (nomatch hc)⟩,
      nofun⟩, rfl⟩) ?_ fun _ => Nat.lt_succ_self _
    rintro (hs | hs) <;> cases hs
  | packet i pkt env phase unpaused pending => exact h.packet phase unpaused pending halive
  | incomplete i => exact h
  | activate i waiting => exact h.put_active (.inr waiting) (.inl rfl) false
  | activateLogin i waiting =>
    have hok := h.login i (.inr waiting)
    have hs : (w.clients i).startupMessageReceived = false := by
      cases hs : (w.clients i).startupMessageReceived with
      | false => rfl
      | true => exact absurd ((hok.asked hs).state.symm.trans waiting) (by decide)
    have hf := hok.fresh hs
    exact h.put_fresh (.inr waiting) hs rfl (.refl _) (List.Subset.refl _) rfl rfl rfl rfl
      hok.wasActive hok.waitForWelcome hs { hf with real := fun hw => nomatch hw }
  | wait i active => exact h.put_active (.inl active) (.inr rfl) true
  | noRow i password env awaits => exact h
  | noDb i username password env => cases halive
  | row i username password env db awaits hdb => exact h.row awaits halive
  | authNotice i => exact h
  | noUser i awaits nobody => exact h.disconnect_awaiting awaits _
  | resumed i awaits found =>
    obtain ⟨hok, hs⟩ := h.fresh_of_awaitsRows awaits
    have hstate := (awaitsRows_cases awaits).1
    have hf := hok.fresh hs
    exact h.put_fresh (.inl hstate) hs rfl (.refl _) (List.Subset.refl _) rfl rfl rfl hstate
      hok.wasActive hok.waitForWelcome hs { hf with
        real := fun hw => absurd (hstate.symm.trans hw) (by decide) }
  | authError i reason awaits => exact h.disconnect_awaiting awaits reason
  | checked checker ok queue written => exact h.checked written
  | dropped checker request rest taken stale => exact h.sublist (mem_of_takeRequest taken).2
  | finished checker request rest taken valid =>
    obtain ⟨hmem, hold⟩ := mem_of_takeRequest taken
    exact (h.sublist hold).authFinish valid (h.queue request hmem).2 halive
  | close i reason used isOpen => exact h.disconnect used isOpen reason
  | free i gone =>
    refine h.reset (Nat.le_refl _) (fun hs => ?_) ?_ fun hs => absurd rfl hs
    · rcases hs with hs | hs <;> cases hs
    · rintro (hs | hs) <;> cases hs
  | loadAuthFile file => exact h.loadAuthFile file

end LoginWorld

end PgBouncer
