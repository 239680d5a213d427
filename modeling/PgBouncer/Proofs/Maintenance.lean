/-
Which clients a maintenance pass closes.

Each loop of `pool_client_maint` asks one question of every client of a list, so what a
pass closes is read off loop by loop: `mem_closeSome` for a loop, one lemma for each
question, and then one for each reason that is of interest.  The law the settings are
meant to obey speaks of the effective value of a client alone.  The pass obeys it but
for two mismatches between the guards of the loops and what stands behind them:

* a user with a `client_idle_timeout` opens the first loop for everybody, and the loop
  does not ask whether a client has a timeout at all;
* a `query_wait_timeout` of a user opens no loop over clients.
-/
import PgBouncer.Maintenance

namespace PgBouncer.Maintenance

/-! ### What the loops close -/

variable {c : Client} {r : Reason} {w : World} {now : Usec} {pool : Pool}

theorem mem_closeSome {guard : Bool} {verdict : Client → Option Reason} {clients : List Client} :
    (c, r) ∈ closeSome guard verdict clients ↔
      guard = true ∧ c ∈ clients ∧ verdict c = some r := by
  unfold closeSome
  cases guard with
  | false => simp
  | true =>
    simp only [if_true, List.mem_filterMap, Option.map_eq_some_iff, Prod.mk.injEq, true_and]
    constructor
    · rintro ⟨c', hmem, r', hverdict, rfl, rfl⟩
      exact ⟨hmem, hverdict⟩
    · rintro ⟨hmem, hverdict⟩
      exact ⟨c, hmem, r, hverdict, rfl, rfl⟩

theorem idleVerdict_eq_some :
    w.idleVerdict now c = some r ↔
      c.linked = false ∧ w.effectiveClientIdleTimeout c < now - c.requestTime ∧
        r = .clientIdleTimeout := by
  unfold World.idleVerdict
  cases c.linked <;> simp [eq_comm]

theorem waitVerdict_queryWait :
    w.waitVerdict now c = some .queryWaitTimeout ↔
      w.shutdown ≠ .waitForServers ∧
      ¬ (0 < w.cf.queryTimeout ∧ w.cf.queryTimeout < c.waitAge now) ∧
      0 < w.effectiveQueryWaitTimeout c ∧ w.effectiveQueryWaitTimeout c < c.waitAge now := by
  simp only [World.waitVerdict, Bool.and_eq_true, decide_eq_true_eq]
  split_ifs with hshut hquery hwait
  · simp [hshut]
  · simp [hquery]
  · simp [hshut, hquery, hwait]
  · simp [hwait]

theorem waitVerdict_ne_idle :
    w.waitVerdict now c ≠ some .clientIdleTimeout := by
  simp only [World.waitVerdict]
  split_ifs <;> simp

theorem cancelVerdict_eq_some (h : w.cancelVerdict now c = some r) : r = .cancelWaitTimeout := by
  unfold World.cancelVerdict at h
  split_ifs at h
  exact (Option.some.inj h).symm

theorem loginVerdict_eq_some (h : w.loginVerdict now c = some r) : r = .clientLoginTimeout := by
  unfold World.loginVerdict at h
  split_ifs at h
  exact (Option.some.inj h).symm

/-- Only the first loop closes for being idle. -/
theorem mem_poolClientMaint_idle :
    (c, .clientIdleTimeout) ∈ w.poolClientMaint now pool ↔
      w.idleGuard = true ∧ c ∈ pool.activeClientList ∧ c.linked = false ∧
        w.effectiveClientIdleTimeout c < now - c.requestTime := by
  simp only [World.poolClientMaint, List.mem_append, mem_closeSome, idleVerdict_eq_some, and_true]
  constructor
  · rintro (((h | ⟨-, -, h⟩) | ⟨-, -, h⟩) | ⟨-, -, h⟩)
    · exact h
    · exact absurd h waitVerdict_ne_idle
    · cases cancelVerdict_eq_some h
    · cases loginVerdict_eq_some h
  · exact fun h => .inl (.inl (.inl h))

/-- Only the second loop closes with one of its reasons. -/
theorem mem_poolClientMaint_wait
    (hr : r = .queryWaitTimeout ∨ r = .queryTimeout ∨ r = .serverShuttingDown) :
    (c, r) ∈ w.poolClientMaint now pool ↔
      w.waitGuard = true ∧ c ∈ pool.waitingClientList ∧ w.waitVerdict now c = some r := by
  simp only [World.poolClientMaint, List.mem_append, mem_closeSome, idleVerdict_eq_some]
  constructor
  · rintro (((⟨-, -, -, -, h⟩ | h) | ⟨-, -, h⟩) | ⟨-, -, h⟩)
    · simp [h] at hr
    · exact h
    · simp [cancelVerdict_eq_some h] at hr
    · simp [loginVerdict_eq_some h] at hr
  · exact fun h => .inl (.inl (.inr h))

/-! ### The law of the client timeouts -/

/-- **The law.**  A pass closes an unlinked client for being idle, and a waiting one for
having waited, exactly if its effective timeout is positive and has passed.  Clients that
the same pass closes for a shutdown or for `query_timeout` are set apart. -/
structure ClientTimeoutsExact (w : World) (now : Usec) (pool : Pool) : Prop where
  idle : ∀ c, (c, .clientIdleTimeout) ∈ w.poolClientMaint now pool ↔
    c ∈ pool.activeClientList ∧ c.linked = false ∧
      0 < w.effectiveClientIdleTimeout c ∧
      w.effectiveClientIdleTimeout c < now - c.requestTime
  wait : ∀ c, (c, .serverShuttingDown) ∉ w.poolClientMaint now pool →
    (c, .queryTimeout) ∉ w.poolClientMaint now pool →
    ((c, .queryWaitTimeout) ∈ w.poolClientMaint now pool ↔
      c ∈ pool.waitingClientList ∧
        0 < w.effectiveQueryWaitTimeout c ∧ w.effectiveQueryWaitTimeout c < c.waitAge now)

/-- Nobody is hit by a mismatch between a guard and what stands behind it. -/
structure GuardsFit (w : World) (now : Usec) (pool : Pool) : Prop where
  /-- If some user has a `client_idle_timeout`, then no unlinked client without an
  effective one has been idle for any time. -/
  idle : w.flags.anyUserLevelClientTimeoutSet = true →
    ∀ c ∈ pool.activeClientList, c.linked = false → w.effectiveClientIdleTimeout c = 0 →
      now - c.requestTime = 0
  /-- If nothing opens the loop over active clients, then none is past the
  `client_idle_timeout` of its user. -/
  idleClosed : w.idleGuard = false → ∀ c ∈ pool.activeClientList, c.linked = false →
    ¬ (0 < w.effectiveClientIdleTimeout c ∧
      w.effectiveClientIdleTimeout c < now - c.requestTime)
  /-- If nothing opens the loop over waiting clients, then none is past the
  `query_wait_timeout` of its user or database. -/
  waitClosed : w.waitGuard = false → ∀ c ∈ pool.waitingClientList,
    ¬ (0 < w.effectiveQueryWaitTimeout c ∧ w.effectiveQueryWaitTimeout c < c.waitAge now)

theorem idleGuard_of_flag (h : w.flags.anyUserLevelClientTimeoutSet = true) :
    w.idleGuard = true := by
  simp [World.idleGuard, h]

/-- Without the flag the loop is only entered with a positive global value. -/
theorem effective_pos_of_idleGuard (hguard : w.idleGuard = true)
    (hflag : w.flags.anyUserLevelClientTimeoutSet = false) (c : Client) :
    0 < w.effectiveClientIdleTimeout c := by
  have hglobal : 0 < w.cf.clientIdleTimeout := by simpa [World.idleGuard, hflag] using hguard
  unfold World.effectiveClientIdleTimeout
  dsimp only
  split_ifs with hown
  · exact hown
  · exact hglobal

/-- A client the first loop closes has a timeout, if the guards fit. -/
theorem GuardsFit.effective_pos (h : GuardsFit w now pool) (hguard : w.idleGuard = true)
    (hmem : c ∈ pool.activeClientList) (hlinked : c.linked = false)
    (hlt : w.effectiveClientIdleTimeout c < now - c.requestTime) :
    0 < w.effectiveClientIdleTimeout c := by
  cases hflag : w.flags.anyUserLevelClientTimeoutSet with
  | false => exact effective_pos_of_idleGuard hguard hflag c
  | true =>
    by_contra hpos
    have hzero : w.effectiveClientIdleTimeout c = 0 := by
      simpa [UInt64.pos_iff_ne_zero] using hpos
    rw [hzero, h.idle hflag c hmem hlinked hzero] at hlt
    exact absurd hlt (UInt64.lt_irrefl _)

theorem GuardsFit.exact (h : GuardsFit w now pool) :
    ClientTimeoutsExact w now pool where
  idle c := by
    rw [mem_poolClientMaint_idle]
    constructor
    · rintro ⟨hguard, hmem, hlinked, hlt⟩
      exact ⟨hmem, hlinked, h.effective_pos hguard hmem hlinked hlt, hlt⟩
    · rintro ⟨hmem, hlinked, hpos, hlt⟩
      refine ⟨?_, hmem, hlinked, hlt⟩
      by_contra hguard
      exact h.idleClosed (by simpa using hguard) c hmem hlinked ⟨hpos, hlt⟩
  wait c hshut hquery := by
    rw [mem_poolClientMaint_wait (.inl rfl), waitVerdict_queryWait]
    constructor
    · rintro ⟨-, hmem, -, -, hpast⟩
      exact ⟨hmem, hpast⟩
    · rintro ⟨hmem, hpast⟩
      have hguard : w.waitGuard = true := by
        by_contra hguard
        exact h.waitClosed (by simpa using hguard) c hmem hpast
      rw [mem_poolClientMaint_wait (.inr (.inr rfl))] at hshut
      rw [mem_poolClientMaint_wait (.inr (.inl rfl))] at hquery
      have hrunning : w.shutdown ≠ .waitForServers := by
        intro hs
        exact hshut ⟨hguard, hmem, by simp [World.waitVerdict, hs]⟩
      have hintime : ¬ (0 < w.cf.queryTimeout ∧ w.cf.queryTimeout < c.waitAge now) := by
        intro hq
        exact hquery ⟨hguard, hmem, by simp [World.waitVerdict, hrunning, hq]⟩
      exact ⟨hguard, hmem, hrunning, hintime, hpast⟩

theorem ClientTimeoutsExact.guardsFit (h : ClientTimeoutsExact w now pool) :
    GuardsFit w now pool where
  idle hflag c hmem hlinked hzero := by
    by_contra hage
    have hlt : w.effectiveClientIdleTimeout c < now - c.requestTime := by
      rw [hzero]
      exact UInt64.pos_iff_ne_zero.mpr hage
    have hclosed := mem_poolClientMaint_idle.mpr ⟨idleGuard_of_flag hflag, hmem, hlinked, hlt⟩
    exact absurd hzero (UInt64.pos_iff_ne_zero.mp ((h.idle c).mp hclosed).2.2.1)
  idleClosed hguard c hmem hlinked hpast := by
    have hclosed := mem_poolClientMaint_idle.mp ((h.idle c).mpr ⟨hmem, hlinked, hpast⟩)
    simp [hguard] at hclosed
  waitClosed hguard c hmem hpast := by
    -- with the loop closed nobody is set apart either
    have hnone : ∀ r, r = .queryWaitTimeout ∨ r = .queryTimeout ∨ r = .serverShuttingDown →
        (c, r) ∉ w.poolClientMaint now pool := by
      intro r hr hclosed
      simp [(mem_poolClientMaint_wait hr).mp hclosed |>.1] at hguard
    have hclosed := (h.wait c (hnone _ (.inr (.inr rfl))) (hnone _ (.inr (.inl rfl)))).mpr
      ⟨hmem, hpast⟩
    exact hnone _ (.inl rfl) hclosed

/-- **Client timeouts.**  In every world, at every time and for every pool, a pass of
`pool_client_maint` obeys the law of the client timeouts exactly if nobody is hit by a
guard that does not fit. -/
theorem client_timeouts_exact_iff (w : World) (now : Usec) (pool : Pool) :
    ClientTimeoutsExact w now pool ↔ GuardsFit w now pool :=
  ⟨ClientTimeoutsExact.guardsFit, GuardsFit.exact⟩

/-- One user has a `client_idle_timeout`; a client of another one, idle for a second, is
closed although no timeout is set for it. -/
theorem idle_without_timeout :
    let bob : Client := { id := 1, loginUser := some [98], requestTime := seconds 100 }
    let w := (World.loadConfig {} (some [.mainSection, .user [97] [.clientIdleTimeout 600]])).1
    w.effectiveClientIdleTimeout bob = 0 ∧
      w.poolClientMaint (seconds 101) { db := [], activeClientList := [bob] } =
        [(bob, .clientIdleTimeout)] ∧
      ¬ ClientTimeoutsExact w (seconds 101) { db := [], activeClientList := [bob] } := by
  intro bob w
  have hzero : w.effectiveClientIdleTimeout bob = 0 := by decide
  have hclosed : w.poolClientMaint (seconds 101) { db := [], activeClientList := [bob] } =
      [(bob, .clientIdleTimeout)] := by decide
  refine ⟨hzero, hclosed, fun h => ?_⟩
  have hpos := ((h.idle bob).mp (by rw [hclosed]; exact List.mem_singleton_self _)).2.2.1
  rw [hzero] at hpos
  exact absurd hpos (UInt64.lt_irrefl _)

end PgBouncer.Maintenance
