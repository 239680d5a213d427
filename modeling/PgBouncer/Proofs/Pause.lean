/-
What a pause is worth.

Two results about runs.  The first is that `admin_pause_done` does not give up: whenever
`per_loop_maint` calls it for a paused pool, the database of the pool is one that
`count_paused_databases` counts.  The second is that no connection is opened to a
database while a PAUSE of it is in force.  Neither holds for all runs, and each comes
with the condition under which it does.

Both rest on what an act can do to the pools, which is said once: `Act.apply` keeps the
pools there are, makes at most one, and opens at most one connection.  `acts_invariant`
and `loop_invariant` turn a fact about one act into one about a loop of the janitor.
-/
import PgBouncer.Pause
import Mathlib.Data.List.Basic

namespace PgBouncer.Pause

/-! ### Finding a database -/

/-- What `find_database` changes: an idle database may have come into use. -/
structure Control.Found (ctl : Control) (d : Nat) (ctl' : Control) : Prop where
  mem : d ∈ ctl'.databaseList
  mono : ∀ x ∈ ctl.databaseList, x ∈ ctl'.databaseList
  exist : ∀ x, ctl'.exist x = ctl.exist x
  rest : ctl' = { ctl with
    databaseList := ctl'.databaseList, autodatabaseIdleList := ctl'.autodatabaseIdleList }

variable {ctl' : Control}

variable {ctl : Control}

theorem Control.found_of_findDatabase {d : Nat} (h : ctl.findDatabase d = some ctl') :
    ctl.Found d ctl' := by
  unfold Control.findDatabase at h
  split_ifs at h with hlist hidle
  · cases h
    exact ⟨by simpa using hlist, fun _ hx => hx, fun _ => rfl, rfl⟩
  · cases h
    refine ⟨List.mem_cons_self, fun _ hx => List.mem_cons_of_mem _ hx, fun x => ?_, rfl⟩
    by_cases hx : x = d
    · subst hx
      simp only [Control.exist, hidle, List.contains_cons, beq_self_eq_true, Bool.true_or,
        Bool.or_true]
    · simp [Control.exist, hx]

theorem Control.Found.exists_self {d : Nat} (h : ctl.Found d ctl') :
    ctl'.exist d = true := by
  rw [Control.exist, List.contains_iff_mem.mpr h.mem, Bool.true_or]

/-! ### What an act can do -/

/-- Pools and servers may be gone; nothing else has changed. -/
structure Net.Shrinks (net net' : Net) : Prop where
  pools : ∀ p ∈ net'.poolList, p ∈ net.poolList
  poolDb : net'.poolDb = net.poolDb
  servers : ∀ p, ∀ s ∈ net'.servers p, s ∈ net.servers p
  launches : net'.launches = net.launches

theorem Net.shrinks_killPool (net : Net) (p : Nat) : net.Shrinks (net.killPool p) := by
  refine ⟨fun q hq => (List.mem_filter.mp hq).1, rfl, fun q s hs => ?_, rfl⟩
  by_cases hqp : q = p
  · subst hqp
    simp [Net.killPool, Net.setServers] at hs
  · simpa [Net.killPool, Net.setServers, Function.update_of_ne hqp] using hs

theorem Net.Shrinks.trans {net₁ net₂ net₃ : Net} (h : net₁.Shrinks net₂) (h' : net₂.Shrinks net₃) :
    net₁.Shrinks net₃ :=
  ⟨fun p hp => h.pools p (h'.pools p hp), h'.poolDb.trans h.poolDb,
    fun p s hs => h.servers p s (h'.servers p s hs), h'.launches.trans h.launches⟩

theorem Net.Shrinks.refl (net : Net) : net.Shrinks net :=
  ⟨fun _ h => h, rfl, fun _ _ h => h, rfl⟩

theorem Net.shrinks_killPools (ps : List Nat) (net : Net) :
    net.Shrinks (ps.foldl Net.killPool net) := by
  induction ps generalizing net with
  | nil => exact .refl net
  | cons p ps ih => exact (net.shrinks_killPool p).trans (ih _)

variable {ps inactive expired unused : List Nat} {net : Net} {w w' : World}
  {f : Database → Database}

theorem Net.mem_killPools {p : Nat} :
    p ∈ (ps.foldl Net.killPool net).poolList ↔ p ∈ net.poolList ∧ p ∉ ps := by
  induction ps generalizing net with
  | nil => simp
  | cons q ps ih =>
    rw [List.foldl_cons, ih]
    simp only [Net.killPool, List.mem_filter, List.mem_cons, decide_eq_true_eq, ne_eq, not_or,
      and_assoc]

theorem Net.mem_killPoolsOf {which : Nat → Bool} {p : Nat} :
    p ∈ (net.killPoolsOf which).poolList ↔ p ∈ net.poolList ∧ which (net.poolDb p) = false := by
  unfold Net.killPoolsOf
  rw [Net.mem_killPools]
  simp only [List.mem_filter, not_and, Bool.not_eq_true, and_congr_right_iff]
  exact fun hp => ⟨fun h => h hp, fun h _ => h⟩

theorem Net.shrinks_killPoolsOf (net : Net) (which : Nat → Bool) :
    net.Shrinks (net.killPoolsOf which) := Net.shrinks_killPools _ net

theorem Net.has_iff {p : Nat} :
    net.has ctl p = true ↔
      p ∈ net.poolList ∧ (ctl.database (net.poolDb p)).admin = false := by
  simp [Net.has]

/-- The acts that may open a connection. -/
def Act.launches : Act → Bool
  | .activate .. | .findServer .. | .finishClientLogin .. | .checkPoolSize ..
  | .cancelRequest .. => true
  | _ => false

/-- Why an act opens a connection: nothing is paused, or it is one of those that do not
look at `db_paused`, or a cancel request waits. -/
inductive Act.Opens (ctl : Control) (net : Net) (cancels : Nat → Nat) : Act → Prop
  | free {a} (mode : ctl.cfPauseMode = .none)
      (paused : (ctl.database (net.poolDb a.pool)).dbPaused = false) : Act.Opens ctl net cancels a
  | login {p opens} (mode : ctl.cfPauseMode = .none) (welcome : net.welcomeMsgReady p = false) :
      Act.Opens ctl net cancels (.finishClientLogin p opens)
  | size {p opens} (mode : ctl.cfPauseMode = .none) :
      Act.Opens ctl net cancels (.checkPoolSize p true opens)
  | cancel {a} (waits : 0 < cancels a.pool) : Act.Opens ctl net cancels a

/-- **What an act can do.**  It changes the servers of its pool, opens a connection there,
or makes it. -/
inductive Act.Did (ctl : Control) (net net' : Net) : Act → Prop
  | kept {a} (same : (net'.poolList, net'.poolDb, net'.servers, net'.launches) =
      (net.poolList, net.poolDb, net.servers, net.launches)) : Act.Did ctl net net' a
  | moved {p ss} (has : net.has ctl p = true) (length : ss.length ≤ (net.servers p).length)
      (eq : net' = net.setServers p ss) : Act.Did ctl net net' (.servers p ss)
  | opened {a cancels} (launches : a.launches = true) (has : net.has ctl a.pool = true)
      (eq : net' = { net.setServers a.pool ({ state := .login } :: net.servers a.pool) with
        waitingCancel := cancels
        launches :=
          { db := net.poolDb a.pool
            paused := ctl.pauseInForce || ctl.dbPauseInForce (net.poolDb a.pool)
            cancelWaits := 0 < cancels a.pool } :: net.launches })
      (why : a.Opens ctl net cancels) :
      Act.Did ctl net net' a
  | made {p d} (new : p ∉ net.poolList) (exist : ctl.exist d = true)
      (pools : net'.poolList = p :: net.poolList)
      (poolDb : net'.poolDb = Function.update net.poolDb p d)
      (servers : net'.servers = Function.update net.servers p [])
      (launches : net'.launches = net.launches) : Act.Did ctl net net' (.newPool p d)

/-- The two outcomes of `launch_new_connection` as a part of an act. -/
theorem Act.did_of_launch (a : Act) (opens : Bool) (cancels : Nat → Nat)
    (launches : a.launches = true) (has : net.has ctl a.pool = true)
    (why : a.Opens ctl net cancels) : Act.Did ctl net
      (Net.launchNewConnection ctl { net with waitingCancel := cancels } a.pool opens) a := by
  unfold Net.launchNewConnection
  split_ifs
  · exact .opened launches has rfl why
  · exact .kept rfl

theorem Act.did (ctl : Control) (net : Net) (a : Act) : a.Did ctl net (a.apply ctl net) := by
  cases a with
  | servers p ss =>
    simp only [Act.apply]
    split_ifs with h
    · simp only [Bool.and_eq_true, decide_eq_true_eq] at h
      exact .moved h.1 h.2 rfl
    · exact .kept rfl
  | activate p opens =>
    simp only [Act.apply]
    split_ifs with h
    · simp only [Bool.and_eq_true, decide_eq_true_eq, Bool.not_eq_true'] at h
      exact Act.did_of_launch (.activate p opens) opens _ rfl h.1.1 (.free h.1.2 h.2)
    · exact .kept rfl
  | findServer p opens =>
    simp only [Act.apply]
    split_ifs with h
    · simp only [Bool.and_eq_true, decide_eq_true_eq, Bool.not_eq_true', ne_eq] at h
      have hmode : ctl.cfPauseMode = .none := by
        cases hm : ctl.cfPauseMode with
        | none => rfl
        | pause => exact absurd hm h.1.2
      exact Act.did_of_launch (.findServer p opens) opens _ rfl h.1.1 (.free hmode h.2)
    · exact .kept rfl
  | finishClientLogin p opens =>
    simp only [Act.apply]
    split_ifs with h
    · simp only [Bool.and_eq_true, decide_eq_true_eq, Bool.not_eq_true'] at h
      exact Act.did_of_launch (.finishClientLogin p opens) opens _ rfl h.1.1 (.login h.2 h.1.2)
    · exact .kept rfl
  | checkPoolSize p wanted opens =>
    simp only [Act.apply]
    split_ifs with h
    · simp only [Bool.and_eq_true, decide_eq_true_eq] at h
      obtain ⟨⟨hhas, rfl⟩, hmode⟩ := h
      exact Act.did_of_launch (.checkPoolSize p true opens) opens _ rfl hhas (.size hmode)
    · exact .kept rfl
  | cancelRequest p opens =>
    simp only [Act.apply]
    split_ifs with h
    · exact Act.did_of_launch (.cancelRequest p opens) opens _ rfl h (.cancel (by simp [Act.pool]))
    · exact .kept rfl
  | cancelsLeft p n => exact .kept rfl
  | welcome p ready => exact .kept rfl
  | newPool p d =>
    simp only [Act.apply]
    split_ifs with h
    · simp only [Bool.and_eq_true, Bool.not_eq_true', List.contains_eq_mem,
        decide_eq_false_iff_not] at h
      exact .made h.1 h.2 rfl rfl rfl rfl
    · exact .kept rfl

/-! ### Loops of acts -/

variable {l : Loop}

section Loops

variable {ctl : Control} {cond : Net → Act → Prop} {Inv : Net → Prop}

/-- Every act of a list meets a condition where it happens. -/
def ActsMeet (ctl : Control) (cond : Net → Act → Prop) : Net → List Act → Prop
  | _, [] => True
  | net, a :: as => cond net a ∧ ActsMeet ctl cond (a.apply ctl net) as

theorem acts_invariant (hact : ∀ {net a}, Inv net → cond net a → Inv (a.apply ctl net))
    {as : List Act} (hmeets : ActsMeet ctl cond net as) (h : Inv net) :
    Inv (net.acts ctl as) := by
  induction as generalizing net with
  | nil => exact h
  | cons a as ih => exact ih hmeets.2 (hact h hmeets.1)

/-- `per_loop_maint` activates a pool. -/
def Control.activates (ctl : Control) (net : Net) (p : Nat) : Prop :=
  (ctl.database (net.poolDb p)).admin = false ∧ ctl.cfPauseMode = .none ∧
    (ctl.database (net.poolDb p)).dbPaused = false

/-- Every act of the loop of `per_loop_maint` meets a condition where it happens, which
may depend on the pool that is being activated. -/
def LoopMeets (ctl : Control) (cond : Nat → Net → Act → Prop) (effects : Nat → List Act) :
    Loop → List Nat → Prop
  | _, [] => True
  | l, p :: ps =>
    (ctl.activates l.net p → ActsMeet ctl (cond p) l.net (effects p)) ∧
      LoopMeets ctl cond effects (l.turn ctl effects p) ps

theorem Loop.shrinks_pause (l : Loop) (p : Nat) : l.net.Shrinks (l.pause p).net := by
  refine ⟨fun _ h => h, rfl, fun q s hs => ?_, rfl⟩
  by_cases hqp : q = p
  · subst hqp
    simp only [Loop.pause, Net.setServers, Function.update_self] at hs
    exact (List.mem_filter.mp hs).1
  · simpa [Loop.pause, Net.setServers, Function.update_of_ne hqp] using hs

/-- A pool that is not activated is paused. -/
inductive Loop.Worked (ctl : Control) (effects : Nat → List Act) (l : Loop) (p : Nat) :
    Loop → Prop
  | activated (mode : ctl.cfPauseMode = .none)
      (paused : (ctl.database (l.net.poolDb p)).dbPaused = false) :
      Loop.Worked ctl effects l p { l with net := l.net.acts ctl (effects p) }
  | paused (partialPause : Bool)
      (flag : partialPause = true → l.partialPause = true ∨
        (ctl.database (l.net.poolDb p)).dbPaused = true) :
      Loop.Worked ctl effects l p { l.pause p with partialPause }

theorem Loop.worked (ctl : Control) (effects : Nat → List Act) (l : Loop) (p : Nat) :
    l.Worked ctl effects p (l.work ctl effects p) := by
  unfold Loop.work
  cases hmode : ctl.cfPauseMode with
  | pause => exact .paused l.partialPause .inl
  | none =>
    cases hpaused : (ctl.database (l.net.poolDb p)).dbPaused with
    | true => exact .paused true fun _ => .inr hpaused
    | false => exact .activated hmode hpaused

/-- What a turn does to the pools: it lets the clients of one go on, or closes some of
its servers. -/
theorem Loop.turn_net (ctl : Control) (effects : Nat → List Act) (l : Loop) (p : Nat) :
    ctl.activates l.net p ∧ (l.turn ctl effects p).net = l.net.acts ctl (effects p) ∨
      l.net.Shrinks (l.turn ctl effects p).net ∧
        (l.turn ctl effects p).net.poolList = l.net.poolList := by
  unfold Loop.turn
  cases hadmin : (ctl.database (l.net.poolDb p)).admin with
  | true => exact .inr ⟨.refl _, rfl⟩
  | false =>
    have hwork := l.worked ctl effects p
    generalize l.work ctl effects p = l' at hwork
    have hnet : (if (ctl.database (l.net.poolDb p)).dbWaitClose then l'.waitClose p
        else l').net = l'.net := by split_ifs <;> rfl
    simp only [Bool.false_eq_true, if_false, hnet]
    cases hwork with
    | activated hmode hpaused => exact .inl ⟨⟨hadmin, hmode, hpaused⟩, rfl⟩
    | paused _ _ => exact .inr ⟨l.shrinks_pause p, rfl⟩

variable {effects : Nat → List Act}

/-- A turn finds out that there is a paused pool. -/
theorem Loop.turn_partialPause {p : Nat} (h : (l.turn ctl effects p).partialPause = true) :
    l.partialPause = true ∨ (ctl.database (l.net.poolDb p)).dbPaused = true := by
  have hwork := l.worked ctl effects p
  unfold Loop.turn at h
  generalize l.work ctl effects p = l' at hwork h
  have hflag : l'.partialPause = true → l.partialPause = true ∨
      (ctl.database (l.net.poolDb p)).dbPaused = true := by
    cases hwork with
    | activated _ _ => exact .inl
    | paused _ hflag => exact hflag
  split_ifs at h
  · exact .inl h
  · exact hflag h
  · exact hflag h

theorem turn_invariant (hact : ∀ {net a}, Inv net → cond net a → Inv (a.apply ctl net))
    (hshrink : ∀ {net net'}, Inv net → net.Shrinks net' → Inv net')
    {p : Nat} (hmeets : ctl.activates l.net p → ActsMeet ctl cond l.net (effects p))
    (h : Inv l.net) : Inv (l.turn ctl effects p).net := by
  rcases l.turn_net ctl effects p with ⟨hactivates, hnet⟩ | ⟨hshrinks, -⟩
  · rw [hnet]
    exact acts_invariant hact (hmeets hactivates) h
  · exact hshrink h hshrinks

/-- What every act keeps that meets the condition, the loop of `per_loop_maint` keeps. -/
theorem loop_invariant {cond : Nat → Net → Act → Prop}
    (hact : ∀ {p net a}, Inv net → cond p net a → Inv (a.apply ctl net))
    (hshrink : ∀ {net net'}, Inv net → net.Shrinks net' → Inv net')
    (hmeets : LoopMeets ctl cond effects l ps) (h : Inv l.net) :
    Inv (ps.foldl (Loop.turn ctl effects) l).net := by
  induction ps generalizing l with
  | nil => exact h
  | cons p ps ih => exact ih hmeets.2 (turn_invariant hact hshrink hmeets.1 h)

end Loops

/-- The pools there are stay. -/
theorem Act.mem_apply {p : Nat} (a : Act) (hp : p ∈ net.poolList) :
    p ∈ (a.apply ctl net).poolList := by
  cases a.did ctl net with
  | kept hsame => exact (Prod.mk.inj hsame).1 ▸ hp
  | moved _ _ heq => exact heq ▸ hp
  | opened _ _ heq => exact heq ▸ hp
  | made _ _ hpools => exact hpools ▸ List.mem_cons_of_mem _ hp

theorem Net.mem_acts {p : Nat} (as : List Act) (hp : p ∈ net.poolList) :
    p ∈ (net.acts ctl as).poolList := by
  induction as generalizing net with
  | nil => exact hp
  | cons a as ih => exact ih (a.mem_apply hp)

theorem Loop.mem_turn {p q : Nat} (hq : q ∈ l.net.poolList) :
    q ∈ (l.turn ctl effects p).net.poolList := by
  rcases l.turn_net ctl effects p with ⟨-, hnet⟩ | ⟨-, hpools⟩
  · rw [hnet]
    exact Net.mem_acts _ hq
  · rw [hpools]
    exact hq

/-! ### What a step can do -/

/-- A database is added. -/
abbrev Control.withDatabase (ctl : Control) (db : Database) : Control :=
  { ctl with
    database := Function.update ctl.database ctl.nextDb
      { db with dbPaused := false, dbWaitClose := false }
    nextDb := ctl.nextDb + 1
    databaseList := ctl.nextDb :: ctl.databaseList }

/-- **What a step can do.**  A command that is refused changes nothing. -/
inductive Happens (w : World) : Event → World → Prop
  | refused (e) : Happens w e w
  | act (a : Act) : Happens w (.act a) { w with net := a.apply w.ctl w.net }
  | perLoopMaint (effects) : Happens w (.perLoopMaint effects) (w.perLoopMaint effects)
  | doFullMaint {acts inactive expired unused w'}
      (eq : w.doFullMaint acts inactive expired unused = some w') :
      Happens w (.doFullMaint acts inactive expired unused) w'
  | addDatabase (db : Database) :
      Happens w (.addDatabase db) { w with ctl := w.ctl.withDatabase db }
  | removeDatabase (d) : Happens w (.removeDatabase d) (w.killDatabase d)
  | console {e} (as : List Nat) (a : Nat) (he : e = .consoleLogin a ∨ e = .consoleClose a) :
      Happens w e { w with
        con := { w.con with
          activeClientList := as
          waitForResponse := Function.update w.con.waitForResponse a false
          pending := Function.update w.con.pending a [] } }
  | consoleCancel (shutdown : w.ctl.cfShutdown = .none) :
      Happens w .consoleCancel { w with ctl := { w.ctl with cfPauseMode := .none } }
  | resume {e} (he : e = .resume ∨ e = .sigusr2) :
      Happens w e { w with ctl := { w.ctl with cfPauseMode := .none, pauseInForce := false } }
  | pauseMode {e} (inForce : Bool) (shutdown : Shutdown)
      (he : e = .sigusr1 ∨ e = .sigint ∨ e = .shutdownWaitForServers) :
      Happens w e { w with
        ctl := { w.ctl with
          cfPauseMode := .pause, pauseInForce := inForce, cfShutdown := shutdown } }
  | shutdown (e) (shutdown : Shutdown) :
      Happens w e { w with ctl := { w.ctl with cfShutdown := shutdown } }
  | pause {a} :
      Happens w (.pause a) { w with
        ctl := { w.ctl with cfPauseMode := .pause, pauseInForce := true }
        con := (w.con.ask a .pause).wait a }
  | found {e d ctl'} (found : w.ctl.Found d ctl') : Happens w e { w with ctl := ctl' }
  | pauseDb {a d ctl' con} (found : w.ctl.Found d ctl') (admin : (ctl'.database d).admin = false)
      (con_eq : con = (w.con.ask a (.pauseDb d)).wait a ∨
        w.net.countDbActive d = 0 ∧ con = (w.con.ask a (.pauseDb d)).ready w.net a .pause) :
      Happens w (.pauseDb a d) { w with
        ctl := { ctl'.modifyDb d .pause with
          dbPauseInForce := Function.update ctl'.dbPauseInForce d true }
        con := con }
  | resumeDb {d ctl'} (found : w.ctl.Found d ctl') :
      Happens w (.resumeDb d) { w with
        ctl := { ctl'.modifyDb d .resume with
          dbPauseInForce := Function.update ctl'.dbPauseInForce d false } }
  | kill :
      Happens w .kill { w with
        ctl := w.net.poolList.foldl
          (World.flagPoolDb w.net .pause) w.ctl
        net := w.net.killPoolsOf fun d => !(w.ctl.database d).admin }
  | killDb {d ctl'} (found : w.ctl.Found d ctl') :
      Happens w (.killDb d) { w with
        ctl := ctl'.modifyDb d .pause
        net := w.net.killPoolsOf (· = d) }
  | waitClose {a con}
      (con_eq : con =
          (w.con.ask a (.waitClose (w.net.poolList.map w.net.poolDb))).wait a ∨
        (∀ p ∈ w.net.poolList, w.net.countDbActive (w.net.poolDb p) = 0) ∧ con =
          (w.con.ask a (.waitClose (w.net.poolList.map w.net.poolDb))).ready w.net a .waitClose) :
      Happens w (.waitClose a) { w with
        ctl := w.net.poolList.foldl
          (World.flagPoolDb w.net .awaitClose) w.ctl
        con := con }
  | waitCloseDb {a d ctl' con} (found : w.ctl.Found d ctl')
      (con_eq : con = (w.con.ask a (.waitClose [d])).wait a ∨
        w.net.countDbActive d = 0 ∧ con = (w.con.ask a (.waitClose [d])).ready w.net a .waitClose) :
      Happens w (.waitCloseDb a d) { w with
        ctl := ctl'.modifyDb d .awaitClose
        con := con }

theorem happens_pauseDb (w : World) (a d : Nat) :
    Happens w (.pauseDb a d) (w.adminCmdPauseDb a d) := by
  unfold World.adminCmdPauseDb
  split
  · split
    · exact .refused _
    · rename_i ctl hfind
      have hfound := Control.found_of_findDatabase hfind
      dsimp only
      split_ifs with hadmin hactive
      · exact .found hfound
      · exact .pauseDb hfound (by simpa using hadmin) (.inl rfl)
      · exact .pauseDb hfound (by simpa using hadmin) (.inr ⟨by simpa using hactive, rfl⟩)
  · exact .refused _

theorem happens_resumeDb (w : World) (d : Nat) :
    Happens w (.resumeDb d) (w.adminCmdResumeDb d) := by
  unfold World.adminCmdResumeDb
  split
  · exact .refused _
  · rename_i ctl hfind
    have hfound := Control.found_of_findDatabase hfind
    split_ifs
    · exact .resumeDb hfound
    · exact .found hfound

theorem happens_killDb (w : World) (d : Nat) : Happens w (.killDb d) (w.adminCmdKillDb d) := by
  unfold World.adminCmdKillDb
  split_ifs
  · split
    · exact .refused _
    · rename_i ctl hfind
      have hfound := Control.found_of_findDatabase hfind
      split_ifs
      · exact .found hfound
      · exact .killDb hfound
  · exact .refused _

theorem happens_waitClose (w : World) (a : Nat) :
    Happens w (.waitClose a) (w.adminCmdWaitClose a) := by
  unfold World.adminCmdWaitClose
  dsimp only
  split_ifs with hactive
  · exact .waitClose (.inl rfl)
  · exact .waitClose (.inr ⟨by simpa using hactive, rfl⟩)

theorem happens_waitCloseDb (w : World) (a d : Nat) :
    Happens w (.waitCloseDb a d) (w.adminCmdWaitCloseDb a d) := by
  unfold World.adminCmdWaitCloseDb
  split
  · exact .refused _
  · rename_i ctl hfind
    have hfound := Control.found_of_findDatabase hfind
    split_ifs with hadmin hactive
    · exact .found hfound
    · exact .waitCloseDb hfound (.inl rfl)
    · exact .waitCloseDb hfound (.inr ⟨by simpa using hactive, rfl⟩)

theorem happens_resume {e : Event} (he : e = .resume ∨ e = .sigusr2) :
    Happens w e w.adminCmdResume := by
  unfold World.adminCmdResume
  split_ifs
  · exact .resume he
  · exact .refused _

theorem happens_of_step {e : Event} (h : w.step e = some w') :
    Happens w e w' := by
  unfold World.step at h
  rw [Option.ite_none_left_eq_some] at h
  replace h := h.2
  cases e <;> simp only [Option.ite_none_left_eq_some, Option.ite_none_right_eq_some,
    Option.some.injEq] at h
  case act a => exact h ▸ .act a
  case perLoopMaint effects => exact h ▸ .perLoopMaint effects
  case doFullMaint => exact .doFullMaint h
  case addDatabase db => exact h ▸ .addDatabase db
  case removeDatabase d => exact h ▸ .removeDatabase d
  case consoleLogin a => exact h.2 ▸ .console _ a (.inl rfl)
  case consoleClose a => exact h ▸ .console _ a (.inr rfl)
  case consoleCancel =>
    subst h
    split_ifs with hshutdown
    · exact .consoleCancel hshutdown
    · exact .refused _
  case pause a =>
    obtain ⟨-, rfl⟩ := h
    unfold World.adminCmdPause
    split_ifs
    · exact .pause
    · exact .refused _
  case pauseDb a d => exact h.2 ▸ happens_pauseDb w a d
  case resume => exact h ▸ happens_resume (.inl rfl)
  case resumeDb d => exact h ▸ happens_resumeDb w d
  case kill =>
    subst h
    unfold World.adminCmdKill
    split_ifs
    · exact .kill
    · exact .refused _
  case killDb d => exact h ▸ happens_killDb w d
  case waitClose a => exact h.2 ▸ happens_waitClose w a
  case waitCloseDb a d => exact h.2 ▸ happens_waitCloseDb w a d
  case shutdownWaitForClients => exact h ▸ .shutdown _ _
  case shutdownWaitForServers => exact h ▸ .pauseMode _ _ (.inr (.inr rfl))
  case sigusr1 =>
    subst h
    split_ifs
    · exact .pauseMode _ _ (.inl rfl)
    · exact .refused _
  case sigusr2 => exact h ▸ happens_resume (.inr rfl)
  case sigint => exact h.2 ▸ .pauseMode _ _ (.inr (.inl rfl))
  case sigterm => exact h.2 ▸ .shutdown _ _

/-! ### `admin_pause_done` does not give up -/

/-- The database of every paused pool is one that is counted. -/
def Counted (ctl : Control) (net : Net) : Prop :=
  ∀ p ∈ net.poolList, (ctl.database (net.poolDb p)).dbPaused = true →
    net.poolDb p ∈ ctl.databaseList

/-- No pool is made for a paused database that has been put aside. -/
def Act.Homed (ctl : Control) (a : Act) : Prop :=
  ∀ p d, a = .newPool p d → (ctl.database d).dbPaused = true → d ∈ ctl.databaseList

theorem Counted.shrink {net' : Net} (h : Counted ctl net) (hshrinks : net.Shrinks net') :
    Counted ctl net' := by
  intro p hp hpaused
  rw [hshrinks.poolDb] at hpaused ⊢
  exact h p (hshrinks.pools p hp) hpaused

theorem Counted.act {a : Act} (h : Counted ctl net) (ha : a.Homed ctl) :
    Counted ctl (a.apply ctl net) := by
  cases a.did ctl net with
  | kept hsame =>
    simp only [Prod.mk.injEq] at hsame
    obtain ⟨hpools, hdb, -⟩ := hsame
    intro p hp
    rw [hdb]
    exact h p (hpools ▸ hp)
  | moved _ _ heq =>
    rw [heq]
    exact h
  | opened _ _ heq =>
    rw [heq]
    exact h
  | @made q d hnew _ hpools hdb =>
    intro p hp
    rw [hdb]
    by_cases hpq : p = q
    · subst hpq
      simpa using ha p d rfl
    · rw [Function.update_of_ne hpq]
      rw [hpools] at hp
      exact h p ((List.mem_cons.mp hp).resolve_left hpq)

/-- The loop finds a paused pool only where a paused database is counted. -/
theorem Counted.partialPause (h : Counted ctl l.net) (hps : ∀ p ∈ ps, p ∈ l.net.poolList)
    (hhomed : LoopMeets ctl (fun _ _ a => a.Homed ctl) effects l ps)
    (hl : l.partialPause = true → 0 < ctl.countPausedDatabases) :
    (ps.foldl (Loop.turn ctl effects) l).partialPause = true → 0 < ctl.countPausedDatabases := by
  induction ps generalizing l with
  | nil => exact hl
  | cons p ps ih =>
    refine ih (turn_invariant (fun h ha => h.act ha) (fun h hs => h.shrink hs) hhomed.1 h)
      (fun q hq => Loop.mem_turn (hps q (List.mem_cons_of_mem _ hq))) hhomed.2 ?_
    have hcount : (ctl.database (l.net.poolDb p)).dbPaused = true →
        0 < ctl.countPausedDatabases := fun hpaused =>
      List.countP_pos_iff.mpr ⟨_, h p (hps p List.mem_cons_self) hpaused, hpaused⟩
    intro hpartial
    exact (Loop.turn_partialPause hpartial).elim hl hcount

/-! #### Flags and lists -/

theorem Counted.found {d : Nat} (h : Counted ctl net) (hfound : ctl.Found d ctl') :
    Counted ctl' net := by
  intro p hp hpaused
  rw [hfound.rest] at hpaused
  exact hfound.mono _ (h p hp hpaused)

theorem Counted.modifyDb {d : Nat} (h : Counted ctl net)
    (hf : (f (ctl.database d)).dbPaused = true →
      (ctl.database d).dbPaused = true ∨ d ∈ ctl.databaseList) :
    Counted (ctl.modifyDb d f) net := by
  intro p hp hpaused
  show net.poolDb p ∈ ctl.databaseList
  by_cases hd : net.poolDb p = d
  · simp only [Control.modifyDb, hd, Function.update_self] at hpaused
    rcases hf hpaused with hbefore | hmem
    · exact h p hp (hd ▸ hbefore)
    · exact hd ▸ hmem
  · simp only [Control.modifyDb, Function.update_of_ne hd] at hpaused
    exact h p hp hpaused

theorem flagPoolDb_lists (net : Net) (f : Database → Database) (ps : List Nat) (ctl : Control) :
    ps.foldl (World.flagPoolDb net f) ctl =
      { ctl with database := (ps.foldl (World.flagPoolDb net f) ctl).database } := by
  induction ps generalizing ctl with
  | nil => rfl
  | cons p ps ih =>
    rw [List.foldl_cons, ih]
    unfold World.flagPoolDb
    split_ifs <;> rfl

/-- What is true of a database stays true if setting the flag keeps it. -/
theorem flagPoolDb_stays {P : Database → Prop} (hf : ∀ db, P db → P (f db)) (net : Net)
    (ps : List Nat) {d : Nat} (h : P (ctl.database d)) :
    P ((ps.foldl (World.flagPoolDb net f) ctl).database d) := by
  induction ps generalizing ctl with
  | nil => exact h
  | cons p ps ih =>
    refine ih ?_
    unfold World.flagPoolDb
    split_ifs
    · exact h
    · by_cases hd : d = net.poolDb p
      · subst hd
        simpa [Control.modifyDb] using hf _ h
      · simpa [Control.modifyDb, Function.update_of_ne hd] using h

/-- A flag that is not written stays as it is. -/
theorem flagPoolDb_keeps {α : Type} {g : Database → α} (hg : ∀ db, g (f db) = g db) (net : Net)
    (ps : List Nat) (ctl : Control) (d : Nat) :
    g ((ps.foldl (World.flagPoolDb net f) ctl).database d) = g (ctl.database d) :=
  flagPoolDb_stays (P := fun db => g db = g (ctl.database d)) (fun db h => (hg db).trans h)
    net ps rfl

/-- The console's database is left alone. -/
theorem flagPoolDb_admin (net : Net) (ps : List Nat) {d : Nat}
    (hd : (ctl.database d).admin = true) :
    (ps.foldl (World.flagPoolDb net f) ctl).database d = ctl.database d := by
  induction ps generalizing ctl with
  | nil => rfl
  | cons p ps ih =>
    have hstep : (World.flagPoolDb net f ctl p).database d = ctl.database d := by
      unfold World.flagPoolDb
      split_ifs with hadmin
      · rfl
      · have hne : d ≠ net.poolDb p := by
          rintro rfl
          exact hadmin hd
        simp [Control.modifyDb, Function.update_of_ne hne]
    rw [List.foldl_cons, ih (hstep ▸ hd), hstep]

theorem Counted.pauseDb {d : Nat} (h : Counted ctl net) (hfound : ctl.Found d ctl') :
    Counted (ctl'.modifyDb d .pause) net :=
  (h.found hfound).modifyDb fun _ => .inr hfound.mem

theorem Counted.waitClose (h : Counted ctl net) :
    Counted (net.poolList.foldl
      (World.flagPoolDb net .awaitClose) ctl) net := by
  intro p hp hpaused
  have hkept := flagPoolDb_keeps (g := Database.dbPaused)
    (f := .awaitClose) (fun _ => rfl) net net.poolList ctl
  rw [hkept] at hpaused
  rw [flagPoolDb_lists]
  exact h p hp hpaused

theorem Counted.kill (h : Counted ctl net) (f : Database → Database) :
    Counted (net.poolList.foldl (World.flagPoolDb net f) ctl)
      (net.killPoolsOf fun d => !(ctl.database d).admin) := by
  intro p hp hpaused
  rw [(net.shrinks_killPoolsOf _).poolDb] at hpaused ⊢
  obtain ⟨hmem, hadmin⟩ := Net.mem_killPoolsOf.mp hp
  -- only the pools of the console are left
  rw [flagPoolDb_admin net _ (by simpa using hadmin)] at hpaused
  rw [flagPoolDb_lists]
  exact h p hmem hpaused

theorem Counted.killDatabase (h : Counted w.ctl w.net) (d : Nat) :
    Counted (w.killDatabase d).ctl (w.killDatabase d).net := by
  intro p hp hpaused
  obtain ⟨hmem, hne⟩ := Net.mem_killPoolsOf.mp hp
  have hdb : (w.killDatabase d).net.poolDb = w.net.poolDb := (w.net.shrinks_killPoolsOf _).poolDb
  rw [hdb] at hpaused ⊢
  exact List.mem_filter.mpr ⟨h p hmem hpaused, by simpa using hne⟩

theorem Counted.killDatabases {w : World} (h : Counted w.ctl w.net) (ds : List Nat) :
    Counted (ds.foldl World.killDatabase w).ctl (ds.foldl World.killDatabase w).net := by
  induction ds generalizing w with
  | nil => exact h
  | cons d ds ih => exact ih (h.killDatabase d)

theorem Counted.idleDatabase {d : Nat} (h : Counted ctl net)
    (hd : (ctl.database d).dbPaused = false) : Counted (ctl.idleDatabase d) net := by
  intro p hp hpaused
  refine List.mem_filter.mpr ⟨h p hp hpaused, ?_⟩
  have hne : net.poolDb p ≠ d := by
    rintro rfl
    exact absurd hpaused (by simp [Control.idleDatabase, hd])
  simpa using hne

theorem Counted.idleDatabases {ds : List Nat} (h : Counted ctl net)
    (hds : ∀ d ∈ ds, (ctl.database d).dbPaused = false) :
    Counted (ds.foldl Control.idleDatabase ctl) net := by
  induction ds generalizing ctl with
  | nil => exact h
  | cons d ds ih =>
    exact ih (h.idleDatabase (hds d List.mem_cons_self))
      fun x hx => hds x (List.mem_cons_of_mem _ hx)

theorem actsMeet_of_forall {cond : Act → Prop} {as : List Act} (h : ∀ a ∈ as, cond a) (net : Net) :
    ActsMeet ctl (fun _ => cond) net as := by
  induction as generalizing net with
  | nil => trivial
  | cons a as ih =>
    exact ⟨h a List.mem_cons_self, ih (fun b hb => h b (List.mem_cons_of_mem _ hb)) _⟩

theorem loopMeets_of_forall {cond : Act → Prop} (h : ∀ p, ∀ a ∈ effects p, cond a) (l : Loop)
    (ps : List Nat) :
    LoopMeets ctl (fun _ _ => cond) effects l ps := by
  induction ps generalizing l with
  | nil => trivial
  | cons p ps ih => exact ⟨fun _ => actsMeet_of_forall (h p) _, ih _⟩

theorem killDatabases_con (ds : List Nat) (w : World) :
    (ds.foldl World.killDatabase w).con = w.con := by
  induction ds generalizing w with
  | nil => rfl
  | cons d ds ih => exact ih _

variable {acts : List Act}

theorem doFullMaint_con (hstep : w.doFullMaint acts inactive expired unused = some w') :
    w'.con = w.con := by
  unfold World.doFullMaint at hstep
  dsimp only at hstep
  split_ifs at hstep
  cases hstep
  exact killDatabases_con _ _

theorem Counted.doFullMaint (h : Counted w.ctl w.net) (hacts : ∀ a ∈ acts, a.Homed w.ctl)
    (hinactive : ∀ d ∈ inactive, (w.ctl.database d).dbPaused = false)
    (hstep : w.doFullMaint acts inactive expired unused = some w') :
    Counted w'.ctl w'.net := by
  have hnet : Counted w.ctl (w.net.acts w.ctl acts) :=
    acts_invariant (fun h ha => h.act ha) (actsMeet_of_forall hacts _) h
  have hidle := hnet.idleDatabases hinactive
  have hkill := @Counted.killDatabases
    ⟨inactive.foldl Control.idleDatabase w.ctl, w.net.acts w.ctl acts, w.con⟩ hidle expired
  unfold World.doFullMaint at hstep
  dsimp only at hstep
  split_ifs at hstep
  cases hstep
  exact hkill.shrink (Net.shrinks_killPools _ _)

/-! #### The console -/

theorem foldl_done_fatal (net : Net) (completion : Completion) (as : List Nat) (con : Console) :
    (as.foldl (Console.done net completion) con).fatal = con.fatal := by
  induction as generalizing con with
  | nil => rfl
  | cons a as ih =>
    rw [List.foldl_cons, ih]
    unfold Console.done
    split_ifs <;> rfl

/-- `per_loop_maint` only gives up where a paused pool is not counted. -/
theorem perLoopMaint_fatal (h : Counted w.ctl w.net) (hhomed : ∀ p, ∀ a ∈ effects p, a.Homed w.ctl)
    (halive : w.con.fatal = false) :
    (w.perLoopMaint effects).con.fatal = false := by
  have hpartial : (w.loop effects).partialPause = true → 0 < w.ctl.countPausedDatabases :=
    h.partialPause (fun p hp => hp) (loopMeets_of_forall hhomed _ _) nofun
  have hpause : ((w.loop effects).pauseDone w.ctl w.con).fatal = false := by
    unfold Loop.pauseDone
    split_ifs with hdone
    · have hcount :
          (w.ctl.cfPauseMode = .pause || 0 < w.ctl.countPausedDatabases : Bool) = true := by
        simp only [Bool.and_eq_true, Bool.or_eq_true, decide_eq_true_eq] at hdone ⊢
        exact hdone.2.imp id hpartial
      rw [adminPauseDone, if_pos hcount, foldl_done_fatal]
      exact halive
    · exact halive
  show ((w.loop effects).waitCloseDone _).fatal = false
  unfold Loop.waitCloseDone
  split_ifs
  · exact (foldl_done_fatal _ _ _ _).trans hpause
  · exact hpause

/-! #### Runs -/

/-- Nobody needs a paused database that has been put aside: no auto-database is found
inactive while it is paused, and no pool is made for a paused one that has been put
aside. -/
def Sheltered (w : World) : Event → Prop
  | .act a => a.Homed w.ctl
  | .perLoopMaint effects => ∀ p, ∀ a ∈ effects p, a.Homed w.ctl
  | .doFullMaint acts inactive _ _ =>
    (∀ a ∈ acts, a.Homed w.ctl) ∧ ∀ d ∈ inactive, (w.ctl.database d).dbPaused = false
  | _ => True

structure Alive (w : World) : Prop where
  counted : Counted w.ctl w.net
  fatal : w.con.fatal = false

theorem Alive.happens {e : Event} (h : Alive w) (hcond : Sheltered w e) (hstep : Happens w e w') :
    Alive w' := by
  obtain ⟨hcounted, hfatal⟩ := h
  cases hstep with
  | refused => exact ⟨hcounted, hfatal⟩
  | act a => exact ⟨hcounted.act hcond, hfatal⟩
  | perLoopMaint effects =>
    refine ⟨?_, perLoopMaint_fatal hcounted hcond hfatal⟩
    exact loop_invariant (fun h ha => h.act ha) (fun h hs => h.shrink hs)
      (loopMeets_of_forall hcond _ _) hcounted
  | doFullMaint heq =>
    exact ⟨hcounted.doFullMaint hcond.1 hcond.2 heq, (doFullMaint_con heq).symm ▸ hfatal⟩
  | addDatabase db =>
    refine ⟨fun p hp hpaused => ?_, hfatal⟩
    by_cases hd : w.net.poolDb p = w.ctl.nextDb
    · simp [hd] at hpaused
    · simp only [Function.update_of_ne hd] at hpaused
      exact List.mem_cons_of_mem _ (hcounted p hp hpaused)
  | removeDatabase d => exact ⟨hcounted.killDatabase d, hfatal⟩
  | console | consoleCancel | resume | pauseMode | shutdown | pause => exact ⟨hcounted, hfatal⟩
  | found hfound => exact ⟨hcounted.found hfound, hfatal⟩
  | pauseDb hfound _ hcon =>
    refine ⟨hcounted.pauseDb hfound, ?_⟩
    rcases hcon with rfl | ⟨-, rfl⟩ <;> exact hfatal
  | @resumeDb d ctl hfound =>
    have hresumed := (hcounted.found hfound).modifyDb (d := d)
      (f := .resume) nofun
    exact ⟨hresumed, hfatal⟩
  | kill => exact ⟨hcounted.kill _, hfatal⟩
  | killDb hfound =>
    exact ⟨(hcounted.pauseDb hfound).shrink (w.net.shrinks_killPoolsOf fun x => x = _), hfatal⟩
  | waitClose hcon =>
    refine ⟨hcounted.waitClose, ?_⟩
    rcases hcon with rfl | ⟨-, rfl⟩ <;> exact hfatal
  | @waitCloseDb a d ctl con hfound hcon =>
    have hflagged := (hcounted.found hfound).modifyDb (d := d)
      (f := .awaitClose) .inl
    refine ⟨hflagged, ?_⟩
    rcases hcon with rfl | ⟨-, rfl⟩ <;> exact hfatal

/-- **`admin_pause_done` does not give up**, in no run in which no paused database is put
aside or used from there. -/
theorem pause_done_alive {w : World} {es : List Event}
    (hmeets : Run.Meets World.step Sheltered {} es) (hrun : World.run {} es = some w) :
    w.con.fatal = false := by
  have hinit : Alive {} := ⟨fun _ hp => (List.not_mem_nil hp).elim, rfl⟩
  exact (Run.invariant (fun h hc hs => h.happens hc (happens_of_step hs)) hmeets hrun hinit).fatal

/-- A database with a server is paused, and the admin waits until it is closed. -/
theorem pause_done_alive_waits :
    ∃ w, World.run {} [.addDatabase {}, .act (.newPool 0 0), .act (.findServer 0 true),
        .consoleLogin 7, .pauseDb 7 0, .perLoopMaint fun _ => []] = some w ∧
      w.con.answers.length = 1 ∧ w.con.fatal = false := by
  refine Run.exists_of_any (P := fun w => w.con.answers.length = 1) (by decide)
    fun w hrun hone => ⟨hone, pause_done_alive ?_ hrun⟩
  have hfind : ∀ ctl, Act.Homed ctl (.findServer 0 true) := fun _ _ _ h => nomatch h
  refine ⟨trivial, ?_⟩
  rintro _ ⟨⟩
  refine ⟨?_, fun _ _ => ⟨hfind _, ?_⟩⟩
  · rintro _ _ ⟨⟩ _
    decide
  · exact fun _ _ => ⟨trivial, fun _ _ => ⟨trivial, fun _ _ => ⟨(fun _ _ h => nomatch h),
      fun _ _ => trivial⟩⟩⟩

/-- An auto-database is paused and found inactive, so it is put aside.  Its pool still
says that there is a paused database, while the admin waits for something else. -/
theorem idle_paused_database_aborts :
    (World.run {} [.addDatabase { dbAuto := true }, .addDatabase {}, .act (.newPool 0 0),
        .act (.newPool 1 1), .act (.findServer 1 true), .consoleLogin 7, .pauseDb 7 0,
        .doFullMaint [] [0] [] [], .waitCloseDb 7 1, .perLoopMaint fun _ => []]).map
      (fun w => (w.con.fatal, w.ctl.countPausedDatabases, w.ctl.cfPauseMode)) =
      some (true, 0, .none) := by
  decide

/-! ### No connection is opened while paused -/

/-- What a PAUSE leaves in the flags. -/
structure Control.Enforces (ctl : Control) : Prop where
  all : ctl.pauseInForce = true → ctl.cfPauseMode = .pause
  one : ∀ d, ctl.dbPauseInForce d = true → (ctl.database d).dbPaused = true
  known : ∀ d, ctl.exist d = true → d < ctl.nextDb
  given : ∀ d, ctl.dbPauseInForce d = true → d < ctl.nextDb

/-- A connection that was opened against a PAUSE was for a cancel request. -/
def Net.Excused (net : Net) : Prop := ∀ l ∈ net.launches, l.paused = true → l.cancelWaits = true

/-- The two places that do not look at `db_paused` have no reason to open a connection. -/
def Act.Heeds (ctl : Control) (net : Net) : Act → Prop
  | .finishClientLogin p _ =>
    net.welcomeMsgReady p = false → ctl.cfPauseMode = .none →
      ctl.dbPauseInForce (net.poolDb p) = false
  | .checkPoolSize p wanted _ =>
    wanted = true → ctl.cfPauseMode = .none → ctl.dbPauseInForce (net.poolDb p) = false
  | _ => True

/-- No PAUSE holds where a connection is opened for something else than a cancel
request. -/
theorem Act.Opens.pause_or_cancel {cancels : Nat → Nat} {a : Act} (hopens : a.Opens ctl net cancels)
    (hctl : ctl.Enforces) (ha : a.Heeds ctl net) :
    (ctl.pauseInForce = false ∧ ctl.dbPauseInForce (net.poolDb a.pool) = false) ∨
      0 < cancels a.pool := by
  have hall : ctl.cfPauseMode = .none → ctl.pauseInForce = false := fun hmode =>
    Bool.eq_false_iff.mpr fun h => nomatch hmode.symm.trans (hctl.all h)
  cases hopens with
  | free hmode hpaused =>
    refine .inl ⟨hall hmode, Bool.eq_false_iff.mpr fun h => ?_⟩
    exact nomatch hpaused.symm.trans (hctl.one _ h)
  | login hmode hwelcome => exact .inl ⟨hall hmode, ha hwelcome hmode⟩
  | size hmode => exact .inl ⟨hall hmode, ha rfl hmode⟩
  | cancel hwaits => exact .inr hwaits

theorem Net.Excused.act {a : Act} (hctl : ctl.Enforces) (h : net.Excused) (ha : a.Heeds ctl net) :
    (a.apply ctl net).Excused := by
  cases a.did ctl net with
  | kept hsame =>
    have hlaunches : _ = net.launches := congrArg (·.2.2.2) hsame
    exact fun l hl => h l (hlaunches ▸ hl)
  | moved _ _ heq =>
    rw [heq]
    exact h
  | made _ _ _ _ _ hlaunches => exact fun l hl => h l (hlaunches ▸ hl)
  | opened _ _ heq hwhy =>
    rw [heq]
    intro l hl hpaused
    rcases List.mem_cons.mp hl with rfl | hl
    · rcases hwhy.pause_or_cancel hctl ha with ⟨hall, hone⟩ | hwaits
      · simp [hall, hone] at hpaused
      · exact decide_eq_true hwaits
    · exact h l hl hpaused

theorem Net.Excused.shrink {net' : Net} (h : net.Excused) (hshrinks : net.Shrinks net') :
    net'.Excused :=
  fun l hl => h l (hshrinks.launches ▸ hl)

/-! #### The flags -/

/-- Databases are moved between the lists, or dropped. -/
structure Control.Moved (ctl ctl' : Control) : Prop where
  exist : ∀ d, ctl'.exist d = true → ctl.exist d = true
  rest : ctl' = { ctl with
    databaseList := ctl'.databaseList, autodatabaseIdleList := ctl'.autodatabaseIdleList }

theorem Control.Enforces.moved {ctl' : Control} (h : ctl.Enforces) (hmoved : ctl.Moved ctl') :
    ctl'.Enforces := by
  have hknown : ∀ d, ctl'.exist d = true → d < ctl'.nextDb := by
    intro d hd
    rw [hmoved.rest]
    exact h.known d (hmoved.exist d hd)
  rw [hmoved.rest] at hknown ⊢
  exact { h with known := hknown }

theorem Control.Found.moved {ctl' : Control} {d : Nat} (h : ctl.Found d ctl') :
    ctl.Moved ctl' :=
  ⟨fun x hx => h.exist x ▸ hx, h.rest⟩

theorem Control.Moved.refl (ctl : Control) : ctl.Moved ctl := ⟨fun _ h => h, rfl⟩

theorem Control.Moved.trans {ctl₁ ctl₂ ctl₃ : Control} (h : ctl₁.Moved ctl₂)
    (h' : ctl₂.Moved ctl₃) : ctl₁.Moved ctl₃ := by
  refine ⟨fun d hd => h.exist d (h'.exist d hd), ?_⟩
  rw [h'.rest, h.rest]

theorem Control.moved_dropDatabase (ctl : Control) (d : Nat) : ctl.Moved (ctl.dropDatabase d) := by
  refine ⟨fun x hx => ?_, rfl⟩
  simp only [Control.exist, Control.dropDatabase, Bool.or_eq_true, List.contains_iff_mem,
    List.mem_filter] at hx ⊢
  exact hx.imp And.left And.left

theorem Control.exist_idleDatabase {d x : Nat} :
    (ctl.idleDatabase d).exist x = true ↔ ctl.exist x = true ∨ x = d := by
  by_cases hx : x = d
  · simp [Control.exist, Control.idleDatabase, hx]
  · simp [Control.exist, Control.idleDatabase, hx]

theorem Control.moved_idleDatabases {ds : List Nat} (hds : ∀ d ∈ ds, ctl.exist d = true) :
    ctl.Moved (ds.foldl Control.idleDatabase ctl) := by
  induction ds generalizing ctl with
  | nil => exact .refl ctl
  | cons d ds ih =>
    have hfirst : ctl.Moved (ctl.idleDatabase d) := by
      refine ⟨fun x hx => ?_, rfl⟩
      rcases Control.exist_idleDatabase.mp hx with hx | rfl
      · exact hx
      · exact hds _ List.mem_cons_self
    refine hfirst.trans (ih fun x hx => ?_)
    exact Control.exist_idleDatabase.mpr (.inl (hds x (List.mem_cons_of_mem _ hx)))

theorem moved_killDatabases (w : World) (ds : List Nat) :
    w.ctl.Moved (ds.foldl World.killDatabase w).ctl := by
  induction ds generalizing w with
  | nil => exact .refl _
  | cons d ds ih => exact (w.ctl.moved_dropDatabase d).trans (ih (w.killDatabase d))

theorem World.shrinks_killDatabase (w : World) (d : Nat) :
    w.net.Shrinks (w.killDatabase d).net :=
  w.net.shrinks_killPoolsOf fun x => x = d

theorem shrinks_killDatabases (w : World) (ds : List Nat) :
    w.net.Shrinks (ds.foldl World.killDatabase w).net := by
  induction ds generalizing w with
  | nil => exact .refl _
  | cons d ds ih => exact (w.shrinks_killDatabase d).trans (ih (w.killDatabase d))

/-- What `do_full_maint` does to the databases and to the pools. -/
theorem moved_doFullMaint (hstep : w.doFullMaint acts inactive expired unused = some w') :
    w.ctl.Moved w'.ctl ∧ (w.net.acts w.ctl acts).Shrinks w'.net := by
  unfold World.doFullMaint at hstep
  dsimp only at hstep
  split_ifs at hstep with hinactive hexpired hunused
  cases hstep
  simp only [List.all_eq_true, Bool.and_eq_true] at hinactive
  have hidle : w.ctl.Moved (inactive.foldl Control.idleDatabase w.ctl) :=
    Control.moved_idleDatabases fun d hd => by
      rw [Control.exist, (hinactive d hd).1.2, Bool.true_or]
  exact ⟨hidle.trans (moved_killDatabases ⟨_, w.net.acts w.ctl acts, w.con⟩ expired),
    (shrinks_killDatabases ⟨_, w.net.acts w.ctl acts, w.con⟩ expired).trans
      (Net.shrinks_killPools unused _)⟩

/-- A flag is set that leaves paused databases paused. -/
theorem Control.Enforces.modifyDb (h : ctl.Enforces) {d : Nat}
    (hf : (ctl.database d).dbPaused = true → (f (ctl.database d)).dbPaused = true) :
    (ctl.modifyDb d f).Enforces := by
  refine { h with one := fun x hx => ?_ }
  by_cases hxd : x = d
  · subst hxd
    simpa [Control.modifyDb] using hf (h.one x hx)
  · simpa [Control.modifyDb, Function.update_of_ne hxd] using h.one x hx

theorem Control.Enforces.flagPoolDb (h : ctl.Enforces)
    (hf : ∀ db, db.dbPaused = true → (f db).dbPaused = true) (net : Net) (ps : List Nat) :
    (ps.foldl (World.flagPoolDb net f) ctl).Enforces := by
  induction ps generalizing ctl with
  | nil => exact h
  | cons p ps ih =>
    refine ih ?_
    unfold World.flagPoolDb
    split_ifs
    · exact h
    · exact h.modifyDb (hf _)

theorem Control.Enforces.addDatabase (h : ctl.Enforces) (db : Database) :
    (ctl.withDatabase db).Enforces := by
  refine ⟨h.all, fun d hd => ?_, fun d hd => ?_, fun d hd => Nat.lt_succ_of_lt (h.given d hd)⟩
  · have hne : d ≠ ctl.nextDb := Nat.ne_of_lt (h.given d hd)
    simpa [Function.update_of_ne hne] using h.one d hd
  · simp only [Control.exist, List.contains_cons, Bool.or_eq_true, beq_iff_eq] at hd
    rcases hd with (rfl | hd) | hd
    · exact Nat.lt_succ_self _
    · exact Nat.lt_succ_of_lt (h.known d (by rw [Control.exist, hd, Bool.true_or]))
    · exact Nat.lt_succ_of_lt (h.known d (by rw [Control.exist, hd, Bool.or_true]))

/-- A database is paused, or resumed. -/
theorem Control.Enforces.setPaused {d : Nat} (h : ctl.Enforces) (hd : ctl.exist d = true)
    (paused : Bool) :
    Control.Enforces { ctl.modifyDb d (fun db => { db with dbPaused := paused }) with
      dbPauseInForce := Function.update ctl.dbPauseInForce d paused } := by
  refine ⟨h.all, fun x hx => ?_, h.known, fun x hx => ?_⟩
  · by_cases hxd : x = d
    · subst hxd
      simpa [Control.modifyDb] using hx
    · simp only [Function.update_of_ne hxd] at hx
      simpa [Control.modifyDb, Function.update_of_ne hxd] using h.one x hx
  · by_cases hxd : x = d
    · subst hxd
      exact h.known x hd
    · simp only [Function.update_of_ne hxd] at hx
      exact h.given x hx

/-! #### Runs -/

/-- Nothing opens a connection that does not look at `db_paused` while only the database
is paused, and no admin's cancel request takes back a PAUSE. -/
def Obeyed (w : World) : Event → Prop
  | .act a => a.Heeds w.ctl w.net
  | .perLoopMaint effects =>
    LoopMeets w.ctl (fun _ => Act.Heeds w.ctl) effects { net := w.net } w.net.poolList
  | .doFullMaint acts _ _ _ => ActsMeet w.ctl (Act.Heeds w.ctl) w.net acts
  | .consoleCancel => w.ctl.cfShutdown = .none → w.ctl.pauseInForce = false
  | _ => True

structure Quiet (w : World) : Prop where
  ctl : w.ctl.Enforces
  net : w.net.Excused

theorem Quiet.happens {e : Event} (h : Quiet w) (hcond : Obeyed w e) (hstep : Happens w e w') :
    Quiet w' := by
  obtain ⟨hctl, hnet⟩ := h
  cases hstep with
  | refused => exact ⟨hctl, hnet⟩
  | act a => exact ⟨hctl, hnet.act hctl hcond⟩
  | perLoopMaint effects =>
    exact ⟨hctl, loop_invariant (fun h ha => h.act hctl ha) (fun h hs => h.shrink hs) hcond hnet⟩
  | doFullMaint heq =>
    obtain ⟨hmoved, hshrinks⟩ := moved_doFullMaint heq
    exact ⟨hctl.moved hmoved,
      (acts_invariant (fun h ha => h.act hctl ha) hcond hnet).shrink hshrinks⟩
  | addDatabase db => exact ⟨hctl.addDatabase db, hnet⟩
  | removeDatabase d =>
    exact ⟨hctl.moved (w.ctl.moved_dropDatabase d), hnet.shrink (w.shrinks_killDatabase d)⟩
  | console => exact ⟨hctl, hnet⟩
  | consoleCancel hshutdown =>
    have hforce := hcond hshutdown
    exact ⟨{ hctl with all := (fun h => nomatch hforce.symm.trans h) }, hnet⟩
  | resume => exact ⟨{ hctl with all := nofun }, hnet⟩
  | pauseMode => exact ⟨{ hctl with all := fun _ => rfl }, hnet⟩
  | shutdown => exact ⟨{ hctl with }, hnet⟩
  | pause => exact ⟨{ hctl with all := fun _ => rfl }, hnet⟩
  | found hfound => exact ⟨hctl.moved hfound.moved, hnet⟩
  | pauseDb hfound =>
    exact ⟨(hctl.moved hfound.moved).setPaused hfound.exists_self true, hnet⟩
  | resumeDb hfound =>
    exact ⟨(hctl.moved hfound.moved).setPaused hfound.exists_self false, hnet⟩
  | kill =>
    refine ⟨hctl.flagPoolDb (fun _ _ => rfl) _ _, ?_⟩
    exact hnet.shrink (w.net.shrinks_killPoolsOf fun d => !(w.ctl.database d).admin)
  | @killDb d ctl hfound =>
    have hpaused := (hctl.moved hfound.moved).modifyDb (d := d)
      (f := .pause) fun _ => rfl
    exact ⟨hpaused, hnet.shrink (w.net.shrinks_killPoolsOf fun x => x = d)⟩
  | waitClose =>
    have hflagged := hctl.flagPoolDb (f := .awaitClose)
      (fun _ h => h) w.net w.net.poolList
    exact ⟨hflagged, hnet⟩
  | @waitCloseDb a d ctl con hfound =>
    have hflagged := (hctl.moved hfound.moved).modifyDb (d := d)
      (f := .awaitClose) fun h => h
    exact ⟨hflagged, hnet⟩

/-- **A paused database opens no connections** but for cancel requests, in no run in
which the events heed the PAUSE. -/
theorem paused_opens_nothing {w : World} {es : List Event}
    (hmeets : Run.Meets World.step Obeyed {} es) (hrun : World.run {} es = some w) :
    ∀ l ∈ w.net.launches, l.paused = true → l.cancelWaits = true := by
  have hinit : Quiet {} :=
    ⟨⟨(fun h => nomatch h), (fun _ h => nomatch h), (fun _ h => nomatch h),
      (fun _ h => nomatch h)⟩, fun _ hl => (List.not_mem_nil hl).elim⟩
  exact (Run.invariant (fun h hc hs => h.happens hc (happens_of_step hs)) hmeets hrun hinit).net

/-- A cancel request opens the connection that a client does not get. -/
theorem paused_opens_nothing_cancel :
    ∃ w, World.run {} [.addDatabase {}, .act (.newPool 0 0), .consoleLogin 7, .pauseDb 7 0,
        .act (.findServer 0 true), .act (.cancelRequest 0 true)] = some w ∧
      w.net.launches = [⟨0, true, true⟩] ∧
      ∀ l ∈ w.net.launches, l.paused = true → l.cancelWaits = true := by
  refine Run.exists_of_any (P := fun w => w.net.launches = [⟨0, true, true⟩]) (by decide)
    fun w hrun hlaunches => ⟨hlaunches, paused_opens_nothing ?_ hrun⟩
  exact ⟨trivial, fun _ _ => ⟨trivial, fun _ _ => ⟨trivial, fun _ _ => ⟨trivial, fun _ _ =>
    ⟨trivial, fun _ _ => ⟨trivial, fun _ _ => trivial⟩⟩⟩⟩⟩⟩

/-- A client logs in to a paused database, `min_pool_size` is kept up in another one, and
a third connection is opened after a cancel request has come for the console. -/
theorem paused_database_opens :
    (World.run {} [.addDatabase {}, .addDatabase {}, .act (.newPool 0 0), .act (.newPool 1 1),
        .consoleLogin 7, .pauseDb 7 0, .pauseDb 7 1, .act (.finishClientLogin 0 true),
        .act (.checkPoolSize 1 true true), .addDatabase {}, .act (.newPool 2 2), .pause 7,
        .consoleCancel, .act (.findServer 2 true)]).map (fun w => w.net.launches) =
      some [⟨2, true, false⟩, ⟨1, true, false⟩, ⟨0, true, false⟩] := by
  decide

end PgBouncer.Pause
