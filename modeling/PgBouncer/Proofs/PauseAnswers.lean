/-
What the answers to PAUSE and WAIT_CLOSE are worth.

`per_loop_maint` counts what is still open in the paused pools, and what has still to be
closed in the pools somebody waits for.  When a count is zero it tells every admin that
waits, whatever that admin has asked for.  So an answer is right as long as all that wait
want the same thing, and as long as the counts see everything.  `Orderly` is that
condition, and it is a strong one: WAIT_CLOSE leaves a flag that is never taken back,
servers that are kept for their cancel requests are not counted, and a second command of
an admin that waits is not refused.

The loop goes over the pools one after the other, and the clients it wakes can do
something in between.  `Surveyed` says what is known after some of the pools: a count that
is zero is true of all that have been visited.
-/
import PgBouncer.Proofs.Pause

namespace PgBouncer.Pause

/-! ### What is asked and answered -/

/-- The completion that belongs to a command. -/
def Command.completion : Command → Completion
  | .pause | .pauseDb _ => .pause
  | .waitClose _ => .waitClose

/-- What a command waits for, of the servers that are open. -/
def Command.Done : Command → List (Nat × Server) → Prop
  | .pause, servers => servers = []
  | .pauseDb d, servers => ∀ s ∈ servers, s.1 ≠ d
  | .waitClose ds, servers => ∀ s ∈ servers, s.1 ∈ ds → s.2.closeNeeded = false

/-- **An answer means what it says**: it is that of the one command the admin has given,
and what this command waits for has happened. -/
def Answer.Right (answer : Answer) : Prop :=
  ∃ cmd, answer.asked = [cmd] ∧ answer.completion = cmd.completion ∧ cmd.Done answer.stillOpen

/-! ### The pools -/

/-- What is always true of the pools. -/
structure Net.Fit (ctl : Control) (net : Net) : Prop where
  exist : ∀ p ∈ net.poolList, ctl.exist (net.poolDb p) = true
  admin : ∀ p ∈ net.poolList, (ctl.database (net.poolDb p)).admin = true → net.servers p = []

variable {ctl : Control} {net : Net} {p d a : Nat} {w : World} {completion : Completion}

theorem Net.Fit.setServers (h : net.Fit ctl) (hhas : net.has ctl p = true) (ss : List Server) :
    (net.setServers p ss).Fit ctl := by
  refine ⟨h.exist, fun q hq hadmin => ?_⟩
  have hne : q ≠ p := by
    rintro rfl
    exact nomatch hadmin.symm.trans (Net.has_iff.mp hhas).2
  simpa [Net.setServers, Function.update_of_ne hne] using h.admin q hq hadmin

theorem Net.Fit.act (h : net.Fit ctl) (a : Act) :
    (a.apply ctl net).Fit ctl := by
  cases a.did ctl net with
  | kept hsame =>
    simp only [Prod.mk.injEq] at hsame
    obtain ⟨hpools, hdb, hservers, -⟩ := hsame
    refine ⟨?_, ?_⟩
    · rw [hpools, hdb]
      exact h.exist
    · rw [hpools, hdb, hservers]
      exact h.admin
  | moved hhas _ heq =>
    rw [heq]
    exact h.setServers hhas _
  | opened _ hhas heq =>
    rw [heq]
    exact ⟨h.exist, (h.setServers hhas _).admin⟩
  | @made p d hnew hexist hpools hdb hservers =>
    refine ⟨fun q hq => ?_, fun q hq => ?_⟩
    all_goals by_cases hqp : q = p
    · rw [hdb, hqp, Function.update_self]
      exact hexist
    · rw [hdb, Function.update_of_ne hqp]
      exact h.exist q ((List.mem_cons.mp (hpools ▸ hq)).resolve_left hqp)
    · rw [hservers, hqp, Function.update_self]
      exact fun _ => rfl
    · rw [hdb, hservers, Function.update_of_ne hqp, Function.update_of_ne hqp]
      exact h.admin q ((List.mem_cons.mp (hpools ▸ hq)).resolve_left hqp)

theorem Net.Fit.shrink {net' : Net} (h : net.Fit ctl) (hshrinks : net.Shrinks net') :
    net'.Fit ctl := by
  refine ⟨fun p hp => ?_, fun p hp hadmin => ?_⟩
  · rw [hshrinks.poolDb]
    exact h.exist p (hshrinks.pools p hp)
  · rw [hshrinks.poolDb] at hadmin
    have hnone := h.admin p (hshrinks.pools p hp) hadmin
    refine List.eq_nil_iff_forall_not_mem.mpr fun s hs => ?_
    exact List.not_mem_nil (hnone ▸ hshrinks.servers p s hs)

variable {ctl' : Control}

/-- The databases that exist stay, and so does which one is the console's. -/
theorem Net.Fit.control (h : net.Fit ctl)
    (hexist : ∀ p ∈ net.poolList, ctl'.exist (net.poolDb p) = true)
    (hadmin : ∀ d, ctl.exist d = true → (ctl'.database d).admin = (ctl.database d).admin) :
    net.Fit ctl' :=
  ⟨hexist, fun p hp hp' => h.admin p hp ((hadmin _ (h.exist p hp)) ▸ hp')⟩

/-! ### One pool at a time -/

/-- The server is kept for its cancel requests; no count sees it. -/
def Server.keptForCancel (s : Server) : Bool :=
  s.state = .activeCancel || s.state = .beingCanceled

/-- No server that has to be closed is kept for its cancel requests.  One that is tagged while
it logs in, and is used for a cancel request then, is. -/
def Net.Counts (net : Net) : Prop :=
  ∀ p, ∀ s ∈ net.servers p, s.closeNeeded = true → s.keptForCancel = false

/-- An act leaves no such server. -/
def Act.Counts : Act → Prop
  | .servers _ ss => ∀ s ∈ ss, s.closeNeeded = true → s.keptForCancel = false
  | _ => True

/-- The servers of one pool are others. -/
theorem Net.Counts.update {net' : Net} {ss : List Server} (h : net.Counts)
    (hservers : net'.servers = Function.update net.servers p ss)
    (hss : ∀ s ∈ ss, s.closeNeeded = true → s.keptForCancel = false) : net'.Counts := by
  intro q s hs
  rw [hservers] at hs
  by_cases hq : q = p
  · subst hq
    exact hss s (by simpa using hs)
  · exact h q s (by simpa [Function.update_of_ne hq] using hs)

theorem Net.Counts.act (h : net.Counts) {a : Act} (ha : a.Counts) : (a.apply ctl net).Counts := by
  cases a.did ctl net with
  | kept hsame =>
    intro q s hs
    rw [(Prod.mk.inj (Prod.mk.inj (Prod.mk.inj hsame).2).2).1] at hs
    exact h q s hs
  | moved _ _ heq => exact h.update (by rw [heq]; rfl) ha
  | opened _ _ heq =>
    refine h.update (by rw [heq]; rfl) fun s hs => ?_
    rcases List.mem_cons.mp hs with rfl | hs
    · simp
    · exact h _ s hs
  | made _ _ _ _ hservers => exact h.update hservers (by simp)

/-- An act that opens nothing, and only closes servers. -/
def Act.Closes (net : Net) : Act → Prop
  | .servers q ss => ∀ s ∈ ss, s ∈ net.servers q
  | a => a.launches = false

/-- What happens while the clients of a pool are woken is about this pool, or it closes
servers elsewhere, and the counts see what it leaves. -/
def Act.Local (p : Nat) (net : Net) (a : Act) : Prop := (a.pool = p ∨ a.Closes net) ∧ a.Counts

/-- Servers may only be gone in all pools but one, and a new pool has none. -/
structure Net.Local (p : Nat) (net net' : Net) : Prop where
  self : p ∈ net.poolList → p ∈ net'.poolList ∧ net'.poolDb p = net.poolDb p
  others : ∀ q ∈ net'.poolList, q ≠ p →
    (q ∈ net.poolList ∧ net'.poolDb q = net.poolDb q ∧ ∀ s ∈ net'.servers q, s ∈ net.servers q) ∨
      net'.servers q = []

theorem Net.Local.refl (p : Nat) (net : Net) : net.Local p net :=
  ⟨fun hp => ⟨hp, rfl⟩, fun _ hq _ => .inl ⟨hq, rfl, fun _ hs => hs⟩⟩

theorem Net.Local.trans {net₁ net₂ net₃ : Net} (h : net₁.Local p net₂) (h' : net₂.Local p net₃) :
    net₁.Local p net₃ := by
  refine ⟨fun hp => ?_, fun q hq hne => ?_⟩
  · have hself := h.self hp
    exact ⟨(h'.self hself.1).1, (h'.self hself.1).2.trans hself.2⟩
  · rcases h'.others q hq hne with ⟨hq₂, hdb₂, hservers₂⟩ | hnone
    · rcases h.others q hq₂ hne with ⟨hq₁, hdb₁, hservers₁⟩ | hnone
      · exact .inl ⟨hq₁, hdb₂.trans hdb₁, fun s hs => hservers₁ s (hservers₂ s hs)⟩
      · rw [hnone] at hservers₂
        exact .inr
          (List.eq_nil_iff_forall_not_mem.mpr fun s hs => List.not_mem_nil (hservers₂ s hs))
    · exact .inr hnone

theorem Act.local_apply {a : Act} (ha : a.Local p net) :
    net.Local p (a.apply ctl net) := by
  cases a.did ctl net with
  | kept hsame =>
    simp only [Prod.mk.injEq] at hsame
    obtain ⟨hpools, hdb, hservers, -⟩ := hsame
    refine ⟨fun hp => ⟨hpools.symm ▸ hp, congrFun hdb p⟩, fun q hq _ => .inl ?_⟩
    exact ⟨hpools ▸ hq, congrFun hdb q, fun s hs => congrFun hservers q ▸ hs⟩
  | @moved r ss _ _ heq =>
    rw [heq]
    refine ⟨fun hp => ⟨hp, rfl⟩, fun q hq hne => .inl ⟨hq, rfl, fun s hs => ?_⟩⟩
    by_cases hqr : q = r
    · subst hqr
      simp only [Net.setServers, Function.update_self] at hs
      exact ha.1.elim (fun h => absurd h hne) (fun h => h s hs)
    · simpa [Net.setServers, Function.update_of_ne hqr] using hs
  | opened hlaunches _ heq =>
    have hpool : a.pool = p := by
      refine ha.1.resolve_right fun hcloses => ?_
      cases a with
      | servers => cases hlaunches
      | _ => cases hlaunches.symm.trans hcloses
    rw [heq, hpool]
    refine ⟨fun hp => ⟨hp, rfl⟩, fun q hq hne => .inl ⟨hq, rfl, fun s hs => ?_⟩⟩
    simpa [Net.setServers, Function.update_of_ne hne] using hs
  | @made r d hnew _ hpools hdb hservers =>
    refine ⟨fun hp => ?_, fun q hq _ => ?_⟩
    · have hne : p ≠ r := fun h => hnew (h ▸ hp)
      rw [hpools, hdb, Function.update_of_ne hne]
      exact ⟨List.mem_cons_of_mem _ hp, rfl⟩
    · by_cases hqr : q = r
      · rw [hservers, hqr, Function.update_self]
        exact .inr rfl
      · rw [hdb, hservers, Function.update_of_ne hqr, Function.update_of_ne hqr]
        exact .inl ⟨(List.mem_cons.mp (hpools ▸ hq)).resolve_left hqr, rfl, fun _ hs => hs⟩

theorem Net.local_acts {as : List Act} (has : ActsMeet ctl (Act.Local p) net as) :
    net.Local p (net.acts ctl as) := by
  induction as generalizing net with
  | nil => exact .refl p net
  | cons a as ih => exact (Act.local_apply has.1).trans (ih has.2)

variable {effects : Nat → List Act} {l : Loop}

theorem Loop.local_turn
    (hmeets : ctl.activates l.net p → ActsMeet ctl (Act.Local p) l.net (effects p)) :
    l.net.Local p (l.turn ctl effects p).net := by
  rcases l.turn_net ctl effects p with ⟨hactivates, hnet⟩ | ⟨hshrinks, hpools⟩
  · rw [hnet]
    exact Net.local_acts (hmeets hactivates)
  · refine ⟨fun hp => ⟨hpools.symm ▸ hp, congrFun hshrinks.poolDb p⟩, fun q hq _ => .inl ?_⟩
    exact ⟨hshrinks.pools q hq, congrFun hshrinks.poolDb q, hshrinks.servers q⟩

/-! ### What the counts say -/

/-- The pools of a database are paused. -/
def Control.paused (ctl : Control) (d : Nat) : Prop :=
  ctl.cfPauseMode = .pause ∨ (ctl.database d).dbPaused = true

/-- What a turn finds out about its pool. -/
structure Loop.Visited (ctl : Control) (p : Nat) (l l' : Loop) : Prop where
  activeCount : l.activeCount ≤ l'.activeCount
  waitingCount : l.waitingCount ≤ l'.waitingCount
  shrunk : ctl.paused (l.net.poolDb p) → ∀ s ∈ l'.net.servers p, s ∈ l.net.servers p
  paused : l'.activeCount = 0 → ctl.paused (l.net.poolDb p) →
    ∀ s ∈ l'.net.servers p, s.keptForCancel = true
  partialWait : l'.partialWait = true →
    l.partialWait = true ∨ (ctl.database (l.net.poolDb p)).dbWaitClose = true

/-- `per_loop_pause` leaves four states, and counts two of them. -/
theorem Loop.pause_left (hzero : (l.pause p).activeCount = 0) :
    ∀ s ∈ (l.pause p).net.servers p, s.keptForCancel = true := by
  intro s hs
  have hnone : ((l.pause p).net.servers p).countP
      (fun s => s.state = .active || s.state = .tested) = 0 := by
    simp only [Loop.pause, Nat.add_eq_zero_iff] at hzero
    simpa only [Loop.pause, Net.setServers, Function.update_self] using hzero.2
  have hcounted := List.countP_eq_zero.mp hnone s hs
  simp only [Loop.pause, Net.setServers, Function.update_self] at hs
  have hleft := (List.mem_filter.mp hs).2
  cases hstate : s.state <;> simp_all [Server.keptForCancel]

theorem Loop.Worked.visited {l' : Loop} (h : l.Worked ctl effects p l') :
    Loop.Visited ctl p l l' := by
  cases h with
  | activated hmode hpaused =>
    have hnot : ¬ ctl.paused (l.net.poolDb p) := by
      rintro (h | h)
      · exact nomatch hmode.symm.trans h
      · exact nomatch hpaused.symm.trans h
    exact ⟨Nat.le_refl _, Nat.le_refl _, fun h => absurd h hnot, fun _ h => absurd h hnot, .inl⟩
  | paused =>
    exact ⟨Nat.le_add_right _ _, Nat.le_refl _, fun _ => (l.shrinks_pause p).servers p,
      fun hzero _ => Loop.pause_left hzero, .inl⟩

theorem Loop.visited_turn (effects : Nat → List Act)
    (hadmin : (ctl.database (l.net.poolDb p)).admin = false) :
    Loop.Visited ctl p l (l.turn ctl effects p) := by
  have hwork := (l.worked ctl effects p).visited
  simp only [Loop.turn, hadmin, Bool.false_eq_true, if_false]
  split_ifs with hclose
  · exact { hwork with
    waitingCount := Nat.le_trans hwork.waitingCount (Nat.le_add_right _ _)
    partialWait := fun _ => .inr hclose }
  · exact hwork

/-- `per_loop_wait_close` counts what has to be closed. -/
theorem Loop.turn_closing (hadmin : (ctl.database (l.net.poolDb p)).admin = false)
    (hclose : (ctl.database (l.net.poolDb p)).dbWaitClose = true)
    (hzero : (l.turn ctl effects p).waitingCount = 0) :
    ∀ s ∈ (l.turn ctl effects p).net.servers p, s.closeNeeded = true → s.keptForCancel = true := by
  simp only [Loop.turn, hadmin, Bool.false_eq_true, if_false, hclose, if_true, Loop.waitClose,
    Nat.add_eq_zero_iff] at hzero ⊢
  intro s hs hneeded
  have hcounted := List.countP_eq_zero.mp hzero.2 s hs
  cases hkept : s.keptForCancel with
  | true => rfl
  | false =>
    rw [Server.keptForCancel] at hkept
    simp [hneeded, hkept] at hcounted

/-- What is known after a part of the loop, with the pools that are still to be
visited. -/
structure Surveyed (ctl : Control) (todo : List Nat) (l : Loop) : Prop where
  fit : l.net.Fit ctl
  counts : l.net.Counts
  noCancel : ∀ p ∈ l.net.poolList, ctl.paused (l.net.poolDb p) →
    ∀ s ∈ l.net.servers p, s.keptForCancel = false
  paused : l.activeCount = 0 → ∀ p ∈ l.net.poolList, p ∉ todo →
    ctl.paused (l.net.poolDb p) → l.net.servers p = []
  closing : l.waitingCount = 0 → ∀ p ∈ l.net.poolList, p ∉ todo →
    (ctl.database (l.net.poolDb p)).dbWaitClose = true →
      ∀ s ∈ l.net.servers p, s.closeNeeded = false
  partialPause : l.partialPause = true →
    ∃ d, ctl.exist d = true ∧ (ctl.database d).dbPaused = true
  partialWait : l.partialWait = true →
    ∃ d, ctl.exist d = true ∧ (ctl.database d).dbWaitClose = true

/-- A pool without servers needs no visit. -/
theorem Surveyed.skip {todo : List Nat} (h : Surveyed ctl (p :: todo) l)
    (hnone : l.net.servers p = []) : Surveyed ctl todo l := by
  refine { h with
    paused := fun hzero q hq htodo hpaused => ?_
    closing := fun hzero q hq htodo hclose => ?_ }
  · by_cases hqp : q = p
    · rw [hqp, hnone]
    · exact h.paused hzero q hq (by simp [hqp, htodo]) hpaused
  · by_cases hqp : q = p
    · rw [hqp, hnone]
      exact fun s hs => (List.not_mem_nil hs).elim
    · exact h.closing hzero q hq (by simp [hqp, htodo]) hclose

theorem Surveyed.turn {todo : List Nat} (h : Surveyed ctl (p :: todo) l) (hp : p ∈ l.net.poolList)
    (hmeets : ctl.activates l.net p → ActsMeet ctl (Act.Local p) l.net (effects p)) :
    Surveyed ctl todo (l.turn ctl effects p) := by
  have hfit : (l.turn ctl effects p).net.Fit ctl :=
    turn_invariant (fun h _ => h.act _) (fun h hs => h.shrink hs) hmeets h.fit
  have hcounts : (l.turn ctl effects p).net.Counts :=
    turn_invariant (fun h ha => h.act ha.2)
      (fun h hs q s hq => h q s (hs.servers q s hq)) hmeets h.counts
  cases hadmin : (ctl.database (l.net.poolDb p)).admin with
  | true =>
    have hturn : l.turn ctl effects p = l := by simp [Loop.turn, hadmin]
    have hnone := h.fit.admin p hp hadmin
    rw [hturn]
    exact h.skip hnone
  | false =>
    have hvisited := Loop.visited_turn effects hadmin
    have hself := (Loop.local_turn hmeets).self hp
    have hothers := (Loop.local_turn hmeets).others
    refine ⟨hfit, hcounts, fun q hq hpaused s hs => ?_, fun hzero q hq htodo hpaused => ?_,
      fun hzero q hq htodo hclose s hs => ?_, fun hpartial => ?_, fun hpartial => ?_⟩
    · by_cases hqp : q = p
      · subst hqp
        rw [hself.2] at hpaused
        exact h.noCancel q hp hpaused s (hvisited.shrunk hpaused s hs)
      · rcases hothers q hq hqp with ⟨hq', hdb, hservers⟩ | hnone
        · exact h.noCancel q hq' (hdb ▸ hpaused) s (hservers s hs)
        · exact (List.not_mem_nil (hnone ▸ hs)).elim
    · refine List.eq_nil_iff_forall_not_mem.mpr fun s hs => ?_
      by_cases hqp : q = p
      · subst hqp
        rw [hself.2] at hpaused
        have hkept := hvisited.paused hzero hpaused s hs
        exact nomatch hkept.symm.trans
          (h.noCancel q hp hpaused s (hvisited.shrunk hpaused s hs))
      · rcases hothers q hq hqp with ⟨hq', hdb, hservers⟩ | hnone
        · have hzero' := Nat.eq_zero_of_le_zero (hzero ▸ hvisited.activeCount)
          have hnone := h.paused hzero' q hq' (by simp [hqp, htodo]) (hdb ▸ hpaused)
          exact List.not_mem_nil (hnone ▸ hservers s hs)
        · exact List.not_mem_nil (hnone ▸ hs)
    · by_cases hqp : q = p
      · subst hqp
        rw [hself.2] at hclose
        have hkept := Loop.turn_closing hadmin hclose hzero s hs
        exact Bool.eq_false_iff.mpr fun hneeded =>
          nomatch (hkept hneeded).symm.trans (hcounts q s hs hneeded)
      · rcases hothers q hq hqp with ⟨hq', hdb, hservers⟩ | hnone
        · have hzero' := Nat.eq_zero_of_le_zero (hzero ▸ hvisited.waitingCount)
          exact h.closing hzero' q hq' (by simp [hqp, htodo]) (hdb ▸ hclose) s (hservers s hs)
        · exact (List.not_mem_nil (hnone ▸ hs)).elim
    · rcases Loop.turn_partialPause hpartial with hbefore | hpaused
      · exact h.partialPause hbefore
      · exact ⟨_, h.fit.exist p hp, hpaused⟩
    · rcases hvisited.partialWait hpartial with hbefore | hclose
      · exact h.partialWait hbefore
      · exact ⟨_, h.fit.exist p hp, hclose⟩

theorem surveyed_foldl {ps : List Nat} (h : Surveyed ctl ps l) (hps : ∀ p ∈ ps, p ∈ l.net.poolList)
    (hmeets : LoopMeets ctl Act.Local effects l ps) :
    Surveyed ctl [] (ps.foldl (Loop.turn ctl effects) l) := by
  induction ps generalizing l with
  | nil => exact h
  | cons p ps ih =>
    exact ih (h.turn (hps p List.mem_cons_self) hmeets.1)
      (fun q hq => Loop.mem_turn (hps q (List.mem_cons_of_mem _ hq))) hmeets.2

/-- What the loop of `per_loop_maint` finds out. -/
theorem surveyed_loop (hfit : w.net.Fit w.ctl) (hcounts : w.net.Counts)
    (hmeets : LoopMeets w.ctl Act.Local effects { net := w.net } w.net.poolList)
    (hcancel : ∀ p ∈ w.net.poolList, w.ctl.paused (w.net.poolDb p) →
      ∀ s ∈ w.net.servers p, s.keptForCancel = false) :
    Surveyed w.ctl [] (w.loop effects) := by
  refine surveyed_foldl ⟨hfit, hcounts, hcancel, ?_, ?_, ?_, ?_⟩ (fun _ hp => hp) hmeets
  · exact fun _ p hp htodo => absurd hp htodo
  · exact fun _ p hp htodo => absurd hp htodo
  · exact nofun
  · exact nofun

/-! ### Who waits for what -/

/-- No pool of a database is waited for. -/
def Control.NoneCloses (ctl : Control) : Prop :=
  ∀ d, ctl.exist d = true → (ctl.database d).dbWaitClose = false

def Control.NonePaused (ctl : Control) : Prop :=
  ∀ d, ctl.exist d = true → (ctl.database d).dbPaused = false

/-- What the flags say while an admin waits: they are set for what was asked, and not for
the other kind of command. -/
def Command.Waiting (ctl : Control) : Command → Prop
  | .pause => ctl.cfPauseMode = .pause ∧ ctl.NoneCloses
  | .pauseDb d => (ctl.database d).dbPaused = true ∧ d < ctl.nextDb ∧ ctl.NoneCloses
  | .waitClose ds => ctl.cfPauseMode = .none ∧ ctl.NonePaused ∧ ∀ d ∈ ds, d < ctl.nextDb ∧
      ((ctl.database d).admin = true ∨ (ctl.database d).dbWaitClose = true)

theorem Control.NoneCloses.change (h : ctl.NoneCloses)
    (hexist : ∀ d, ctl'.exist d = true → ctl.exist d = true)
    (hsame : ∀ d, (ctl'.database d).dbWaitClose = (ctl.database d).dbWaitClose) :
    ctl'.NoneCloses :=
  fun d hd => (hsame d).trans (h d (hexist d hd))

theorem Control.NonePaused.change (h : ctl.NonePaused)
    (hexist : ∀ d, ctl'.exist d = true → ctl.exist d = true)
    (hsame : ∀ d, (ctl'.database d).dbPaused = (ctl.database d).dbPaused) :
    ctl'.NonePaused :=
  fun d hd => (hsame d).trans (h d (hexist d hd))

variable {cmd : Command}

/-- What it takes to keep a command waiting. -/
theorem Command.Waiting.change (h : cmd.Waiting ctl)
    (hexist : ∀ d, ctl'.exist d = true → ctl.exist d = true) (hnext : ctl'.nextDb = ctl.nextDb)
    (hadmin : ∀ d, (ctl'.database d).admin = (ctl.database d).admin)
    (hmode : cmd = .pause → ctl.cfPauseMode = .pause → ctl'.cfPauseMode = .pause)
    (hdb : ∀ d, cmd = .pauseDb d → (ctl.database d).dbPaused = true →
      (ctl'.database d).dbPaused = true) (hpause : cmd.completion = .pause →
      ∀ d, (ctl'.database d).dbWaitClose = (ctl.database d).dbWaitClose)
    (hclose : cmd.completion = .waitClose →
      (ctl.cfPauseMode = .none → ctl'.cfPauseMode = .none) ∧
      (∀ d, (ctl'.database d).dbPaused = (ctl.database d).dbPaused) ∧
      ∀ d, (ctl.database d).dbWaitClose = true → (ctl'.database d).dbWaitClose = true) :
    cmd.Waiting ctl' := by
  cases cmd with
  | pause => exact ⟨hmode rfl h.1, h.2.change hexist (hpause rfl)⟩
  | pauseDb d => exact ⟨hdb d rfl h.1, hnext ▸ h.2.1, h.2.2.change hexist (hpause rfl)⟩
  | waitClose ds =>
    obtain ⟨hmode', hpaused', hclose'⟩ := hclose rfl
    refine ⟨hmode' h.1, h.2.1.change hexist hpaused', fun d hd => ?_⟩
    obtain ⟨hlt, hflag⟩ := h.2.2 d hd
    exact ⟨hnext ▸ hlt, hflag.imp (fun h => (hadmin d).trans h) (hclose' d)⟩

theorem Command.Waiting.moved {ctl ctl' : Control} {cmd : Command} (h : cmd.Waiting ctl)
    (hmoved : ctl.Moved ctl') : cmd.Waiting ctl' := by
  have hdb : ctl'.database = ctl.database := by rw [hmoved.rest]
  have hnext : ctl'.nextDb = ctl.nextDb := by rw [hmoved.rest]
  have hmode : ctl'.cfPauseMode = ctl.cfPauseMode := by rw [hmoved.rest]
  refine h.change hmoved.exist hnext (fun d => by rw [hdb]) (fun _ => hmode.trans) (fun d _ => ?_)
    (fun _ d => by rw [hdb]) (fun _ => ⟨hmode.trans, fun d => by rw [hdb], fun d => ?_⟩)
  · rw [hdb]
    exact id
  · rw [hdb]
    exact id

theorem Control.exist_withDatabase {db : Database} :
    (ctl.withDatabase db).exist d = true ↔ d = ctl.nextDb ∨ ctl.exist d = true := by
  simp [Control.exist, or_assoc]

theorem Control.database_withDatabase (hd : d < ctl.nextDb) (db : Database) :
    (ctl.withDatabase db).database d = ctl.database d :=
  Function.update_of_ne (Nat.ne_of_lt hd) _ _

theorem Command.Waiting.addDatabase (h : cmd.Waiting ctl)
    (hknown : ∀ d, ctl.exist d = true → d < ctl.nextDb) (db : Database) :
    cmd.Waiting (ctl.withDatabase db) := by
  have hclear : ∀ g : Database → Bool,
      g { db with dbPaused := false, dbWaitClose := false } = false →
      (∀ d, ctl.exist d = true → g (ctl.database d) = false) →
      ∀ d, (ctl.withDatabase db).exist d = true → g ((ctl.withDatabase db).database d) = false := by
    intro g hnew hold d hd
    rcases Control.exist_withDatabase.mp hd with rfl | hd
    · simpa using hnew
    · rw [Control.database_withDatabase (hknown d hd)]
      exact hold d hd
  cases cmd with
  | pause => exact ⟨h.1, hclear Database.dbWaitClose rfl h.2⟩
  | pauseDb d =>
    refine ⟨?_, Nat.lt_succ_of_lt h.2.1, hclear Database.dbWaitClose rfl h.2.2⟩
    rw [Control.database_withDatabase h.2.1]
    exact h.1
  | waitClose ds =>
    refine ⟨h.1, hclear Database.dbPaused rfl h.2.1, fun d hd => ?_⟩
    obtain ⟨hlt, hflag⟩ := h.2.2 d hd
    rw [Control.database_withDatabase hlt]
    exact ⟨Nat.lt_succ_of_lt hlt, hflag⟩

/-! ### The admins -/

/-- An admin that waits has asked for one thing, and all answers were right. -/
structure Console.Keeps (waiting : Command → Prop) (con : Console) : Prop where
  idle : ∀ a, con.waitForResponse a = false → con.pending a = []
  waits : ∀ a, con.waitForResponse a = true → ∃ cmd, con.pending a = [cmd] ∧ waiting cmd
  answers : ∀ answer ∈ con.answers, answer.Right

section Keeps

variable {con : Console} {waiting waiting' : Command → Prop}

theorem Console.Keeps.mono (h : con.Keeps waiting)
    (hmono : ∀ a cmd, con.waitForResponse a = true → con.pending a = [cmd] → waiting cmd →
      waiting' cmd) : con.Keeps waiting' := by
  refine ⟨h.idle, fun a ha => ?_, h.answers⟩
  obtain ⟨cmd, hpending, hcmd⟩ := h.waits a ha
  exact ⟨cmd, hpending, hmono a cmd ha hpending hcmd⟩

theorem Console.Keeps.wait (h : con.Keeps waiting) (ha : con.waitForResponse a = false)
    (hcmd : waiting cmd) :
    ((con.ask a cmd).wait a).Keeps waiting := by
  refine ⟨fun b hb => ?_, fun b hb => ?_, h.answers⟩
  all_goals by_cases hba : b = a
  · subst hba
    simp [Console.wait] at hb
  · simp only [Console.wait, Console.ask, Function.update_of_ne hba] at hb ⊢
    exact h.idle b hb
  · subst hba
    exact ⟨cmd, by simp [Console.wait, Console.ask, h.idle b ha], hcmd⟩
  · simp only [Console.wait, Console.ask, Function.update_of_ne hba] at hb ⊢
    exact h.waits b hb

theorem Console.Keeps.ready {a : Nat} {cmd : Command} {net : Net} {completion : Completion}
    (h : con.Keeps waiting) (ha : con.waitForResponse a = false)
    (hcompletion : completion = cmd.completion) (hdone : cmd.Done net.openServers) :
    ((con.ask a cmd).ready net a completion).Keeps waiting := by
  refine ⟨fun b hb => ?_, fun b hb => ?_, fun answer hanswer => ?_⟩
  · by_cases hba : b = a
    · simp [Console.ready, hba]
    · simp only [Console.ready, Console.ask, Function.update_of_ne hba] at hb ⊢
      exact h.idle b hb
  · have hba : b ≠ a := by
      rintro rfl
      exact nomatch ha.symm.trans hb
    simp only [Console.ready, Console.ask, Function.update_of_ne hba] at hb ⊢
    exact h.waits b hb
  · rcases List.mem_cons.mp hanswer with rfl | hanswer
    · exact ⟨cmd, by simp [Console.ask, h.idle a ha], hcompletion, hdone⟩
    · exact h.answers answer hanswer

/-- An admin comes or goes. -/
theorem Console.Keeps.forget (h : con.Keeps waiting) (as : List Nat) (a : Nat) :
    Console.Keeps waiting { con with
      activeClientList := as
      waitForResponse := Function.update con.waitForResponse a false
      pending := Function.update con.pending a [] } := by
  refine ⟨fun b hb => ?_, fun b hb => ?_, h.answers⟩
  all_goals by_cases hba : b = a
  · simp [hba]
  · simp only [Function.update_of_ne hba] at hb ⊢
    exact h.idle b hb
  · simp [hba] at hb
  · simp only [Function.update_of_ne hba] at hb ⊢
    exact h.waits b hb

theorem Console.done_waits {b : Nat} (h : (con.done net completion b).waitForResponse a = true) :
    con.waitForResponse a = true := by
  unfold Console.done at h
  split_ifs at h
  · by_cases hab : a = b
    · simp [hab] at h
    · simpa [Console.ready, Function.update_of_ne hab] using h
  · exact h

/-- An admin is told, which is right for all that wait. -/
theorem Console.Keeps.done (h : con.Keeps waiting)
    (hright : ∀ a cmd, con.waitForResponse a = true → waiting cmd →
      completion = cmd.completion ∧ cmd.Done net.openServers) (b : Nat) :
    (con.done net completion b).Keeps waiting := by
  unfold Console.done
  split_ifs with hb
  · obtain ⟨cmd, hpending, hcmd⟩ := h.waits b hb
    refine ⟨fun a ha => ?_, fun a ha => ?_, fun answer hanswer => ?_⟩
    · by_cases hab : a = b
      · simp [Console.ready, hab]
      · simp only [Console.ready, Function.update_of_ne hab] at ha ⊢
        exact h.idle a ha
    · by_cases hab : a = b
      · simp [hab] at ha
      · simp only [Console.ready, Function.update_of_ne hab] at ha ⊢
        exact h.waits a ha
    · rcases List.mem_cons.mp hanswer with rfl | hanswer
      · exact ⟨cmd, hpending, hright b cmd hb hcmd⟩
      · exact h.answers answer hanswer
  · exact h

theorem Console.Keeps.foldl_done (h : con.Keeps waiting)
    (hright : ∀ a cmd, con.waitForResponse a = true → waiting cmd →
      completion = cmd.completion ∧ cmd.Done net.openServers) (as : List Nat) :
    (as.foldl (Console.done net completion) con).Keeps waiting := by
  induction as generalizing con with
  | nil => exact h
  | cons b as ih =>
    exact ih (h.done hright b) fun a cmd ha => hright a cmd (Console.done_waits ha)

/-- No admin that waits for this completion. -/
def Console.NobodyWaits (con : Console) (completion : Completion) : Prop :=
  ∀ a, con.waitForResponse a = true → ∀ cmd ∈ con.pending a, cmd.completion ≠ completion

theorem foldl_done_waits {as : List Nat}
    (h : (as.foldl (Console.done net completion) con).waitForResponse a = true) :
    con.waitForResponse a = true := by
  induction as generalizing con with
  | nil => exact h
  | cons b as ih => exact Console.done_waits (ih h)

end Keeps

/-! ### What the janitor tells -/

theorem Net.mem_openServers {s : Nat × Server} :
    s ∈ net.openServers ↔ ∃ p ∈ net.poolList, s.2 ∈ net.servers p ∧ net.poolDb p = s.1 := by
  obtain ⟨d, s⟩ := s
  simp only [Net.openServers, List.mem_flatMap, List.mem_map, Prod.mk.injEq]
  constructor
  · rintro ⟨p, hp, s', hs', hdb, rfl⟩
    exact ⟨p, hp, hs', hdb⟩
  · rintro ⟨p, hp, hs, hdb⟩
    exact ⟨p, hp, s, hs, hdb, rfl⟩

/-- When the paused pools are empty, every PAUSE is done. -/
theorem Surveyed.pause_done (h : Surveyed ctl [] l) (hzero : l.activeCount = 0)
    (hdone : ctl.cfPauseMode = .pause ∨ l.partialPause = true) (hcmd : cmd.Waiting ctl) :
    .pause = cmd.completion ∧ cmd.Done l.net.openServers := by
  cases cmd with
  | pause =>
    refine ⟨rfl, List.eq_nil_iff_forall_not_mem.mpr fun s hs => ?_⟩
    obtain ⟨p, hp, hs, -⟩ := Net.mem_openServers.mp hs
    have hnone := h.paused hzero p hp List.not_mem_nil (.inl hcmd.1)
    exact List.not_mem_nil (hnone ▸ hs)
  | pauseDb d =>
    refine ⟨rfl, ?_⟩
    rintro s hs rfl
    obtain ⟨p, hp, hs, hdb⟩ := Net.mem_openServers.mp hs
    have hnone := h.paused hzero p hp List.not_mem_nil (.inr (hdb ▸ hcmd.1))
    exact List.not_mem_nil (hnone ▸ hs)
  | waitClose ds =>
    -- nothing is paused while somebody waits for this
    exfalso
    rcases hdone with hmode | hpartial
    · exact nomatch hcmd.1.symm.trans hmode
    · obtain ⟨d, hexist, hpaused⟩ := h.partialPause hpartial
      exact nomatch (hcmd.2.1 d hexist).symm.trans hpaused

/-- When nothing has to be closed any more, every WAIT_CLOSE is done. -/
theorem Surveyed.waitClose_done (h : Surveyed ctl [] l) (hzero : l.waitingCount = 0)
    (hdone : l.partialWait = true) (hcmd : cmd.Waiting ctl) :
    .waitClose = cmd.completion ∧ cmd.Done l.net.openServers := by
  have hflag : ¬ ctl.NoneCloses := by
    intro hnone
    obtain ⟨d, hexist, hclose⟩ := h.partialWait hdone
    exact nomatch (hnone d hexist).symm.trans hclose
  cases cmd with
  | pause => exact absurd hcmd.2 hflag
  | pauseDb d => exact absurd hcmd.2.2 hflag
  | waitClose ds =>
    refine ⟨rfl, fun s hs hds => ?_⟩
    obtain ⟨p, hp, hs, hdb⟩ := Net.mem_openServers.mp hs
    rcases (hcmd.2.2 s.1 hds).2 with hadmin | hclose
    · have hnone := h.fit.admin p hp (hdb ▸ hadmin)
      exact (List.not_mem_nil (hnone ▸ hs)).elim
    · exact h.closing hzero p hp List.not_mem_nil (hdb ▸ hclose) s.2 hs

variable {con : Console}

theorem Loop.pauseDone_waits (h : (l.pauseDone ctl con).waitForResponse a = true) :
    con.waitForResponse a = true := by
  unfold Loop.pauseDone adminPauseDone at h
  split_ifs at h
  · exact foldl_done_waits h
  · exact h
  · exact h

theorem Loop.keeps_pauseDone {waiting : Command → Prop} (h : con.Keeps waiting)
    (hright : l.activeCount = 0 → (ctl.cfPauseMode = .pause ∨ l.partialPause = true) →
      ∀ a cmd, con.waitForResponse a = true → waiting cmd →
        .pause = cmd.completion ∧ cmd.Done l.net.openServers) :
    (l.pauseDone ctl con).Keeps waiting := by
  unfold Loop.pauseDone adminPauseDone
  split_ifs with hdone
  · simp only [Bool.and_eq_true, Bool.or_eq_true, decide_eq_true_eq] at hdone
    exact h.foldl_done (hright hdone.1 hdone.2) _
  · exact { h with }
  · exact h

theorem Loop.keeps_waitCloseDone {waiting : Command → Prop} (h : con.Keeps waiting)
    (hright : l.waitingCount = 0 → l.partialWait = true →
      ∀ a cmd, con.waitForResponse a = true → waiting cmd →
        .waitClose = cmd.completion ∧ cmd.Done l.net.openServers) :
    (l.waitCloseDone con).Keeps waiting := by
  unfold Loop.waitCloseDone adminWaitCloseDone
  split_ifs with hdone
  · simp only [Bool.and_eq_true, decide_eq_true_eq] at hdone
    exact h.foldl_done (hright hdone.1.2 hdone.1.1) _
  · exact h

/-! ### Runs -/

/-- The commands do not get in each other's way, and the counts see every server. -/
def Orderly (w : World) : Event → Prop
  | .pause a | .pauseDb a _ =>
    w.con.waitForResponse a = false ∧ w.con.NobodyWaits .waitClose ∧ w.ctl.NoneCloses
  | .waitClose a | .waitCloseDb a _ =>
    w.con.waitForResponse a = false ∧ w.con.NobodyWaits .pause ∧
      w.ctl.cfPauseMode = .none ∧ w.ctl.NonePaused
  | .kill | .killDb _ | .sigusr1 | .sigint | .shutdownWaitForServers =>
    w.con.NobodyWaits .waitClose
  | .resume | .sigusr2 | .consoleCancel =>
    ∀ a, w.con.waitForResponse a = true → .pause ∉ w.con.pending a
  | .resumeDb d => ∀ a, w.con.waitForResponse a = true → .pauseDb d ∉ w.con.pending a
  | .perLoopMaint effects =>
    (∃ a, w.con.waitForResponse a = true) →
      w.net.Counts ∧ LoopMeets w.ctl Act.Local effects { net := w.net } w.net.poolList ∧
      ∀ p ∈ w.net.poolList, w.ctl.paused (w.net.poolDb p) →
        ∀ s ∈ w.net.servers p, s.keptForCancel = false
  | _ => True

structure Sincere (w : World) : Prop where
  fit : w.net.Fit w.ctl
  known : ∀ d, w.ctl.exist d = true → d < w.ctl.nextDb
  keeps : w.con.Keeps (Command.Waiting w.ctl)

theorem Sincere.perLoopMaint (h : Sincere w) (hcond : Orderly w (.perLoopMaint effects)) :
    Sincere (w.perLoopMaint effects) := by
  have hsurveyed : ∀ a, w.con.waitForResponse a = true →
      Surveyed w.ctl [] (w.loop effects) := fun a ha =>
    surveyed_loop h.fit (hcond ⟨a, ha⟩).1 (hcond ⟨a, ha⟩).2.1 (hcond ⟨a, ha⟩).2.2
  have hpause : ((w.loop effects).pauseDone w.ctl w.con).Keeps (Command.Waiting w.ctl) :=
    Loop.keeps_pauseDone h.keeps fun hzero hdone a _ ha => (hsurveyed a ha).pause_done hzero hdone
  refine ⟨?_, h.known, Loop.keeps_waitCloseDone hpause fun hzero hdone a _ ha => ?_⟩
  · exact loop_invariant (fun h _ => h.act _) (fun h hs => h.shrink hs)
      (loopMeets_of_forall (fun _ _ _ => trivial) _ _) h.fit
  · exact (hsurveyed a (Loop.pauseDone_waits ha)).waitClose_done hzero hdone

/-- The flags change, and nothing that the pools rest on. -/
theorem Sincere.control (h : Sincere w) (hexist : ∀ d, ctl.exist d = w.ctl.exist d)
    (hnext : ctl.nextDb = w.ctl.nextDb)
    (hadmin : ∀ d, (ctl.database d).admin = (w.ctl.database d).admin)
    (hkeeps : con.Keeps (Command.Waiting ctl)) : Sincere { w with ctl := ctl, con := con } := by
  refine ⟨h.fit.control (fun p hp => ?_) (fun d _ => hadmin d), fun d hd => ?_, hkeeps⟩
  · exact (hexist _).trans (h.fit.exist p hp)
  · exact hnext ▸ h.known d (hexist d ▸ hd)

theorem Net.Fit.killDatabase (h : w.net.Fit w.ctl) (d : Nat) :
    (w.killDatabase d).net.Fit (w.killDatabase d).ctl := by
  refine (h.shrink (w.shrinks_killDatabase d)).control (fun p hp => ?_) (fun _ _ => rfl)
  obtain ⟨hmem, hne⟩ := Net.mem_killPoolsOf.mp hp
  have hexist := h.exist p hmem
  rw [(w.shrinks_killDatabase d).poolDb]
  simp only [Control.exist, Bool.or_eq_true, List.contains_iff_mem] at hexist
  simp only [World.killDatabase, Control.exist, Control.dropDatabase, Bool.or_eq_true,
    List.contains_iff_mem, List.mem_filter]
  exact hexist.imp (fun h => ⟨h, by simpa using hne⟩) (fun h => ⟨h, by simpa using hne⟩)

theorem Net.Fit.killDatabases {w : World} (h : w.net.Fit w.ctl) (ds : List Nat) :
    (ds.foldl World.killDatabase w).net.Fit (ds.foldl World.killDatabase w).ctl := by
  induction ds generalizing w with
  | nil => exact h
  | cons d ds ih => exact ih (h.killDatabase d)

theorem Net.Fit.idleDatabases (h : net.Fit ctl) (ds : List Nat) :
    net.Fit (ds.foldl Control.idleDatabase ctl) := by
  induction ds generalizing ctl with
  | nil => exact h
  | cons d ds ih =>
    refine ih (h.control (fun p hp => ?_) fun _ _ => rfl)
    exact Control.exist_idleDatabase.mpr (.inl (h.exist p hp))

theorem Sincere.doFullMaint {w' : World} {acts : List Act} {inactive expired unused : List Nat}
    (h : Sincere w) (heq : w.doFullMaint acts inactive expired unused = some w') : Sincere w' := by
  obtain ⟨hmoved, -⟩ := moved_doFullMaint heq
  refine ⟨?_, fun d hd => ?_, ?_⟩
  · have hacts : (w.net.acts w.ctl acts).Fit w.ctl :=
      acts_invariant (fun h _ => h.act _) (actsMeet_of_forall (fun _ _ => trivial) _) h.fit
    have hkilled := @Net.Fit.killDatabases ⟨inactive.foldl Control.idleDatabase w.ctl,
      w.net.acts w.ctl acts, w.con⟩ (hacts.idleDatabases inactive) expired
    unfold World.doFullMaint at heq
    dsimp only at heq
    split_ifs at heq
    cases heq
    exact hkilled.shrink (Net.shrinks_killPools _ _)
  · have hlt := h.known d (hmoved.exist d hd)
    rw [hmoved.rest]
    exact hlt
  · rw [doFullMaint_con heq]
    exact h.keeps.mono fun _ _ _ _ hcmd => hcmd.moved hmoved

/-! #### The flags -/

theorem Control.modifyDb_keeps {α : Type} {g : Database → α} {f : Database → Database}
    (hg : ∀ db, g (f db) = g db) (ctl : Control) (d x : Nat) :
    g ((ctl.modifyDb d f).database x) = g (ctl.database x) := by
  by_cases hx : x = d
  · subst hx
    simp [Control.modifyDb, hg]
  · simp [Control.modifyDb, Function.update_of_ne hx]

/-- The flag is set for all pools but those of the console. -/
theorem flagPoolDb_sets {g : Database → Bool} {f : Database → Database}
    (hset : ∀ db, g (f db) = true) (hadmin : ∀ db, (f db).admin = db.admin) (net : Net)
    {ps : List Nat} (hp : p ∈ ps) :
    (ctl.database (net.poolDb p)).admin = true ∨
      g ((ps.foldl (World.flagPoolDb net f) ctl).database (net.poolDb p)) = true := by
  induction ps generalizing ctl with
  | nil => exact (List.not_mem_nil hp).elim
  | cons q ps ih =>
    have hkept := flagPoolDb_keeps (g := Database.admin) hadmin net [q] ctl (net.poolDb p)
    rcases List.mem_cons.mp hp with rfl | hp
    · cases hq : (ctl.database (net.poolDb p)).admin with
      | true => exact .inl rfl
      | false =>
        refine .inr (flagPoolDb_stays (P := fun db => g db = true) (fun db _ => hset db) net ps ?_)
        simpa [World.flagPoolDb, hq, Control.modifyDb] using hset _
    · exact (ih hp).imp (fun h => hkept ▸ h) id

theorem Command.Waiting.mode {m : PauseMode} (s : Shutdown) (f : Bool) (h : cmd.Waiting ctl)
    (hpause : cmd = .pause → m = .pause) (hclose : cmd.completion = .waitClose → m = .none) :
    cmd.Waiting { ctl with cfPauseMode := m, cfShutdown := s, pauseInForce := f } := by
  cases cmd with
  | pause => exact ⟨hpause rfl, h.2⟩
  | pauseDb d => exact h
  | waitClose ds => exact ⟨hclose rfl, h.2⟩

/-- A database is paused, or resumed. -/
theorem Command.Waiting.setPaused {b : Bool} (f : Nat → Bool) (h : cmd.Waiting ctl)
    (hpause : b = false → cmd ≠ .pauseDb d) (hclose : b = true → cmd.completion ≠ .waitClose) :
    cmd.Waiting { ctl.modifyDb d (fun db => { db with dbPaused := b }) with
      dbPauseInForce := f } := by
  have hkeeps := Control.modifyDb_keeps (g := Database.dbWaitClose)
    (f := fun db => { db with dbPaused := b }) (fun _ => rfl) ctl d
  have hadmin := Control.modifyDb_keeps (g := Database.admin)
    (f := fun db => { db with dbPaused := b }) (fun _ => rfl) ctl d
  cases cmd with
  | pause => exact ⟨h.1, h.2.change (fun _ hd => hd) hkeeps⟩
  | pauseDb x =>
    refine ⟨?_, h.2.1, h.2.2.change (fun _ hd => hd) hkeeps⟩
    by_cases hx : x = d
    · subst hx
      cases b with
      | true => simp [Control.modifyDb]
      | false => exact absurd rfl (hpause rfl)
    · simpa [Control.modifyDb, Function.update_of_ne hx] using h.1
  | waitClose ds =>
    cases b with
    | true => exact absurd rfl (hclose rfl)
    | false =>
      refine ⟨h.1, fun x hx => ?_, fun x hx => ?_⟩
      · by_cases hxd : x = d
        · simp [Control.modifyDb, hxd]
        · simpa [Control.modifyDb, Function.update_of_ne hxd] using h.2.1 x hx
      · obtain ⟨hlt, hflag⟩ := h.2.2 x hx
        exact ⟨hlt, hflag.imp (fun h => (hadmin x).trans h) (fun h => (hkeeps x).trans h)⟩

/-- All databases are paused. -/
theorem Command.Waiting.kill (h : cmd.Waiting ctl) (hclose : cmd.completion ≠ .waitClose)
    (net : Net) (ps : List Nat) :
    cmd.Waiting (ps.foldl (World.flagPoolDb net .pause) ctl) := by
  have hkept := fun {α} (g : Database → α) hg =>
    flagPoolDb_keeps (g := g) (f := .pause) hg net ps ctl
  refine h.change (fun d hd => ?_) ?_ (hkept Database.admin fun _ => rfl) (fun _ hmode => ?_)
    (fun d _ hpaused => ?_) (fun _ => hkept Database.dbWaitClose fun _ => rfl)
    (fun hcmd => absurd hcmd hclose)
  · rw [flagPoolDb_lists] at hd
    exact hd
  · rw [flagPoolDb_lists]
  · rw [flagPoolDb_lists]
    exact hmode
  · exact flagPoolDb_stays (P := fun db => db.dbPaused = true) (fun _ _ => rfl) net ps hpaused

/-- Somebody waits for all databases. -/
theorem Command.Waiting.waitClose (h : cmd.Waiting ctl) (hpause : cmd.completion ≠ .pause)
    (net : Net) (ps : List Nat) :
    cmd.Waiting
      (ps.foldl (World.flagPoolDb net .awaitClose) ctl) := by
  have hkept := fun {α} (g : Database → α) hg =>
    flagPoolDb_keeps (g := g) (f := .awaitClose) hg net ps ctl
  have hmode : (ps.foldl (World.flagPoolDb net .awaitClose)
      ctl).cfPauseMode = ctl.cfPauseMode := by rw [flagPoolDb_lists]
  refine h.change (fun d hd => ?_) ?_ (hkept Database.admin fun _ => rfl) (fun _ => hmode.trans)
    (fun d _ => (hkept Database.dbPaused (fun _ => rfl) d).trans) (fun hcmd => absurd hcmd hpause)
    (fun _ => ⟨hmode.trans, hkept Database.dbPaused fun _ => rfl, fun d hclose => ?_⟩)
  · rw [flagPoolDb_lists] at hd
    exact hd
  · rw [flagPoolDb_lists]
  · exact flagPoolDb_stays (P := fun db => db.dbWaitClose = true) (fun _ _ => rfl) net ps hclose

/-- Somebody waits for a database. -/
theorem Command.Waiting.waitCloseDb {ctl : Control} {cmd : Command} (h : cmd.Waiting ctl)
    (hpause : cmd.completion ≠ .pause) (d : Nat) :
    cmd.Waiting (ctl.modifyDb d .awaitClose) := by
  have hkept := fun {α} (g : Database → α) hg =>
    Control.modifyDb_keeps (g := g) (f := .awaitClose) hg ctl d
  refine h.change (fun _ hx => hx) rfl (hkept Database.admin fun _ => rfl) (fun _ hmode => hmode)
    (fun x _ => (hkept Database.dbPaused (fun _ => rfl) x).trans)
    (fun hcmd => absurd hcmd hpause)
    (fun _ => ⟨id, hkept Database.dbPaused fun _ => rfl, fun x hclose => ?_⟩)
  by_cases hx : x = d
  · simp [Control.modifyDb, hx]
  · simpa [Control.modifyDb, Function.update_of_ne hx] using hclose

/-! #### Steps -/

theorem Net.not_of_countDbActive (h : net.countDbActive d = 0) {s : Nat × Server}
    (hs : s ∈ net.openServers) : s.1 ≠ d := by
  rintro rfl
  have hnone := List.eq_nil_of_length_eq_zero h
  exact List.not_mem_nil (hnone ▸ List.mem_filter.mpr ⟨hs, by simp⟩)

/-- Somebody who waits for one thing does not wait for the other. -/
theorem Console.NobodyWaits.ne (h : con.NobodyWaits completion) (ha : con.waitForResponse a = true)
    (hpending : con.pending a = [cmd]) : cmd.completion ≠ completion :=
  h a ha cmd (hpending ▸ List.mem_singleton_self cmd)

/-- The mode changes, which suits all that wait. -/
theorem Sincere.mode (h : Sincere w) (m : PauseMode) (s : Shutdown) (f : Bool)
    (hpause : m = .none → ∀ a, w.con.waitForResponse a = true → .pause ∉ w.con.pending a)
    (hclose : m = .pause → w.con.NobodyWaits .waitClose) :
    Sincere { w with ctl :=
      { w.ctl with cfPauseMode := m, cfShutdown := s, pauseInForce := f } } := by
  refine h.control (fun _ => rfl) rfl (fun _ => rfl) (h.keeps.mono fun a cmd ha hpending hcmd => ?_)
  refine hcmd.mode s f (fun hcmd => ?_) (fun hcmd => ?_)
  · cases m with
    | none => exact absurd (by simp [hpending, hcmd]) (hpause rfl a ha)
    | pause => rfl
  · cases m with
    | none => rfl
    | pause => exact absurd hcmd ((hclose rfl).ne ha hpending)

theorem Sincere.found (h : Sincere w) (hfound : w.ctl.Found d ctl) :
    Sincere { w with ctl := ctl } := by
  refine h.control hfound.exist ?_ (fun x => ?_)
    (h.keeps.mono fun _ _ _ _ hcmd => hcmd.moved hfound.moved)
  · rw [hfound.rest]
  · rw [hfound.rest]

theorem Sincere.pauseDb {f : Nat → Bool} (h : Sincere w) (hcond : Orderly w (.pauseDb a d))
    (hfound : w.ctl.Found d ctl) (hcon : con = (w.con.ask a (.pauseDb d)).wait a ∨
      w.net.countDbActive d = 0 ∧ con = (w.con.ask a (.pauseDb d)).ready w.net a .pause) :
    Sincere { w with
      ctl := { ctl.modifyDb d .pause with dbPauseInForce := f }
      con := con } := by
  obtain ⟨ha, hnobody, hnone⟩ := hcond
  have hf := h.found hfound
  have hkept := fun {α} (g : Database → α) hg =>
    Control.modifyDb_keeps (g := g) (f := .pause) hg ctl d
  have hbase := hf.keeps.mono fun b cmd hb hpending hcmd =>
    hcmd.setPaused (d := d) (b := true) f nofun fun _ => hnobody.ne hb hpending
  refine hf.control (fun _ => rfl) rfl (hkept Database.admin fun _ => rfl) ?_
  rcases hcon with rfl | ⟨hactive, rfl⟩
  · refine hbase.wait ha ⟨by simp [Control.modifyDb], hf.known d hfound.exists_self, ?_⟩
    have hnone' : ctl.NoneCloses := hnone.change hfound.moved.exist fun x => by rw [hfound.rest]
    exact hnone'.change (fun _ hx => hx) (hkept Database.dbWaitClose fun _ => rfl)
  · exact hbase.ready ha rfl fun s hs => Net.not_of_countDbActive hactive hs

theorem Sincere.kill (h : Sincere w) (hnobody : w.con.NobodyWaits .waitClose) :
    Sincere { w with
      ctl := w.net.poolList.foldl
        (World.flagPoolDb w.net .pause) w.ctl
      net := w.net.killPoolsOf fun d => !(w.ctl.database d).admin } := by
  have hadmin :=
    flagPoolDb_keeps (g := Database.admin) (f := .pause)
    (fun _ => rfl) w.net w.net.poolList w.ctl
  have hflag : Sincere { w with
      ctl := w.net.poolList.foldl
        (World.flagPoolDb w.net .pause) w.ctl } := by
    refine h.control (fun _ => ?_) ?_ hadmin
      (h.keeps.mono fun b cmd hb hpending hcmd => hcmd.kill (hnobody.ne hb hpending) _ _)
    · rw [flagPoolDb_lists]
      rfl
    · rw [flagPoolDb_lists]
  exact ⟨hflag.fit.shrink (w.net.shrinks_killPoolsOf fun d => !(w.ctl.database d).admin),
    hflag.known, hflag.keeps⟩

theorem Sincere.killDb {w : World} {d : Nat} {ctl : Control} (h : Sincere w)
    (hnobody : w.con.NobodyWaits .waitClose) (hfound : w.ctl.Found d ctl) :
    Sincere { w with
      ctl := ctl.modifyDb d .pause
      net := w.net.killPoolsOf (· = d) } := by
  have hf := h.found hfound
  have hkept := fun {α} (g : Database → α) hg =>
    Control.modifyDb_keeps (g := g) (f := .pause) hg ctl d
  have hflag : Sincere { w with ctl := ctl.modifyDb d .pause } := by
    refine hf.control (fun _ => rfl) rfl (hkept Database.admin fun _ => rfl)
      (hf.keeps.mono fun b cmd hb hpending hcmd => ?_)
    exact hcmd.setPaused (d := d) (b := true) ctl.dbPauseInForce nofun
      fun _ => hnobody.ne hb hpending
  exact ⟨hflag.fit.shrink (w.net.shrinks_killPoolsOf fun x => x = d), hflag.known, hflag.keeps⟩

theorem Sincere.waitClose (h : Sincere w) (hcond : Orderly w (.waitClose a))
    (hcon : con = (w.con.ask a (.waitClose (w.net.poolList.map w.net.poolDb))).wait a ∨
      (∀ p ∈ w.net.poolList, w.net.countDbActive (w.net.poolDb p) = 0) ∧ con =
        (w.con.ask a (.waitClose (w.net.poolList.map w.net.poolDb))).ready w.net a .waitClose) :
    Sincere { w with
      ctl := w.net.poolList.foldl
        (World.flagPoolDb w.net .awaitClose) w.ctl
      con := con } := by
  obtain ⟨ha, hnobody, hmode, hnone⟩ := hcond
  have hkept := fun {α} (g : Database → α) hg => flagPoolDb_keeps (g := g)
    (f := .awaitClose) hg w.net w.net.poolList w.ctl
  have hbase := h.keeps.mono fun b cmd hb hpending hcmd =>
    hcmd.waitClose (hnobody.ne hb hpending) w.net w.net.poolList
  have hexist : ∀ d, (w.net.poolList.foldl (World.flagPoolDb w.net .awaitClose) w.ctl).exist d =
    w.ctl.exist d := by
    intro d
    rw [flagPoolDb_lists]
    rfl
  have hnext : (w.net.poolList.foldl (World.flagPoolDb w.net .awaitClose) w.ctl).nextDb =
    w.ctl.nextDb := by rw [flagPoolDb_lists]
  refine h.control hexist hnext (hkept Database.admin fun _ => rfl) ?_
  rcases hcon with rfl | ⟨hactive, rfl⟩
  · refine hbase.wait ha ⟨?_, hnone.change (fun d hd => hexist d ▸ hd)
      (hkept Database.dbPaused fun _ => rfl), fun d hd => ?_⟩
    · rw [flagPoolDb_lists]
      exact hmode
    · obtain ⟨p, hp, rfl⟩ := List.mem_map.mp hd
      refine ⟨hnext ▸ h.known _ (h.fit.exist p hp), ?_⟩
      rw [hkept Database.admin fun _ => rfl]
      exact flagPoolDb_sets (g := Database.dbWaitClose) (by exact fun _ => rfl)
        (by exact fun _ => rfl) w.net hp
  · refine hbase.ready ha rfl fun s hs hds => ?_
    obtain ⟨p, hp, hdb⟩ := List.mem_map.mp hds
    exact absurd hdb.symm (Net.not_of_countDbActive (hactive p hp) hs)

theorem Sincere.waitCloseDb {w : World} {a d : Nat} {ctl : Control} {con : Console} (h : Sincere w)
    (hcond : Orderly w (.waitCloseDb a d)) (hfound : w.ctl.Found d ctl)
    (hcon : con = (w.con.ask a (.waitClose [d])).wait a ∨
      w.net.countDbActive d = 0 ∧
        con = (w.con.ask a (.waitClose [d])).ready w.net a .waitClose) :
    Sincere { w with
      ctl := ctl.modifyDb d .awaitClose
      con := con } := by
  obtain ⟨ha, hnobody, hmode, hnone⟩ := hcond
  have hf := h.found hfound
  have hkept := fun {α} (g : Database → α) hg =>
    Control.modifyDb_keeps (g := g) (f := .awaitClose) hg ctl d
  have hbase := hf.keeps.mono fun b cmd hb hpending hcmd =>
    hcmd.waitCloseDb (hnobody.ne hb hpending) d
  refine hf.control (fun _ => rfl) rfl (hkept Database.admin fun _ => rfl) ?_
  rcases hcon with rfl | ⟨hactive, rfl⟩
  · refine hbase.wait ha ⟨?_, ?_, fun x hx => ?_⟩
    · show ctl.cfPauseMode = .none
      rw [hfound.rest]
      exact hmode
    · have hnone' : ctl.NonePaused := hnone.change hfound.moved.exist fun x => by rw [hfound.rest]
      exact hnone'.change (fun _ hx => hx) (hkept Database.dbPaused fun _ => rfl)
    · rw [List.mem_singleton.mp hx]
      exact ⟨hf.known d hfound.exists_self, .inr (by simp [Control.modifyDb])⟩
  · refine hbase.ready ha rfl fun s hs hds => ?_
    exact absurd (List.mem_singleton.mp hds) (Net.not_of_countDbActive hactive hs)

theorem Sincere.happens {w' : World} {e : Event} (h : Sincere w) (hcond : Orderly w e)
    (hstep : Happens w e w') : Sincere w' := by
  cases hstep with
  | refused => exact h
  | act a => exact ⟨h.fit.act a, h.known, h.keeps⟩
  | perLoopMaint effects => exact h.perLoopMaint hcond
  | doFullMaint heq => exact h.doFullMaint heq
  | addDatabase db =>
    refine ⟨h.fit.control (fun p hp => ?_) (fun d hd => ?_), fun d hd => ?_,
      h.keeps.mono fun _ _ _ _ hcmd => hcmd.addDatabase h.known db⟩
    · exact Control.exist_withDatabase.mpr (.inr (h.fit.exist p hp))
    · rw [Control.database_withDatabase (h.known d hd)]
    · rcases Control.exist_withDatabase.mp hd with rfl | hd
      · exact Nat.lt_succ_self _
      · exact Nat.lt_succ_of_lt (h.known d hd)
  | removeDatabase d =>
    have hmoved := w.ctl.moved_dropDatabase d
    exact ⟨h.fit.killDatabase d, fun x hx => h.known x (hmoved.exist x hx),
      h.keeps.mono fun _ _ _ _ hcmd => hcmd.moved hmoved⟩
  | console as a => exact ⟨h.fit, h.known, h.keeps.forget as a⟩
  | consoleCancel => exact h.mode .none _ _ (fun _ => hcond) nofun
  | resume he =>
    rcases he with rfl | rfl <;> exact h.mode .none _ _ (fun _ => hcond) nofun
  | pauseMode inForce shutdown he =>
    rcases he with rfl | rfl | rfl <;>
      exact h.mode .pause _ _ nofun (fun _ => hcond)
  | shutdown _ s =>
    refine h.control (fun _ => rfl) rfl (fun _ => rfl) (h.keeps.mono fun _ cmd _ _ hcmd => ?_)
    cases cmd <;> exact hcmd
  | pause =>
    have hmode := h.mode .pause w.ctl.cfShutdown true nofun (fun _ => hcond.2.1)
    exact ⟨hmode.fit, hmode.known, hmode.keeps.wait hcond.1 ⟨rfl, hcond.2.2⟩⟩
  | found hfound => exact h.found hfound
  | pauseDb hfound _ hcon => exact h.pauseDb hcond hfound hcon
  | @resumeDb d ctl hfound =>
    have hf := h.found hfound
    have hadmin := Control.modifyDb_keeps (g := Database.admin)
      (f := .resume) (fun _ => rfl) ctl d
    refine hf.control (fun _ => rfl) rfl hadmin (hf.keeps.mono fun b cmd hb hpending hcmd => ?_)
    refine hcmd.setPaused _ (fun _ => ?_) nofun
    rintro rfl
    have hpending : w.con.pending b = [.pauseDb d] := hpending
    exact hcond b hb (by simp [hpending])
  | kill => exact h.kill hcond
  | killDb hfound => exact h.killDb hcond hfound
  | waitClose hcon => exact h.waitClose hcond hcon
  | waitCloseDb hfound hcon => exact h.waitCloseDb hcond hfound hcon

/-- **PAUSE and WAIT_CLOSE answers mean what they say**, in every run in which the
commands do not get in each other's way. -/
theorem answers_right {w : World} {es : List Event}
    (hmeets : Run.Meets World.step Orderly {} es) (hrun : World.run {} es = some w) :
    ∀ answer ∈ w.con.answers, answer.Right := by
  have hinit : Sincere {} := by
    refine ⟨⟨?_, ?_⟩, (fun _ h => nomatch h), fun _ _ => rfl, (fun _ h => nomatch h), ?_⟩
    · exact fun _ hp => (List.not_mem_nil hp).elim
    · exact fun _ hp => (List.not_mem_nil hp).elim
    · exact fun _ hanswer => (List.not_mem_nil hanswer).elim
  exact (Run.invariant (fun h hc hs => h.happens hc (happens_of_step hs)) hmeets hrun
    hinit).keeps.answers

/-- A database with a server is paused, and the admin is told when it has been closed. -/
theorem answers_right_pause :
    ∃ w, World.run {} [.addDatabase {}, .act (.newPool 0 0), .act (.findServer 0 true),
        .consoleLogin 7, .pauseDb 7 0, .perLoopMaint fun _ => []] = some w ∧
      w.con.answers = [⟨7, .pause, [.pauseDb 0], []⟩] ∧
      ∀ answer ∈ w.con.answers, answer.Right := by
  refine Run.exists_of_any (P := fun w => w.con.answers = [⟨7, .pause, [.pauseDb 0], []⟩])
    (by decide) fun w hrun hanswers => ⟨hanswers, answers_right ?_ hrun⟩
  refine ⟨trivial, ?_⟩
  rintro _ ⟨⟩
  refine ⟨trivial, ?_⟩
  rintro _ ⟨⟩
  refine ⟨trivial, ?_⟩
  rintro _ ⟨⟩
  refine ⟨trivial, ?_⟩
  rintro _ ⟨⟩
  refine ⟨⟨rfl, fun a ha => ?_, fun d hd => ?_⟩, ?_⟩
  · by_cases h : a = 7
    · subst h
      exact nomatch ha
    · simp [Function.update_of_ne h] at ha
  · by_cases h : d = 0
    · subst h
      rfl
    · simp [Function.update_of_ne h]
  · rintro _ ⟨⟩
    have hlogin : ∀ p, ∀ s ∈ Function.update (Function.update (fun _ : Nat => []) 0 []) 0
        [({ state := .login } : Server)] p, s = { state := .login } := by
      intro p s hs
      by_cases hp : p = 0
      · subst hp
        exact List.mem_singleton.mp hs
      · simp [Function.update_of_ne hp] at hs
    refine ⟨fun _ => ⟨fun p s hs => ?_, ⟨fun _ => trivial, trivial⟩, fun p _ _ s hs => ?_⟩,
      fun _ _ => trivial⟩
    · rw [hlogin p s hs]
      exact nofun
    · rw [hlogin p s hs]
      rfl

/-- An admin waits for the servers of a database to be closed, and another one pauses a
database without servers. -/
theorem waiter_told_pause :
    (World.run {} [.addDatabase {}, .addDatabase {}, .act (.newPool 0 0), .act (.newPool 1 1),
        .act (.findServer 0 true),
        .act (.servers 0 [{ state := .active, closeNeeded := true }]), .consoleLogin 7,
        .consoleLogin 8, .waitCloseDb 7 0, .pauseDb 8 1, .perLoopMaint fun _ => []]).map
      (fun w => w.con.answers) =
      some [⟨7, .pause, [.waitClose [0]], [(0, { state := .active, closeNeeded := true })]⟩,
        ⟨8, .pause, [.pauseDb 1], [(0, { state := .active, closeNeeded := true })]⟩] := by
  decide

end PgBouncer.Pause
