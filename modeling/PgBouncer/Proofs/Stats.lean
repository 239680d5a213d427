/-
`SHOW STATS` leaves out no pool, as long as no dropped database gets one.

The pools of a database stand together, because `put_in_order` looks at the name of the
database first, and two databases never compare equal without ending the process.  A login
that waits for its auth_query does not keep its database, though, and asks for a pool when the
database may be gone.  This pool is put where the old name belongs, and the next database that
is made takes it over together with the memory, under another name: its other pools are put
elsewhere, and it has two rows.

An average is taken of differences, so it does not matter that the sums may wrap around.
-/
import PgBouncer.Proofs.PoolList
import PgBouncer.Stats
import Mathlib.Algebra.GroupWithZero.Nat
import Mathlib.Data.List.Forall2
import Mathlib.Data.List.Induction

namespace PgBouncer.Stats

open PoolList (Name strcmp)

/-! ### Sums -/

variable {w w' : World} {d : Nat} {l : List Pool} {p q : Pool} {c : Counter}

/-- The pools of a database. -/
def poolsOf (d : Nat) (l : List Pool) : List Pool := l.filter (·.db = d)

/-- Counters of all pools together. -/
def sum (f : Pool → PgStats) (l : List Pool) : PgStats :=
  l.foldl (fun total p => statAdd total (f p)) resetStats

/-- What has been counted since `old_stamp`. -/
def growth (l : List Pool) (c : Counter) : Nat := (l.map (·.sinceOld c)).sum

/-- The average of what has been counted: for each second, or, if it is a time, for each event. -/
def average (elapsed : Nat) (growth : Counter → Nat) (c : Counter) : Nat :=
  if elapsed = 0 then 0
  else
    match c.events with
    | some e => growth c / growth e
    | none => 1000000 * growth c / elapsed

/-- The two copies of the counters are what they were when less had been counted. -/
def Counted (p : Pool) : Prop :=
  ∀ c, p.stats c = p.newerStats c + .ofNat (p.sinceNew c) ∧
    p.stats c = p.olderStats c + .ofNat (p.sinceOld c)

theorem counted_new (d u : Nat) : Counted { db := d, user := u } := fun _ => ⟨rfl, rfl⟩

theorem Counted.count (h : Counted p) (n : UInt64) : Counted (p.count c n) := by
  intro c'
  by_cases hc : c' = c
  · subst hc
    simp only [Pool.count, Function.update_self, UInt64.ofNat_add, UInt64.ofNat_toNat]
    rw [← UInt64.add_assoc, ← UInt64.add_assoc, ← (h c').1, ← (h c').2]
    exact ⟨rfl, rfl⟩
  · simp only [Pool.count, Function.update_of_ne hc]
    exact h c'

theorem sum_eq (h : ∀ p ∈ l, Counted p) :
    sum (·.stats) l c = sum (·.olderStats) l c + .ofNat (growth l c) := by
  induction l using List.reverseRecOn with
  | nil => rfl
  | append_singleton l p ih =>
    have hp := (h p (by simp) c).2
    have hl := ih fun q hq => h q (List.mem_append_left _ hq)
    simp only [sum, growth, List.foldl_append, List.foldl_cons, List.foldl_nil, statAdd,
      List.map_append, List.sum_append, List.map_cons, List.map_nil, List.sum_singleton,
      UInt64.ofNat_add] at hl ⊢
    rw [hl, hp]
    ac_rfl

theorem calcAverage_eq {cur old : PgStats} {grown : Counter → Nat}
    (h : ∀ c, cur c = old c + .ofNat (grown c)) (hsmall : ∀ c, 1000000 * grown c < 2 ^ 64)
    (dur : Nat) (c : Counter) :
    (calcAverage dur cur old c).toNat = average dur grown c := by
  have hdiff : ∀ c, cur c - old c = .ofNat (grown c) := fun c => by
    rw [h, UInt64.add_comm, UInt64.add_sub_cancel]
  have hnat : ∀ c, (UInt64.ofNat (grown c)).toNat = grown c := fun c =>
    UInt64.toNat_ofNat_of_lt (Nat.lt_of_le_of_lt (by omega) (hsmall c))
  unfold calcAverage average
  split_ifs with hdur
  · rfl
  · dsimp only
    cases c.events with
    | none =>
      have hmul : (usec * UInt64.ofNat (grown c)).toNat = 1000000 * grown c := by
        rw [UInt64.toNat_mul, hnat]
        exact Nat.mod_eq_of_lt (hsmall c)
      simp only [hdiff, hmul]
      exact UInt64.toNat_ofNat_of_lt (Nat.lt_of_le_of_lt (Nat.div_le_self _ _) (hsmall c))
    | some e =>
      simp only [hdiff]
      split_ifs with hpos
      · rw [UInt64.toNat_div, hnat, hnat]
      · have hzero : grown e = 0 := by
          have := mt UInt64.lt_iff_toNat_lt.mpr hpos
          rw [hnat] at this
          exact Nat.eq_zero_of_not_pos this
        rw [hzero, Nat.div_zero]
        rfl

/-! ### One pass over the list -/

namespace World

/-- Pools of one database, or of two in the order of their names. -/
def Before (w : World) (p q : Pool) : Prop :=
  p.db = q.db ∨ strcmp (w.dbName p.db) (w.dbName q.db) = .lt

theorem Before.trans {r : Pool} (h : w.Before p q) (h' : w.Before q r) : w.Before p r := by
  unfold Before at *
  rcases h with heq | hlt
  · rwa [heq]
  · rcases h' with heq | hlt'
    · exact .inr (heq ▸ hlt)
    · exact .inr (Std.TransCmp.lt_trans hlt hlt')

/-- What lies between two pools of a database is a pool of the database. -/
theorem Before.between {r : Pool} (h : w.Before p q) (h' : w.Before q r) (heq : p.db = r.db) :
    q.db = r.db := by
  rcases h' with hqr | hlt'
  · exact hqr
  · rcases h with hpq | hlt
    · exact hpq.symm.trans heq
    · have hself := Std.TransCmp.lt_trans hlt hlt'
      rw [heq] at hself
      exact nomatch hself.symm.trans Std.ReflCmp.compare_self

/-- The row of a database. -/
def row (w : World) (l : List Pool) (d : Nat) : Row :=
  w.writeStats d (sum (·.stats) (poolsOf d l)) (sum (·.olderStats) (poolsOf d l))

theorem row_append_of_ne (h : p.db ≠ d) : w.row (l ++ [p]) d = w.row l d := by
  have hsame : poolsOf d (l ++ [p]) = poolsOf d l := by simp [poolsOf, h]
  rw [row, hsame, row]

theorem sum_append_self (f : Pool → PgStats) :
    sum f (poolsOf p.db (l ++ [p])) = statAdd (sum f (poolsOf p.db l)) (f p) := by
  simp [sum, poolsOf]

/-- The variables of the loop behind a list of pools, with the databases that are done. -/
def passed (w : World) (l : List Pool) (done : List Nat) (cur : Nat) : Pass :=
  { rows := done.map (w.row l), curDb := some cur
    stDb := sum (·.stats) (poolsOf cur l), oldDb := sum (·.olderStats) (poolsOf cur l) }

theorem visited (h : (l ++ [p]).Pairwise w.Before) :
    ∃ done : List Nat, (done ++ [p.db]).Nodup ∧
      (∀ d, d ∈ done ++ [p.db] ↔ d ∈ (l ++ [p]).map (·.db)) ∧
      (l ++ [p]).foldl w.visit {} = w.passed (l ++ [p]) done p.db := by
  induction l using List.reverseRecOn generalizing p with
  | nil => exact ⟨[], by simp, by simp, by simp [visit, passed, poolsOf, sum]⟩
  | append_singleton l q ih =>
    obtain ⟨hl, -, hp⟩ := List.pairwise_append.mp h
    obtain ⟨done, hnodup, hmem, heq⟩ := ih hl
    rw [List.foldl_append, heq, List.foldl_cons, List.foldl_nil]
    by_cases hdb : q.db = p.db
    · refine ⟨done, hdb ▸ hnodup, fun d => ?_, ?_⟩
      · rw [← hdb, hmem, @List.map_append _ _ _ (l ++ [q])]
        simp [hdb]
      · have hrows : done.map (w.row (l ++ [q] ++ [p])) = done.map (w.row (l ++ [q])) := by
          refine List.map_congr_left fun d hd => row_append_of_ne fun hpd => ?_
          exact (List.nodup_append.mp hnodup).2.2 d hd q.db (by simp) (hpd.symm.trans hdb.symm)
        rw [passed, passed, hrows, hdb, sum_append_self, sum_append_self]
        simp [visit]
    · -- the database has changed, and has not been here before
      have hnew : p.db ∉ done ++ [q.db] := by
        intro hdone
        obtain ⟨r, hr, hrp⟩ := List.mem_map.mp ((hmem _).mp hdone)
        rcases List.mem_append.mp hr with hr | hr
        · have hrq := (List.pairwise_append.mp hl).2.2 r hr q (by simp)
          exact hdb (hrq.between (hp q (by simp) p (by simp)) hrp)
        · exact hdb (List.mem_singleton.mp hr ▸ hrp)
      have hnone : poolsOf p.db (l ++ [q]) = [] := by
        refine List.filter_eq_nil_iff.mpr fun r hr hrp => hnew ((hmem _).mpr ?_)
        exact List.mem_map.mpr ⟨r, hr, of_decide_eq_true hrp⟩
      refine ⟨done ++ [q.db], ?_, fun d => ?_, ?_⟩
      · exact List.nodup_append.mpr ⟨hnodup, by simp,
          fun d hd _ hp heq => hnew (List.mem_singleton.mp hp ▸ heq ▸ hd)⟩
      · rw [List.mem_append, hmem, @List.map_append _ _ _ (l ++ [q]), List.mem_append]
        rfl
      · have hrows : (done ++ [q.db]).map (w.row (l ++ [q] ++ [p])) =
            (done ++ [q.db]).map (w.row (l ++ [q])) :=
          List.map_congr_left fun d hd => row_append_of_ne fun hpd => hnew (hpd ▸ hd)
        rw [passed, passed, hrows, @sum_append_self (l ++ [q]), @sum_append_self (l ++ [q]), hnone]
        simp [visit, Ne.symm hdb, row, sum]

/-- Every database has its row. -/
theorem adminDatabaseStats_eq (h : w.poolList.Pairwise w.Before) :
    ∃ dbs : List Nat, dbs.Nodup ∧ (∀ d, d ∈ dbs ↔ ∃ p ∈ w.poolList, p.db = d) ∧
      w.adminDatabaseStats = dbs.map (w.row w.poolList) := by
  unfold adminDatabaseStats
  rcases List.eq_nil_or_concat' w.poolList with hnil | ⟨l, p, hl⟩
  · exact ⟨[], by simp, by simp [hnil], by simp [hnil]⟩
  · rw [hl] at h ⊢
    obtain ⟨done, hnodup, hmem, heq⟩ := visited h
    refine ⟨done ++ [p.db], hnodup, fun d => (hmem d).trans List.mem_map, ?_⟩
    rw [heq]
    simp [passed, row]

/-! ### The invariant -/

/-- What has to be true before an event: a database that is to have a pool is still there. -/
def Present (w : World) : Event → Prop
  | .newPool d _ => d ∈ w.databaseList
  | _ => True

instance (w : World) (e : Event) : Decidable (w.Present e) := by
  cases e <;> unfold Present <;> infer_instance

structure Sound (w : World) : Prop where
  present : ∀ p ∈ w.poolList, p.db ∈ w.databaseList
  grouped : w.poolList.Pairwise w.Before
  counted : ∀ p ∈ w.poolList, Counted p

/-- Pools are dropped. -/
theorem Sound.sublist (h : w.Sound) (hsub : l.Sublist w.poolList) {dbs : List Nat}
    (hdbs : ∀ p ∈ l, p.db ∈ dbs) : { w with poolList := l, databaseList := dbs }.Sound :=
  ⟨hdbs, h.grouped.sublist hsub, fun p hp => h.counted p (hsub.subset hp)⟩

/-- Pools count. -/
theorem Sound.map (h : w.Sound) {f : Pool → Pool} (hdb : ∀ p, (f p).db = p.db)
    (hf : ∀ p, Counted p → Counted (f p)) : { w with poolList := w.poolList.map f }.Sound := by
  refine ⟨fun p hp => ?_, ?_, fun p hp => ?_⟩
  · obtain ⟨q, hq, rfl⟩ := List.mem_map.mp hp
    exact hdb q ▸ h.present q hq
  · refine List.pairwise_map.mpr (h.grouped.imp fun hbefore => ?_)
    unfold Before at hbefore ⊢
    rwa [hdb, hdb]
  · obtain ⟨q, hq, rfl⟩ := List.mem_map.mp hp
    exact hf q (h.counted q hq)

theorem Sound.newPool (h : w.Sound) {u : Nat} (hd : d ∈ w.databaseList) :
    (w.newPool d u).Sound := by
  unfold World.newPool
  split
  · exact { h with }
  · rename_i l hput
    have hmem : ∀ p ∈ l, p = { db := d, user := u } ∨ p ∈ w.poolList := fun p hp =>
      List.mem_cons.mp ((PutInOrder.perm_of_put hput).mem_iff.mp hp)
    refine ⟨fun p hp => ?_, PutInOrder.pairwise_put (fun y _ hlt => ?_) (fun y _ hgt => ?_)
      (fun _ _ _ _ => Before.trans) h.grouped hput, fun p hp => ?_⟩
    · rcases hmem p hp with rfl | hp
      · exact hd
      · exact h.present p hp
    · unfold cmpPool at hlt
      split_ifs at hlt with hdb
      · exact .inr hlt
      all_goals exact .inl (not_not.mp hdb)
    · unfold cmpPool at hgt
      split_ifs at hgt with hdb
      · exact .inr (Std.OrientedCmp.gt_iff_lt.mp hgt)
      all_goals exact .inl (not_not.mp hdb).symm
    · rcases hmem p hp with rfl | hp
      · exact counted_new d u
      · exact h.counted p hp

theorem Sound.step {e : Event} (h : w.Sound) (hpresent : w.Present e)
    (hstep : w.step e = some w') : w'.Sound := by
  unfold World.step at hstep
  split_ifs at hstep
  cases e with
  | newDatabase d name =>
    dsimp only at hstep
    split_ifs at hstep with hd
    cases hstep
    have hne : ∀ p ∈ w.poolList, p.db ≠ d := fun p hp heq => hd (heq ▸ h.present p hp)
    refine ⟨fun p hp => List.mem_cons_of_mem _ (h.present p hp), ?_, h.counted⟩
    refine h.grouped.imp_of_mem fun hp hq hbefore => ?_
    simpa only [Before, Function.update_of_ne (hne _ hp), Function.update_of_ne (hne _ hq)]
      using hbefore
  | killDatabase d =>
    cases hstep
    refine h.sublist List.filter_sublist fun p hp => ?_
    obtain ⟨hp, hne⟩ := List.mem_filter.mp hp
    exact List.mem_filter.mpr ⟨h.present p hp, hne⟩
  | nameUser u name =>
    cases hstep
    exact { h with }
  | newPool d u =>
    cases hstep
    exact h.newPool hpresent
  | killPool d u =>
    cases hstep
    exact h.sublist List.filter_sublist fun p hp => h.present p (List.mem_of_mem_filter hp)
  | count d u c n =>
    cases hstep
    refine h.map (fun p => ?_) fun p hp => ?_
    · split_ifs <;> rfl
    · split_ifs
      · exact hp.count n
      · exact hp
  | time now =>
    dsimp only at hstep
    split_ifs at hstep
    cases hstep
    exact { h with }
  | refreshStats =>
    cases hstep
    have hmap := h.map (f := fun p => { p with
      olderStats := p.newerStats, newerStats := p.stats
      sinceOld := p.sinceNew, sinceNew := fun _ => 0 }) (fun _ => rfl) fun p hp c =>
        ⟨(UInt64.add_zero _).symm, (hp c).1⟩
    exact { hmap with }

/-! ### The result -/

/-- The row says of a database what it should. -/
structure Describes (w : World) (d : Nat) (row : Row) : Prop where
  name : row.dbname = w.dbName d
  totals : row.stat = sum (·.stats) (poolsOf d w.poolList)
  averages : (∀ c, 1000000 * growth (poolsOf d w.poolList) c < 2 ^ 64) →
    ∀ c, (row.avg c).toNat =
      average (w.now - w.oldStamp) (growth (poolsOf d w.poolList)) c

/-- **Statistics are complete.**  In every run in which no dropped database gets a pool, there
is exactly one row for each database with a pool.  It has the sums over its pools and, as long
as what is counted in a period is small enough, the averages. -/
theorem database_stats_complete {start : Nat} {es : List Event}
    (hpresent : Run.Meets step Present (statsSetup start) es)
    (hrun : Run.exec step (statsSetup start) es = some w) :
    ∃ dbs : List Nat, dbs.Nodup ∧ (∀ d, d ∈ dbs ↔ ∃ p ∈ w.poolList, p.db = d) ∧
      List.Forall₂ w.Describes dbs w.adminDatabaseStats := by
  have h : w.Sound := Run.invariant Sound.step hpresent hrun
    ⟨fun _ hp => (nomatch hp), .nil, fun _ hp => (nomatch hp)⟩
  obtain ⟨dbs, hnodup, hmem, hrows⟩ := adminDatabaseStats_eq h.grouped
  refine ⟨dbs, hnodup, hmem, ?_⟩
  rw [hrows, List.forall₂_map_right_iff, List.forall₂_same]
  refine fun d _ => ⟨rfl, rfl, fun hsmall c => calcAverage_eq (fun c => ?_) hsmall _ c⟩
  exact sum_eq fun p hp => h.counted p (List.mem_of_mem_filter hp)

/-- Two databases, and two users of the first one. -/
def twoDatabases : List Event :=
  [.newDatabase 0 [97], .newDatabase 1 [98], .nameUser 0 [117], .nameUser 1 [118],
    .newPool 1 0, .newPool 0 1, .newPool 0 0, .count 0 0 .queryCount 3, .time 2000000,
    .refreshStats, .count 0 1 .queryCount 4, .time 3000000]

theorem database_stats_complete_two :
    ∃ w, Run.exec step (statsSetup 0) twoDatabases = some w ∧
      w.adminDatabaseStats.map (fun row => (row.dbname, row.stat .queryCount,
        row.avg .queryCount)) = [([97], 7, 3), ([98], 0, 0)] ∧
      ∃ dbs : List Nat, dbs.Nodup ∧ (∀ d, d ∈ dbs ↔ ∃ p ∈ w.poolList, p.db = d) ∧
        List.Forall₂ w.Describes dbs w.adminDatabaseStats :=
  ⟨_, rfl, by decide, @database_stats_complete _ 0 twoDatabases (by decide) rfl⟩

/-- The database `b` is dropped while a login into it waits, which then gets its pool; and `d`
is made in its place. -/
theorem dropped_database_two_rows :
    (Run.exec step (statsSetup 0) [.newDatabase 0 [98], .newDatabase 1 [99], .nameUser 0 [117],
        .nameUser 1 [118], .newPool 1 0, .killDatabase 0, .newPool 0 0, .newDatabase 0 [100],
        .newPool 0 1]).map (fun w => w.adminDatabaseStats.map (·.dbname)) =
      some [[100], [99], [100]] := by
  decide

end World

end PgBouncer.Stats
