/-
The counts are right, and the limits hold.

`connection_count` of a database and of a user is the number of open servers of their
pools, in every state that can be reached.  `launch_new_connection` always comes to an
end, as each turn of its loops closes a server, and if it opens a connection then the
limits hold afterwards, or one of the exceptions applies.

An eviction only lowers counts: `Below` collects what it leaves alone.  `Settles` speaks
of a computation with loops, so that neither the bound on their turns nor the order of
the three loops has to be dealt with again and again.
-/
import PgBouncer.ServerLimits
import PgBouncer.Lib.Tally
import Mathlib.Algebra.Order.BigOperators.Group.List
import Mathlib.Algebra.Order.Ring.Nat

namespace PgBouncer.ServerLimits

open Tally

/-! ### Lists of a pool -/

variable {pool : Pool} {state : ServerState} {p m : Nat} {cfg : Config} {now : UInt64}

namespace Pool

theorem list_setList_self {l : List Server} :
    (pool.setList state l).list state = l :=
  Function.update_self _ _ _

theorem list_setList_of_ne {state' : ServerState} {l : List Server} (h : state' ≠ state) :
    (pool.setList state l).list state' = pool.list state' :=
  Function.update_of_ne h _ _

/-- A list of the pool is replaced. -/
theorem poolServerCount_setList (pool : Pool) (state : ServerState) (l : List Server) :
    (pool.setList state l).poolServerCount + pool.count state =
      pool.poolServerCount + l.length := by
  cases state <;>
    simp [poolServerCount, poolConnectedServerCount, count, setList] <;> omega

theorem poolServerCount_eraseIdx {i : Nat} (hi : i < pool.count state) :
    (pool.setList state ((pool.list state).eraseIdx i)).poolServerCount + 1 =
      pool.poolServerCount := by
  have hcount := pool.poolServerCount_setList state ((pool.list state).eraseIdx i)
  rw [List.length_eraseIdx_of_lt hi] at hcount
  simp only [count] at hcount hi
  omega

theorem poolServerCount_put (pool : Pool) (state : ServerState) (front : Bool) (s : Server) :
    (pool.put state front s).poolServerCount = pool.poolServerCount + 1 := by
  have hlonger : ∀ l : List Server, l.length = pool.count state + 1 →
      (pool.setList state l).poolServerCount = pool.poolServerCount + 1 := by
    intro l hl
    have hcount := pool.poolServerCount_setList state l
    omega
  refine hlonger _ ?_
  cases state <;> cases front <;> simp [count]

theorem list_put_of_ne {state' : ServerState} {front : Bool} {s : Server} (h : state' ≠ state) :
    (pool.put state front s).list state' = pool.list state' :=
  list_setList_of_ne h

end Pool

/-! ### The counts -/

variable {w : World}

namespace World

theorem pool_setPool_self : (w.setPool p pool).pool p = pool :=
  Function.update_self _ _ _

theorem pool_setPool_of_ne {q : Nat} (h : q ≠ p) :
    (w.setPool p pool).pool q = w.pool q :=
  Function.update_of_ne h _ _

/-- All pools. -/
abbrev keys (w : World) : List Nat := w.poolList ++ w.peerPoolList

theorem has_iff : w.has p = true ↔ p ∈ w.keys := by
  simp [has]

/-- The open servers of the pools of a database. -/
def openOfDb (w : World) (d : Nat) : Nat :=
  ((w.keys.filter fun p => (w.pool p).db = d).map fun p => (w.pool p).poolServerCount).sum

/-- The open servers of the pools of a global user. -/
def openOfUser (cfg : Config) (w : World) (u : Nat) : Nat :=
  ((w.keys.filter fun p => (w.pool p).globalUser cfg = some u).map fun p =>
    (w.pool p).poolServerCount).sum

end World

/-- What a pool counts for. -/
def countIf (which : Pool → Bool) (pool : Pool) : Int :=
  if which pool then pool.poolServerCount else 0

theorem tally_countIf (which : Pool → Bool) (pool : Nat → Pool) (keys : List Nat) :
    tally (countIf which) pool keys =
      (((keys.filter fun p => which (pool p)).map fun p =>
        (pool p).poolServerCount).sum : Nat) := by
  induction keys with
  | nil => rfl
  | cons p keys ih =>
    rw [tally_cons, ih]
    cases h : which (pool p) <;> simp [countIf, h]

/-- **The counts are right**, and what that rests on. -/
structure Sound (cfg : Config) (w : World) : Prop where
  nodup : w.keys.Nodup
  db : ∀ d, w.dbCount d = tally (countIf fun pool => pool.db = d) w.pool w.keys
  user : ∀ u, w.userCount u = tally (countIf fun pool => pool.globalUser cfg = some u) w.pool w.keys
  /-- `kill_peer_pool` closes everything there is. -/
  peers : ∀ p ∈ w.peerPoolList, ∀ state, state ≠ .login → state ≠ .activeCancel →
    (w.pool p).list state = []

/-- A pool keeps its database and its user. -/
structure Pool.Same (pool pool' : Pool) : Prop where
  db : pool'.db = pool.db
  userCredentials : pool'.userCredentials = pool.userCredentials

theorem tally_setPool {n : Int} (which : Pool → Bool) (hnodup : w.keys.Nodup) (hp : p ∈ w.keys)
    (hwhich : which pool = which (w.pool p))
    (hn : (pool.poolServerCount : Int) = (w.pool p).poolServerCount + n) :
    tally (countIf which) (Function.update w.pool p pool) w.keys =
      tally (countIf which) w.pool w.keys + if which (w.pool p) then n else 0 := by
  rw [tally_update _ _ hnodup hp]
  simp only [countIf, hwhich]
  split_ifs <;> omega

theorem Pool.Same.globalUser {pool' : Pool} (h : pool.Same pool') (cfg : Config) :
    pool'.globalUser cfg = pool.globalUser cfg := by
  rw [Pool.globalUser, h.userCredentials, Pool.globalUser]

/-- The servers of a pool and its counts change alike. -/
theorem Sound.change {n : Int} (h : Sound cfg w) (hp : p ∈ w.keys) (hsame : (w.pool p).Same pool)
    (hn : (pool.poolServerCount : Int) = (w.pool p).poolServerCount + n)
    (hpeer : p ∈ w.peerPoolList → ∀ state, state ≠ .login → state ≠ .activeCancel →
      pool.list state = []) :
    Sound cfg ((w.addCounts cfg p n).setPool p pool) := by
  refine ⟨h.nodup, fun d => ?_, fun u => ?_, fun q hq state hlogin hcancel => ?_⟩
  · have htally := tally_setPool (fun pool => pool.db = d) h.nodup hp (by simp [hsame.db]) hn
    refine Eq.trans ?_ htally.symm
    simp only [World.setPool, World.addCounts, ← h.db, decide_eq_true_eq]
    by_cases hd : d = (w.pool p).db
    · rw [hd, Function.update_self, if_pos rfl]
    · rw [Function.update_of_ne hd, if_neg fun h => hd h.symm, Int.add_zero]
  · have htally := tally_setPool (fun pool => pool.globalUser cfg = some u) h.nodup hp
      (by simp [hsame.globalUser]) hn
    refine Eq.trans ?_ htally.symm
    simp only [World.setPool, World.addCounts, ← h.user, decide_eq_true_eq]
    cases hg : (w.pool p).globalUser cfg with
    | none => simp
    | some v =>
      by_cases hu : u = v
      · simp [hu]
      · simp [Function.update_of_ne hu, Ne.symm hu]
  · by_cases hqp : q = p
    · subst hqp
      simpa [World.setPool] using hpeer hq state hlogin hcancel
    · simpa [World.setPool, World.addCounts, Function.update_of_ne hqp] using
        h.peers q hq state hlogin hcancel

theorem World.addCounts_zero (cfg : Config) (w : World) (p : Nat) : w.addCounts cfg p 0 = w := by
  have huser : (w.addCounts cfg p 0).userCount = w.userCount := by
    unfold World.addCounts
    cases (w.pool p).globalUser cfg <;> simp
  have hdb : (w.addCounts cfg p 0).dbCount = w.dbCount := by simp [World.addCounts]
  calc w.addCounts cfg p 0
      = { w with
          dbCount := (w.addCounts cfg p 0).dbCount
          userCount := (w.addCounts cfg p 0).userCount } := rfl
    _ = w := by rw [huser, hdb]

/-- A pool changes, and not the number of its servers. -/
theorem Sound.setPool (h : Sound cfg w) (hp : p ∈ w.keys) (hsame : (w.pool p).Same pool)
    (hn : pool.poolServerCount = (w.pool p).poolServerCount)
    (hpeer : p ∈ w.peerPoolList → ∀ state, state ≠ .login → state ≠ .activeCancel →
      pool.list state = []) : Sound cfg (w.setPool p pool) := by
  have hchange := h.change hp hsame (n := 0) (by rw [hn, Int.add_zero]) hpeer
  rwa [World.addCounts_zero] at hchange

/-! ### Closing a server -/

/-- What closing servers leaves alone: counts go down, and no pool loses or gets a
connection that is being made. -/
structure Below (w w' : World) : Prop where
  poolList : w'.poolList = w.poolList
  peerPoolList : w'.peerPoolList = w.peerPoolList
  dbCount : ∀ d, w'.dbCount d ≤ w.dbCount d
  userCount : ∀ u, w'.userCount u ≤ w.userCount u
  same : ∀ q, (w.pool q).Same (w'.pool q)
  login : ∀ q, (w'.pool q).list .login = (w.pool q).list .login
  poolServerCount : ∀ q, (w'.pool q).poolServerCount ≤ (w.pool q).poolServerCount

theorem Below.refl (w : World) : Below w w :=
  ⟨rfl, rfl, fun _ => Int.le_refl _, fun _ => Int.le_refl _, fun _ => ⟨rfl, rfl⟩, fun _ => rfl,
    fun _ => Nat.le_refl _⟩

theorem Below.trans {w₁ w₂ w₃ : World} (h : Below w₁ w₂) (h' : Below w₂ w₃) : Below w₁ w₃ :=
  ⟨h'.poolList.trans h.poolList, h'.peerPoolList.trans h.peerPoolList,
    fun d => Int.le_trans (h'.dbCount d) (h.dbCount d),
    fun u => Int.le_trans (h'.userCount u) (h.userCount u),
    fun q => ⟨(h'.same q).db.trans (h.same q).db,
      (h'.same q).userCredentials.trans (h.same q).userCredentials⟩,
    fun q => (h'.login q).trans (h.login q),
    fun q => Nat.le_trans (h'.poolServerCount q) (h.poolServerCount q)⟩

variable {w' : World}

theorem Below.keys (h : Below w w') : w'.keys = w.keys := by
  rw [World.keys, h.poolList, h.peerPoolList]

theorem Below.openCount (h : Below w w') : w'.openCount ≤ w.openCount := by
  unfold World.openCount
  rw [h.poolList, h.peerPoolList]
  exact List.sum_le_sum fun p _ => h.poolServerCount p

/-- A server less in one list. -/
structure Pool.Lost (pool pool' : Pool) (state : ServerState) (i : Nat) : Prop where
  same : pool.Same pool'
  list : pool'.list = Function.update pool.list state ((pool.list state).eraseIdx i)
  poolServerCount : pool'.poolServerCount + 1 = pool.poolServerCount

theorem Pool.lost_eraseIdx {pool₀ : Pool} {i : Nat} (hsame : pool.Same pool₀)
    (hlist : pool₀.list = pool.list) (hi : i < pool.count state) :
    pool.Lost (pool₀.setList state ((pool₀.list state).eraseIdx i)) state i := by
  have hcount : pool₀.count = pool.count := by
    unfold Pool.count
    rw [hlist]
  refine ⟨⟨hsame.db, hsame.userCredentials⟩, ?_, ?_⟩
  · simp only [Pool.setList, hlist]
  · rw [Pool.poolServerCount_eraseIdx (hcount ▸ hi)]
    simp only [Pool.poolServerCount, Pool.poolConnectedServerCount, hcount]

theorem disconnectServer_cases (cfg : Config) (w : World) (p : Nat) (state : ServerState) (i : Nat)
    (ready : Bool) :
    (∃ pool, (w.pool p).Lost pool state i ∧
      w.disconnectServer cfg p state i ready = (w.addCounts cfg p (-1)).setPool p pool) ∨
    (w.pool p).count state ≤ i ∧ w.disconnectServer cfg p state i ready = w := by
  unfold World.disconnectServer
  by_cases hi : i < (w.pool p).count state
  · rw [if_pos hi]
    refine .inl ⟨_, Pool.lost_eraseIdx ?_ ?_ hi, rfl⟩
    · split_ifs <;> exact ⟨rfl, rfl⟩
    · split_ifs <;> rfl
  · rw [if_neg hi]
    exact .inr ⟨Nat.le_of_not_lt hi, rfl⟩

theorem Sound.disconnectServer (h : Sound cfg w) (hp : p ∈ w.keys) (state : ServerState) (i : Nat)
    (ready : Bool) :
    Sound cfg (w.disconnectServer cfg p state i ready) := by
  rcases disconnectServer_cases cfg w p state i ready with ⟨pool, hlost, heq⟩ | ⟨-, heq⟩
  · rw [heq]
    have hcount := hlost.poolServerCount
    refine h.change hp hlost.same (by omega) fun hpeer state' hlogin hcancel => ?_
    have hnone := h.peers p hpeer state' hlogin hcancel
    rw [hlost.list]
    by_cases hstate : state' = state
    · subst hstate
      rw [Function.update_self, hnone]
      rfl
    · rw [Function.update_of_ne hstate, hnone]
  · rw [heq]
    exact h

/-- Closing a server that is not being connected. -/
theorem below_disconnectServer (cfg : Config) (w : World) (p : Nat) (hstate : state ≠ .login)
    (i : Nat) (ready : Bool) :
    Below w (w.disconnectServer cfg p state i ready) := by
  rcases disconnectServer_cases cfg w p state i ready with ⟨pool, hlost, heq⟩ | ⟨-, heq⟩
  · rw [heq]
    refine ⟨rfl, rfl, fun d => ?_, fun u => ?_, fun q => ?_, fun q => ?_, fun q => ?_⟩
    · show Function.update w.dbCount _ _ d ≤ w.dbCount d
      by_cases hd : d = (w.pool p).db
      · rw [hd, Function.update_self]
        omega
      · rw [Function.update_of_ne hd]
    · simp only [World.setPool, World.addCounts]
      cases (w.pool p).globalUser cfg with
      | none => exact Int.le_refl _
      | some v =>
        by_cases hu : u = v
        · subst hu
          simp only [Function.update_self]
          omega
        · simp only [Function.update_of_ne hu, Int.le_refl]
    all_goals
      rcases eq_or_ne q p with rfl | hqp
    · rw [World.pool_setPool_self]
      exact hlost.same
    · rw [World.pool_setPool_of_ne hqp]
      exact ⟨rfl, rfl⟩
    · rw [World.pool_setPool_self, hlost.list, Function.update_of_ne hstate.symm]
    · rw [World.pool_setPool_of_ne hqp]
      rfl
    · rw [World.pool_setPool_self]
      exact Nat.le_of_lt (Nat.lt_of_succ_le (Nat.le_of_eq hlost.poolServerCount))
    · rw [World.pool_setPool_of_ne hqp]
      exact Nat.le_refl _
  · rw [heq]
    exact .refl w

/-! ### Evicting a server -/

/-- A server that can be evicted. -/
structure World.Evictable (w : World) (c : World.Candidate) : Prop where
  mem : c.pool ∈ w.keys
  open_ : (w.pool c.pool).list c.state ≠ []
  state : c.state ≠ .login

variable {c : World.Candidate}

theorem evictable_of_lastSocket (hp : p ∈ w.keys) (hstate : state ≠ .login)
    (h : w.lastSocket p state = some c) :
    w.Evictable c := by
  obtain ⟨s, hs, rfl⟩ := Option.map_eq_some_iff.mp h
  refine ⟨hp, fun hnil => ?_, hstate⟩
  rw [hnil] at hs
  exact nomatch hs

theorem compareConnectionsByTime_eq_some {lhs rhs : Option World.Candidate}
    (h : World.compareConnectionsByTime lhs rhs = some c) : lhs = some c ∨ rhs = some c := by
  unfold World.compareConnectionsByTime at h
  split at h
  · exact .inr h
  · exact .inl h
  · split_ifs at h
    · exact .inl h
    · exact .inr h

theorem evictable_of_older {oldest : Option World.Candidate} (hp : p ∈ w.keys)
    (h : ∀ c, oldest = some c → w.Evictable c) :
    ∀ c, w.older oldest p = some c → w.Evictable c := by
  have hidle : ∀ c, World.compareConnectionsByTime oldest (w.lastSocket p .idle) = some c →
      w.Evictable c := fun c hc => (compareConnectionsByTime_eq_some hc).elim (h c)
    (evictable_of_lastSocket hp (by decide))
  intro c hc
  unfold World.older at hc
  dsimp only at hc
  split_ifs at hc
  · rcases compareConnectionsByTime_eq_some hc with hc | hc
    · rcases compareConnectionsByTime_eq_some hc with hc | hc
      · exact hidle c hc
      · exact evictable_of_lastSocket hp (by decide) hc
    · exact evictable_of_lastSocket hp (by decide) hc
  · exact hidle c hc

theorem evictable_of_oldestConnection {which : Nat → Bool} (h : w.oldestConnection which = some c) :
    w.Evictable c := by
  have hfold : ∀ (ps : List Nat) (oldest : Option World.Candidate), (∀ p ∈ ps, p ∈ w.keys) →
      (∀ c, oldest = some c → w.Evictable c) →
      ∀ c, ps.foldl w.older oldest = some c → w.Evictable c := by
    intro ps
    induction ps with
    | nil => exact fun _ _ h => h
    | cons p ps ih =>
      intro oldest hps h
      exact ih _ (fun q hq => hps q (List.mem_cons_of_mem _ hq))
        (evictable_of_older (hps p List.mem_cons_self) h)
  refine hfold _ none (fun p hp => ?_) (fun _ h => nomatch h) c h
  exact List.mem_append_left _ (List.mem_filter.mp hp).1

/-- What an eviction does. -/
structure Evicts (cfg : Config) (w w' : World) : Prop where
  below : Below w w'
  openCount : w'.openCount < w.openCount
  sound : Sound cfg w → Sound cfg w'

theorem openCount_lt (h : Below w w') (hp : p ∈ w.keys)
    (hlt : (w'.pool p).poolServerCount < (w.pool p).poolServerCount) :
    w'.openCount < w.openCount := by
  unfold World.openCount
  rw [h.poolList, h.peerPoolList]
  exact List.sum_lt_sum _ _ (fun q _ => h.poolServerCount q) ⟨p, hp, hlt⟩

theorem World.Evictable.evicts (h : w.Evictable c) : Evicts cfg w (w.evict cfg c) := by
  have hbelow :=
    below_disconnectServer cfg w c.pool h.state ((w.pool c.pool).count c.state - 1) false
  refine ⟨hbelow, openCount_lt hbelow h.mem ?_, fun hsound => ?_⟩
  · have hpos : 0 < (w.pool c.pool).count c.state := List.length_pos_iff.mpr h.open_
    rcases disconnectServer_cases cfg w c.pool c.state
      ((w.pool c.pool).count c.state - 1) false with
      ⟨pool, hlost, heq⟩ | ⟨hle, -⟩
    · have hcount := hlost.poolServerCount
      rw [World.evict, heq, World.pool_setPool_self]
      omega
    · omega
  · exact hsound.disconnectServer h.mem _ _ _

theorem evictConnection_evicts {d : Nat} (h : World.evictConnection cfg d w = some w') :
    Evicts cfg w w' := by
  obtain ⟨c, hc, rfl⟩ := Option.map_eq_some_iff.mp h
  exact (evictable_of_oldestConnection hc).evicts

theorem evictUserConnection_evicts {credentials : Option Nat}
    (h : World.evictUserConnection cfg credentials w = some w') : Evicts cfg w w' := by
  obtain ⟨c, hc, rfl⟩ := Option.map_eq_some_iff.mp h
  exact (evictable_of_oldestConnection hc).evicts

theorem evictPoolConnection_evicts (hp : p ∈ w.keys)
    (h : World.evictPoolConnection cfg p w = some w') : Evicts cfg w w' := by
  obtain ⟨c, hc, rfl⟩ := Option.map_eq_some_iff.mp h
  exact (evictable_of_lastSocket hp (by decide) hc).evicts

/-! ### Loops -/

/-- A computation with loops comes to an end within any bound above `m`, always in the same
state, of which `post` is true. -/
def Settles (m : Nat) (f : Nat → Option World) (post : World → Prop) : Prop :=
  ∃ w, (∀ fuel, m < fuel → f fuel = some w) ∧ post w

variable {post : World → Prop}

theorem Settles.pure (h : post w) :
    Settles m (fun _ => some w) post :=
  ⟨w, fun _ _ => rfl, h⟩

variable {f : Nat → Option World}

theorem Settles.bind {g : World → Nat → Option World} {mid : World → Prop} (hf : Settles m f mid)
    (hg : ∀ w, mid w → Settles m (g w) post) :
    Settles m (fun fuel => (f fuel).bind fun w => g w fuel) post := by
  obtain ⟨w, hw, hmid⟩ := hf
  obtain ⟨w', hw', hpost⟩ := hg w hmid
  refine ⟨w', fun fuel hfuel => ?_, hpost⟩
  show (f fuel).bind _ = some w'
  rw [hw fuel hfuel]
  exact hw' fuel hfuel

theorem Settles.map {g : World → World} {mid : World → Prop} (hf : Settles m f mid)
    (hg : ∀ w, mid w → post (g w)) :
    Settles m (fun fuel => (f fuel).map g) post := by
  obtain ⟨w, hw, hmid⟩ := hf
  exact ⟨g w, fun fuel hfuel => by simp [hw fuel hfuel], hg w hmid⟩

theorem Settles.mono {m' : Nat} {post' : World → Prop} (h : Settles m f post) (hm : m ≤ m')
    (hpost : ∀ w, post w → post' w) : Settles m' f post' := by
  obtain ⟨w, hw, hw'⟩ := h
  exact ⟨w, fun fuel hfuel => hw fuel (Nat.lt_of_le_of_lt hm hfuel), hpost w hw'⟩

/-- The state of a computation that has only evicted servers so far. -/
structure Evicted (cfg : Config) (w₀ w : World) : Prop where
  sound : Sound cfg w
  below : Below w₀ w

theorem Evicted.step {cfg : Config} {w₀ w w' : World} (h : Evicted cfg w₀ w)
    (hevicts : Evicts cfg w w') : Evicted cfg w₀ w' :=
  ⟨hevicts.sound h.sound, h.below.trans hevicts.below⟩

variable {w₀ : World}

/-- A loop that evicts comes to an end. -/
theorem settles_while {cond : World → Bool} {body : World → Option World}
    (hbody : ∀ {w w'}, w.keys = w₀.keys → body w = some w' → Evicts cfg w w')
    (h : Evicted cfg w₀ w) :
    Settles w.openCount (fun fuel => While.run cond body fuel w) (Evicted cfg w₀) := by
  have hturn : ∀ {w w'}, Evicted cfg w₀ w → body w = some w' →
      Evicted cfg w₀ w' ∧ w'.openCount < w.openCount := fun h hnext =>
    have hevicts := hbody h.below.keys hnext
    ⟨h.step hevicts, hevicts.openCount⟩
  obtain ⟨t, ht, hrun⟩ := While.ends cond World.openCount hturn h
  exact ⟨t, hrun, ht⟩

/-! ### Opening a connection -/

/-- What comes out: servers may have been evicted, and then a connection opened in a state
in which that is allowed. -/
structure Outcome (cfg : Config) (now : UInt64) (p : Nat) (allowed : World → Prop)
    (w₀ w : World) : Prop where
  sound : Sound cfg w
  opened : Below w₀ w ∨ ∃ w₁, Below w₀ w₁ ∧ allowed w₁ ∧ w = w₁.forceNew cfg now p

theorem poolServerCount_forceNew (cfg : Config) (now : UInt64) (p : Nat) (w : World) :
    ((w.forceNew cfg now p).pool p).poolServerCount = (w.pool p).poolServerCount + 1 := by
  rw [World.forceNew, World.pool_setPool_self]
  exact Pool.poolServerCount_put { w.pool p with lastConnectTime := now } .login true {}

theorem Sound.forceNew (h : Sound cfg w) (hp : p ∈ w.keys) (now : UInt64) :
    Sound cfg (w.forceNew cfg now p) := by
  refine h.change hp ⟨rfl, rfl⟩ ?_ fun hpeer state hlogin hcancel => ?_
  · have hcount := poolServerCount_forceNew cfg now p w
    rw [World.forceNew, World.pool_setPool_self] at hcount
    rw [hcount, Int.natCast_add]
    rfl
  · rw [Pool.list_setList_of_ne hlogin]
    exact h.peers p hpeer state hlogin hcancel

variable {allowed : World → Prop}

theorem Outcome.mono {allowed' : World → Prop} (h : Outcome cfg now p allowed w₀ w)
    (hmono : ∀ w, allowed w → allowed' w) :
    Outcome cfg now p allowed' w₀ w :=
  ⟨h.sound, h.opened.imp id fun ⟨w₁, hbelow, hallowed, heq⟩ => ⟨w₁, hbelow, hmono w₁ hallowed, heq⟩⟩

theorem Evicted.outcome (h : Evicted cfg w₀ w) : Outcome cfg now p allowed w₀ w :=
  ⟨h.sound, .inl h.below⟩

theorem Evicted.forceNew (h : Evicted cfg w₀ w) (hp : p ∈ w₀.keys) (hallowed : allowed w) :
    Outcome cfg now p allowed w₀ (w.forceNew cfg now p) :=
  ⟨h.sound.forceNew (h.below.keys ▸ hp) now, .inr ⟨w, h.below, hallowed, rfl⟩⟩

/-- There is room below the limit of the user. -/
def RoomForUser (cfg : Config) (pool : Pool) (w : World) : Prop :=
  ∀ u, pool.globalUser cfg = some u → 0 < userMaxConnections cfg u →
    w.userCount u < userMaxConnections cfg u

def RoomForDb (cfg : Config) (pool : Pool) (w : World) : Prop :=
  0 < databaseMaxConnections cfg pool.db → w.dbCount pool.db < databaseMaxConnections cfg pool.db

theorem RoomForDb.below (h : RoomForDb cfg pool w) (hbelow : Below w w') : RoomForDb cfg pool w' :=
  fun hmax => Int.lt_of_le_of_lt (hbelow.dbCount _) (h hmax)

/-- There is room for a connection in a state that comes after `w`. -/
structure Room (cfg : Config) (pool : Pool) (w w₁ : World) : Prop where
  below : Below w w₁
  db : RoomForDb cfg pool w₁
  user : RoomForUser cfg pool w₁

theorem settles_checkUser (now : UInt64) (evict : Bool) (h : Evicted cfg w₀ w) (hp : p ∈ w₀.keys)
    (hdb : RoomForDb cfg (w₀.pool p) w) :
    Settles w.openCount (fun fuel => w.checkUser cfg now evict fuel p)
      (Outcome cfg now p (Room cfg (w₀.pool p) w) w₀) := by
  have hsame := (h.below.same p).globalUser cfg
  unfold World.checkUser
  rw [hsame]
  cases hu : (w₀.pool p).globalUser cfg with
  | none => exact .pure (h.forceNew hp ⟨.refl w, hdb, fun u h => nomatch hu.symm.trans h⟩)
  | some u =>
    dsimp only
    by_cases hmax : 0 < userMaxConnections cfg u
    · simp only [if_pos hmax]
      refine Settles.map (settles_while (fun _ => evictUserConnection_evicts) ⟨h.sound, .refl w⟩)
        fun w' hw' => ?_
      have hevicted : Evicted cfg w₀ w' := ⟨hw'.sound, h.below.trans hw'.below⟩
      by_cases hfull : userMaxConnections cfg u ≤ w'.userCount u
      · rw [if_pos hfull]
        exact hevicted.outcome
      · rw [if_neg hfull]
        refine hevicted.forceNew hp ⟨hw'.below, hdb.below hw'.below, fun v hv _ => ?_⟩
        obtain rfl : u = v := Option.some.inj (hu.symm.trans hv)
        exact Int.lt_of_not_ge hfull
    · simp only [if_neg hmax]
      refine .pure (h.forceNew hp ⟨.refl w, hdb, fun v hv hpos => ?_⟩)
      obtain rfl : u = v := Option.some.inj (hu.symm.trans hv)
      exact absurd hpos hmax

theorem settles_allowNew (now : UInt64) (evict : Bool) (h : Evicted cfg w₀ w) (hp : p ∈ w₀.keys) :
    Settles w.openCount (fun fuel => w.allowNew cfg now evict fuel p)
      (Outcome cfg now p (Room cfg (w₀.pool p) w) w₀) := by
  unfold World.allowNew
  dsimp only
  rw [(h.below.same p).db]
  by_cases hmax : 0 < databaseMaxConnections cfg (w₀.pool p).db
  · simp only [if_pos hmax]
    refine Settles.bind (settles_while (fun _ => evictConnection_evicts) ⟨h.sound, .refl w⟩)
      fun w' hw' => ?_
    have hevicted : Evicted cfg w₀ w' := ⟨hw'.sound, h.below.trans hw'.below⟩
    by_cases hfull : databaseMaxConnections cfg (w₀.pool p).db ≤ w'.dbCount (w₀.pool p).db
    · simp only [if_pos hfull]
      exact .pure hevicted.outcome
    · simp only [if_neg hfull]
      have hroom : RoomForDb cfg (w₀.pool p) w' := fun _ => Int.lt_of_not_ge hfull
      refine (settles_checkUser now evict hevicted hp hroom).mono hw'.below.openCount fun _ h => ?_
      exact h.mono fun _ hroom => ⟨hw'.below.trans hroom.below, hroom.db, hroom.user⟩
  · simp only [if_neg hmax]
    exact settles_checkUser now evict h hp fun hpos => absurd hpos hmax

/-- A connection has been opened. -/
def Opened (w w' : World) (p : Nat) : Prop :=
  (w.pool p).list .login = [] ∧ (w'.pool p).list .login ≠ []

/-- **The limits**: the count of a pool of a peer, and of one with a cancel request, is
bounded by its size alone; for all others the limits of the database and of the user
hold, and that of the pool if it has one and has got a welcome message. -/
inductive Permitted (cfg : Config) (p : Nat) (w w' : World) : Prop
  | peer (peer : (cfg.database (w.pool p).db).peerId ≠ 0)
      (pool : (w'.pool p).poolServerCount ≤ (w.pool p).poolPoolSize cfg)
  | cancel (waits : (w.pool p).waitingCancelReq ≠ 0)
      (pool : (w'.pool p).poolServerCount ≤ 2 * (w.pool p).poolPoolSize cfg)
  | limits
      (db : 0 < databaseMaxConnections cfg (w.pool p).db →
        w'.dbCount (w.pool p).db ≤ databaseMaxConnections cfg (w.pool p).db)
      (user : ∀ u, (w.pool p).globalUser cfg = some u → 0 < userMaxConnections cfg u →
        w'.userCount u ≤ userMaxConnections cfg u)
      (pool : (w.pool p).poolPoolSize cfg = 0 ∨ (w.pool p).welcomeMsgReady = false ∨
        (w'.pool p).poolServerCount ≤
          (w.pool p).poolPoolSize cfg + (w.pool p).poolResPoolSize cfg)

/-- What is true of a state after `launch_new_connection`. -/
structure Launched (cfg : Config) (p : Nat) (w w' : World) : Prop where
  sound : Sound cfg w'
  permitted : Opened w w' p → Permitted cfg p w w'

theorem Sound.launched (h : Sound cfg w) :
    Launched cfg p w w :=
  ⟨h, fun hopened => absurd hopened.1 hopened.2⟩

theorem dbCount_forceNew (cfg : Config) (now : UInt64) (p : Nat) (w : World) :
    (w.forceNew cfg now p).dbCount (w.pool p).db = w.dbCount (w.pool p).db + 1 :=
  Function.update_self _ _ _

theorem userCount_forceNew {u : Nat} (now : UInt64) (hu : (w.pool p).globalUser cfg = some u) :
    (w.forceNew cfg now p).userCount u = w.userCount u + 1 := by
  simp [World.forceNew, World.setPool, World.addCounts, hu]

/-- The pool has room for another server, or no limit. -/
def RoomInPool (cfg : Config) (pool pool' : Pool) : Prop :=
  pool.poolPoolSize cfg = 0 ∨ pool.welcomeMsgReady = false ∨
    pool'.poolServerCount < pool.poolPoolSize cfg + pool.poolResPoolSize cfg

/-- From the room there was to the limits that hold. -/
theorem Outcome.launched (h : Outcome cfg now p (Room cfg (w₀.pool p) w) w₀ w')
    (hpool : RoomInPool cfg (w₀.pool p) (w.pool p)) : Launched cfg p w₀ w' := by
  refine ⟨h.sound, fun hopened => ?_⟩
  rcases h.opened with hbelow | ⟨w₁, hbelow, hroom, rfl⟩
  · exact absurd ((hbelow.login p).trans hopened.1) hopened.2
  · have hsame := hbelow.same p
    refine .limits (fun hmax => ?_) (fun u hu hmax => ?_) (hpool.imp id (Or.imp id fun hlt => ?_))
    · have hcount := dbCount_forceNew cfg now p w₁
      rw [hsame.db] at hcount
      have hlt := hroom.db hmax
      omega
    · have hcount := userCount_forceNew now ((hsame.globalUser cfg).trans hu)
      have hlt := hroom.user u hu hmax
      omega
    · rw [poolServerCount_forceNew]
      exact Nat.lt_of_le_of_lt (hroom.below.poolServerCount p) hlt

/-- The label `allow_new`, reached with room in the pool. -/
theorem settles_launched (now : UInt64) (evict : Bool) (h : Evicted cfg w₀ w) (hp : p ∈ w₀.keys)
    (hpool : RoomInPool cfg (w₀.pool p) (w.pool p)) :
    Settles w₀.openCount (fun fuel => w.allowNew cfg now evict fuel p) (Launched cfg p w₀) :=
  (settles_allowNew now evict h hp).mono h.below.openCount fun _ h => h.launched hpool

/-- A connection is opened at once, for a peer or for a cancel request. -/
theorem launched_forceNew (now : UInt64) (h : Sound cfg w) (hp : p ∈ w.keys)
    (hpermitted : Permitted cfg p w (w.forceNew cfg now p)) :
    Launched cfg p w (w.forceNew cfg now p) :=
  ⟨h.forceNew hp now, fun _ => hpermitted⟩

theorem settles_poolFull (now : UInt64) (evict : Bool) (h : Sound cfg w) (hp : p ∈ w.keys) :
    Settles w.openCount (fun fuel => w.poolFull cfg now evict fuel p) (Launched cfg p w) := by
  unfold World.poolFull
  dsimp only
  by_cases hreserve : World.reserveAllowed cfg now (w.pool p) = true
  · simp only [if_pos hreserve]
    refine settles_launched now evict ⟨h, .refl w⟩ hp (.inr (.inr ?_))
    simp only [World.reserveAllowed, Bool.and_eq_true] at hreserve
    have hlt := hreserve.2
    split at hlt
    · exact nomatch hlt
    · simp only [Bool.and_eq_true, decide_eq_true_eq] at hlt
      exact hlt.2
  · simp only [if_neg hreserve]
    by_cases hreplication : World.wantsReplication (w.pool p) = true
    · simp only [if_pos hreplication]
      have hbody : ∀ {w₁ w₂ : World}, w₁.keys = w.keys →
          World.evictPoolConnection cfg p w₁ = some w₂ → Evicts cfg w₁ w₂ := fun hkeys =>
        evictPoolConnection_evicts (hkeys ▸ hp)
      refine Settles.bind (settles_while hbody ⟨h, .refl w⟩) fun w' hw' => ?_
      by_cases hlt : (w'.pool p).poolServerCount < (w.pool p).poolPoolSize cfg
      · simp only [if_pos hlt]
        exact settles_launched now evict hw' hp (.inr (.inr (Nat.lt_add_right _ hlt)))
      · simp only [if_neg hlt]
        exact .pure ⟨hw'.sound, fun hopened =>
          absurd ((hw'.below.login p).trans hopened.1) hopened.2⟩
    · simp only [if_neg hreplication]
      exact .pure h.launched

/-- **`launch_new_connection` comes to an end, and keeps the limits.** -/
theorem settles_launchNewConnection (now : UInt64) (evict : Bool) (h : Sound cfg w)
    (hp : p ∈ w.keys) :
    Settles w.openCount (fun fuel => w.launchNewConnection cfg now evict fuel p)
      (Launched cfg p w) := by
  have hcount := poolServerCount_forceNew cfg now p w
  unfold World.launchNewConnection
  dsimp only
  split_ifs with hlogin hretry hpeer hsize hcancel hfull
  · exact .pure h.launched
  · exact .pure h.launched
  · exact .pure (launched_forceNew now h hp (.peer hpeer (by omega)))
  · exact .pure h.launched
  · simp only [Bool.and_eq_true, decide_eq_true_eq] at hcancel
    exact .pure (launched_forceNew now h hp (.cancel hcancel.1 (by omega)))
  · exact settles_poolFull now evict h hp
  · refine settles_launched now evict ⟨h, .refl w⟩ hp ?_
    simp only [Bool.and_eq_true, decide_eq_true_eq, not_and, Bool.not_eq_true] at hfull
    rcases Nat.eq_zero_or_pos ((w.pool p).poolPoolSize cfg) with hzero | hpos
    · exact .inl hzero
    · rcases Nat.lt_or_ge (w.pool p).poolServerCount ((w.pool p).poolPoolSize cfg) with hlt | hge
      · exact .inr (.inr (Nat.lt_add_right _ hlt))
      · exact .inr (.inl (hfull ⟨hpos, hge⟩))

/-! ### Pools come and go -/

/-- Some lists of a pool have been closed. -/
structure ClosedLists (cfg : Config) (p : Nat) (which : ServerState → Prop) (w w' : World) :
    Prop where
  sound : Sound cfg w'
  poolList : w'.poolList = w.poolList
  peerPoolList : w'.peerPoolList = w.peerPoolList
  same : (w.pool p).Same (w'.pool p)
  closed : ∀ state, which state → (w'.pool p).list state = []
  others : ∀ state, ¬ which state → (w'.pool p).list state = (w.pool p).list state

theorem list_disconnectServer (cfg : Config) (hpos : 0 < (w.pool p).count state) (ready : Bool) :
    ((w.disconnectServer cfg p state 0 ready).pool p).list =
      Function.update (w.pool p).list state ((w.pool p).list state).tail := by
  rcases disconnectServer_cases cfg w p state 0 ready with ⟨pool, hlost, heq⟩ | ⟨hle, -⟩
  · rw [heq, World.pool_setPool_self, hlost.list, List.eraseIdx_zero]
  · exact absurd hpos (Nat.not_lt.mpr hle)

theorem lists_disconnectServer (cfg : Config) (w : World) (p : Nat) (state : ServerState)
    (i : Nat) (ready : Bool) :
    (w.disconnectServer cfg p state i ready).poolList = w.poolList ∧
      (w.disconnectServer cfg p state i ready).peerPoolList = w.peerPoolList := by
  unfold World.disconnectServer
  split_ifs <;> exact ⟨rfl, rfl⟩

theorem same_disconnectServer (cfg : Config) (w : World) (p : Nat) (state : ServerState)
    (i : Nat) (ready : Bool) :
    (w.pool p).Same ((w.disconnectServer cfg p state i ready).pool p) := by
  rcases disconnectServer_cases cfg w p state i ready with ⟨pool, hlost, heq⟩ | ⟨-, heq⟩
  · rw [heq, World.pool_setPool_self]
    exact hlost.same
  · rw [heq]
    exact ⟨rfl, rfl⟩

theorem closedLists_closeServerList (h : Sound cfg w) (hp : p ∈ w.keys) (state : ServerState) :
    ClosedLists cfg p (· = state) w (w.closeServerList cfg p state) := by
  unfold World.closeServerList
  induction hn : (w.pool p).count state generalizing w with
  | zero =>
    refine ⟨h, rfl, rfl, ⟨rfl, rfl⟩, ?_, fun _ _ => rfl⟩
    rintro _ rfl
    exact List.eq_nil_of_length_eq_zero hn
  | succ n ih =>
    have hpos : 0 < (w.pool p).count state := hn ▸ Nat.succ_pos n
    have hlist := list_disconnectServer cfg hpos false
    obtain ⟨hpools, hpeers⟩ := lists_disconnectServer cfg w p state 0 false
    have hsame := same_disconnectServer cfg w p state 0 false
    rw [Function.iterate_succ_apply]
    have hrest := ih (h.disconnectServer hp state 0 false)
      (by rw [World.keys, hpools, hpeers]; exact hp)
      (by rw [Pool.count, hlist, Function.update_self, List.length_tail]
          exact Nat.sub_eq_of_eq_add hn)
    refine ⟨hrest.sound, hrest.poolList.trans hpools, hrest.peerPoolList.trans hpeers,
      ⟨hrest.same.db.trans hsame.db, hrest.same.userCredentials.trans hsame.userCredentials⟩,
      hrest.closed, fun state' hne => ?_⟩
    rw [hrest.others state' hne, hlist, Function.update_of_ne hne]

theorem closedLists_foldl (h : Sound cfg w) (hp : p ∈ w.keys) (states : List ServerState) :
    ClosedLists cfg p (· ∈ states) w (states.foldl (World.closeServerList cfg p) w) := by
  induction states generalizing w with
  | nil =>
    exact ⟨h, rfl, rfl, ⟨rfl, rfl⟩, fun _ hs => (List.not_mem_nil hs).elim, fun _ _ => rfl⟩
  | cons state states ih =>
    have hfirst := closedLists_closeServerList h hp state
    have hrest := ih hfirst.sound (by
      rw [World.keys, hfirst.poolList, hfirst.peerPoolList]
      exact hp)
    refine ⟨hrest.sound, hrest.poolList.trans hfirst.poolList,
      hrest.peerPoolList.trans hfirst.peerPoolList,
      ⟨hrest.same.db.trans hfirst.same.db,
        hrest.same.userCredentials.trans hfirst.same.userCredentials⟩,
      fun state' hs => ?_, fun state' hs => ?_⟩
    · by_cases hin : state' ∈ states
      · exact hrest.closed state' hin
      · rw [List.foldl_cons, hrest.others state' hin]
        exact hfirst.closed state' ((List.mem_cons.mp hs).resolve_right hin)
    · rw [List.mem_cons, not_or] at hs
      rw [List.foldl_cons, hrest.others state' hs.2, hfirst.others state' hs.1]

theorem poolServerCount_eq_zero (h : ∀ state, pool.list state = []) :
    pool.poolServerCount = 0 := by
  simp [Pool.poolServerCount, Pool.poolConnectedServerCount, Pool.count, h]

/-- A pool without servers is not counted. -/
theorem Sound.drop (h : Sound cfg w) (hnone : ∀ state, (w.pool p).list state = [])
    (poolList peerPoolList : List Nat)
    (hpools : poolList = w.poolList.filter (· ≠ p) ∧ peerPoolList = w.peerPoolList ∨
      poolList = w.poolList ∧ peerPoolList = w.peerPoolList.filter (· ≠ p)) :
    Sound cfg { w with poolList := poolList, peerPoolList := peerPoolList } := by
  have hzero : ∀ which, countIf which (w.pool p) = 0 := by
    intro which
    simp [countIf, poolServerCount_eq_zero hnone]
  have htally : ∀ which, tally (countIf which) w.pool (poolList ++ peerPoolList) =
      tally (countIf which) w.pool w.keys := by
    intro which
    rw [tally_append, World.keys, tally_append]
    rcases hpools with ⟨rfl, rfl⟩ | ⟨rfl, rfl⟩ <;> rw [tally_filter_ne _ _ _ (hzero which)]
  have hsub : (poolList ++ peerPoolList).Sublist w.keys := by
    rcases hpools with ⟨rfl, rfl⟩ | ⟨rfl, rfl⟩
    · exact List.filter_sublist.append (List.Sublist.refl _)
    · exact (List.Sublist.refl _).append List.filter_sublist
  refine ⟨h.nodup.sublist hsub, fun d => (h.db d).trans (htally _).symm,
    fun u => (h.user u).trans (htally _).symm, fun q hq => h.peers q ?_⟩
  rcases hpools with ⟨-, rfl⟩ | ⟨-, rfl⟩
  · exact hq
  · exact (List.mem_filter.mp hq).1

theorem Sound.killPool (h : Sound cfg w) (hp : p ∈ w.poolList) : Sound cfg (w.killPool cfg p) := by
  have hclosed := closedLists_foldl h (List.mem_append_left _ hp)
    [.active, .activeCancel, .beingCanceled, .idle, .used, .tested, .login]
  refine hclosed.sound.drop (fun state => hclosed.closed state ?_) _ _ (.inl ⟨rfl, rfl⟩)
  cases state <;> simp

theorem Sound.killPeerPool (h : Sound cfg w) (hp : p ∈ w.peerPoolList) :
    Sound cfg (w.killPeerPool cfg p) := by
  have hclosed := closedLists_foldl h (List.mem_append_right _ hp) [.activeCancel, .login]
  refine hclosed.sound.drop (fun state => ?_) _ _ (.inr ⟨rfl, rfl⟩)
  by_cases hstate : state ∈ [ServerState.activeCancel, .login]
  · exact hclosed.closed state hstate
  · rw [hclosed.others state hstate]
    simp only [List.mem_cons, List.not_mem_nil, or_false, not_or] at hstate
    exact h.peers p hp state hstate.2 hstate.1

/-- A new pool has no servers. -/
theorem Sound.new (h : Sound cfg w) (hp : p ∉ w.keys) (pool : Pool)
    (hnone : ∀ state, pool.list state = []) (poolList peerPoolList : List Nat)
    (hpools : poolList = p :: w.poolList ∧ peerPoolList = w.peerPoolList ∨
      poolList = w.poolList ∧ peerPoolList = p :: w.peerPoolList) :
    Sound cfg { w.setPool p pool with poolList := poolList, peerPoolList := peerPoolList } := by
  have htally : ∀ which, tally (countIf which) (Function.update w.pool p pool)
      (poolList ++ peerPoolList) = tally (countIf which) w.pool w.keys := by
    intro which
    have hold := tally_update_of_not_mem (countIf which) w.pool hp pool
    rw [World.keys, tally_append] at hold
    have hzero : countIf which (Function.update w.pool p pool p) = 0 := by
      simp [countIf, poolServerCount_eq_zero hnone]
    rcases hpools with ⟨rfl, rfl⟩ | ⟨rfl, rfl⟩ <;>
      rw [tally_append, tally_cons, hzero, Int.zero_add, hold]
  have hperm : (poolList ++ peerPoolList).Perm (p :: w.keys) := by
    rcases hpools with ⟨rfl, rfl⟩ | ⟨rfl, rfl⟩
    · exact .refl _
    · exact List.perm_middle
  refine ⟨hperm.nodup_iff.mpr (List.nodup_cons.mpr ⟨hp, h.nodup⟩),
    fun d => (h.db d).trans (htally _).symm, fun u => (h.user u).trans (htally _).symm,
    fun q hq state hlogin hcancel => ?_⟩
  by_cases hqp : q = p
  · subst hqp
    exact World.pool_setPool_self ▸ hnone state
  · refine (congrArg (fun pool => Pool.list pool state) (World.pool_setPool_of_ne hqp)).trans ?_
    refine h.peers q ?_ state hlogin hcancel
    rcases hpools with ⟨-, rfl⟩ | ⟨-, rfl⟩
    · exact hq
    · exact (List.mem_cons.mp hq).resolve_left hqp

/-! ### Runs -/

theorem Sound.changeServerState {newstate : ServerState} {i : Nat} {front failed : Bool}
    {s : Server} (h : Sound cfg w) (hp : p ∈ w.keys)
      (hpeer : p ∈ w.poolList ∨ newstate = .activeCancel)
    (hi : i < (w.pool p).count state) :
    Sound cfg (w.setPool p
      { ((w.pool p).setList state (((w.pool p).list state).eraseIdx i)).put newstate front s with
        lastConnectFailed := failed }) := by
  refine h.setPool hp ⟨rfl, rfl⟩ ?_ fun hmem state' hlogin hcancel => ?_
  · exact (Pool.poolServerCount_put ..).trans (by rw [Pool.poolServerCount_eraseIdx hi])
  · have hnew : newstate = .activeCancel :=
      hpeer.resolve_left fun hpool => (List.nodup_append.mp h.nodup).2.2 p hpool p hmem rfl
    have hnone := h.peers p hmem state' hlogin hcancel
    refine (Pool.list_put_of_ne (hnew ▸ hcancel)).trans ?_
    by_cases hstate : state' = state
    · subst hstate
      rw [Pool.list_setList_self, hnone]
      rfl
    · rw [Pool.list_setList_of_ne hstate, hnone]

theorem Sound.step {cfg : Config} {w w' : World} {e : World.Event} (h : Sound cfg w)
    (hstep : w.step cfg e = some w') : Sound cfg w' := by
  cases e <;> simp only [World.step, Option.ite_none_right_eq_some, Option.some.injEq] at hstep
  case launchNewConnection p now evict =>
    obtain ⟨hp, hlaunch⟩ := hstep
    obtain ⟨w₁, hw₁, hlaunched⟩ := settles_launchNewConnection now evict h (World.has_iff.mp hp)
    obtain rfl := Option.some.inj ((hw₁ _ (Nat.lt_succ_self _)).symm.trans hlaunch)
    exact hlaunched.sound
  case disconnectServer p state i ready =>
    obtain ⟨hp, rfl⟩ := hstep
    exact h.disconnectServer (World.has_iff.mp hp) state i ready
  case changeServerState p state i newstate front requestTime =>
    obtain ⟨hguard, rfl⟩ := hstep
    simp only [Bool.and_eq_true, Bool.or_eq_true, decide_eq_true_eq,
      List.contains_iff_mem] at hguard
    exact h.changeServerState (World.has_iff.mp hguard.1.1.1) hguard.1.2 hguard.2
  case clients p waiting cancels =>
    obtain ⟨hp, rfl⟩ := hstep
    exact h.setPool (World.has_iff.mp hp) ⟨rfl, rfl⟩ rfl (h.peers p)
  case welcome p ready =>
    obtain ⟨hp, rfl⟩ := hstep
    exact h.setPool (World.has_iff.mp hp) ⟨rfl, rfl⟩ rfl (h.peers p)
  case newPool p d credentials =>
    obtain ⟨hguard, rfl⟩ := hstep
    simp only [Bool.and_eq_true, Bool.not_eq_true'] at hguard
    have hp : p ∉ w.keys := fun hp => nomatch hguard.1.symm.trans (World.has_iff.mpr hp)
    exact h.new hp _ (fun _ => rfl) _ _ (.inl ⟨rfl, rfl⟩)
  case newPeerPool p d =>
    obtain ⟨hguard, rfl⟩ := hstep
    simp only [Bool.and_eq_true, Bool.not_eq_true'] at hguard
    have hp : p ∉ w.keys := fun hp => nomatch hguard.1.symm.trans (World.has_iff.mpr hp)
    exact h.new hp _ (fun _ => rfl) _ _ (.inr ⟨rfl, rfl⟩)
  case killPool p =>
    obtain ⟨hp, rfl⟩ := hstep
    exact h.killPool (List.contains_iff_mem.mp hp)
  case killPeerPool p =>
    obtain ⟨hp, rfl⟩ := hstep
    exact h.killPeerPool (List.contains_iff_mem.mp hp)

theorem sound_of_run {es : List World.Event} (hrun : World.run cfg {} es = some w) :
    Sound cfg w := by
  have hinit : Sound cfg {} :=
    ⟨List.nodup_nil, fun _ => rfl, fun _ => rfl, fun _ hp => (List.not_mem_nil hp).elim⟩
  exact Run.invariant (fun h _ hs => Sound.step h hs)
    (Run.meets_of_forall (fun _ _ => trivial) _ _) hrun hinit

/-- **The server connection limits.**  In every state that can be reached the counts are
those of the open servers, `launch_new_connection` comes to an end within any bound that is
larger than their number, and if it has opened a connection then that was permitted. -/
theorem server_connection_limits (cfg : Config) {w : World} {es : List World.Event}
    (hrun : World.run cfg {} es = some w) :
    (∀ d, w.dbCount d = w.openOfDb d) ∧ (∀ u, w.userCount u = w.openOfUser cfg u) ∧
      ∀ p, w.has p = true → ∀ now evictIfNeeded, ∃ w',
        (∀ fuel, w.openCount < fuel →
          w.launchNewConnection cfg now evictIfNeeded fuel p = some w') ∧
        (Opened w w' p → Permitted cfg p w w') := by
  have hsound := sound_of_run hrun
  refine ⟨fun d => (hsound.db d).trans (tally_countIf _ _ _),
    fun u => (hsound.user u).trans (tally_countIf _ _ _), fun p hp now evict => ?_⟩
  obtain ⟨w', hw', hlaunched⟩ := settles_launchNewConnection now evict hsound (World.has_iff.mp hp)
  exact ⟨w', hw', hlaunched.permitted⟩

/-- With one connection for the database, the idle server of a pool is closed before
another pool gets one. -/
theorem server_connection_limits_evict :
    ∃ w w', World.run { cfMaxDbConnections := 1 } {}
        [.newPool 0 0 0, .newPool 1 0 1, .launchNewConnection 0 0 true,
          .changeServerState 0 .login 0 .idle true 5] = some w ∧
      w.dbCount 0 = w.openOfDb 0 ∧
      w.launchNewConnection { cfMaxDbConnections := 1 } 9 true 2 1 = some w' ∧
      (w'.pool 0).poolServerCount = 0 ∧ (w'.pool 1).poolServerCount = 1 ∧
      Permitted { cfMaxDbConnections := 1 } 1 w w' := by
  obtain ⟨hdb, -, hlaunch⟩ := @server_connection_limits { cfMaxDbConnections := 1 } _
    [.newPool 0 0 0, .newPool 1 0 1, .launchNewConnection 0 0 true,
      .changeServerState 0 .login 0 .idle true 5] rfl
  refine ⟨_, _, rfl, hdb 0, rfl, by decide, by decide, ?_⟩
  obtain ⟨w', hw', hpermitted⟩ := hlaunch 1 (by decide) 9 true
  obtain rfl := Option.some.inj ((hw' 2 (by decide)).symm.trans rfl)
  exact hpermitted ⟨by decide, by decide⟩

end PgBouncer.ServerLimits
