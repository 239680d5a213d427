/-
Which server is evicted.

`evict_connection` and `evict_user_connection` compare the last sockets of some lists by
their `request_time`, and close the oldest of these.  That is the server that has been idle
for the longest time if such a server is the last one of its list.  It need not be: with
`server_round_robin` a server that comes back is put at the end of the idle ones.  And
`evict_user_connection` looks at the pools with the credentials it is given, while the limit
is that of the global user, who may have other credentials in other pools.
-/
import PgBouncer.Proofs.ServerLimits

namespace PgBouncer.ServerLimits

open World (Candidate compareConnectionsByTime)

variable {cfg : Config} {w : World} {p : Nat} {state : ServerState} {s : Server}

/-! ### The oldest of the last sockets -/

/-- One of the oldest of some servers, if there are any. -/
structure Oldest (cs : List Candidate) (oldest : Option Candidate) : Prop where
  nil : oldest = none → cs = []
  mem : ∀ c, oldest = some c → c ∈ cs ∧ ∀ c' ∈ cs, c.requestTime ≤ c'.requestTime

theorem Oldest.compare {cs : List Candidate} {lhs : Option Candidate} (h : Oldest cs lhs)
    (rhs : Option Candidate) : Oldest (cs ++ rhs.toList) (compareConnectionsByTime lhs rhs) := by
  cases rhs with
  | none =>
    rw [Option.toList_none, List.append_nil]
    cases lhs with
    | none => exact h
    | some l => exact h
  | some r =>
    cases lhs with
    | none =>
      rw [h.nil rfl]
      refine ⟨nofun, ?_⟩
      rintro _ ⟨⟩
      simp
    | some l =>
      obtain ⟨hmem, hle⟩ := h.mem l rfl
      obtain ⟨x, hx, hor, hxl, hxr⟩ : ∃ x, compareConnectionsByTime (some l) (some r) = some x ∧
          (x = l ∨ x = r) ∧ x.requestTime ≤ l.requestTime ∧ x.requestTime ≤ r.requestTime := by
        unfold compareConnectionsByTime
        by_cases hlt : l.requestTime < r.requestTime
        · exact ⟨l, if_pos hlt, .inl rfl, UInt64.le_refl _, UInt64.le_of_lt hlt⟩
        · exact ⟨r, if_neg hlt, .inr rfl, UInt64.not_lt.mp hlt, UInt64.le_refl _⟩
      rw [hx]
      refine ⟨nofun, ?_⟩
      rintro _ ⟨⟩
      rw [Option.toList_some]
      refine ⟨?_, fun c hc => ?_⟩
      · rcases hor with rfl | rfl
        · exact List.mem_append_left _ hmem
        · exact List.mem_append_right _ List.mem_cons_self
      · rcases List.mem_append.mp hc with hc | hc
        · exact UInt64.le_trans hxl (hle c hc)
        · rw [List.mem_singleton.mp hc]
          exact hxr

theorem Oldest.foldl {α : Type*} {f : Option Candidate → α → Option Candidate}
    {g : α → List Candidate}
    (hf : ∀ {cs oldest} a, Oldest cs oldest → Oldest (cs ++ g a) (f oldest a)) (l : List α)
    {cs : List Candidate} {oldest : Option Candidate} (h : Oldest cs oldest) :
    Oldest (cs ++ l.flatMap g) (l.foldl f oldest) := by
  induction l generalizing cs oldest with
  | nil => simpa using h
  | cons a l ih =>
    have hrest := ih (hf a h)
    rwa [List.append_assoc, ← List.flatMap_cons] at hrest

/-- The lists of a pool whose servers may be evicted. -/
def World.spareLists (w : World) (p : Nat) : List ServerState :=
  if (w.pool p).waitingClientList.isEmpty then [.idle, .used, .tested] else [.idle]

theorem World.older_eq (w : World) (oldest : Option Candidate) (p : Nat) :
    w.older oldest p = (w.spareLists p).foldl
      (fun oldest state => compareConnectionsByTime oldest (w.lastSocket p state)) oldest := by
  unfold World.older World.spareLists
  dsimp only
  split_ifs <;> rfl

/-- The last sockets that are compared. -/
def World.lastSockets (w : World) (which : Nat → Bool) : List Candidate :=
  (w.poolList.filter which).flatMap fun p =>
    (w.spareLists p).flatMap fun state => (w.lastSocket p state).toList

theorem oldest_oldestConnection (w : World) (which : Nat → Bool) :
    Oldest (w.lastSockets which) (w.oldestConnection which) := by
  have hnone : Oldest [] none := ⟨fun _ => rfl, fun _ h => nomatch h⟩
  refine Oldest.foldl (fun p h => ?_) _ hnone
  rw [World.older_eq]
  exact Oldest.foldl (fun state h => h.compare _) _ h

/-! ### Servers that may be evicted -/

/-- A server that is idle, or used or tested in a pool without waiting clients. -/
structure World.Spare (w : World) (among : Nat → Prop) (p : Nat) (state : ServerState)
    (s : Server) : Prop where
  pool : p ∈ w.poolList
  among : among p
  list : state ∈ w.spareLists p
  mem : s ∈ (w.pool p).list state

/-- If there are servers that may be closed, one of them is closed, and none has been idle
for a longer time. -/
def EvictsOldest (cfg : Config) (w : World) (among : Nat → Prop) (w' : Option World) : Prop :=
  (∃ p state s, w.Spare among p state s) →
    ∃ p state i s, w.Spare among p state s ∧ ((w.pool p).list state)[i]? = some s ∧
      w' = some (w.disconnectServer cfg p state i false) ∧
      ∀ q st t, w.Spare among q st t → s.requestTime ≤ t.requestTime

/-- One of the servers that have been idle for the longest time is the last of its list. -/
def OldestIsLast (w : World) (among : Nat → Prop) (which : Nat → Bool) : Prop :=
  (∃ p state s, w.Spare among p state s) →
    ∃ p state s, w.Spare among p state s ∧ which p ∧
      ((w.pool p).list state).getLast? = some s ∧
      ∀ q st t, w.Spare among q st t → s.requestTime ≤ t.requestTime

theorem mem_lastSockets {which : Nat → Bool} {c : Candidate} :
    c ∈ w.lastSockets which ↔ ∃ s, w.Spare (fun p => which p) c.pool c.state s ∧
      ((w.pool c.pool).list c.state).getLast? = some s ∧ c.requestTime = s.requestTime := by
  simp only [World.lastSockets, List.mem_flatMap, List.mem_filter, Option.mem_toList,
    World.lastSocket, Option.map_eq_some_iff]
  constructor
  · rintro ⟨p, ⟨hp, hwhich⟩, state, hstate, s, hs, rfl⟩
    exact ⟨s, ⟨hp, hwhich, hstate, List.mem_of_getLast? hs⟩, hs, rfl⟩
  · rintro ⟨s, hspare, hs, htime⟩
    exact ⟨c.pool, ⟨hspare.pool, hspare.among⟩, c.state, hspare.list, s, hs, by rw [← htime]⟩

/-- Taking a server out of a list is what taking out the last one is only if they are the
same. -/
theorem getLast?_of_eraseIdx {l : List Server} {i : Nat} (hi : l[i]? = some s)
    (h : l.eraseIdx i = l.eraseIdx (l.length - 1)) : l.getLast? = some s := by
  obtain ⟨hlt, rfl⟩ := List.getElem?_eq_some_iff.mp hi
  rw [List.getLast?_eq_getElem?]
  by_cases hlast : i = l.length - 1
  · rw [← hlast, hi]
  · -- the elements from there on are all the same
    have hsame : ∀ j, i ≤ j → ∀ hj : j < l.length, l[j] = l[i] := by
      intro j hij
      induction j, hij using Nat.le_induction with
      | base => exact fun _ => rfl
      | succ j hij ih =>
        intro hj
        have hget := congrArg (·[j]?) h
        simp only [List.getElem?_eraseIdx, if_neg (Nat.not_lt.mpr hij),
          if_pos (show j < l.length - 1 by omega), List.getElem?_eq_getElem hj,
          List.getElem?_eq_getElem (show j < l.length by omega), Option.some.injEq] at hget
        rw [hget, ih]
    rw [List.getElem?_eq_getElem (by omega), hsame _ (by omega)]

theorem lists_after_disconnect {i : Nat} (hi : i < ((w.pool p).list state).length) {q : Nat}
    {st : ServerState} : ((w.disconnectServer cfg p state i false).pool q).list st =
      if q = p ∧ st = state then ((w.pool p).list state).eraseIdx i else (w.pool q).list st := by
  rcases disconnectServer_cases cfg w p state i false with ⟨pool, hlost, heq⟩ | ⟨hle, -⟩
  · rw [heq]
    by_cases hq : q = p
    · subst hq
      rw [World.pool_setPool_self, hlost.list, Function.update_apply]
      simp
    · rw [World.pool_setPool_of_ne hq, if_neg fun h => hq h.1]
      rfl
  · exact absurd hi (Nat.not_lt.mpr hle)

theorem evictsOldest_iff {among : Nat → Prop} {which : Nat → Bool}
    (hwhich : ∀ p, which p → among p) :
    EvictsOldest cfg w among ((w.oldestConnection which).map (w.evict cfg)) ↔
      OldestIsLast w among which := by
  have holdest := oldest_oldestConnection w which
  constructor
  · intro hevicts hspare
    obtain ⟨p, state, i, s, hs, hi, heq, hle⟩ := hevicts hspare
    obtain ⟨c, hc, hworld⟩ := Option.map_eq_some_iff.mp heq
    obtain ⟨last, hlast, hget, -⟩ := mem_lastSockets.mp (holdest.mem c hc).1
    have hlt := (List.getElem?_eq_some_iff.mp hi).1
    have hpos : 0 < ((w.pool c.pool).list c.state).length := List.length_pos_of_mem hlast.mem
    -- closing both gives the same lists, so it is the same list that gets shorter
    have hlists : ((w.evict cfg c).pool c.pool).list c.state =
        ((w.disconnectServer cfg p state i false).pool c.pool).list c.state := by rw [hworld]
    rw [World.evict, Pool.count, lists_after_disconnect (Nat.sub_lt hpos Nat.one_pos),
      if_pos ⟨rfl, rfl⟩,
      lists_after_disconnect hlt] at hlists
    split_ifs at hlists with hsame
    · obtain ⟨rfl, rfl⟩ := hsame
      exact ⟨c.pool, c.state, s, hs, hlast.among, getLast?_of_eraseIdx hi hlists.symm, hle⟩
    · have hlength := congrArg List.length hlists
      rw [List.length_eraseIdx_of_lt (Nat.sub_lt hpos Nat.one_pos)] at hlength
      omega
  · intro hlast hspare
    obtain ⟨p, state, s, hs, hp, hget, hle⟩ := hlast hspare
    have hmem : ⟨p, state, s.requestTime⟩ ∈ w.lastSockets which :=
      mem_lastSockets.mpr ⟨s, { hs with among := hp }, hget, rfl⟩
    cases hc : w.oldestConnection which with
    | none =>
      rw [holdest.nil hc] at hmem
      exact absurd hmem List.not_mem_nil
    | some c =>
      obtain ⟨hcmem, hcle⟩ := holdest.mem c hc
      obtain ⟨t, ht, htget, htime⟩ := mem_lastSockets.mp hcmem
      refine ⟨c.pool, c.state, _, t, { ht with among := hwhich _ ht.among }, ?_, rfl,
        fun q st u hu => ?_⟩
      · rw [← htget, List.getLast?_eq_getElem?]
        rfl
      · have hfirst := hcle _ hmem
        rw [htime] at hfirst
        exact UInt64.le_trans hfirst (hle q st u hu)

/-- **Which servers are evicted.**  In every state `evict_connection` closes a server that has
been idle for the longest time among all that may be closed in the database exactly if one
of these is the last of its list.  `evict_user_connection` does so among all pools of the
global user exactly if this list is one of a pool with the very credentials. -/
theorem evicts_oldest_iff (cfg : Config) (w : World) (d credentials : Nat) :
    (EvictsOldest cfg w (fun p => (w.pool p).db = d) (w.evictConnection cfg d) ↔
      OldestIsLast w (fun p => (w.pool p).db = d) fun p => (w.pool p).db = d) ∧
    (EvictsOldest cfg w
        (fun p => (w.pool p).globalUser cfg = some (cfg.globalUser credentials))
        (w.evictUserConnection cfg (some credentials)) ↔
      OldestIsLast w (fun p => (w.pool p).globalUser cfg = some (cfg.globalUser credentials))
        fun p => (w.pool p).userCredentials = some credentials) := by
  refine ⟨evictsOldest_iff fun p hp => of_decide_eq_true hp, evictsOldest_iff fun p hp => ?_⟩
  rw [Pool.globalUser, of_decide_eq_true hp]
  rfl

/-- With `server_round_robin` the server that has been idle since 5 is kept and the one that
has been idle since 9 is closed; and nothing is closed for a user whose only server is in a
pool with other credentials. -/
theorem newer_server_evicted :
    ∃ w w', World.run { globalUser := fun _ => 0 } {} [.newPool 0 0 0, .newPool 1 1 1,
        .launchNewConnection 0 0 true, .changeServerState 0 .login 0 .idle false 5,
        .launchNewConnection 0 0 true, .changeServerState 0 .login 0 .idle false 9] = some w ∧
      (w.pool 0).list .idle = [⟨5⟩, ⟨9⟩] ∧
      w.evictConnection { globalUser := fun _ => 0 } 0 = some w' ∧
      (w'.pool 0).list .idle = [⟨5⟩] ∧
      w.evictUserConnection { globalUser := fun _ => 0 } (some 1) = none := by
  exact ⟨_, _, rfl, rfl, rfl, rfl, rfl⟩

end PgBouncer.ServerLimits
