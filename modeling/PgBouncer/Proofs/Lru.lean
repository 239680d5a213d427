/-
The statement cache of a server is kept in order of last use.

What is prepared and used on a server is logged by the packets sent to it.  Removing
duplicates from the log, keeping the last ones, gives the statements in order of last use,
and a cache in order is a sublist of this.  A packet of a client does one of three things
to a cache (`Turns`), and a message of a server leaves it alone or empties it, as long as
there are no errors and no request is dropped unanswered that has to do with a statement.

The latter happens without an error.  The end of a copy-in drops the requests up to the
CopyDone, and a CopyDone that was sent before the CopyInResponse came is not among them.
All requests are dropped then, and each eviction there is undone: the statement goes back
into the cache, at the wrong end.

With errors or without, a statement is only prepared where the cache lacks it.
-/
import PgBouncer.Lib.Run
import PgBouncer.Proofs.Cache
import PgBouncer.Proofs.PoolUseCount
import Mathlib.Data.List.Dedup

namespace PgBouncer

variable {cfg : Config} {cache cache' log : List QueryId} {sent : List (Pkt StmtRef)} {id : QueryId}

/-! ### Order of last use -/

theorem dedup_concat (log : List QueryId) (id : QueryId) :
    (log ++ [id]).dedup = log.dedup.filter (· != id) ++ [id] := by
  induction log with
  | nil => rfl
  | cons a log ih =>
    rw [List.cons_append]
    by_cases hmem : a ∈ log
    · rw [List.dedup_cons_of_mem (by simp [hmem]), List.dedup_cons_of_mem hmem, ih]
    · rw [List.dedup_cons_of_notMem hmem]
      by_cases ha : a = id
      · rw [List.dedup_cons_of_mem (by simp [ha]), ih]
        simp [ha]
      · rw [List.dedup_cons_of_notMem (by simp [hmem, ha]), ih]
        simp [ha]

theorem sublist_dedup_concat (h : cache.Sublist log.dedup) :
    (cache.filter (· != id) ++ [id]).Sublist (log ++ [id]).dedup := by
  rw [dedup_concat]
  exact (h.filter _).append_right [id]

theorem touched_cache {l : Link} (hnodup : l.server.serverPreparedStatements.Nodup)
    (hid : id ∈ l.server.serverPreparedStatements) :
    (l.touched id).server.serverPreparedStatements =
      l.server.serverPreparedStatements.filter (· != id) ++ [id] := by
  simp only [Link.touched]
  split_ifs with hone
  · rw [eraseLast, (List.nodup_reverse.mpr hnodup).erase_eq_filter, List.filter_reverse,
      List.reverse_reverse]
  · obtain ⟨x, hx⟩ := List.length_eq_one_iff.mp (not_not.mp hone)
    rw [hx] at hid ⊢
    simp [List.mem_singleton.mp hid]

/-! ### Packets of clients -/

/-- **What a packet of a client does to a cache**, and the packets sent for it: it has
nothing to do with statements, it uses one that is there, or a new one is prepared. -/
inductive Turns (cfg : Config) (cache : List QueryId) : List (Pkt StmtRef) → List QueryId → Prop
  | idle {sent : List (Pkt StmtRef)} (quiet : ∀ p ∈ sent, p.statement = none) :
      Turns cfg cache sent cache
  | used {id : QueryId} {p : Pkt StmtRef} (mem : id ∈ cache) (uses : p.uses = some id) :
      Turns cfg cache [p] (cache.filter (· != id) ++ [id])
  | prepared {id : QueryId} {query : Bytes} (use : Option (Pkt StmtRef)) (new : id ∉ cache)
      (max : cfg.maxPreparedStatements ≠ 0) (uses : ∀ p ∈ use, p.uses = some id) :
      Turns cfg cache (.parse (.pgbouncer id) query ::
        ((evicted cfg (cache ++ [id])).map closePkt ++ use.toList)) (kept cfg (cache ++ [id]))

theorem statement_of_uses {p : Pkt StmtRef} (h : p.uses = some id) : p.statement = some id := by
  unfold Pkt.uses at h
  split at h
  · exact h
  · exact h
  · exact nomatch h

theorem uses_pkt {p : Pkt Bytes} {name : Bytes} {type : ReqType} {pkt : StmtRef → Pkt StmtRef}
    (h : Uses p name type pkt) (id : QueryId) : (pkt (.pgbouncer id)).uses = some id := by
  cases h <;> rfl

theorem turns_of_accepts {l l' : Link} {p : Pkt Bytes} {others : List QueryId}
    (ha : Accepts cfg l p l') (hs : l.Sound others) (hnil : l.toServer = [])
    (hnodup : l.server.serverPreparedStatements.Nodup) :
    Turns cfg l.server.serverPreparedStatements l'.toServer
      l'.server.serverPreparedStatements := by
  have hquiet : ∀ q ∈ l.toServer, q.statement = none := by simp [hnil]
  cases ha with
  | forward _ _ _ =>
    have hcache : (forwardPacket (tagDirty l) p).server.serverPreparedStatements =
        l.server.serverPreparedStatements := by
      unfold forwardPacket
      dsimp only
      split
      · exact addOutstandingRequest_cache _ _ _
      · rfl
    rw [hcache]
    refine .idle fun q hq => ?_
    obtain rfl : q = p.forwarded := by
      simpa [forwardPacket, tagDirty, hnil] using hq
    cases p <;> rfl
  | close _ =>
    unfold handleCloseStatementCommand
    dsimp only
    split
    · exact .idle hquiet
    · dsimp only
      rw [addOutstandingRequest_cache]
      exact .idle hquiet
  | parseKnown =>
    dsimp only
    rw [addOutstandingRequest_cache]
    exact .idle hquiet
  | parse hps _ hget hmem =>
    simp only [Link.parsed, createClientPreparedStatement, tagDirty, hnil, List.nil_append]
    rw [← List.append_nil (List.map _ _)]
    exact .prepared none (get_not_mem_cache hs hget hmem) (maxPreparedStatements_of_psAction hps).2
      (by simp)
  | @useKnown _ _ _ _ e _ huses _ hmem =>
    have htouched := @touched_cache e.ps (tagDirty l) hnodup hmem
    simp only [Link.forwarded, htouched]
    simpa only [Link.touched, tagDirty, hnil] using .used hmem (uses_pkt huses e.ps)
  | @use _ _ _ pkt e hps huses _ hmem =>
    have hid : (l.deref e).queryId ∉ l.server.serverPreparedStatements := by
      rw [deref_queryId]
      exact hmem
    have huse : ∀ q ∈ some (pkt (.pgbouncer e.ps)), q.uses = some (l.deref e).queryId := by
      rintro _ ⟨⟩
      rw [deref_queryId]
      exact uses_pkt huses e.ps
    simp only [Link.forwarded, Link.parsed, tagDirty, hnil, List.nil_append, List.cons_append]
    exact .prepared _ hid (maxPreparedStatements_of_psAction hps).2 huse

/-- A packet of a client keeps the order. -/
theorem Turns.recent (h : Turns cfg cache sent cache') (hrecent : cache.Sublist log.dedup) :
    cache'.Sublist (log ++ sent.filterMap Pkt.statement).dedup := by
  cases h with
  | idle hquiet =>
    rw [List.filterMap_eq_nil_iff.mpr hquiet, List.append_nil]
    exact hrecent
  | used _ huses =>
    rw [List.filterMap_cons_some (statement_of_uses huses)]
    exact sublist_dedup_concat hrecent
  | @prepared id query use hnew _ huses =>
    have hkept : (kept cfg (cache ++ [id])).Sublist (log ++ [id]).dedup := by
      refine List.Sublist.trans ?_ (sublist_dedup_concat hrecent)
      rw [List.filter_eq_self.mpr fun x hx => bne_iff_ne.mpr (ne_of_mem_of_not_mem hx hnew)]
      exact List.drop_sublist _ _
    have hcloses : ((evicted cfg (cache ++ [id])).map closePkt).filterMap Pkt.statement = [] := by
      simp [closePkt, Pkt.statement]
    rw [List.filterMap_cons, List.filterMap_append, hcloses, List.nil_append]
    cases use with
    | none => exact hkept
    | some p =>
      rw [Option.toList_some, List.filterMap_cons_some (statement_of_uses (huses p rfl)),
        List.filterMap_nil]
      show List.Sublist _ (log ++ [id, id]).dedup
      rw [List.append_cons log id [id], dedup_concat (log ++ [id])]
      rw [dedup_concat] at hkept ⊢
      simpa [List.filter_append, List.filter_filter] using hkept

/-- Statements are prepared where a cache lacks them, and those that are used are in it then,
and have been so before or are prepared. -/
def PreparesMissing (cache cache' : List QueryId) (sent : List (Pkt StmtRef)) : Prop :=
  (∀ id query, .parse (.pgbouncer id) query ∈ sent → id ∉ cache) ∧
    ∀ p ∈ sent, ∀ id, p.uses = some id →
      id ∈ cache' ∧ (id ∈ cache ∨ ∃ query, .parse (.pgbouncer id) query ∈ sent)

theorem preparesMissing_of_accepts {l l' : Link} {p : Pkt Bytes} {others : List QueryId}
    (ha : Accepts cfg l p l') (hs : l.Sound others) (hnil : l.toServer = []) :
    PreparesMissing l.server.serverPreparedStatements l'.server.serverPreparedStatements
      l'.toServer := by
  unfold PreparesMissing
  cases ha with
  | forward => cases p <;> simp [forwardPacket, tagDirty, hnil, Pkt.forwarded, Pkt.uses]
  | close =>
    unfold handleCloseStatementCommand
    dsimp only
    split <;> simp [hnil]
  | parseKnown => simp [createClientPreparedStatement, tagDirty, hnil]
  | parse hps _ hget hmem =>
    have hnew := get_not_mem_cache hs hget hmem
    simp [Link.parsed, createClientPreparedStatement, tagDirty, hnil, closePkt, Pkt.uses, hnew]
  | @useKnown _ _ _ _ e _ huses _ hmem =>
    have htouched : e.ps ∈ ((tagDirty l).touched e.ps).server.serverPreparedStatements := by
      unfold Link.touched
      dsimp only
      split_ifs
      · simp
      · exact hmem
    cases huses <;>
      simpa [Link.forwarded, Link.touched, tagDirty, hnil, Pkt.uses, hmem] using htouched
  | @use _ _ _ _ e hps huses _ hmem =>
    have hkept := mem_kept (maxPreparedStatements_of_psAction hps).2
      l.server.serverPreparedStatements e.ps
    -- What is sent is the Parse, the Closes of what is evicted, and the packet itself.
    cases huses <;> simp [Link.forwarded, Link.parsed, tagDirty, hnil, Pkt.uses, hmem, closePkt] <;>
      rintro _ (⟨_, _, rfl⟩ | rfl) id ⟨⟩ <;> exact ⟨hkept, .inr rfl⟩

/-! ### Messages of servers -/

theorem clearCache_keep {q : List OutstandingRequest}
    (h : ∀ r ∈ q.takeWhile (·.type ≠ .copyDone), r.op = .keep) :
    clearCache [.copyDone] q cache = cache := by
  induction q with
  | nil => rfl
  | cons r q ih =>
    rw [clearCache]
    by_cases hr : r.type = .copyDone
    · rw [if_pos (by simp [hr])]
      simp [OutstandingRequest.op, hr, undoCache]
    · rw [List.takeWhile_cons_of_pos (by simpa using hr)] at h
      rw [if_neg (by simpa using hr), h r List.mem_cons_self]
      exact ih fun r' hr' => h r' (List.mem_cons_of_mem r hr')

/-- The message is no error, and drops no request that has prepared or evicted a statement. -/
def Harmless (sv : Server) : ServerMsg → Prop
  | .errorResponse => False
  | .commandComplete _ => sv.copyMode = true →
      ∀ r ∈ sv.outstandingRequests.takeWhile (·.type ≠ .copyDone), r.op = .keep
  | _ => True

instance (sv : Server) (m : ServerMsg) : Decidable (Harmless sv m) := by
  rcases m with ⟨⟩ <;> dsimp only [Harmless] <;> infer_instance

/-- What a message without harm leaves of the statements. -/
structure Still (sv sv' : Server) : Prop where
  failed : sv'.queryFailed = false
  cache : sv'.serverPreparedStatements = sv.serverPreparedStatements ∨
    sv'.serverPreparedStatements = []

theorem still_serverSwitch {sv : Server} {c : Option Client} {g : Statements} {m : ServerMsg}
    (hfailed : sv.queryFailed = false) (h : Harmless sv m) :
    Still sv (serverSwitch cfg sv c g m).server := by
  have herror : m = .errorResponse → sv.settingVars = false := by
    rintro rfl
    exact h.elim
  refine ⟨(congrArg (·.server.queryFailed) (serverSwitch_core herror)).trans ?_, ?_⟩
  · rw [switched, hfailed]
    cases m <;> first | rfl | exact h.elim
  · rw [serverSwitch_cache herror]
    cases m with
    | errorResponse => exact h.elim
    | readyForQuery =>
      rw [cacheAfter, hfailed]
      exact .inl (ite_self _)
    | commandComplete tag =>
      rw [cacheAfter, endCopyCache]
      split_ifs with hdrop hcopy
      · exact .inr rfl
      · exact .inl (clearCache_keep (h hcopy))
      · exact .inl rfl
    | _ => exact .inl rfl

theorem still_processServerPacket {l : Link} {m : ServerMsg}
    (hfailed : l.server.queryFailed = false)
    (h : Harmless l.server m) :
    (processServerPacket cfg l m).1.toServer = l.toServer ∧
      Still l.server (processServerPacket cfg l m).1.server := by
  have hharmless : Harmless (flushExtraPackets l).server m := by cases m <;> exact h
  obtain ⟨hfailed', hcache⟩ :=
    @still_serverSwitch cfg (flushExtraPackets l).server (some l.client) l.stmts m hfailed hharmless
  have hwork : (handleServerWork cfg (flushExtraPackets l) m).1.toServer = l.toServer ∧
      Still l.server (handleServerWork cfg (flushExtraPackets l) m).1.server := by
    unfold handleServerWork
    dsimp only
    split_ifs
    · exact ⟨rfl, hfailed', hcache⟩
    · exact ⟨rfl, hfailed', hcache⟩
    all_goals
      rw [sendPendingFakeResponses_eq]
      exact ⟨rfl, hfailed', hcache⟩
  unfold processServerPacket
  split
  · rename_i heq
    rw [heq] at hwork
    exact ⟨hwork.1, hwork.2.failed, hwork.2.cache⟩
  · exact hwork

namespace Pool

open ServerSock (Alike)

variable {P P' : Pool} {s : Nat} {sv sv' : ServerSock}

/-! ### The whole pool -/

/-- The cache of a server is in order of last use, and nothing has failed there. -/
structure Lru (sv : ServerSock) : Prop where
  order : sv.server.serverPreparedStatements.Sublist sv.log.dedup
  failed : sv.server.queryFailed = false

theorem Lru.alike (h : Lru sv) (halike : Alike sv sv') : Lru sv' := by
  refine ⟨?_, halike.queryFailed.trans h.failed⟩
  rw [halike.cache, halike.log]
  exact h.order

theorem Lru.still (h : Lru sv) (hlog : sv'.log = sv.log) (hstill : Still sv.server sv'.server) :
    Lru sv' := by
  refine ⟨?_, hstill.failed⟩
  rw [hlog]
  rcases hstill.cache with heq | heq
  · rw [heq]
    exact h.order
  · rw [heq]
    exact List.nil_sublist _

theorem log_sent (sv : ServerSock) (server : Server) (sent : List (Pkt StmtRef)) (c body : Nat) :
    ServerSock.log { sv with
      server, sent := sv.sent ++ sent.map fun pkt => { sender := some c, pkt, body } } =
      sv.log ++ sent.filterMap Pkt.statement := by
  rw [ServerSock.log, List.filterMap_append, List.filterMap_map]
  rfl

structure Recent (P : Pool) : Prop where
  sound : P.Sound
  lru : ∀ (s : Nat) (sv : ServerSock), P.servers[s]? = some sv → Lru sv

/-- What a client's packet does to the cache of a server. -/
theorem Recent.turns (h : P.Recent) {c : Nat} {cs : ClientSock} {p : Pkt Bytes} {l : Link}
    {d : Option Disconnect} (hc : P.clients[c]? = some cs) (hs : P.servers[s]? = some sv)
    (hwork : handleClientWork cfg (P.linkOf cs sv) p = (l, d)) :
    Turns cfg sv.server.serverPreparedStatements l.toServer l.server.serverPreparedStatements ∧
      l.server.queryFailed = false := by
  have hlru := h.lru s sv hs
  have hnodup := (List.nodup_dedup _).sublist hlru.order
  cases d with
  | none =>
    have haccepts := handleClientWork_accepts hwork
    have hsound := h.sound.linkOf hc hs
    obtain ⟨_, _, heffect⟩ := accepts_effect haccepts (Session.positiveIds_of_sound hsound)
    exact ⟨turns_of_accepts haccepts hsound rfl hnodup, heffect.queryFailed.trans hlru.failed⟩
  | some d =>
    rcases (handleClientWork_refuses hwork).2 with rfl | rfl
    · exact ⟨.idle nofun, hlru.failed⟩
    · exact ⟨.idle nofun, hlru.failed⟩

/-- No message of a server is an error or does harm. -/
def ErrorFree (P : Pool) (e : Config × PoolEvent) : Prop :=
  match e.2 with
  | .serverPacket s m => ∀ sv ∈ P.servers[s]?, Harmless sv.server m
  | _ => True

instance (P : Pool) (e : Config × PoolEvent) : Decidable (P.ErrorFree e) := by
  unfold ErrorFree
  split <;> infer_instance

theorem harmless_alike {m : ServerMsg} (h : Harmless sv.server m) (halike : Alike sv sv') :
    Harmless sv'.server m := by
  cases m with
  | errorResponse => exact h.elim
  | commandComplete tag =>
    rw [Harmless, halike.copyMode, halike.requests]
    exact h
  | _ => trivial

theorem Recent.step (h : P.Recent) {e : Config × PoolEvent} (hfree : P.ErrorFree e)
    (hstep : P.stepWith e = some P') : P'.Recent := by
  refine ⟨h.sound.step hstep, ?_⟩
  have hkeeps : ∀ {Q Q' : Pool}, (∀ (s : Nat) sv, Q.servers[s]? = some sv → Lru sv) →
      Keeps Q Q' → ∀ (s : Nat) sv', Q'.servers[s]? = some sv' → Lru sv' := by
    intro Q Q' hlru hk s sv' hs'
    obtain ⟨sv, hs, halike⟩ := hk.servers s sv' hs'
    exact (hlru s sv hs).alike halike
  obtain ⟨cfg, e⟩ := e
  cases does_of_step hstep with
  | quiet hk => exact hkeeps h.lru hk
  | accept | unlinkedClient | freeClient => exact h.lru
  | connect => exact Modify.forall_concat h.lru ⟨List.nil_sublist _, rfl⟩
  | client hc hs hwork hk =>
    refine hkeeps (Modify.forall_modify h.lru fun sv' hs' => ?_) hk
    cases hs.symm.trans hs'
    obtain ⟨hturns, hfailed⟩ := h.turns hc hs hwork
    refine ⟨?_, hfailed⟩
    rw [log_sent]
    exact hturns.recent (h.lru _ _ hs).order
  | @server _ _ cs sv m P₁ _ hbefore hc hs hk =>
    obtain ⟨sv₀, hs₀, halike⟩ := hbefore.servers _ sv hs
    have hlru := (h.lru _ sv₀ hs₀).alike halike
    obtain ⟨hsent, hstill⟩ := @still_processServerPacket cfg (P₁.linkOf cs sv) m hlru.failed
      (harmless_alike (hfree sv₀ hs₀) halike)
    refine hkeeps (Modify.forall_modify (hkeeps h.lru hbefore) fun sv' hs' => ?_) hk
    cases hs.symm.trans hs'
    refine hlru.still ?_ hstill
    rw [log_sent, hsent]
    exact List.append_nil _
  | @unlinkedServer _ sv m _ P₁ _ hbefore hs hswitch hk =>
    cases hswitch
    obtain ⟨sv₀, hs₀, halike⟩ := hbefore.servers _ sv hs
    have hlru := (h.lru _ sv₀ hs₀).alike halike
    refine hkeeps (Modify.forall_modify (hkeeps h.lru hbefore) fun sv' hs' => ?_) hk
    cases hs.symm.trans hs'
    exact hlru.still rfl
      (still_serverSwitch hlru.failed (harmless_alike (hfree sv₀ hs₀) halike))
  | freeServer hs =>
    refine Modify.forall_modify h.lru fun sv' hs' => ⟨List.nil_sublist _, ?_⟩
    exact (h.lru _ _ hs').failed

/-- What becomes of a cache when a statement is prepared, and what is sent: the Parse, one
Close for each statement that is evicted, and the packet that uses the statement, if any. -/
def Prepared (cfg : Config) (cache cache' : List QueryId) (sent : List (Pkt StmtRef))
    (id : QueryId) (query : Bytes) : Prop :=
  ∃ (evicted : List QueryId) (use : Option (Pkt StmtRef)),
    sent = .parse (.pgbouncer id) query :: (evicted.map closePkt ++ use.toList) ∧
    (∀ p ∈ use, p.uses = some id) ∧ cache ++ [id] = evicted ++ cache' ∧ id ∈ cache' ∧
    cache'.length ≤ cfg.maxPreparedStatements ∧
    (evicted ≠ [] → cache'.length = cfg.maxPreparedStatements)

theorem Turns.prepares (h : Turns cfg cache sent cache') {query : Bytes}
    (hparse : .parse (.pgbouncer id) query ∈ sent) : Prepared cfg cache cache' sent id query := by
  cases h with
  | idle hquiet => cases hquiet _ hparse
  | used _ huses =>
    obtain rfl := List.mem_singleton.mp hparse
    cases huses
  | prepared use hnew hmax huses =>
    simp only [List.mem_cons, List.mem_append, List.mem_map, Option.mem_toList] at hparse
    rcases hparse with heq | ⟨_, _, heq⟩ | hmem
    · cases heq
      refine ⟨_, use, rfl, huses, (evicted_append_kept _ _).symm, mem_kept hmax _ _, ?_, ?_⟩
      · rw [kept, List.length_drop]
        omega
      · intro hne
        have hlen := List.length_pos_iff.mpr hne
        rw [evicted, List.length_take] at hlen
        rw [kept, List.length_drop]
        omega
    · cases heq
    · cases huses _ hmem

/-- **The statement cache is an LRU cache**, in every run whose events meet the condition,
whatever `max_prepared_statements` is at each of them.  On every server the cache is in order
of last preparation or use.  And if a packet has a statement prepared, the cache then holds no
more than it may, without those that were the least recently used, and for each of them one
Close is sent, between the Parse and the packet that uses the statement. -/
theorem statement_cache_lru {es : List (Config × PoolEvent)}
    (hfree : Run.Meets stepWith ErrorFree {} es) (hrun : Run.exec stepWith {} es = some P)
    (hs : P.servers[s]? = some sv) :
    sv.server.serverPreparedStatements.Sublist sv.log.dedup ∧
    ∀ {cfg p l d} {c : Nat} {cs : ClientSock}, P.clients[c]? = some cs →
      handleClientWork cfg (P.linkOf cs sv) p = (l, d) →
      ∀ id query, .parse (.pgbouncer id) query ∈ l.toServer →
        Prepared cfg sv.server.serverPreparedStatements l.server.serverPreparedStatements
          l.toServer id query := by
  have hinit : Recent {} := ⟨⟨Counted.nil, by simp⟩, by simp⟩
  have hrecent := Run.invariant (fun h hf hstep => Recent.step h hf hstep) hfree hrun hinit
  exact ⟨(hrecent.lru s sv hs).order, fun hc hwork _ _ =>
    Turns.prepares (hrecent.turns hc hs hwork).1⟩

/-- Two statements are prepared, and the first is used again; for a third one there is only
room when the second is gone. -/
theorem statement_cache_lru_evicts :
    ∃ P sv cs l, Run.exec stepWith {} ([.accept, .connect, .link 0 0 false,
        .clientPacket 0 (.parse [1] [1]) 0 false, .clientPacket 0 (.parse [2] [2]) 0 false,
        .clientPacket 0 (.bind [] [1]) 0 false].map
          fun e => ({ maxPreparedStatements := 3 }, e)) = some P ∧
      P.servers[0]? = some sv ∧ P.clients[0]? = some cs ∧
      handleClientWork { maxPreparedStatements := 2 } (P.linkOf cs sv) (.parse [3] [3]) =
        (l, none) ∧
      l.server.serverPreparedStatements = [1, 3] ∧
      sv.server.serverPreparedStatements.Sublist sv.log.dedup ∧
      Prepared { maxPreparedStatements := 2 } sv.server.serverPreparedStatements
        l.server.serverPreparedStatements l.toServer 3 [3] := by
  obtain ⟨P, hrun, sv, hs, cs, hc, l, hwork, hcache, hparse⟩ : ∃ P, Run.exec stepWith {}
      ([.accept, .connect, .link 0 0 false, .clientPacket 0 (.parse [1] [1]) 0 false,
        .clientPacket 0 (.parse [2] [2]) 0 false, .clientPacket 0 (.bind [] [1]) 0 false].map
          fun e => ({ maxPreparedStatements := 3 }, e)) = some P ∧
      ∃ sv, P.servers[0]? = some sv ∧ ∃ cs, P.clients[0]? = some cs ∧
      ∃ l, handleClientWork { maxPreparedStatements := 2 } (P.linkOf cs sv) (.parse [3] [3]) =
        (l, none) ∧ l.server.serverPreparedStatements = [1, 3] ∧
        .parse (.pgbouncer 3) [3] ∈ l.toServer :=
    ⟨_, rfl, _, rfl, _, rfl, _, rfl, rfl, by decide⟩
  obtain ⟨horder, hprepared⟩ := statement_cache_lru (by decide +kernel) hrun hs
  exact ⟨P, sv, cs, l, hrun, hs, hc, hwork, hcache, horder, hprepared hc hwork 3 [3] hparse⟩

/-- A whole COPY and the Parse of a third statement are sent before the CopyInResponse comes.
The third one has evicted the first one, and when the copy ends this is undone: the first one,
which is the least recently used, comes last. -/
theorem copy_reorders_statements :
    ((Run.exec stepWith {} ([.accept, .connect, .link 0 0 false,
        .clientPacket 0 (.parse [1] [1]) 0 false, .clientPacket 0 (.parse [2] [2]) 0 false,
        .clientPacket 0 .sync 0 false, .serverPacket 0 .parseComplete,
        .serverPacket 0 .parseComplete, .serverPacket 0 (.readyForQuery .idle), .flush 0 false,
        .link 0 0 false, .clientPacket 0 .query 0 false, .clientPacket 0 .copyData 0 false,
        .clientPacket 0 .copyDone 0 false, .clientPacket 0 (.parse [3] [3]) 0 false,
        .clientPacket 0 .sync 0 false, .serverPacket 0 .copyInResponse,
        .serverPacket 0 (.commandComplete .other)].map
          fun e => ({ maxPreparedStatements := 2 }, e))).bind fun P => P.servers[0]?).map
      (fun sv => (sv.log, sv.server.serverPreparedStatements)) = some ([1, 2, 3], [2, 1]) := by
  decide +kernel

/-! ### Runs with errors -/

/-- **Statements are prepared where they are missing**, in every run, whatever errors there
are.  No packet of a client has a statement prepared that is in the cache of the server, and a
Bind or Describe is only sent for one that is. -/
theorem prepared_where_missing {es : List (Config × PoolEvent)} {c : Nat} {cs : ClientSock}
    {p : Pkt Bytes} {l : Link} {d : Option Disconnect} (hrun : Run.exec stepWith {} es = some P)
    (hc : P.clients[c]? = some cs) (hs : P.servers[s]? = some sv)
    (hwork : handleClientWork cfg (P.linkOf cs sv) p = (l, d)) :
    PreparesMissing sv.server.serverPreparedStatements l.server.serverPreparedStatements
      l.toServer := by
  have h := (sound_of_exec hrun).linkOf hc hs
  cases d with
  | none => exact preparesMissing_of_accepts (handleClientWork_accepts hwork) h rfl
  | some d =>
    rcases (handleClientWork_refuses hwork).2 with rfl | rfl <;>
      simp [PreparesMissing, linkOf, tagDirty]

/-- The client uses the statement at another server. -/
theorem prepared_where_missing_twice :
    ∃ P cs sv l, Run.exec stepWith {} sharedRun = some P ∧
      P.clients[0]? = some cs ∧ P.servers[1]? = some sv ∧
      handleClientWork { maxPreparedStatements := 1 } (P.linkOf cs sv) (.bind [] [1]) =
        (l, none) ∧ l.toServer = [.parse (.pgbouncer 1) [7], .bind [] (.pgbouncer 1)] ∧
      PreparesMissing [] l.server.serverPreparedStatements l.toServer :=
  ⟨_, _, _, _, rfl, rfl, rfl, rfl, rfl, @prepared_where_missing { maxPreparedStatements := 1 } _ 1 _
    sharedRun 0 _ (.bind [] [1]) _ none rfl rfl rfl rfl⟩

end Pool

end PgBouncer
