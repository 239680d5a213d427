/-
The statement cache along a run.

The cache is in step with the backend while requests are answered one by one.  Two
things can put it out of step.  A `DISCARD ALL` or `DEALLOCATE ALL` empties it when
the CommandComplete arrives, together with what was prepared behind that command.  And
the requests of a failed batch are undone in the order they were made, which leaves a
statement behind that was prepared and then evicted in the failed part.
-/
import PgBouncer.Proofs.Cache

namespace PgBouncer

open UndoLog

namespace Session

/-- The cache has one entry for each statement the backend has, and no other. -/
def CacheExact (s : Session) : Prop :=
  ∀ id, s.link.server.serverPreparedStatements.count id = if id ∈ s.backend.stmts then 1 else 0

/-- What the packets up to the Sync at which a failed batch ends did to the statements. -/
def aborted (s : Session) : List StmtOp :=
  (real (s.link.server.outstandingRequests.takeWhile fun r => r.type ≠ .sync)).map
    OutstandingRequest.op

/-- No packet the backend has not read names a statement. -/
def NoneNamed (s : Session) : Prop :=
  ∀ p ∈ s.unread, p.namesStatement = false

instance (s : Session) : Decidable s.NoneNamed :=
  inferInstanceAs (Decidable (∀ p ∈ s.unread, p.namesStatement = false))

/-- The conditions under which the cache stays in step, in runs without COPY. -/
def StmtOk (s : Session) : SessionEvent → Prop
  | .reply .copyInResponse => False
  -- Nothing that names a statement was sent behind a command that drops all of them.
  | .reply (.commandComplete tag) => tag ≠ .other → s.NoneNamed
  -- Nothing that names a statement was sent behind a failed batch, and no statement that was
  -- first prepared in the failed part of it was last evicted there.
  | .reply (.readyForQuery _) => s.batchFailed = true → s.NoneNamed ∧ RestorableAll s.aborted
  | _ => True

instance (s : Session) (e : SessionEvent) : Decidable (StmtOk s e) := by
  rcases e with _ | _ | ⟨⟨⟩⟩ | _ <;> dsimp only [StmtOk] <;> infer_instance

variable {s : Session}

theorem StmtOk.noCopy {e : SessionEvent} (h : StmtOk s e) : NoCopy s e := by
  rintro rfl
  exact h

/-- The cache is what the backend is going to have; `pre` are the packets it is not done
with. -/
structure Cached (cfg : Config) (s : Session) (pre : List (Pkt StmtRef)) : Prop where
  nodup : s.backend.stmts.Nodup
  fit : FitAll s.backend.stmts (pre ++ s.unread)
  perm : s.link.server.serverPreparedStatements.Perm
    (stmtsBehind s.backend.stmts (pre ++ s.unread))
  disabled : cfg.isPreparedStatementsEnabled = false →
    s.backend.stmts = [] ∧ ∀ p ∈ pre ++ s.unread, p.namesStatement = false

section

variable {cfg : Config} {s s' : Session} {pre : List (Pkt StmtRef)}

theorem count_of_nodup {stmts : List QueryId} (h : stmts.Nodup) (id : QueryId) :
    stmts.count id = if id ∈ stmts then 1 else 0 := by
  split
  · rename_i hmem
    exact List.count_eq_one_of_mem h hmem
  · rename_i hmem
    exact List.count_eq_zero_of_not_mem hmem

/-- With nothing on its way that names a statement, the cache is exact. -/
theorem Cached.exact (h : Cached cfg s pre) (hpre : ∀ p ∈ pre, p.namesStatement = false)
    (hunread : s.NoneNamed) : s.CacheExact := by
  have hall : ∀ p ∈ pre ++ s.unread, p.namesStatement = false := by
    intro p hp
    rcases List.mem_append.mp hp with h | h
    · exact hpre p h
    · exact hunread p h
  have hperm := h.perm
  rw [(fitAll_of_not_names hall s.backend.stmts).2] at hperm
  intro id
  rw [hperm.count_eq, count_of_nodup h.nodup]

theorem Cached.client {p : Pkt Bytes} (h : Cached cfg s pre) (hs : s.Sane)
    (hstep : s.clientStep cfg p = some s') : Cached cfg s' pre := by
  obtain ⟨added, sent, heff, hacc, hs'⟩ := clientStep_effect hs hstep
  obtain ⟨others, hsound⟩ := hs.sound
  have hcache := accepts_cacheStep hacc hsound heff.toServer
  have hbackend : s'.backend = s.backend := by rw [hs']
  have hunread : pre ++ s'.unread = (pre ++ s.unread) ++ sent := by
    rw [unread_append hs heff.toServer hbackend, List.append_assoc]
  refine ⟨by rw [hbackend]; exact h.nodup, ?_, ?_, ?_⟩
  · rw [hunread, hbackend]
    exact fitAll_append.mpr ⟨h.fit, hcache.fit.perm h.perm⟩
  · rw [hunread, hbackend, stmtsBehind_append]
    exact hcache.perm.trans (applyAll_perm h.perm)
  · intro hoff
    obtain ⟨hnil, hplain⟩ := h.disabled hoff
    rw [hunread, hbackend]
    refine ⟨hnil, fun q hq => ?_⟩
    rcases List.mem_append.mp hq with hold | hnew
    · exact hplain q hold
    · exact hcache.disabled hoff q hnew

variable {p : Pkt StmtRef} {m : ServerMsg} {state : TxStatus}

theorem Cached.read {b : Backend} (h : Cached cfg s pre) (hs' : s' = { s with backend := b })
    (hstmts : b.stmts = s.backend.stmts) (hunread : s.unread = p :: s'.unread) :
    Cached cfg s' (pre ++ if trackOutstanding s.backend.mode.copying p.type then [p] else []) := by
  have hb : s'.backend.stmts = s.backend.stmts := by rw [hs', hstmts]
  have hlink : s'.link = s.link := by rw [hs']
  have hfit := h.fit
  have hperm := h.perm
  rw [hunread] at hfit hperm
  have hnodup : s'.backend.stmts.Nodup := hb ▸ h.nodup
  have hsub : ∀ q ∈ (pre ++ if trackOutstanding s.backend.mode.copying p.type then [p] else []) ++
      s'.unread, q ∈ pre ++ s.unread := by
    intro q hq
    rw [hunread]
    split at hq <;> simp only [List.mem_append, List.mem_cons, List.not_mem_nil, or_false] at hq ⊢
    · tauto
    · tauto
  have hdisabled : cfg.isPreparedStatementsEnabled = false → s'.backend.stmts = [] ∧
      ∀ q ∈ (pre ++ if trackOutstanding s.backend.mode.copying p.type then [p] else []) ++
        s'.unread, q.namesStatement = false := by
    intro hoff
    rw [hb]
    exact ⟨(h.disabled hoff).1, fun q hq => (h.disabled hoff).2 q (hsub q hq)⟩
  by_cases htrack : trackOutstanding s.backend.mode.copying p.type = true
  · rw [if_pos htrack] at hdisabled ⊢
    refine ⟨hnodup, ?_, ?_, hdisabled⟩
    · rw [hb, List.append_assoc]
      exact hfit
    · rw [hb, hlink, List.append_assoc]
      exact hperm
  · -- A packet that is not answered names no statement.
    have hplain : p.namesStatement = false := by
      refine not_names_of_not_request (Bool.eq_false_iff.mpr fun hreq => htrack ?_)
      cases hc : s.backend.mode.copying
      · rw [trackOutstanding_false, hreq]
      · rw [trackOutstanding_true, hreq, Bool.true_or]
    have hop := (op_of_not_names hplain).1
    rw [if_neg htrack, List.append_nil] at hdisabled ⊢
    obtain ⟨hfront, hback⟩ := fitAll_append.mp hfit
    refine ⟨hnodup, ?_, ?_, hdisabled⟩
    · rw [hb]
      refine fitAll_append.mpr ⟨hfront, ?_⟩
      have htail := hback.2
      rwa [hop] at htail
    · rw [hb, hlink]
      rw [stmtsBehind_append] at hperm ⊢
      rw [stmtsBehind, List.map_cons, hop] at hperm
      exact hperm

/-! ### A message of the backend -/

theorem Cached.same (h : Cached cfg s pre) (hunread : s'.unread = s.unread)
    (hstmts : s'.backend.stmts = s.backend.stmts)
    (hcache : s'.link.server.serverPreparedStatements = s.link.server.serverPreparedStatements) :
    Cached cfg s' pre := by
  refine ⟨hstmts ▸ h.nodup, ?_, ?_, ?_⟩
  · rw [hstmts, hunread]
    exact h.fit
  · rw [hcache, hstmts, hunread]
    exact h.perm
  · rw [hstmts, hunread]
    exact h.disabled

/-- The backend is done with the packets it was not done with. -/
theorem Cached.done (h : Cached cfg s pre) (hunread : s'.unread = s.unread)
    (hstmts : s'.backend.stmts = stmtsBehind s.backend.stmts pre)
    (hcache : s'.link.server.serverPreparedStatements = s.link.server.serverPreparedStatements) :
    Cached cfg s' [] := by
  obtain ⟨_, hback⟩ := fitAll_append.mp h.fit
  refine ⟨?_, ?_, ?_, ?_⟩
  · rw [hstmts]
    exact nodup_applyAll h.nodup
  · rw [hstmts, hunread]
    exact hback
  · rw [hcache, hstmts, hunread, List.nil_append, ← stmtsBehind_append]
    exact h.perm
  · intro hoff
    obtain ⟨hnil, hplain⟩ := h.disabled hoff
    rw [hstmts, hunread]
    refine ⟨?_, fun p hp => hplain p (List.mem_append_right pre hp)⟩
    rw [(fitAll_of_not_names (fun p hp => hplain p (List.mem_append_left _ hp)) _).2, hnil]

/-- All statements are dropped, and none is named behind that. -/
theorem Cached.dropped {pre' : List (Pkt StmtRef)} (hpre : ∀ p ∈ pre', p.namesStatement = false)
    (hnone : s.NoneNamed) (hunread : s'.unread = s.unread) (hstmts : s'.backend.stmts = [])
    (hcache : s'.link.server.serverPreparedStatements = []) : Cached cfg s' pre' := by
  have hall : ∀ p ∈ pre' ++ s'.unread, p.namesStatement = false := by
    intro p hp
    rcases List.mem_append.mp hp with h | h
    · exact hpre p h
    · exact hnone p (hunread ▸ h)
  obtain ⟨hfit, hbehind⟩ := fitAll_of_not_names hall s'.backend.stmts
  refine ⟨by rw [hstmts]; exact List.nodup_nil, hfit, ?_, fun _ => ⟨hstmts, hall⟩⟩
  rw [hbehind, hstmts, hcache]

/-- Messages that leave the cache alone. -/
theorem cacheAfter_of_ne {sv : Server} (hready : ∀ state, m ≠ .readyForQuery state)
    (herror : m ≠ .errorResponse) (hcomplete : ∀ tag, m ≠ .commandComplete tag) :
    cacheAfter cfg sv m = sv.serverPreparedStatements := by
  cases m with
  | readyForQuery state => exact absurd rfl (hready state)
  | errorResponse => exact absurd rfl herror
  | commandComplete tag => exact absurd rfl (hcomplete tag)
  | _ => rfl

/-- The cache after a CommandComplete. -/
theorem cacheAfter_commandComplete {sv : Server} (hcopy : sv.copyMode = false) (tag : Tag) :
    cacheAfter cfg sv (.commandComplete tag) =
      if cfg.isPreparedStatementsEnabled && tag != .other then []
      else sv.serverPreparedStatements := by
  simp [cacheAfter, endCopyCache, hcopy]

/-- A command that drops all statements. -/
theorem Cached.cacheAfter_eq_nil (h : Cached cfg s pre) {tag : Tag} (htag : tag ≠ .other)
    (hcopy : s.link.server.copyMode = false) :
    cacheAfter cfg s.link.server (.commandComplete tag) = [] := by
  rw [cacheAfter_commandComplete hcopy]
  split
  · rfl
  · rename_i hoff
    obtain ⟨hnil, hplain⟩ := h.disabled (by simpa [htag] using hoff)
    have hperm := h.perm
    rw [(fitAll_of_not_names hplain _).2, hnil] at hperm
    exact hperm.eq_nil

/-! ### The end of a failed batch -/

theorem op_of_sync {r : OutstandingRequest} (h : r.type = .sync) : r.op = .keep := by
  simp [OutstandingRequest.op, h]

theorem count_undoCache (id : QueryId) (op : StmtOp) (cache : List QueryId) :
    (undoCache op cache).count id = undoCount id (cache.count id) op := by
  cases op with
  | keep => rfl
  | add x =>
    simp only [undoCache, undoCount]
    split
    · rename_i hmem
      have hc := count_eraseLast hmem id
      rw [List.count_cons] at hc
      split
      · rename_i hx
        rw [hx, beq_self_eq_true, if_pos rfl] at hc
        rw [← hc, hx]
        rfl
      · rename_i hx
        rwa [if_neg (by simpa using hx), Nat.add_zero] at hc
    · rename_i hmem
      split
      · rename_i hx
        rw [← hx, List.count_eq_zero_of_not_mem hmem]
      · rfl
  | remove x =>
    simp only [undoCache, undoCount, List.count_append, List.count_singleton]
    by_cases hx : x = id <;> simp [hx]

/-- `clear_outstanding_requests_until` a Sync undoes what came ahead of it, in order. -/
theorem count_clearCache (id : QueryId) :
    ∀ {q : List OutstandingRequest} (cache : List QueryId),
      (∀ r ∈ q, r.action = .fake → r.op = .keep) →
      (clearCache [.sync] q cache).count id =
        undoAll id (cache.count id)
          ((real (q.takeWhile fun r => r.type ≠ .sync)).map OutstandingRequest.op) := by
  intro q
  induction q with
  | nil => intro cache _; rfl
  | cons r rest ih =>
    intro cache hfakes
    rw [clearCache, List.takeWhile_cons]
    by_cases hsync : r.type = .sync
    · rw [if_pos (by simp [hsync]), op_of_sync hsync, if_neg (by simp [hsync])]
      rfl
    · have hrest := ih (undoCache r.op cache) fun x hx => hfakes x (List.mem_cons_of_mem r hx)
      rw [if_neg (by simpa using hsync), if_pos (by simpa using hsync), hrest,
        count_undoCache]
      by_cases hfake : r.action = .fake
      · rw [real_cons_fake hfake, hfakes r List.mem_cons_self hfake]
        rfl
      · rw [real_cons_of_ne hfake]
        rfl

/-- The packets of the failed part are those the backend has skipped. -/
theorem takeWhile_matched {post : List (Pkt StmtRef)} :
    ∀ {q : List OutstandingRequest} {skipped : List (Pkt StmtRef)},
      (∀ r ∈ q, r.action = .fake → r.type ∉ [ReqType.sync]) →
      (∀ p ∈ skipped, p.type ≠ .sync) →
      List.Forall₂ Matches (real q) (skipped ++ .sync :: post) →
      (real (q.takeWhile fun r => r.type ≠ .sync)).map OutstandingRequest.op =
        skipped.map Pkt.op := by
  intro q
  induction q with
  | nil =>
    intro skipped _ _ h
    have hlen := h.length_eq
    simp at hlen
  | cons r rest ih =>
    intro skipped hfakes hsk h
    have hrest : ∀ x ∈ rest, x.action = .fake → x.type ∉ [ReqType.sync] :=
      fun x hx => hfakes x (List.mem_cons_of_mem r hx)
    rw [List.takeWhile_cons]
    by_cases hfake : r.action = .fake
    · have hns := hfakes r List.mem_cons_self hfake
      rw [real_cons_fake hfake] at h
      rw [if_pos (by simpa using hns), real_cons_fake hfake]
      exact ih hrest hsk h
    · rw [real_cons_of_ne hfake] at h
      cases skipped with
      | nil =>
        rw [List.nil_append, List.forall₂_cons] at h
        rw [if_neg (by simpa using h.1.type)]
        rfl
      | cons p ps =>
        rw [List.cons_append, List.forall₂_cons] at h
        have hns : r.type ≠ .sync := h.1.type ▸ hsk p List.mem_cons_self
        rw [if_pos (by simpa using hns), real_cons_of_ne hfake, List.map_cons, List.map_cons,
          h.1.op, ih hrest (fun x hx => hsk x (List.mem_cons_of_mem p hx)) h.2]

/-- The cache after the ReadyForQuery behind a failed batch. -/
theorem Lockstep.cacheAfter_resync {skipped : List (Pkt StmtRef)}
    (hl : Lockstep false s (skipped ++ [.sync])) (hsk : Skipped false skipped)
    (hqf : s.link.server.queryFailed = true) :
    cacheAfter cfg s.link.server (.readyForQuery state) =
      clearCache [.sync] s.link.server.outstandingRequests
        s.link.server.serverPreparedStatements := by
  obtain ⟨p, rest, rfl, hp⟩ := hsk.head rfl
  have hm := hl.matched
  rw [List.append_assoc] at hm
  obtain ⟨r, tail, _, _, _, hpop⟩ := matched_cons hl.head hm
  have hnot : p.type ∉ Handled.readyTypes := by
    rw [mem_readyTypes, hp]
    simp
  simp only [cacheAfter]
  rw [if_neg (by rw [hpop, decide_eq_false hnot]; simp), if_pos hqf]

/-- **The end of a failed batch.**  The cache is exact if and only if no statement that was
first prepared in the failed part was last evicted there. -/
theorem Cached.resync_iff {skipped : List (Pkt StmtRef)} (h : Cached cfg s (skipped ++ [.sync]))
    (hl : Lockstep false s (skipped ++ [.sync])) (hsk : Skipped false skipped)
    (hqf : s.link.server.queryFailed = true) (hnone : s.NoneNamed)
    (hr : Replied cfg s.link s'.link (.readyForQuery state))
    (hstmts : s'.backend.stmts = s.backend.stmts) :
    s'.CacheExact ↔ RestorableAll s.aborted := by
  have hm := hl.matched
  rw [List.append_assoc] at hm
  have haborted : s.aborted = skipped.map Pkt.op :=
    takeWhile_matched (hl.fake_not_mem [.sync] (by decide)) hsk.noSync hm
  have hplain : ∀ p ∈ Pkt.sync :: s.unread, p.namesStatement = false := by
    intro p hp
    rcases List.mem_cons.mp hp with rfl | hp'
    · rfl
    · exact hnone p hp'
  have hfit := h.fit
  have hperm := h.perm
  rw [List.append_assoc, List.singleton_append] at hfit hperm
  rw [stmtsBehind_append, (fitAll_of_not_names hplain _).2] at hperm
  have hlegal : LegalAll s.backend.stmts s.aborted := by
    rw [haborted]
    exact (fitAll_append.mp hfit).1.legalAll
  have hcount : ∀ id, s'.link.server.serverPreparedStatements.count id =
      undoAll id ((applyAll s.backend.stmts s.aborted).count id) s.aborted := by
    intro id
    rw [hr.cache, hl.cacheAfter_resync hsk hqf,
      count_clearCache id _ (fun r hr' hfake => (hl.fakes r hr' hfake).op), hperm.count_eq,
      stmtsBehind, ← haborted]
    rfl
  rw [restorableAll_iff]
  refine forall_congr' fun id => ?_
  rw [hcount, hstmts, ← count_of_nodup h.nodup]
  exact undoAll_eq_count_iff id h.nodup hlegal

/-- An exact cache is in step when nothing on its way names a statement. -/
theorem Cached.of_exact (hexact : s.CacheExact) (hnodup : s.backend.stmts.Nodup)
    (hnone : s.NoneNamed)
    (hdisabled : cfg.isPreparedStatementsEnabled = false → s.backend.stmts = []) :
    Cached cfg s [] := by
  obtain ⟨hfit, hbehind⟩ := fitAll_of_not_names hnone s.backend.stmts
  refine ⟨hnodup, hfit, ?_, fun hoff => ⟨hdisabled hoff, hnone⟩⟩
  rw [List.nil_append, hbehind]
  refine List.perm_iff_count.mpr fun id => ?_
  rw [hexact id, count_of_nodup hnodup]

/-! ### One message -/

/-- What a completed packet leaves of the statements. -/
theorem complete_stmts {stmts stmts' : List QueryId}
    (h : Backend.complete stmts p m = some stmts') :
    (∃ tag, m = .commandComplete tag ∧ p = .execute ∧ stmts' = Backend.stmtsAfter tag stmts) ∨
      (∀ tag, m ≠ .commandComplete tag) ∧ stmts' = stmtsBehind stmts [p] := by
  unfold Backend.complete at h
  split at h <;> first
    | exact .inl ⟨_, rfl, rfl, (Option.some.inj h).symm⟩
    | exact .inr ⟨fun _ => ServerMsg.noConfusion, (Option.some.inj h).symm⟩
    | exact absurd h (by simp)

/-- A ReadyForQuery that answers the request at the head of the queue. -/
theorem Cached.answered (h : Cached cfg s [p]) (hl : Lockstep false s [p])
    (hp : p.type.isReady = true) (hunread : s'.unread = s.unread)
    (hstmts : s'.backend.stmts = s.backend.stmts)
    (hr : Replied cfg s.link s'.link (.readyForQuery state)) : Cached cfg s' [] := by
  obtain ⟨r, rest, _, _, _, hpop⟩ := matched_cons hl.head hl.matched
  have hop := (op_of_not_names (not_names_of_ready hp)).1
  refine h.done hunread ?_ (hr.cache.trans ?_)
  · rw [hstmts, stmtsBehind, List.map_singleton, hop]
    rfl
  · simp only [cacheAfter]
    rw [if_pos (by rw [hpop, decide_eq_true (mem_readyTypes.mpr hp)])]

theorem Cached.reply {pre' : List (Pkt StmtRef)} (h : Cached cfg s pre) (hl : Lockstep false s pre)
    (hs : s.Sane) (hok : StmtOk s (.reply m)) (hstep : s.replyStep cfg m = some s')
    (hturn : Turn s s' m pre pre') : Cached cfg s' pre' := by
  have hr := replyStep_replied hs hstep
  obtain ⟨b, l, hemit, _, hs'⟩ := replyStep_some hstep
  have hemits : Backend.Emits s.backend m b := Backend.emit_emits hemit
  have hb : s'.backend = b := by rw [hs']
  have hread : s'.backend.read = s.backend.read := hb ▸ hemits.position.1
  have hunread : s'.unread = s.unread := by rw [unread, unread, hr.toServer, hread]
  have hcopying : s.backend.mode.copying = false := hl.stage.not_copying
  have hcopy : s.link.server.copyMode = false := hl.copyMode.trans hcopying
  cases hemits with
  | async hm =>
    obtain rfl := hturn.eq_pre (.inl hm) fun _ => hcopying
    refine h.same hunread (by rw [hb]) (hr.cache.trans ?_)
    refine cacheAfter_of_ne ?_ ?_ ?_ <;> intros <;> rintro rfl <;>
      exact absurd hm (by simp [ServerMsg.async])
  | @more p _ hmode hmore =>
    obtain rfl := hturn.eq_pre (.inr (by rw [hb]; simp [hmode])) fun _ => hcopying
    refine h.same hunread (by rw [hb]) (hr.cache.trans ?_)
    refine cacheAfter_of_ne ?_ ?_ ?_ <;> intros <;> rintro rfl <;>
      exact absurd hmore (by cases p <;> simp [Backend.more])
  | @command tag hmode =>
    obtain rfl := hturn.eq_pre (.inr (by rw [hb]; simp [hmode])) fun _ => hcopying
    obtain ⟨rfl, _, _, _⟩ := (hmode ▸ hl.stage).of_busy
    by_cases htag : tag = .other
    · subst htag
      refine h.same hunread (by rw [hb]; rfl) (hr.cache.trans ?_)
      rw [cacheAfter_commandComplete hcopy]
      simp
    · refine .dropped ?_ (hok htag) hunread ?_ (hr.cache.trans (h.cacheAfter_eq_nil htag hcopy))
      · intro p hp
        rw [List.mem_singleton.mp hp]
        rfl
      · rw [hb]
        exact if_neg htag
  | copyIn => exact absurd hok (by simp [StmtOk])
  | @complete p _ stmts hmode hcomplete =>
    obtain rfl := hturn.eq_nil (complete_facts hcomplete).2.2 (by rw [hb])
    obtain ⟨rfl, _, _, _⟩ := (hmode ▸ hl.stage).of_busy
    rcases complete_stmts hcomplete with ⟨tag, rfl, rfl, rfl⟩ | ⟨hne, rfl⟩
    · by_cases htag : tag = .other
      · subst htag
        refine h.done hunread (by rw [hb]; rfl) (hr.cache.trans ?_)
        rw [cacheAfter_commandComplete hcopy]
        simp
      · refine .dropped (by simp) (hok htag) hunread ?_
          (hr.cache.trans (h.cacheAfter_eq_nil htag hcopy))
        rw [hb]
        exact if_neg htag
    · refine h.done hunread (by rw [hb]) (hr.cache.trans ?_)
      have hplain := (complete_facts hcomplete).1
      refine cacheAfter_of_ne ?_ ?_ hne
      · rintro state rfl
        exact absurd hplain (by simp [plain])
      · rintro rfl
        exact absurd hplain (by simp [plain])
  | @ready p state hmode hp =>
    obtain rfl := hturn.eq_nil rfl (by rw [hb])
    obtain ⟨rfl, _, _, _⟩ := (hmode ▸ hl.stage).of_busy
    exact h.answered hl hp hunread (by rw [hb]) hr
  | @error p hmode =>
    have hmode' : s'.backend.mode ≠ .idle := by
      rw [hb]
      cases p.type.isReady <;> simp [Backend.failMode]
    obtain rfl := hturn.eq_pre (.inr hmode') fun _ => hcopying
    refine h.same hunread (by rw [hb]) (hr.cache.trans ?_)
    simp [cacheAfter, endCopyCache, hcopy]
  | @failedReady state hmode =>
    obtain rfl := hturn.eq_nil rfl (by rw [hb])
    have hstage := hl.stage
    rw [hmode] at hstage
    cases hstage with
    | failed _ hp _ => exact h.answered hl hp hunread (by rw [hb]) hr
    | @resync skipped hqf hsk _ =>
      obtain ⟨p, ps, rfl, hp⟩ := hsk.head rfl
      have hm := hl.matched
      rw [List.append_assoc] at hm
      obtain ⟨r, rest, hcons, hmatch, _, _⟩ := matched_cons hl.head hm
      obtain ⟨hnone, hrestorable⟩ :=
        hok (batchFailed_of_not_ready hqf hcons (hmatch.type ▸ hp))
      have hstmts : s'.backend.stmts = s.backend.stmts := by rw [hb]
      have hexact := (h.resync_iff hl hsk hqf hnone hr hstmts).mpr hrestorable
      refine .of_exact hexact (hstmts ▸ h.nodup) (fun q hq => hnone q (hunread ▸ hq)) ?_
      rw [hstmts]
      exact fun hoff => (h.disabled hoff).1
  | copyError hmode =>
    rcases hmode with hm | hm | hm <;> rw [hm] at hcopying <;>
      exact absurd hcopying (by simp [Mode.copying])
  | copyComplete hmode =>
    rw [hmode] at hcopying
    exact absurd hcopying (by simp [Mode.copying])

end

/-! ### Whole runs -/

theorem Cached.step {cfg : Config} {s s' : Session} {pre : List (Pkt StmtRef)}
    {e : SessionEvent} (h : Cached cfg s pre) (hl : Lockstep false s pre) (hs : s.Sane)
    (hok : StmtOk s e) (hstep : s.step cfg e = some s') :
    ∃ pre', Lockstep false s' pre' ∧ Cached cfg s' pre' := by
  cases e with
  | client p => exact ⟨pre, hl.client hs hok.noCopy hstep, h.client hs hstep⟩
  | read =>
    obtain ⟨p, hunread, _, hl'⟩ := hl.read hstep
    obtain ⟨q, b, _, _, htake, hs'⟩ := readStep_some hstep
    obtain ⟨mode, _, rfl⟩ := Option.map_eq_some_iff.mp htake
    exact ⟨_, hl', h.read hs' rfl hunread⟩
  | reply m =>
    obtain ⟨pre', hl', hturn⟩ := hl.reply hok.noCopy (replyStep_replied hs hstep)
      (replyStep_emits hstep)
    exact ⟨pre', hl', h.reply hl hs hok hstep hturn⟩
  | arriving =>
    obtain rfl := Option.some.inj hstep
    exact ⟨pre, hl.arriving, h.nodup, h.fit, h.perm, h.disabled⟩

theorem Reach.cached {cfg : Config} {u : Setup}
    (hu : cfg.isPreparedStatementsEnabled = false → u.cache = []) (h : Reach cfg StmtOk u s) :
    ∃ pre, Lockstep false s pre ∧ Cached cfg s pre := by
  induction h with
  | start =>
    exact ⟨[], .start false u, u.nodup, trivial, .refl _,
      fun hoff => ⟨hu hoff, by simp [Setup.session, unread]⟩⟩
  | step hreach e hok hstep ih =>
    obtain ⟨pre, hl, hc⟩ := ih
    exact hc.step hl hreach.sane hok hstep
  | others _ g refs _ ih =>
    obtain ⟨pre, hl, hc⟩ := ih
    exact ⟨pre, hl.others g, hc.nodup, hc.fit, hc.perm, hc.disabled⟩

/-- **The cache at the end of a failed batch.**  With nothing on its way behind the batch
that names a statement, the cache is exact if and only if no statement that was first
prepared in the failed part of the batch was last evicted there. -/
theorem cacheExact_iff_restorableAll (cfg : Config) (u : Setup)
    (hu : cfg.isPreparedStatementsEnabled = false → u.cache = []) {s s' : Session}
    {state : TxStatus} (h : Reach cfg StmtOk u s) (hfailed : s.batchFailed = true)
    (hnone : s.NoneNamed) (hstep : s.step cfg (.reply (.readyForQuery state)) = some s') :
    s'.CacheExact ↔ RestorableAll s.aborted := by
  obtain ⟨pre, hl, hc⟩ := h.cached hu
  have hr := replyStep_replied h.sane hstep
  obtain ⟨b, l, hemit, _, hs'⟩ := replyStep_some hstep
  have hqf : s.link.server.queryFailed = true := (Bool.and_eq_true_iff.mp hfailed).1
  have hstage := hl.stage
  cases Backend.emit_emits hemit with
  | async hm => exact absurd hm (by simp [ServerMsg.async])
  | more _ hmore => exact absurd (more_facts hmore).1 (by simp [plain])
  | complete _ hcomplete => exact absurd (complete_facts hcomplete).1 (by simp [plain])
  | ready hmode _ =>
    obtain ⟨_, hnot, _, _⟩ := (hmode ▸ hstage).of_busy
    exact absurd (hqf.symm.trans hnot) (by simp)
  | failedReady hmode =>
    rw [hmode] at hstage
    cases hstage with
    | failed _ hp _ =>
      obtain ⟨r, rest, hcons, hmatch, _, _⟩ := matched_cons hl.head hl.matched
      rw [batchFailed_of_ready hcons (hmatch.type ▸ hp)] at hfailed
      exact absurd hfailed (by simp)
    | resync _ hsk _ => exact hc.resync_iff hl hsk hqf hnone hr (by rw [hs'])

/-- An eviction in a failed batch is undone. -/
theorem cacheExact_iff_restorableAll_evict :
    ∃ s s', Reach { maxPreparedStatements := 1 } StmtOk .empty s ∧
      s.step { maxPreparedStatements := 1 } (.reply (.readyForQuery .idle)) = some s' ∧
      s.aborted = [.add 2, .remove 1] ∧ s'.backend.stmts = [1] ∧ s'.CacheExact := by
  have hrun : ((Setup.empty.session.run { maxPreparedStatements := 1 } StmtOk
      [.client (.parse [1] [10]), .client .sync, .read, .reply .parseComplete, .read,
        .reply (.readyForQuery .idle), .client (.parse [2] [11]), .client .sync, .read,
        .reply .errorResponse, .read, .read]).bind fun s =>
      (s.step { maxPreparedStatements := 1 } (.reply (.readyForQuery .idle))).map fun s' =>
        (s.batchFailed, s.unread, s.aborted, s'.backend.stmts)) =
      some (true, [], [.add 2, .remove 1], [1]) := by decide +kernel
  obtain ⟨s, hs, hmap⟩ := Option.bind_eq_some_iff.mp hrun
  obtain ⟨s', hstep, heq⟩ := Option.map_eq_some_iff.mp hmap
  simp only [Prod.mk.injEq] at heq
  obtain ⟨hfailed, hunread, haborted, hstmts⟩ := heq
  have hreach : Reach { maxPreparedStatements := 1 } StmtOk .empty s := Reach.run .start hs
  refine ⟨s, s', hreach, hstep, haborted, hstmts, ?_⟩
  refine (cacheExact_iff_restorableAll _ .empty (fun _ => rfl) hreach hfailed ?_ hstep).mpr ?_
  · simp [NoneNamed, hunread]
  · rw [haborted]
    decide

/-- A statement that is prepared and evicted in a failed batch stays in the cache, and does
not exist. -/
theorem not_cacheExact_parse_evict :
    ∃ s s', Reach { maxPreparedStatements := 1 } (fun _ _ => True) .empty s ∧
      s.step { maxPreparedStatements := 1 } (.reply (.readyForQuery .idle)) = some s' ∧
      s.batchFailed = true ∧ s'.unread = [] ∧ s'.backend.stmts = [] ∧
      s'.link.server.serverPreparedStatements = [1] ∧ ¬s'.CacheExact := by
  have hrun : ((Setup.empty.session.run { maxPreparedStatements := 1 } (fun _ _ => True)
      [.client (.parse [1] [10]), .client (.parse [2] [11]), .client .sync, .read,
        .reply .errorResponse, .read, .read, .read]).bind fun s =>
      (s.step { maxPreparedStatements := 1 } (.reply (.readyForQuery .idle))).map fun s' =>
        (s.batchFailed, s'.unread, s'.backend.stmts, s'.link.server.serverPreparedStatements)) =
      some (true, [], [], [1]) := by decide +kernel
  obtain ⟨s, hs, hmap⟩ := Option.bind_eq_some_iff.mp hrun
  obtain ⟨s', hstep, heq⟩ := Option.map_eq_some_iff.mp hmap
  simp only [Prod.mk.injEq] at heq
  obtain ⟨hfailed, hunread, hstmts, hcache⟩ := heq
  refine ⟨s, s', Reach.run .start hs, hstep, hfailed, hunread, hstmts, hcache, fun hexact => ?_⟩
  have hcount := hexact 1
  rw [hcache, hstmts] at hcount
  exact absurd hcount (by decide)

/-! ### Runs without errors -/

/-- Nothing fails. -/
def ErrorFree (_ : Session) (e : SessionEvent) : Prop := e ≠ .reply .errorResponse

instance (s : Session) (e : SessionEvent) : Decidable (ErrorFree s e) :=
  inferInstanceAs (Decidable (_ ≠ _))

/-- Nothing that names a statement was sent behind a command that drops all of them. -/
def DiscardOk (s : Session) : SessionEvent → Prop
  | .reply (.commandComplete tag) => tag ≠ .other → s.NoneNamed
  | _ => True

instance (s : Session) (e : SessionEvent) : Decidable (DiscardOk s e) := by
  rcases e with _ | _ | ⟨⟨⟩⟩ | _ <;> dsimp only [DiscardOk] <;> infer_instance

/-- The conditions on a run: no errors, no COPY, and no statement behind a command that drops
them. -/
def CleanOk (s : Session) (e : SessionEvent) : Prop :=
  ErrorFree s e ∧ NoCopy s e ∧ DiscardOk s e

instance (s : Session) (e : SessionEvent) : Decidable (CleanOk s e) :=
  inferInstanceAs (Decidable (_ ∧ _ ∧ _))

/-- The backend has answered everything that was sent to it. -/
def Answered (s : Session) : Prop :=
  s.backend.mode = .idle ∧ ∀ p ∈ s.unread, p.type.isRequest = false

/-- Without errors no batch fails. -/
theorem Reach.stmtOk {cfg : Config} {u : Setup} (h : Reach cfg CleanOk u s) :
    Reach cfg StmtOk u s ∧ s.link.server.queryFailed = false := by
  induction h with
  | start => exact ⟨.start, rfl⟩
  | @step s s' _ e hok hstep ih =>
    obtain ⟨hreach, hqf⟩ := ih
    refine ⟨hreach.step e ?_ hstep, ?_⟩
    · unfold StmtOk
      split
      · exact hok.2.1 rfl
      · exact hok.2.2
      · rw [batchFailed_of_not_failed hqf]
        exact fun hc => absurd hc (by simp)
      · trivial
    · cases e with
      | client p =>
        obtain ⟨_, _, heff, _, _⟩ := clientStep_effect hreach.sane hstep
        rw [heff.queryFailed, hqf]
      | read =>
        obtain ⟨_, _, _, _, _, rfl⟩ := readStep_some hstep
        exact hqf
      | reply m =>
        rw [(replyStep_replied hreach.sane hstep).queryFailed, hqf]
        unfold queryFailedAfter
        split
        · rfl
        · exact absurd rfl hok.1
        · rfl
      | arriving =>
        obtain rfl := Option.some.inj hstep
        exact hqf
  | others _ g refs hsound ih => exact ⟨ih.1.others g refs hsound, ih.2⟩

/-- **The cache in runs without errors and without COPY.**  Whenever everything has been
answered the cache is exact, and no packet prepares a name that exists or uses one that does not. -/
theorem cacheExact_of_cleanOk (cfg : Config) (u : Setup)
    (hu : cfg.isPreparedStatementsEnabled = false → u.cache = []) {s : Session}
    (h : Reach cfg CleanOk u s) :
    (s.Answered → s.CacheExact) ∧ ∀ p, s.backend.mode = .busy p → Fits s.backend.stmts p := by
  obtain ⟨pre, hl, hc⟩ := h.stmtOk.1.cached hu
  refine ⟨fun hans => ?_, fun p hmode => ?_⟩
  · have hstage := hl.stage
    rw [hans.1] at hstage
    cases hstage with
    | idle => exact hc.exact (by simp) fun p hp => not_names_of_not_request (hans.2 p hp)
  · obtain ⟨rfl, _, _, _⟩ := (hmode ▸ hl.stage).of_busy
    exact hc.fit.1

/-- Statements come and go, and a DISCARD ALL drops them all. -/
theorem cacheExact_of_cleanOk_discard :
    ∃ s, Reach { maxPreparedStatements := 2 } CleanOk .empty s ∧ s.backend.stmts = [2] ∧
      s.Answered ∧ s.CacheExact := by
  have hrun : ((Setup.empty.session.run { maxPreparedStatements := 2 } CleanOk
      [.client (.parse [1] [10]), .client (.bind [] [1]), .client .sync, .client .query, .read,
        .reply .parseComplete, .read, .reply .bindComplete, .read, .reply (.readyForQuery .idle),
        .read, .reply (.commandComplete .discardAll), .reply (.readyForQuery .idle),
        .client (.parse [2] [11]), .client .sync, .read, .reply .parseComplete, .read,
        .reply (.readyForQuery .idle)]).map fun s =>
        (s.backend.stmts, s.backend.mode, s.unread)) = some ([2], .idle, []) := by decide +kernel
  obtain ⟨s, hs, heq⟩ := Option.map_eq_some_iff.mp hrun
  simp only [Prod.mk.injEq] at heq
  obtain ⟨hstmts, hmode, hunread⟩ := heq
  have hreach : Reach { maxPreparedStatements := 2 } CleanOk .empty s := Reach.run .start hs
  have hans : s.Answered := ⟨hmode, by simp [hunread]⟩
  exact ⟨s, hreach, hstmts, hans, (cacheExact_of_cleanOk _ .empty (fun _ => rfl) hreach).1 hans⟩

/-- A statement prepared behind a DISCARD ALL exists and is not in the cache. -/
theorem not_cacheExact_discard :
    ∃ s, Reach { maxPreparedStatements := 2 } ErrorFree .empty s ∧ s.Answered ∧
      s.backend.stmts = [1] ∧ s.link.server.serverPreparedStatements = [] ∧ ¬s.CacheExact := by
  have hrun : ((Setup.empty.session.run { maxPreparedStatements := 2 } ErrorFree
      [.client .query, .client (.parse [1] [10]), .read, .reply (.commandComplete .discardAll),
        .reply (.readyForQuery .idle), .read, .reply .parseComplete]).map fun s =>
        (s.backend.stmts, s.backend.mode, s.unread, s.link.server.serverPreparedStatements)) =
      some ([1], .idle, [], []) := by decide +kernel
  obtain ⟨s, hs, heq⟩ := Option.map_eq_some_iff.mp hrun
  simp only [Prod.mk.injEq] at heq
  obtain ⟨hstmts, hmode, hunread, hcache⟩ := heq
  refine ⟨s, Reach.run .start hs, ⟨hmode, by simp [hunread]⟩, hstmts, hcache, fun hexact => ?_⟩
  have hcount := hexact 1
  rw [hcache, hstmts] at hcount
  exact absurd hcount (by decide)

end Session

end PgBouncer
