/-
Messages of the backend keep the queue in step.

A message either answers nothing in the queue, or the request at its head, or it ends
a failed batch or a copy-in, and then several requests go at once.  There is one lemma
for each way the backend can go on; together with the client's packets and the
backend's reads they make the queue stay in step along every run.
-/
import PgBouncer.Proofs.Lockstep

namespace PgBouncer

namespace Session

section

variable {cfg : Config} {copy : Bool} {s s' : Session} {pre : List (Pkt StmtRef)}

/-! ### A message of the backend -/

/-- Messages that change no flag when there is no copy-in. -/
def plain : ServerMsg → Bool
  | .readyForQuery _ | .errorResponse | .copyInResponse | .copyBothResponse => false
  | _ => true

variable {m : ServerMsg} {p : Pkt StmtRef} {pre' syncs : List (Pkt StmtRef)}

theorem plain_flags (cfg : Config) (hm : plain m = true) (c : Client) :
    queryFailedAfter m = id ∧ copyModeAfter m false = false ∧
      (clientAfter cfg m c).copyMode = c.copyMode := by
  cases m with
  | readyForQuery | errorResponse | copyInResponse | copyBothResponse =>
    exact absurd hm (by simp [plain])
  | commandComplete tag =>
    refine ⟨rfl, rfl, ?_⟩
    simp only [clientAfter]
    split <;> rfl
  | _ => exact ⟨rfl, rfl, rfl⟩

theorem queueAfter_plain {sv : Server} (hm : plain m = true) (hcopy : sv.copyMode = false) :
    queueAfter sv m = popQueue (popTypes m) sv.outstandingRequests := by
  cases m with
  | readyForQuery | errorResponse | copyInResponse | copyBothResponse =>
    exact absurd hm (by simp [plain])
  | commandComplete => simp [queueAfter, endCopyQueue, hcopy]
  | _ => rfl

/-- The request at the head of the queue is the one for the first packet. -/
theorem matched_cons {q : List OutstandingRequest} {ps : List (Pkt StmtRef)}
    (hhead : ∀ r rest, q = r :: rest → r.action ≠ .fake)
    (h : List.Forall₂ Matches (real q) (p :: ps)) :
    ∃ r rest, q = r :: rest ∧ Matches r p ∧ List.Forall₂ Matches (real rest) ps ∧
      ∀ types, poppable types q = decide (p.type ∈ types) := by
  cases q with
  | nil => exact absurd h.length_eq (by simp)
  | cons r rest =>
    have hr := hhead r rest rfl
    rw [real_cons_of_ne hr, List.forall₂_cons] at h
    refine ⟨r, rest, rfl, h.1, h.2, fun types => ?_⟩
    simp [poppable, hr, h.1.type]

/-- What a message can do to the packets the backend is not done with, `pre` before it. -/
inductive Turn (s s' : Session) (m : ServerMsg) (pre : List (Pkt StmtRef)) :
    List (Pkt StmtRef) → Prop
  /-- The backend is not done with them, and nothing is taken off the queue. -/
  | goesOn (hq : queueAfter s.link.server m = s.link.server.outstandingRequests)
      (hidle : m.async = true ∨ s'.backend.mode ≠ .idle)
      (herror : m = .errorResponse → s.backend.mode.copying = false)
      (hcopying : s'.backend.mode.copying = s.backend.mode.copying ∨
        s'.backend.mode.copying = true ∧ copyEnds s.unread = []) :
      Turn s s' m pre pre
  /-- The backend is done with them. -/
  | settles (hpre : pre ≠ []) (hm : m.async = false)
      (hidle : s'.backend.mode = .idle ∨
        s'.backend.mode = .skipping ∧ m = .errorResponse ∧ s.backend.mode.copying = true) :
      Turn s s' m pre []

/-- What is left of the packets when the backend goes on with them. -/
theorem Turn.eq_pre (h : Turn s s' m pre pre') (hne : m.async = true ∨ s'.backend.mode ≠ .idle)
    (herror : m = .errorResponse → s.backend.mode.copying = false) : pre' = pre := by
  cases h with
  | goesOn => rfl
  | settles _ hm hidle =>
    rcases hidle with hi | ⟨_, he, hc⟩
    · exact absurd hi (hne.resolve_left (by simp [hm]))
    · exact absurd (hc.symm.trans (herror he)) (by simp)

theorem Turn.eq_nil (h : Turn s s' m pre pre') (hm : m.async = false)
    (hidle : s'.backend.mode = .idle) : pre' = [] := by
  cases h with
  | goesOn _ hi => exact absurd hidle (hi.resolve_left (by simp [hm]))
  | settles => rfl

/-- What is left to show of a message once the queue behind it is known. -/
theorem Lockstep.of_replied (h : Lockstep copy s pre) (hr : Replied cfg s.link s'.link m)
    (hunread : s'.unread = s.unread) (hstage : Stage copy s' s'.backend.mode pre')
    (hcopy : copyModeAfter m s.link.server.copyMode = s'.backend.mode.copying)
    (hm : List.Forall₂ Matches (real (queueAfter s.link.server m))
      (pre' ++ tracked s'.backend.mode.copying s.unread)) : Lockstep copy s' pre' := by
  refine ⟨hstage, ?_, hr.copyMode.trans hcopy, ?_, ?_⟩
  · rw [hr.queue, real_dropFakes, hunread]
    exact hm
  · intro r rest hq
    exact dropFakes_head (hr.queue.symm.trans hq)
  · intro r hmem
    rw [hr.queue] at hmem
    exact h.fakes r ((queueAfter_suffix _ _).subset ((dropFakes_suffix _).subset hmem))

/-- A message that answers nothing in the queue. -/
theorem Lockstep.quiet (h : Lockstep copy s pre) (hr : Replied cfg s.link s'.link m)
    (hunread : s'.unread = s.unread) (hans : s'.answering = s.answering)
    (hmode : s'.backend.mode = s.backend.mode) (hfailed : queryFailedAfter m = id)
    (hcopy : copyModeAfter m s.link.server.copyMode = s.link.server.copyMode)
    (hclient : (clientAfter cfg m s.link.client).copyMode = s.link.client.copyMode)
    (hq : queueAfter s.link.server m = s.link.server.outstandingRequests) :
    Lockstep copy s' pre := by
  refine h.of_replied hr hunread ?_ (hmode ▸ hcopy.trans h.copyMode) (hq ▸ hmode ▸ h.matched)
  rw [hmode]
  refine h.stage.client (fun hp => hans.trans hp) (hunread.trans (List.append_nil _).symm) ?_ ?_
  · rw [hr.queryFailed, hfailed, id]
  · exact fun _ _ => .inl ⟨rfl, by rw [hr.client, hclient]⟩

/-- A message that answers the request at the head of the queue. -/
theorem Lockstep.pops (h : Lockstep copy s [p]) (hr : Replied cfg s.link s'.link m)
    (hunread : s'.unread = s.unread) (hmode : s.backend.mode.copying = false)
    (hidle : s'.backend.mode = .idle) (hcopy : copyModeAfter m false = false)
    (hfailed : queryFailedAfter m s.link.server.queryFailed = false)
    (hq : poppable (popTypes m) s.link.server.outstandingRequests = true →
      queueAfter s.link.server m = s.link.server.outstandingRequests.tail)
    (hp : p.type ∈ popTypes m) (hm : m.async = false) :
    Lockstep copy s' [] ∧ Turn s s' m [p] [] := by
  obtain ⟨r, rest, hcons, _, hrest, hpop⟩ := matched_cons h.head h.matched
  refine ⟨h.of_replied hr hunread ?_ ?_ ?_,
    .settles (by simp) hm (.inl hidle)⟩
  · rw [hidle]
    exact .idle (hr.queryFailed.trans hfailed)
  · rw [h.copyMode, hmode, hidle, hcopy]
    rfl
  · rw [hq (by rw [hpop, decide_eq_true hp]), hcons, List.tail_cons, hidle]
    rw [hmode] at hrest
    exact hrest

/-! ### One lemma for each way the backend can go on -/

theorem async_facts (cfg : Config) (hm : m.async = true) (sv : Server) (c : Client) :
    queryFailedAfter m = id ∧ copyModeAfter m = id ∧ clientAfter cfg m c = c ∧
      queueAfter sv m = sv.outstandingRequests := by
  cases m with
  | parameterStatus | noticeResponse | notificationResponse =>
    exact ⟨rfl, rfl, rfl, popQueue_nil_types _⟩
  | _ => exact absurd hm (by simp [ServerMsg.async])

theorem more_facts (h : Backend.more p m = true) :
    plain m = true ∧ p.type ∉ popTypes m := by
  unfold Backend.more at h
  split at h <;> first | exact ⟨rfl, by simp [popTypes, Pkt.type]⟩ | exact absurd h (by simp)

theorem complete_facts {stmts stmts' : List QueryId}
    (h : Backend.complete stmts p m = some stmts') :
    plain m = true ∧ p.type ∈ popTypes m ∧ m.async = false := by
  unfold Backend.complete at h
  split at h <;> first | exact ⟨rfl, List.mem_cons_self, rfl⟩ | exact absurd h (by simp)

theorem ne_copyBothResponse {b b' : Backend} (h : Backend.Emits b m b') :
    m ≠ .copyBothResponse := by
  rintro rfl
  generalize hm : ServerMsg.copyBothResponse = m at h
  have hplain : plain m = false := by rw [← hm]; rfl
  cases h with
  | async h => exact absurd (hm ▸ h) (by simp [ServerMsg.async])
  | more _ h => exact absurd ((more_facts h).1.symm.trans hplain) (by simp)
  | complete _ h => exact absurd ((complete_facts h).1.symm.trans hplain) (by simp)
  | command | copyIn | ready | error | failedReady | copyError | copyComplete =>
    exact absurd hm (by simp)

theorem mem_readyTypes {type : ReqType} : type ∈ Handled.readyTypes ↔ type.isReady = true := by
  cases type <;> simp [Handled.readyTypes, ReqType.isReady]

theorem Stage.of_busy (h : Stage copy s (.busy p) pre) :
    pre = [p] ∧ s.link.server.queryFailed = false ∧ p.type.isRequest = true ∧
      s.answering = some p := by
  cases h with
  | busy hqf hp hans => exact ⟨rfl, hqf, hp, hans⟩

theorem Lockstep.copyMode_of_busy (h : Lockstep copy s pre) (hmode : s.backend.mode = .busy p) :
    s.link.server.copyMode = false := by
  rw [h.copyMode, hmode]
  rfl

/-- Without COPY there is no copy-in. -/
theorem Stage.not_copying {mode : Mode} (h : Stage false s mode pre) : mode.copying = false := by
  cases h with
  | idle | busy | failed | resync | skipping => rfl
  | copyIn hcopy | copyDone hcopy | copyFail hcopy => exact absurd hcopy (by simp)

theorem queueAfter_errorResponse {sv : Server} (h : sv.copyMode = false) :
    queueAfter sv .errorResponse = sv.outstandingRequests := by
  simp [queueAfter, endCopyQueue, h, popTypes, popQueue_nil_types]

theorem Lockstep.queueAfter_goesOn (h : Lockstep copy s [p])
    (hcopy : s.link.server.copyMode = false) (hm : plain m = true) (hp : p.type ∉ popTypes m) :
    queueAfter s.link.server m = s.link.server.outstandingRequests := by
  obtain ⟨r, rest, _, _, _, hpop⟩ := matched_cons h.head h.matched
  rw [queueAfter_plain hm hcopy, popQueue, hpop, decide_eq_false hp]
  rfl

/-- The backend goes on answering. -/
theorem Lockstep.goesOn (h : Lockstep copy s pre) (hr : Replied cfg s.link s'.link m)
    (hunread : s'.unread = s.unread) (hans : s'.answering = s.answering)
    (hmode : s.backend.mode = .busy p) (hmode' : s'.backend.mode = .busy p) (hm : plain m = true)
    (hp : p.type ∉ popTypes m) :
    Lockstep copy s' pre ∧ Turn s s' m pre pre := by
  obtain ⟨rfl, _, _, _⟩ := (hmode ▸ h.stage).of_busy
  obtain ⟨hfailed, hcopy, hclient⟩ := plain_flags cfg hm s.link.client
  have hfalse := h.copyMode_of_busy hmode
  have hq := h.queueAfter_goesOn hfalse hm hp
  refine ⟨h.quiet hr hunread hans (hmode'.trans hmode.symm) hfailed
    (hfalse.symm ▸ hcopy) hclient hq,
    .goesOn hq (.inr (by simp [hmode'])) (fun _ => by rw [hmode]; rfl)
      (.inl (by rw [hmode', hmode]))⟩

/-- The packet being answered has failed. -/
theorem Lockstep.fails (h : Lockstep copy s pre) (hr : Replied cfg s.link s'.link .errorResponse)
    (hunread : s'.unread = s.unread) (hans : s'.answering = s.answering)
    (hmode : s.backend.mode = .busy p)
    (hmode' : s'.backend.mode = Backend.failMode p.type.isReady) :
    Lockstep copy s' pre ∧ Turn s s' .errorResponse pre pre := by
  obtain ⟨rfl, _, _, hp⟩ := (hmode ▸ h.stage).of_busy
  have hfalse := h.copyMode_of_busy hmode
  have hcopying : s'.backend.mode.copying = false := by
    rw [hmode']
    cases p.type.isReady <;> rfl
  have hq := queueAfter_errorResponse hfalse
  have hbusy : s.backend.mode.copying = false := by rw [hmode]; rfl
  have hidle : s'.backend.mode ≠ .idle := by
    rw [hmode']
    cases p.type.isReady <;> simp [Backend.failMode]
  refine ⟨h.of_replied hr hunread ?_ hcopying.symm ?_,
    .goesOn hq (.inr hidle) (fun _ => hbusy) (.inl (hcopying.trans hbusy.symm))⟩
  · rw [hmode']
    cases hready : p.type.isReady with
    | true => exact .failed hr.queryFailed hready (hans.trans hp)
    | false =>
      refine .skipping hr.queryFailed ⟨?_, fun _ => ⟨p, [], rfl, hready⟩⟩
      intro q hq hsync
      rw [List.mem_singleton.mp hq] at hsync
      rw [hsync] at hready
      exact absurd hready (by simp [ReqType.isReady])
  · have hm := h.matched
    rw [hq, hcopying]
    rwa [hmode] at hm

/-- A copy-in starts. -/
theorem Lockstep.startsCopy (h : Lockstep true s pre)
    (hr : Replied cfg s.link s'.link .copyInResponse) (hunread : s'.unread = s.unread)
    (hmode : s.backend.mode = .busy .execute) (hmode' : s'.backend.mode = .copyIn false)
    (hends : copyEnds s.unread = []) :
    Lockstep true s' pre ∧ Turn s s' .copyInResponse pre pre := by
  obtain ⟨rfl, hqf, _, _⟩ := (hmode ▸ h.stage).of_busy
  have hq : queueAfter s.link.server .copyInResponse = s.link.server.outstandingRequests :=
    popQueue_nil_types _
  refine ⟨h.of_replied hr hunread ?_ (by rw [hmode']; rfl) ?_,
    .goesOn hq (.inr (by simp [hmode'])) (fun he => absurd he (by simp))
      (.inr ⟨by rw [hmode']; rfl, hends⟩)⟩
  · rw [hmode']
    refine .copyIn rfl (hr.queryFailed.trans hqf) (fun p hp => absurd hp List.not_mem_nil) ?_ ?_
    · rw [hunread, hends]
      exact Nat.zero_le 1
    · rw [hunread, hends, hr.client]
      simp [clientAfter]
  · have hm := h.matched
    rw [hmode, show (Mode.busy .execute).copying = false from rfl] at hm
    rw [hmode', tracked_of_copyEnds_nil hends, hq]
    exact hm

/-- No held-back packet is of a type that the queue is ever cleared up to. -/
theorem Lockstep.fake_not_mem (h : Lockstep copy s pre) (types : List ReqType)
    (htypes : ∀ t ∈ types, (t.isReady || t.isCopyEnd) = true) :
    ∀ r ∈ s.link.server.outstandingRequests, r.action = .fake → r.type ∉ types := by
  intro r hr hfake hmem
  obtain ⟨hready, hend, _⟩ := h.fakes r hr hfake
  have htype := htypes _ hmem
  rw [hready, hend] at htype
  exact absurd htype (by simp)

/-- The ReadyForQuery behind a failed batch takes off the queue what was skipped, and the
Sync. -/
theorem Lockstep.resyncs {state : TxStatus} {skipped : List (Pkt StmtRef)}
    (h : Lockstep copy s (skipped ++ [.sync])) (hsk : Skipped copy skipped)
    (hqf : s.link.server.queryFailed = true) (hans : s.answering = some .sync)
    (hok : EventOk copy s (.reply (.readyForQuery state)))
    (hmode : s.backend.mode = .failed) :
    List.Forall₂ Matches (real (queueAfter s.link.server (.readyForQuery state)))
      (tracked false s.unread) := by
  have hm := h.matched
  rw [hmode, show Mode.failed.copying = false from rfl, List.append_assoc] at hm
  have hclear : List.Forall₂ Matches (real (dropUntil [.sync] s.link.server.outstandingRequests))
      (tracked false s.unread) := by
    refine matched_dropUntil List.mem_cons_self (h.fake_not_mem [.sync] (by decide)) ?_ hm
    intro p hp hsync
    exact hsk.noSync p hp (List.mem_singleton.mp hsync)
  show List.Forall₂ Matches (real (readyQueue s.link.server)) _
  unfold readyQueue
  cases skipped with
  | nil =>
    obtain ⟨r, rest, hcons, _, hrest, hpop⟩ := matched_cons h.head hm
    rw [if_pos (by rw [hpop]; rfl), hcons]
    exact hrest
  | cons p ps =>
    obtain ⟨r, rest, hcons, hr, _, hpop⟩ := matched_cons h.head hm
    have hnot : p.type ∉ Handled.readyTypes := by
      intro hmem
      cases copy with
      | false =>
        obtain ⟨q, qs, heq, hq⟩ := hsk.head rfl
        rw [← (List.cons.inj heq).1, mem_readyTypes.mp hmem] at hq
        exact absurd hq (by simp)
      | true =>
        have hne : r.type ≠ .sync := hr.type ▸ hsk.noSync p List.mem_cons_self
        have hor : r.type = .query ∨ r.type = .functionCall := by
          rw [← hr.type] at hmem
          simpa [Handled.readyTypes, hne] using hmem
        have hok' : CopyOk s (.reply (.readyForQuery state)) := hok
        have hready := hok' r (by rw [hcons]; rfl) hor
        rw [hans] at hready
        exact hne (Option.some.inj hready).symm
    rw [if_neg (by rw [hpop, decide_eq_false hnot]; simp), if_pos hqf]
    exact hclear

/-- What is read behind the end of a copy is not part of it. -/
theorem tracked_behind_copyEnd {ps rest : List (Pkt StmtRef)} (hends : (copyEnds ps).length ≤ 1)
    (hp : p.type.isCopyEnd = true) (h : tracked true ps = p :: rest) : tracked false ps = rest := by
  have hnil : copyEnds rest = [] := by
    rw [← copyEnds_tracked, h, copyEnds_cons, if_pos hp] at hends
    simpa using hends
  have hrest : tracked true rest = rest := by
    refine List.filter_eq_self.mpr fun q hq => ?_
    have hmem : q ∈ tracked true ps := h ▸ List.mem_cons_of_mem p hq
    exact (List.mem_filter.mp hmem).2
  have hnot : trackOutstanding false p.type = false := by
    rw [trackOutstanding_false]
    cases htype : p.type <;> first | rfl | exact absurd (htype ▸ hp) (by simp [ReqType.isCopyEnd])
  rw [← tracked_false_tracked, h, tracked_cons, hnot, ← tracked_of_copyEnds_nil hnil true, hrest]
  rfl

/-- The requests of a copy-in are those of packets that do not end it. -/
theorem copyIn_not_mem (types : List ReqType) (htypes : ∀ t ∈ types, t.isCopyEnd = true)
    (hsyncs : ∀ p ∈ syncs, p = .sync) :
    ∀ p ∈ Pkt.execute :: syncs, p.type ∉ types := by
  intro p hp hmem
  have hend := htypes _ hmem
  rcases List.mem_cons.mp hp with rfl | hsync
  · exact absurd hend (by decide)
  · rw [hsyncs p hsync] at hend
    exact absurd hend (by decide)

/-- A copy-in the client has ended: its requests go, up to the packet that ended it. -/
theorem Lockstep.dropsCopy {e : Pkt StmtRef} (h : Lockstep copy s (.execute :: syncs ++ [e]))
    (types : List ReqType) (htypes : ∀ t ∈ types, t.isCopyEnd = true)
    (hsyncs : ∀ p ∈ syncs, p = .sync) (he : e.type ∈ types) (hends : copyEnds s.unread = []) :
    List.Forall₂ Matches (real (dropUntil types s.link.server.outstandingRequests))
      (tracked false s.unread) := by
  have hm := h.matched
  rw [tracked_of_copyEnds_nil hends, List.append_assoc] at hm
  refine matched_dropUntil he (h.fake_not_mem types fun t ht => ?_)
    (copyIn_not_mem types htypes hsyncs) hm
  rw [htypes t ht, Bool.or_true]

/-- A copy-in fails: its requests go, up to the packet that ends it. -/
theorem Lockstep.failsCopy (h : Lockstep copy s pre)
    (hr : Replied cfg s.link s'.link .errorResponse) (hunread : s'.unread = s.unread)
    (hcopying : s.backend.mode.copying = true)
    (hmode' : ∀ simple, s.backend.mode ∈ [Mode.copyIn simple, .copyDone simple, .copyFail simple] →
      s'.backend.mode = Backend.failMode simple)
    (hok : EventOk copy s (.reply .errorResponse)) :
    Lockstep copy s' [] ∧ Turn s s' .errorResponse pre [] := by
  have hq : queueAfter s.link.server .errorResponse =
      dropUntil [.copyDone, .copyFail] s.link.server.outstandingRequests := by
    simp [queueAfter, endCopyQueue, h.copyMode, hcopying, popTypes, popQueue_nil_types]
  have hdone : s'.backend.mode = .skipping → copy = true →
      List.Forall₂ Matches
        (real (dropUntil [.copyDone, .copyFail] s.link.server.outstandingRequests))
        (tracked false s.unread) → pre ≠ [] →
      Lockstep copy s' [] ∧ Turn s s' .errorResponse pre [] := by
    intro hskip hcopy hm hpre
    refine ⟨h.of_replied hr hunread ?_ (by rw [hskip]; rfl) (by rw [hskip, hq]; exact hm),
      .settles hpre rfl (.inr ⟨hskip, rfl, hcopying⟩)⟩
    rw [hskip]
    refine .skipping hr.queryFailed ⟨fun p hp => absurd hp List.not_mem_nil, fun hf => ?_⟩
    exact absurd (hcopy.symm.trans hf) (by simp)
  have hstage := h.stage
  have hcopying' := hcopying
  generalize hmode : s.backend.mode = mode at hstage hmode' hcopying'
  cases hstage with
  | idle | busy | failed | resync | skipping => exact absurd hcopying' (by simp [Mode.copying])
  | @copyIn syncs hcopy _ hsyncs hends _ =>
    refine hdone (hmode' false (by simp)) hcopy ?_ (by simp)
    have hok' : CopyOk s (.reply .errorResponse) := by simpa [EventOk, hcopy] using hok
    have hm := h.matched
    rw [hmode, show (Mode.copyIn false).copying = true from rfl] at hm
    have hfakes := h.fake_not_mem [.copyDone, .copyFail] (by decide)
    have hnot := copyIn_not_mem [.copyDone, .copyFail] (by decide) hsyncs
    cases htracked : tracked true s.unread with
    | nil =>
      rw [htracked, List.append_nil] at hm
      rw [dropUntil_eq_nil hfakes hnot hm, ← tracked_false_tracked, htracked]
      exact .nil
    | cons p rest =>
      have hend := hok' hmode p (by rw [htracked]; rfl)
      rw [htracked] at hm
      rw [tracked_behind_copyEnd hends hend htracked]
      refine matched_dropUntil ?_ hfakes hnot hm
      cases htype : p.type <;> first | decide | exact absurd (htype ▸ hend) (by decide)
  | copyDone hcopy _ hsyncs hends _ | copyFail hcopy _ hsyncs hends _ =>
    exact hdone (hmode' false (by simp)) hcopy
      (h.dropsCopy _ (by decide) hsyncs (by decide) hends) (by simp)

/-- A copy-in is complete. -/
theorem Lockstep.completesCopy {tag : Tag} (h : Lockstep true s (.execute :: syncs ++ [.copyDone]))
    (hr : Replied cfg s.link s'.link (.commandComplete tag)) (hunread : s'.unread = s.unread)
    (hmode : s.backend.mode = .copyDone false) (hmode' : s'.backend.mode = .idle)
    (hqf : s.link.server.queryFailed = false) (hsyncs : ∀ p ∈ syncs, p = .sync)
    (hends : copyEnds s.unread = []) (hok : CopyOk s (.reply (.commandComplete tag))) :
    Lockstep true s' [] ∧
      Turn s s' (.commandComplete tag) (.execute :: syncs ++ [.copyDone]) [] := by
  have hdrop := h.dropsCopy [.copyDone] (by decide) hsyncs (by decide) hends
  have hq : queueAfter s.link.server (.commandComplete tag) =
      dropUntil [.copyDone] s.link.server.outstandingRequests := by
    have hcopying : s.link.server.copyMode = true := by
      rw [h.copyMode, hmode]
      rfl
    simp only [queueAfter, endCopyQueue, hcopying, if_true, popTypes, popQueue]
    refine if_neg ?_
    -- The Execute of the copy is gone, and no other one is next.
    intro hpop
    cases hrest : dropUntil [.copyDone] s.link.server.outstandingRequests with
    | nil =>
      rw [hrest] at hpop
      exact absurd hpop (by simp [poppable])
    | cons r rest =>
      rw [hrest] at hpop hdrop
      simp only [poppable, decide_eq_true_eq, List.mem_singleton] at hpop
      rw [real_cons_of_ne hpop.1] at hdrop
      obtain ⟨p, ps, hmatch, _, htracked⟩ := List.forall₂_cons_left_iff.mp hdrop
      rw [← tracked_of_copyEnds_nil hends true] at htracked
      exact hok hmode p (by rw [htracked]; rfl) (hmatch.type.symm.trans hpop.2)
  refine ⟨h.of_replied hr hunread ?_ (by rw [hmode']; rfl) (by rw [hmode', hq]; exact hdrop),
    .settles (by simp) rfl (.inl hmode')⟩
  rw [hmode']
  exact .idle (hr.queryFailed.trans hqf)

/-- **A message of the backend keeps the queue in step.** -/
theorem Lockstep.reply (h : Lockstep copy s pre) (hok : EventOk copy s (.reply m))
    (hr : Replied cfg s.link s'.link m) (hemits : Backend.Emits s.backend m s'.backend) :
    ∃ pre', Lockstep copy s' pre' ∧ Turn s s' m pre pre' := by
  obtain ⟨hread, hrequest⟩ := hemits.position
  have hunread : s'.unread = s.unread := by rw [unread, unread, hr.toServer, hread]
  have hans : s'.answering = s.answering := by rw [answering, answering, hr.toServer, hrequest]
  generalize hb : s'.backend = b at hemits
  cases hemits with
  | async hm =>
    obtain ⟨hfailed, hcopy, hclient, hq⟩ :=
      async_facts cfg hm s.link.server s.link.client
    refine ⟨pre, h.quiet hr hunread hans (by rw [hb]) hfailed (by rw [hcopy]; rfl)
      (by rw [hclient]) hq, .goesOn hq (.inl hm) (fun he => ?_) (.inl (by rw [hb]))⟩
    rw [he] at hm
    exact absurd hm (by simp [ServerMsg.async])
  | more hmode hmore =>
    obtain ⟨hplain, hp⟩ := more_facts hmore
    exact ⟨pre, h.goesOn hr hunread hans hmode (by rw [hb]; exact hmode) hplain hp⟩
  | command hmode =>
    exact ⟨pre, h.goesOn hr hunread hans hmode (by rw [hb]; exact hmode) rfl
      (by simp [popTypes])⟩
  | @copyIn p simple hmode hp =>
    cases copy with
    | false => exact absurd rfl (show _ ≠ _ from hok)
    | true =>
      have hok' : CopyOk s (.reply .copyInResponse) := hok
      obtain ⟨hexecute, hends⟩ := hok'
      have hsimple : simple = false := by
        rw [hmode] at hexecute
        obtain rfl := Mode.busy.inj hexecute
        cases simple with
        | false => rfl
        | true => exact absurd hp (by simp)
      exact ⟨pre, h.startsCopy hr hunread hexecute (by rw [hb, hsimple]) hends⟩
  | @complete p _ _ hmode hcomplete =>
    obtain ⟨rfl, hqf, _, _⟩ := (hmode ▸ h.stage).of_busy
    obtain ⟨hplain, hp, hasync⟩ := complete_facts hcomplete
    obtain ⟨hfailed, hcopy, _⟩ := plain_flags cfg hplain s.link.client
    refine ⟨[], h.pops hr hunread (by rw [hmode]; rfl) (by rw [hb]) hcopy
      (by rw [hfailed]; exact hqf) (fun hpop => ?_) hp hasync⟩
    rw [queueAfter_plain hplain (h.copyMode_of_busy hmode), popQueue, if_pos hpop]
  | @ready p state hmode hp =>
    obtain ⟨rfl, hqf, _, _⟩ := (hmode ▸ h.stage).of_busy
    exact ⟨[], h.pops hr hunread (by rw [hmode]; rfl) (by rw [hb]) rfl rfl
      (fun hpop => if_pos hpop) (mem_readyTypes.mpr hp) rfl⟩
  | error hmode => exact ⟨pre, h.fails hr hunread hans hmode (by rw [hb])⟩
  | @failedReady state hmode =>
    have hidle : s'.backend.mode = .idle := by rw [hb]
    have hstage := h.stage
    rw [hmode] at hstage
    cases hstage with
    | failed _ hp _ =>
      exact ⟨[], h.pops hr hunread (by rw [hmode]; rfl) hidle rfl rfl
        (fun hpop => if_pos hpop) (mem_readyTypes.mpr hp) rfl⟩
    | resync hqf hsk hsync =>
      refine ⟨[], h.of_replied hr hunread ?_ ?_ ?_,
        .settles (by simp) rfl (.inl hidle)⟩
      · rw [hidle]
        exact .idle hr.queryFailed
      · rw [hidle, h.copyMode, hmode]
        rfl
      · rw [hidle]
        exact h.resyncs hsk hqf hsync hok hmode
  | @copyError simple hmode =>
    refine ⟨[], h.failsCopy hr hunread ?_ ?_ hok⟩
    · rcases hmode with hm | hm | hm <;> rw [hm] <;> rfl
    · intro simple' hm'
      rw [hb]
      rcases hmode with hm | hm | hm <;> rw [hm] at hm' <;> simp at hm' <;> rw [hm']
  | @copyComplete simple tag hmode =>
    have hstage := h.stage
    rw [hmode] at hstage
    cases hstage with
    | copyDone hcopy hqf hsyncs hends _ =>
      subst hcopy
      exact ⟨[], h.completesCopy hr hunread hmode (by rw [hb]; rfl) hqf hsyncs hends hok⟩

end

/-! ### Whole runs -/

theorem Lockstep.start (copy : Bool) (u : Setup) : Lockstep copy u.session [] :=
  ⟨.idle rfl, .nil, rfl, fun _ _ hq => absurd hq (by simp [Setup.session]),
    fun _ hr => absurd hr (by simp [Setup.session])⟩

variable {copy : Bool} {s : Session}

theorem Lockstep.arriving {pre : List (Pkt StmtRef)} (h : Lockstep copy s pre) :
    Lockstep copy { s with link := s.link.partialPacket } pre :=
  ⟨h.stage.client id (List.append_nil _).symm rfl (fun _ _ => .inl ⟨rfl, rfl⟩),
    h.matched, h.copyMode, h.head, h.fakes⟩

theorem Lockstep.others {pre : List (Pkt StmtRef)} (h : Lockstep copy s pre) (g : Statements) :
    Lockstep copy { s with link := { s.link with stmts := g } } pre :=
  ⟨h.stage.client id (List.append_nil _).symm rfl (fun _ _ => .inl ⟨rfl, rfl⟩),
    h.matched, h.copyMode, h.head, h.fakes⟩

theorem Lockstep.step {cfg : Config} {copy : Bool} {s s' : Session} {pre : List (Pkt StmtRef)}
    {e : SessionEvent} (h : Lockstep copy s pre) (hs : s.Sane) (hok : EventOk copy s e)
    (hstep : s.step cfg e = some s') : ∃ pre', Lockstep copy s' pre' := by
  cases e with
  | client p => exact ⟨pre, h.client hs hok hstep⟩
  | read =>
    obtain ⟨p, _, _, hpre⟩ := h.read hstep
    exact ⟨_, hpre⟩
  | reply m =>
    obtain ⟨pre', hpre', _⟩ := h.reply hok (replyStep_replied hs hstep) (replyStep_emits hstep)
    exact ⟨pre', hpre'⟩
  | arriving =>
    obtain rfl := Option.some.inj hstep
    exact ⟨pre, h.arriving⟩

/-- **The queue is in step with the backend in every state of a run.** -/
theorem Reach.lockstep {cfg : Config} {ok : Session → SessionEvent → Prop}
    (hok : ∀ s e, ok s e → EventOk copy s e) {u : Setup} (h : Reach cfg ok u s) :
    ∃ pre, Lockstep copy s pre := by
  induction h with
  | start => exact ⟨[], .start copy u⟩
  | step hreach e he hstep ih =>
    obtain ⟨pre, hpre⟩ := ih
    exact hpre.step hreach.sane (hok _ e he) hstep
  | others _ g refs _ ih =>
    obtain ⟨pre, hpre⟩ := ih
    exact ⟨pre, hpre.others g⟩

end Session

end PgBouncer
