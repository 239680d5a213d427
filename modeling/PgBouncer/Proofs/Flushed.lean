/-
Whether a made-up reply reaches the client.

The replies pgbouncer makes up wait in the server's stream buffer, and that is
emptied when something arrives from the server.  So they are on their way as long as
the backend owes a reply, or a part of a message has arrived; otherwise they stay
where they are until the client thinks of something else to send.

Packets come in chunks, and a Parse that is answered at once may be followed in its own
chunk by a packet that the backend answers; so the theorem says between which chunks no
reply is left behind.  `FlushOk` is the condition on a chunk, `ChunkReach` the states a
session gets into by chunks.
-/
import PgBouncer.Proofs.Session

namespace PgBouncer

/-! ### What a chunk does to the backend -/

/-- The statement of a Parse with this text is on the server already. -/
def Link.isPrepared (l : Link) (query : Bytes) : Bool :=
  let (ps, found, _) := getPreparedStatement l.stmts query
  found && l.server.serverPreparedStatements.contains ps.queryId

/-- A packet that is not sent to the server. -/
def Link.holdsBack (cfg : Config) (l : Link) (p : Pkt Bytes) : Bool :=
  psAction cfg p &&
    match p with
    | .parse _ query => l.isPrepared query
    | .close _ _ => true
    | _ => false

/-- A Parse that is answered at once, into the server's stream buffer. -/
def Link.answersAtOnce (cfg : Config) (l : Link) (p : Pkt Bytes) : Bool :=
  l.holdsBack cfg p && p.type = .parse && l.server.outstandingRequests.isEmpty

/-- The packets a backend that waits for one answers. -/
def Mode.wakes (mode : Mode) (type : ReqType) : Bool :=
  match mode with
  | .skipping => type = .sync
  | _ => type.isRequest

/-- `f` holds of some packet of a chunk, at the link it finds. -/
def Link.someAlong (cfg : Config) (f : Link → Pkt Bytes → Bool) (l : Link) :
    List (Pkt Bytes) → Bool
  | [] => false
  | p :: chunk => f l p || Link.someAlong cfg f (handleClientWork cfg l p).1 chunk

namespace Session

/-- The backend is answering something, or is going to. -/
def owesReply (s : Session) : Bool :=
  match s.backend.mode with
  | .idle | .skipping => s.unread.any fun p => s.backend.mode.wakes p.type
  | _ => true

/-- A made-up reply that waits is going to be flushed. -/
def Flushes (s : Session) : Prop :=
  s.link.server.extraPackets = [] ∨ s.owesReply = true ∨ s.link.server.sbufIsEmpty = false

/-- The condition on a chunk: if it has a Parse that is answered at once, while the backend
owes nothing and nothing has arrived from it, then it also has a packet that is sent to the
backend and that the backend answers. -/
def FlushOk (cfg : Config) (s : Session) : ChunkEvent → Prop
  | .chunk chunk =>
    s.owesReply = false → s.link.server.sbufIsEmpty = true →
      s.link.someAlong cfg (Link.answersAtOnce cfg) chunk = true →
        s.link.someAlong cfg
          (fun l p => s.backend.mode.wakes p.type && !l.holdsBack cfg p) chunk = true
  | _ => True

instance (cfg : Config) (s : Session) (e : ChunkEvent) : Decidable (FlushOk cfg s e) := by
  unfold FlushOk
  split <;> infer_instance

/-- The states between the chunks of a client, by events that meet `ok`. -/
inductive ChunkReach (cfg : Config) (ok : Session → ChunkEvent → Prop) (u : Setup) :
    Session → Prop
  | start : ChunkReach cfg ok u u.session
  | step {s s' : Session} (h : ChunkReach cfg ok u s) (e : ChunkEvent) (hok : ok s e)
      (hstep : s.stepChunk cfg e = some s') : ChunkReach cfg ok u s'
  /-- The rest of the pool has changed the statement table. -/
  | others {s : Session} (h : ChunkReach cfg ok u s) (g : Statements) (refs : List QueryId)
      (hsound : Link.Sound { s.link with stmts := g } refs) :
      ChunkReach cfg ok u { s with link := { s.link with stmts := g } }

variable {cfg : Config} {s' s : Session}

theorem ChunkReach.run {ok : Session → ChunkEvent → Prop} [∀ s e, Decidable (ok s e)] {u : Setup} :
    ∀ {events : List ChunkEvent} {s : Session}, ChunkReach cfg ok u s →
      s.runChunks cfg ok events = some s' → ChunkReach cfg ok u s' := by
  intro events
  induction events with
  | nil => intro s h hrun; exact Option.some.inj hrun ▸ h
  | cons e rest ih =>
    intro s h hrun
    obtain ⟨s₁, hstep, hrest⟩ := Option.bind_eq_some_iff.mp hrun
    by_cases hok : ok s e
    · exact ih (h.step e hok ((if_pos hok).symm.trans hstep)) hrest
    · exact absurd ((if_neg hok).symm.trans hstep) (by simp)

/-! ### One packet -/

section

variable {cfg : Config} {s s' : Session} {p : Pkt Bytes}

theorem owesReply_append {sent : List (Pkt StmtRef)} (howes : s.owesReply = true)
    (hunread : s'.unread = s.unread ++ sent) (hmode : s'.backend.mode = s.backend.mode) :
    s'.owesReply = true := by
  unfold owesReply at howes ⊢
  rw [hmode, hunread]
  split at howes
  · rw [List.any_append, howes, Bool.true_or]
  · rw [List.any_append, howes, Bool.true_or]
  · rfl

theorem owesReply_of_any (hany : s.unread.any (fun p => s.backend.mode.wakes p.type) = true) :
    s.owesReply = true := by
  unfold owesReply
  split
  · exact hany
  · exact hany
  · rfl

/-- A packet the backend answers was sent. -/
theorem owesReply_of_sent {sent : List (Pkt StmtRef)} {q : Pkt StmtRef}
    (hunread : s'.unread = s.unread ++ sent) (hmode : s'.backend.mode = s.backend.mode)
    (hq : q ∈ sent) (hwakes : s.backend.mode.wakes q.type = true) : s'.owesReply = true := by
  refine owesReply_of_any (List.any_eq_true.mpr ⟨q, ?_, hmode ▸ hwakes⟩)
  rw [hunread]
  exact List.mem_append_right _ hq

variable {l' : Link}

/-- A packet that is not held back is sent, under its own name or another. -/
theorem sent_of_not_holdsBack {l : Link} (hacc : Accepts cfg l p l')
    (hback : l.holdsBack cfg p = false) :
    ∃ sent, l'.toServer = l.toServer ++ sent ∧ ∃ q ∈ sent, q.type = p.type := by
  cases hacc with
  | forward _ _ _ => exact ⟨_, rfl, p.forwarded, List.mem_singleton_self _, p.forwarded_type⟩
  | close hps => exact absurd hback (by simp [Link.holdsBack, hps])
  | parseKnown hps _ hget hmem =>
    exact absurd hback (by simp [Link.holdsBack, hps, Link.isPrepared, hget, hmem])
  | parse hps _ _ _ => exact ⟨_, rfl, _, List.mem_cons_self, rfl⟩
  | useKnown hps huses _ _ =>
    obtain ⟨hpkt, hp, _, _⟩ := huses.type_eq (.pgbouncer _)
    exact ⟨_, rfl, _, List.mem_singleton_self _, hpkt.trans hp.symm⟩
  | use hps huses _ _ =>
    obtain ⟨hpkt, hp, _, _⟩ := huses.type_eq (.pgbouncer _)
    exact ⟨_, List.append_assoc _ _ _, _,
      List.mem_append_right _ (List.mem_singleton_self _), hpkt.trans hp.symm⟩

theorem addOutstandingRequest_sbufIsEmpty (sv : Server) (type : ReqType)
    (action : ResponseAction) :
    (addOutstandingRequest sv type action).sbufIsEmpty = sv.sbufIsEmpty := by
  unfold addOutstandingRequest
  split
  · rw [queueFakeResponse_eq]
  · rfl

theorem sbufIsEmpty_of_accepts {l : Link} (hacc : Accepts cfg l p l') :
    l'.server.sbufIsEmpty = l.server.sbufIsEmpty := by
  cases hacc with
  | forward _ _ _ =>
    simp only [forwardPacket]
    split
    · exact addOutstandingRequest_sbufIsEmpty _ _ _
    · rfl
  | close _ =>
    simp only [handleCloseStatementCommand]
    split
    · rfl
    · exact addOutstandingRequest_sbufIsEmpty _ _ _
  | parseKnown _ _ _ _ => exact addOutstandingRequest_sbufIsEmpty _ _ _
  | parse _ _ _ _ => rfl
  | useKnown _ _ _ _ => rfl
  | use _ _ _ _ => rfl

/-- In an empty stream buffer no made-up reply appears but that of a Parse. -/
theorem extraPackets_of_not_answersAtOnce {l : Link} (hacc : Accepts cfg l p l')
    (honce : l.answersAtOnce cfg p = false) (hempty : l.server.sbufIsEmpty = true)
    (hextra : l.server.extraPackets = []) : l'.server.extraPackets = [] := by
  cases hacc with
  | forward _ _ _ =>
    simp only [forwardPacket]
    split
    · rw [addOutstandingRequest_forward]
      exact hextra
    · exact hextra
  | close hps =>
    simp only [handleCloseStatementCommand]
    split
    · exact hextra
    · rename_i hflight
      have hqueue : l.server.outstandingRequests ≠ [] := by
        intro hnil
        exact hflight (by simp [nothingInFlightToClient, hnil, hextra, hempty])
      rw [addOutstandingRequest_fake_of_ne _ hqueue]
      exact hextra
  | @parseKnown name query _ _ hps _ hget hmem =>
    have hqueue : (tagDirty l).server.outstandingRequests ≠ [] := by
      intro hnil
      have hback : l.holdsBack cfg (.parse name query) = true := by
        simp [Link.holdsBack, hps, Link.isPrepared, hget, hmem]
      have honce' : l.answersAtOnce cfg (.parse name query) = true := by
        simp only [tagDirty] at hnil
        simp [Link.answersAtOnce, hback, hnil]
      exact absurd (honce'.symm.trans honce) (by simp)
    rw [addOutstandingRequest_fake_of_ne _ hqueue]
    exact hextra
  | parse _ _ _ _ => exact hextra
  | useKnown _ _ _ _ => exact hextra
  | use _ _ _ _ => exact hextra

theorem clientStep_accepts (hstep : s.clientStep cfg p = some s') :
    Accepts cfg s.link p s'.link ∧ s'.backend = s.backend ∧
      (handleClientWork cfg s.link p).1 = s'.link := by
  obtain ⟨l, hwork, rfl⟩ := clientStep_some hstep
  exact ⟨handleClientWork_accepts hwork, rfl, by rw [hwork]⟩

end

/-! ### A chunk -/

/-- What a chunk does to the buffer and to what the backend owes. -/
structure Chunked (cfg : Config) (chunk : List (Pkt Bytes)) (s s' : Session) : Prop where
  sane : s'.Sane
  backend : s'.backend = s.backend
  sbufIsEmpty : s'.link.server.sbufIsEmpty = s.link.server.sbufIsEmpty
  owes : s.owesReply = true → s'.owesReply = true
  wakes : s.link.someAlong cfg
    (fun l p => s.backend.mode.wakes p.type && !l.holdsBack cfg p) chunk = true →
      s'.owesReply = true
  extraPackets : s.link.server.sbufIsEmpty = true → s.link.server.extraPackets = [] →
    s.link.someAlong cfg (Link.answersAtOnce cfg) chunk = false →
      s'.link.server.extraPackets = []

theorem Chunked.nil (cfg : Config) (hs : s.Sane) : Chunked cfg [] s s :=
  ⟨hs, rfl, rfl, id, fun h => absurd h (by simp [Link.someAlong]), fun _ hextra _ => hextra⟩

theorem Chunked.cons {p : Pkt Bytes} {chunk : List (Pkt Bytes)} {s₁ : Session} (hs : s.Sane)
    (hstep : s.clientStep cfg p = some s₁) (h : Chunked cfg chunk s₁ s') :
    Chunked cfg (p :: chunk) s s' := by
  obtain ⟨hacc, hbackend, hlink⟩ := clientStep_accepts hstep
  obtain ⟨_, sent, heff, _, _⟩ := clientStep_effect hs hstep
  have hunread := unread_append hs heff.toServer hbackend
  have hmode : s₁.backend.mode = s.backend.mode := by rw [hbackend]
  have hbuf := sbufIsEmpty_of_accepts hacc
  refine ⟨h.sane, h.backend.trans hbackend, h.sbufIsEmpty.trans hbuf,
    fun howes => h.owes (owesReply_append howes hunread hmode), fun hwakes => ?_,
    fun hempty hextra honce => ?_⟩
  · simp only [Link.someAlong, hlink, Bool.or_eq_true, Bool.and_eq_true,
      Bool.not_eq_true'] at hwakes
    rcases hwakes with ⟨hwake, hback⟩ | hlater
    · obtain ⟨sent', htoServer, q, hq, htype⟩ := sent_of_not_holdsBack hacc hback
      exact h.owes (owesReply_of_sent (unread_append hs htoServer hbackend) hmode hq
        (htype ▸ hwake))
    · exact h.wakes (hmode ▸ hlater)
  · simp only [Link.someAlong, hlink, Bool.or_eq_false_iff] at honce
    exact h.extraPackets (hbuf.trans hempty)
      (extraPackets_of_not_answersAtOnce hacc honce.1 hempty hextra) honce.2

theorem clientChunk_chunked :
    ∀ {chunk : List (Pkt Bytes)} {s : Session}, s.Sane → s.clientChunk cfg chunk = some s' →
      Chunked cfg chunk s s' := by
  intro chunk
  induction chunk with
  | nil =>
    intro s hs hchunk
    obtain rfl := Option.some.inj hchunk
    exact .nil cfg hs
  | cons p rest ih =>
    intro s hs hchunk
    obtain ⟨s₁, hstep, hrest⟩ := Option.bind_eq_some_iff.mp hchunk
    have hs₁ : s₁.Sane := hs.step (show s.step cfg (.client p) = some s₁ from hstep)
    exact .cons hs hstep (ih hs₁ hrest)

/-! ### The backend -/

/-- A backend that is neither waiting for a request nor skipping owes a reply. -/
theorem owesReply_of_mode (hidle : s.backend.mode ≠ .idle)
    (hskipping : s.backend.mode ≠ .skipping) : s.owesReply = true := by
  unfold owesReply
  split
  · exact absurd ‹_› hidle
  · exact absurd ‹_› hskipping
  · rfl

/-- A packet that is read either is one to answer or leaves the rest to be read. -/
theorem owesReply_read (hstep : s.readStep = some s') (howes : s.owesReply = true) :
    s'.owesReply = true := by
  obtain ⟨p, b, hunread, _, htake, rfl⟩ := readStep_some hstep
  obtain ⟨mode, hmode, rfl⟩ := Option.map_eq_some_iff.mp htake
  cases hold : s.backend.mode with
  | idle | skipping =>
    rw [owesReply, hold, hunread, List.any_cons] at howes
    rw [hold, Backend.modeAfter] at hmode
    split at hmode
    · obtain rfl := Option.some.inj hmode
      exact owesReply_of_mode (by simp) (by simp)
    · rename_i hasleep
      split at hmode
      · exact absurd hmode (by simp)
      · obtain rfl := Option.some.inj hmode
        refine owesReply_of_any ?_
        simpa [Mode.wakes, hasleep] using howes
  | copyIn simple =>
    rw [hold, Backend.modeAfter] at hmode
    split at hmode <;> first
      | (obtain rfl := Option.some.inj hmode
         exact owesReply_of_mode (by simp) (by simp))
      | exact absurd hmode (by simp)
  | busy | failed | copyDone | copyFail =>
    exact absurd hmode (by simp [hold, Backend.modeAfter])

/-! ### Runs -/

/-- A chunk that meets the condition leaves nothing behind. -/
theorem Flushes.chunk {chunk : List (Pkt Bytes)} (h : s.Flushes)
    (hok : FlushOk cfg s (.chunk chunk)) (hc : Chunked cfg chunk s s') :
    s'.Flushes := by
  by_cases howes : s.owesReply = true
  · exact .inr (.inl (hc.owes howes))
  by_cases hempty : s.link.server.sbufIsEmpty = true
  · rcases h with hextra | howes' | hbuf
    · by_cases honce : s.link.someAlong cfg (Link.answersAtOnce cfg) chunk = true
      · exact .inr (.inl (hc.wakes (hok (Bool.eq_false_iff.mpr howes) hempty honce)))
      · exact .inl (hc.extraPackets hempty hextra (Bool.eq_false_iff.mpr honce))
    · exact absurd howes' howes
    · exact absurd (hbuf.symm.trans hempty) (by simp)
  · exact .inr (.inr (hc.sbufIsEmpty.trans (Bool.eq_false_iff.mpr hempty)))

theorem Flushes.read (h : s.Flushes) (hstep : s.readStep = some s') :
    s'.Flushes := by
  have howes := owesReply_read hstep
  obtain ⟨_, _, _, _, _, rfl⟩ := readStep_some hstep
  rcases h with hextra | howes' | hbuf
  · exact .inl hextra
  · exact .inr (.inl (howes howes'))
  · exact .inr (.inr hbuf)

theorem Flushes.step {cfg : Config} {s s' : Session} {e : ChunkEvent} (h : s.Flushes)
    (hs : s.Sane) (hok : FlushOk cfg s e) (hstep : s.stepChunk cfg e = some s') :
    s'.Sane ∧ s'.Flushes := by
  cases e with
  | chunk chunk =>
    have hc := clientChunk_chunked hs hstep
    exact ⟨hc.sane, h.chunk hok hc⟩
  | read =>
    have hread : s.step cfg .read = some s' := hstep
    exact ⟨hs.step hread, h.read hread⟩
  | reply m =>
    have hreply : s.step cfg (.reply m) = some s' := hstep
    exact ⟨hs.step hreply, .inl (replyStep_replied hs hreply).extraPackets⟩
  | arriving =>
    have harriving : s.step cfg .arriving = some s' := hstep
    refine ⟨hs.step harriving, ?_⟩
    obtain rfl := Option.some.inj harriving
    exact .inl rfl

theorem ChunkReach.flushes {u : Setup} (h : ChunkReach cfg (FlushOk cfg) u s) :
    s.Sane ∧ s.Flushes := by
  induction h with
  | start =>
    have hreach : Reach cfg (fun _ _ => True) u u.session := .start
    exact ⟨hreach.sane, .inl rfl⟩
  | step _ e hok hstep ih => exact ih.2.step ih.1 hok hstep
  | others _ g refs hsound ih =>
    exact ⟨⟨⟨refs, hsound⟩, ih.1.settingVars, ih.1.read_le⟩, ih.2⟩

/-- **No made-up reply is left behind.**  When everything received has been processed and
the backend owes nothing, the stream buffer of the server holds no made-up reply. -/
theorem extraPackets_eq_nil_of_flushOk (cfg : Config) (u : Setup) {s : Session}
    (h : ChunkReach cfg (FlushOk cfg) u s) (hempty : s.link.server.sbufIsEmpty = true)
    (howes : s.owesReply = false) : s.link.server.extraPackets = [] := by
  rcases h.flushes.2 with hextra | howes' | hbuf
  · exact hextra
  · exact absurd (howes'.symm.trans howes) (by simp)
  · exact absurd (hbuf.symm.trans hempty) (by simp)

/-- A batch that leaves a statement on the server, in a transaction. -/
def firstBatch : List ChunkEvent :=
  [.chunk [.parse [1] [10], .sync], .read, .reply .parseComplete, .read,
    .reply (.readyForQuery .inTransaction)]

/-- A Parse of a query the server has, and a Sync. -/
theorem extraPackets_eq_nil_of_flushOk_sync :
    ∃ s, ChunkReach { maxPreparedStatements := 1 } (FlushOk { maxPreparedStatements := 1 })
        .empty s ∧
      ToClient.generated .parseComplete ∈ s.link.toClient ∧
      s.link.server.extraPackets = [] := by
  have hrun : ((Setup.empty.session.runChunks { maxPreparedStatements := 1 }
      (FlushOk { maxPreparedStatements := 1 })
      (firstBatch ++ [.chunk [.parse [2] [10], .sync], .read,
        .reply (.readyForQuery .inTransaction)])).map fun s =>
        (s.owesReply, s.link.server.sbufIsEmpty,
          s.link.toClient.contains (.generated .parseComplete))) =
      some (false, true, true) := by decide
  obtain ⟨s, hs, heq⟩ := Option.map_eq_some_iff.mp hrun
  simp only [Prod.mk.injEq, List.contains_iff_mem] at heq
  obtain ⟨howes, hempty, hmem⟩ := heq
  have hreach : ChunkReach { maxPreparedStatements := 1 }
      (FlushOk { maxPreparedStatements := 1 }) .empty s := ChunkReach.run .start hs
  exact ⟨s, hreach, hmem, extraPackets_eq_nil_of_flushOk _ .empty hreach hempty howes⟩

/-- A Parse of a query the server has, and a Flush: its ParseComplete stays in the stream
buffer of the server. -/
theorem extraPackets_ne_nil_flush :
    ∃ s, ChunkReach { maxPreparedStatements := 1 } (fun _ _ => True) .empty s ∧
      s.unread = [] ∧ s.backend.mode = .idle ∧ s.link.server.sbufIsEmpty = true ∧
      s.owesReply = false ∧ s.link.server.extraPackets = [.parseComplete] := by
  have hrun : ((Setup.empty.session.runChunks { maxPreparedStatements := 1 }
      (fun _ _ => True)
      (firstBatch ++ [.chunk [.parse [2] [10], .flush], .read])).map fun s =>
        (s.unread, s.backend.mode, s.link.server.sbufIsEmpty, s.owesReply,
          s.link.server.extraPackets)) =
      some ([], .idle, true, false, [.parseComplete]) := by decide
  obtain ⟨s, hs, heq⟩ := Option.map_eq_some_iff.mp hrun
  simp only [Prod.mk.injEq] at heq
  exact ⟨s, ChunkReach.run .start hs, heq⟩

end Session

end PgBouncer
