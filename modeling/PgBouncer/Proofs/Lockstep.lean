/-
The queue of outstanding requests in step with the backend.

In every state the requests in the queue that are behind a packet are, in order,
those of the packets the backend has read and not done with, followed by those it
has not read.  What the first part can look like depends on what the backend is
doing: nothing while it is idle, the packet it is answering, the packets of a failed
batch that it has skipped so far, or a copy-in.

COPY is where the two can come apart, and `CopyOk` is the condition under which they
do not.  Without COPY there is nothing to ask for.
-/
import PgBouncer.Proofs.Session

namespace PgBouncer

/-! ### Dropping requests and dropping packets -/

theorem real_dropFakes (q : List OutstandingRequest) : real (dropFakes q) = real q := by
  induction q with
  | nil => rfl
  | cons r rest ih =>
    rw [dropFakes]
    split
    · rename_i hfake
      rw [ih, real_cons_fake hfake]
    · rfl

variable {rest : List OutstandingRequest} {r : OutstandingRequest} {p : Pkt StmtRef}

theorem dropFakes_head {q : List OutstandingRequest} (h : dropFakes q = r :: rest) :
    r.action ≠ .fake := by
  induction q with
  | nil => exact absurd h (by simp [dropFakes])
  | cons x q ih =>
    rw [dropFakes] at h
    split at h
    · exact ih h
    · rename_i hx
      exact (List.cons.inj h).1 ▸ hx

theorem dropFakes_of_head {q : List OutstandingRequest}
    (h : ∀ r rest, q = r :: rest → r.action ≠ .fake) : dropFakes q = q := by
  cases q with
  | nil => rfl
  | cons r rest => rw [dropFakes, if_neg (h r rest rfl)]

/-- Dropping requests up to the one for `p` drops the packets up to `p`. -/
theorem matched_dropUntil {types : List ReqType} (hp : p.type ∈ types) :
    ∀ {q : List OutstandingRequest} {pre post : List (Pkt StmtRef)},
      (∀ r ∈ q, r.action = .fake → r.type ∉ types) → (∀ x ∈ pre, x.type ∉ types) →
      List.Forall₂ Matches (real q) (pre ++ p :: post) →
      List.Forall₂ Matches (real (dropUntil types q)) post := by
  intro q
  induction q with
  | nil =>
    intro pre post _ _ h
    have hlen := h.length_eq
    simp at hlen
  | cons r rest ih =>
    intro pre post hfakes hpre h
    have hrest : ∀ r' ∈ rest, r'.action = .fake → r'.type ∉ types :=
      fun r' hr' => hfakes r' (List.mem_cons_of_mem r hr')
    by_cases hfake : r.action = .fake
    · rw [real_cons_fake hfake] at h
      rw [dropUntil, if_neg (hfakes r List.mem_cons_self hfake)]
      exact ih hrest hpre h
    · rw [real_cons_of_ne hfake] at h
      cases pre with
      | nil =>
        rw [List.nil_append, List.forall₂_cons] at h
        rw [dropUntil, if_pos (h.1.type ▸ hp)]
        exact h.2
      | cons x xs =>
        rw [List.cons_append, List.forall₂_cons] at h
        rw [dropUntil, if_neg (h.1.type ▸ hpre x List.mem_cons_self)]
        exact ih hrest (fun y hy => hpre y (List.mem_cons_of_mem x hy)) h.2

/-- Without such a packet everything is dropped. -/
theorem dropUntil_eq_nil {types : List ReqType} :
    ∀ {q : List OutstandingRequest} {pre : List (Pkt StmtRef)},
      (∀ r ∈ q, r.action = .fake → r.type ∉ types) → (∀ x ∈ pre, x.type ∉ types) →
      List.Forall₂ Matches (real q) pre → dropUntil types q = [] := by
  intro q
  induction q with
  | nil => intro pre _ _ _; rfl
  | cons r rest ih =>
    intro pre hfakes hpre h
    have hrest : ∀ r' ∈ rest, r'.action = .fake → r'.type ∉ types :=
      fun r' hr' => hfakes r' (List.mem_cons_of_mem r hr')
    by_cases hfake : r.action = .fake
    · rw [real_cons_fake hfake] at h
      rw [dropUntil, if_neg (hfakes r List.mem_cons_self hfake)]
      exact ih hrest hpre h
    · rw [real_cons_of_ne hfake] at h
      cases pre with
      | nil => exact absurd h.length_eq (by simp)
      | cons x xs =>
        rw [List.forall₂_cons] at h
        rw [dropUntil, if_neg (h.1.type ▸ hpre x List.mem_cons_self)]
        exact ih hrest (fun y hy => hpre y (List.mem_cons_of_mem x hy)) h.2

/-! ### Which packets are remembered -/

theorem trackOutstanding_false (type : ReqType) : trackOutstanding false type = type.isRequest := by
  cases type <;> rfl

theorem trackOutstanding_true (type : ReqType) :
    trackOutstanding true type = (type.isRequest || type.isCopyEnd) := by
  cases type <;> rfl

/-- The packets of a list that end a copy. -/
def copyEnds (ps : List (Pkt StmtRef)) : List (Pkt StmtRef) :=
  ps.filter (·.type.isCopyEnd)

@[simp] theorem copyEnds_append (ps ps' : List (Pkt StmtRef)) :
    copyEnds (ps ++ ps') = copyEnds ps ++ copyEnds ps' :=
  List.filter_append ps ps'

/-- Without a packet that ends a copy, the copy mode makes no difference. -/
theorem tracked_of_copyEnds_nil {ps : List (Pkt StmtRef)} (h : copyEnds ps = [])
    (copying : Bool) : tracked copying ps = tracked false ps := by
  refine List.filter_congr fun p hp => ?_
  have hend : p.type.isCopyEnd = false := by
    simpa using List.filter_eq_nil_iff.mp h p hp
  cases copying with
  | false => rfl
  | true => rw [trackOutstanding_true, trackOutstanding_false, hend, Bool.or_false]

theorem copyEnds_tracked (ps : List (Pkt StmtRef)) : copyEnds (tracked true ps) = copyEnds ps := by
  unfold copyEnds tracked
  rw [List.filter_filter]
  refine List.filter_congr fun p _ => ?_
  rw [trackOutstanding_true]
  cases p.type <;> rfl

theorem tracked_false_tracked (ps : List (Pkt StmtRef)) :
    tracked false (tracked true ps) = tracked false ps := by
  unfold tracked
  rw [List.filter_filter]
  refine List.filter_congr fun p _ => ?_
  rw [trackOutstanding_true, trackOutstanding_false]
  cases p.type <;> rfl

/-! ### The invariant -/

/-- The packets of a failed batch that have been skipped so far.  The first of them is
the one that failed, unless it was a COPY, whose requests are gone by then. -/
structure Skipped (copy : Bool) (skipped : List (Pkt StmtRef)) : Prop where
  noSync : ∀ p ∈ skipped, p.type ≠ .sync
  head : copy = false → ∃ p rest, skipped = p :: rest ∧ p.type.isReady = false

theorem Skipped.concat {copy : Bool} {skipped : List (Pkt StmtRef)} (h : Skipped copy skipped)
    (hp : p.type ≠ .sync) : Skipped copy (skipped ++ [p]) := by
  refine ⟨?_, fun hcopy => ?_⟩
  · intro q hq
    rcases List.mem_append.mp hq with hold | hnew
    · exact h.noSync q hold
    · exact List.mem_singleton.mp hnew ▸ hp
  · obtain ⟨q, rest, rfl, hq⟩ := h.head hcopy
    exact ⟨q, rest ++ [p], rfl, hq⟩

namespace Session

/-- The packet the backend is answering. -/
def answering (s : Session) : Option (Pkt StmtRef) :=
  s.link.toServer[s.backend.request - 1]?

/-- What the packets the backend has read and not done with look like. -/
inductive Stage (copy : Bool) (s : Session) : Mode → List (Pkt StmtRef) → Prop
  | idle (hqf : s.link.server.queryFailed = false) : Stage copy s .idle []
  | busy {p : Pkt StmtRef} (hqf : s.link.server.queryFailed = false)
      (hp : p.type.isRequest = true) (hans : s.answering = some p) : Stage copy s (.busy p) [p]
  | failed {p : Pkt StmtRef} (hqf : s.link.server.queryFailed = true)
      (hp : p.type.isReady = true) (hans : s.answering = some p) : Stage copy s .failed [p]
  /-- The Sync that ends a failed batch. -/
  | resync {skipped : List (Pkt StmtRef)} (hqf : s.link.server.queryFailed = true)
      (hsk : Skipped copy skipped) (hans : s.answering = some .sync) :
      Stage copy s .failed (skipped ++ [.sync])
  | skipping {skipped : List (Pkt StmtRef)} (hqf : s.link.server.queryFailed = true)
      (hsk : Skipped copy skipped) : Stage copy s .skipping skipped
  | copyIn {syncs : List (Pkt StmtRef)} (hcopy : copy = true)
      (hqf : s.link.server.queryFailed = false) (hsyncs : ∀ p ∈ syncs, p = .sync)
      (hends : (copyEnds s.unread).length ≤ 1)
      (hclient : s.link.client.copyMode = true ↔ copyEnds s.unread = []) :
      Stage copy s (.copyIn false) (.execute :: syncs)
  | copyDone {syncs : List (Pkt StmtRef)} (hcopy : copy = true)
      (hqf : s.link.server.queryFailed = false) (hsyncs : ∀ p ∈ syncs, p = .sync)
      (hends : copyEnds s.unread = []) (hclient : s.link.client.copyMode = false) :
      Stage copy s (.copyDone false) (.execute :: syncs ++ [.copyDone])
  | copyFail {syncs : List (Pkt StmtRef)} (hcopy : copy = true)
      (hqf : s.link.server.queryFailed = false) (hsyncs : ∀ p ∈ syncs, p = .sync)
      (hends : copyEnds s.unread = []) (hclient : s.link.client.copyMode = false) :
      Stage copy s (.copyFail false) (.execute :: syncs ++ [.copyFail])

/-- **The queue is in step with the backend.** -/
structure Lockstep (copy : Bool) (s : Session) (pre : List (Pkt StmtRef)) : Prop where
  stage : Stage copy s s.backend.mode pre
  matched : List.Forall₂ Matches (real s.link.server.outstandingRequests)
    (pre ++ tracked s.backend.mode.copying s.unread)
  copyMode : s.link.server.copyMode = s.backend.mode.copying
  /-- The responses at the head of the queue have been made up. -/
  head : ∀ r rest, s.link.server.outstandingRequests = r :: rest → r.action ≠ .fake
  fakes : ∀ r ∈ s.link.server.outstandingRequests, r.action = .fake → r.HeldBack

/-- The conditions under which COPY leaves the queue in step. -/
def CopyOk (s : Session) : SessionEvent → Prop
  -- The client ends a copy-in once.
  | .client p => p.type.isCopyEnd = true → s.link.server.copyMode = true →
      s.link.client.copyMode = true
  -- A copy-in is started by an Execute, and the client has not sent the end of it before the
  -- CopyInResponse is processed.
  | .reply .copyInResponse => s.backend.mode = .busy .execute ∧ copyEnds s.unread = []
  -- When a copy-in fails while the backend is waiting for data, the first packet that it
  -- would answer and has not read is the end of the copy.
  | .reply .errorResponse => s.backend.mode = .copyIn false →
      ∀ p ∈ (tracked true s.unread).head?, p.type.isCopyEnd = true
  -- When a copy-in is complete, the first packet to be answered that the backend has not
  -- read is not an Execute.
  | .reply (.commandComplete _) => s.backend.mode = .copyDone false →
      ∀ p ∈ (tracked true s.unread).head?, p.type ≠ .execute
  -- A Query or FunctionCall at the head of the queue is what a ReadyForQuery answers.
  | .reply (.readyForQuery _) => ∀ r ∈ s.link.server.outstandingRequests.head?,
      r.type = .query ∨ r.type = .functionCall → s.answering.map Pkt.type = some r.type
  | _ => True

instance (s : Session) (e : SessionEvent) : Decidable (CopyOk s e) := by
  unfold CopyOk
  split <;> infer_instance

/-- Runs without COPY. -/
def NoCopy (_ : Session) (e : SessionEvent) : Prop :=
  e ≠ .reply .copyInResponse

instance (s : Session) (e : SessionEvent) : Decidable (NoCopy s e) :=
  inferInstanceAs (Decidable (_ ≠ _))

/-- What is asked of an event: nothing of COPY if there is none. -/
def EventOk (copy : Bool) (s : Session) (e : SessionEvent) : Prop :=
  if copy then CopyOk s e else NoCopy s e

/-- Whether the rest of a batch is being skipped: the request at the head of the queue has
failed, and its answer does not end with a ReadyForQuery. -/
def batchFailed (s : Session) : Bool :=
  s.link.server.queryFailed &&
    s.link.server.outstandingRequests.head?.any fun r => !r.type.isReady

variable {s : Session}

theorem batchFailed_of_ready (hq : s.link.server.outstandingRequests = r :: rest)
    (hr : r.type.isReady = true) :
    s.batchFailed = false := by
  simp [batchFailed, hq, hr]

theorem batchFailed_of_not_ready (hqf : s.link.server.queryFailed = true)
    (hq : s.link.server.outstandingRequests = r :: rest) (hr : r.type.isReady = false) :
    s.batchFailed = true := by
  simp [batchFailed, hqf, hq, hr]

theorem batchFailed_of_not_failed (h : s.link.server.queryFailed = false) :
    s.batchFailed = false := by
  simp [batchFailed, h]

/-! ### A packet of the client -/

section

variable {cfg : Config} {copy : Bool} {s s' : Session} {pre : List (Pkt StmtRef)}

variable {sent : List (Pkt StmtRef)}

theorem answering_append (htoServer : s'.link.toServer = s.link.toServer ++ sent)
    (hbackend : s'.backend = s.backend) (h : s.answering = some p) : s'.answering = some p := by
  have hlt := (List.getElem?_eq_some_iff.mp h).1
  rw [answering, htoServer, hbackend, List.getElem?_append_left hlt]
  exact h

/-- Sending more changes nothing about what has been read, as long as a copy-in is
ended once. -/
theorem Stage.client {mode : Mode} (h : Stage copy s mode pre)
    (hans : ∀ {p}, s.answering = some p → s'.answering = some p)
    (hunread : s'.unread = s.unread ++ sent)
    (hqf : s'.link.server.queryFailed = s.link.server.queryFailed)
    (hends : copy = true → mode.copying = true →
      (copyEnds sent = [] ∧ s'.link.client.copyMode = s.link.client.copyMode) ∨
      ((copyEnds sent).length = 1 ∧ s.link.client.copyMode = true ∧
        s'.link.client.copyMode = false)) :
    Stage copy s' mode pre := by
  cases h with
  | idle h => exact .idle (hqf.trans h)
  | busy h hp ha => exact .busy (hqf.trans h) hp (hans ha)
  | failed h hp ha => exact .failed (hqf.trans h) hp (hans ha)
  | resync h hsk ha => exact .resync (hqf.trans h) hsk (hans ha)
  | skipping h hsk => exact .skipping (hqf.trans h) hsk
  | copyIn hcopy h hsyncs hlen hclient =>
    rcases hends hcopy rfl with ⟨hnil, hmode⟩ | ⟨hone, hbefore, hafter⟩
    · have hu : copyEnds s'.unread = copyEnds s.unread := by
        rw [hunread, copyEnds_append, hnil, List.append_nil]
      exact .copyIn hcopy (hqf.trans h) hsyncs (hu ▸ hlen) (by rw [hu, hmode]; exact hclient)
    · have hu : copyEnds s'.unread = copyEnds sent := by
        rw [hunread, copyEnds_append, hclient.mp hbefore, List.nil_append]
      refine .copyIn hcopy (hqf.trans h) hsyncs (by rw [hu]; exact Nat.le_of_eq hone) ?_
      rw [hu, hafter]
      refine ⟨fun hf => absurd hf (by simp), fun hnil => ?_⟩
      rw [hnil] at hone
      exact absurd hone (by simp)
  | copyDone hcopy h hsyncs hu hclient =>
    rcases hends hcopy rfl with ⟨hnil, hmode⟩ | ⟨_, hbefore, _⟩
    · refine .copyDone hcopy (hqf.trans h) hsyncs ?_ (hmode.trans hclient)
      rw [hunread, copyEnds_append, hu, hnil, List.append_nil]
    · exact absurd hbefore (by simp [hclient])
  | copyFail hcopy h hsyncs hu hclient =>
    rcases hends hcopy rfl with ⟨hnil, hmode⟩ | ⟨_, hbefore, _⟩
    · refine .copyFail hcopy (hqf.trans h) hsyncs ?_ (hmode.trans hclient)
      rw [hunread, copyEnds_append, hu, hnil, List.append_nil]
    · exact absurd hbefore (by simp [hclient])

theorem head_append {l l' : Link} {p : Pkt Bytes} {added : List OutstandingRequest}
    (heff : Effect cfg l l' p added sent)
    (h : ∀ r rest, l.server.outstandingRequests = r :: rest → r.action ≠ .fake) :
    ∀ r rest, l'.server.outstandingRequests = r :: rest → r.action ≠ .fake := by
  intro r rest hq
  rw [heff.queue] at hq
  cases hold : l.server.outstandingRequests with
  | cons x xs =>
    rw [hold, List.cons_append] at hq
    exact (List.cons.inj hq).1 ▸ h x xs hold
  | nil =>
    rw [hold, List.nil_append] at hq
    cases heff.response with
    | queued _ _ _ hreal =>
      have hmem : r ∈ real added := by
        rw [hreal hold, hq]
        exact List.mem_cons_self
      simpa using (List.mem_filter.mp hmem).2
    | madeUp _ _ hadded => exact absurd (hadded.symm.trans hq) (by simp)
    | written _ _ hadded => exact absurd (hadded.symm.trans hq) (by simp)

theorem Lockstep.client {p : Pkt Bytes} (h : Lockstep copy s pre) (hs : s.Sane)
    (hok : EventOk copy s (.client p)) (hstep : s.clientStep cfg p = some s') :
    Lockstep copy s' pre := by
  obtain ⟨added, sent, heff, _, hs'⟩ := clientStep_effect hs hstep
  have hbackend : s'.backend = s.backend := by rw [hs']
  have hunread := unread_append hs heff.toServer hbackend
  refine ⟨?_, ?_, ?_, head_append heff h.head, ?_⟩
  · rw [hbackend]
    refine h.stage.client (answering_append heff.toServer hbackend) hunread heff.queryFailed ?_
    intro hcopy hcopying
    have hends : copyEnds sent = if p.type.isCopyEnd then [p.forwarded] else [] := heff.copyEnds
    by_cases hend : p.type.isCopyEnd = true
    · have hok' : CopyOk s (.client p) := by simpa [EventOk, hcopy] using hok
      have hbefore := hok' hend (h.copyMode.trans hcopying)
      refine .inr ⟨?_, hbefore, ?_⟩
      · rw [hends, if_pos hend]
        rfl
      · rw [heff.clientCopyMode, hend, Bool.not_true, Bool.and_false]
    · refine .inl ⟨by rw [hends, if_neg hend], ?_⟩
      rw [heff.clientCopyMode, Bool.eq_false_iff.mpr hend, Bool.not_false, Bool.and_true]
  · rw [heff.queue, real_append, hbackend, hunread, tracked_append, ← List.append_assoc]
    exact List.rel_append h.matched (h.copyMode ▸ heff.matched)
  · rw [heff.copyMode, hbackend]
    exact h.copyMode
  · intro r hr
    rw [heff.queue] at hr
    rcases List.mem_append.mp hr with hold | hnew
    · exact h.fakes r hold
    · exact heff.fakes r hnew

/-! ### The backend reads -/

theorem tracked_cons (copying : Bool) (p : Pkt StmtRef) (ps : List (Pkt StmtRef)) :
    tracked copying (p :: ps) =
      (if trackOutstanding copying p.type then [p] else []) ++ tracked copying ps := by
  rw [tracked, List.filter_cons]
  split <;> rfl

theorem copyEnds_cons (p : Pkt StmtRef) (ps : List (Pkt StmtRef)) :
    copyEnds (p :: ps) = (if p.type.isCopyEnd then [p] else []) ++ copyEnds ps := by
  rw [copyEnds, List.filter_cons]
  split <;> rfl

/-- The packet read joins those the backend has read and not done with, if it is one
that is remembered. -/
theorem Stage.read {mode mode' : Mode} (h : Stage copy s mode pre)
    (hmode : Backend.modeAfter mode p = some mode') (hlink : s'.link = s.link)
    (hunread : s.unread = p :: s'.unread)
    (hans : mode' = .busy p ∨ mode' = .failed → s'.answering = some p) :
    mode'.copying = mode.copying ∧
      Stage copy s' mode' (pre ++ if trackOutstanding mode.copying p.type then [p] else []) := by
  have hends : copyEnds s.unread =
      (if p.type.isCopyEnd then [p] else []) ++ copyEnds s'.unread := by
    rw [hunread, copyEnds_cons]
  cases h with
  | idle h =>
    simp only [Backend.modeAfter] at hmode
    rw [show Mode.idle.copying = false from rfl, trackOutstanding_false]
    by_cases hreq : p.type.isRequest = true
    · rw [if_pos hreq] at hmode ⊢
      obtain rfl := Option.some.inj hmode
      exact ⟨rfl, .busy (by rw [hlink]; exact h) hreq (hans (.inl rfl))⟩
    · rw [if_neg hreq] at hmode ⊢
      split at hmode
      · exact absurd hmode (by simp)
      · obtain rfl := Option.some.inj hmode
        exact ⟨rfl, .idle (by rw [hlink]; exact h)⟩
  | busy | failed | resync => exact absurd hmode (by simp [Backend.modeAfter])
  | skipping h hsk =>
    simp only [Backend.modeAfter] at hmode
    rw [show Mode.skipping.copying = false from rfl, trackOutstanding_false]
    by_cases hsync : p.type = .sync
    · rw [if_pos hsync] at hmode
      obtain rfl := Option.some.inj hmode
      obtain rfl : p = .sync := by cases p <;> first | rfl | exact absurd hsync (by simp [Pkt.type])
      exact ⟨rfl, .resync (by rw [hlink]; exact h) hsk (hans (.inr rfl))⟩
    · rw [if_neg hsync] at hmode
      split at hmode
      · exact absurd hmode (by simp)
      · obtain rfl := Option.some.inj hmode
        refine ⟨rfl, .skipping (by rw [hlink]; exact h) ?_⟩
        split
        · exact hsk.concat hsync
        · rwa [List.append_nil]
  | @copyIn syncs hcopy h hsyncs hlen hclient =>
    have hqf : s'.link.server.queryFailed = false := by rw [hlink]; exact h
    rw [hends] at hlen hclient
    rw [show (Mode.copyIn false).copying = true from rfl, trackOutstanding_true]
    cases p with
    | copyData | flush =>
      obtain rfl := Option.some.inj hmode
      refine ⟨rfl, ?_⟩
      rw [show (ReqType.isRequest _ || ReqType.isCopyEnd _) = false from rfl]
      simp only [Bool.false_eq_true, if_false, List.append_nil]
      exact .copyIn hcopy hqf hsyncs hlen (by rw [hlink]; exact hclient)
    | sync =>
      obtain rfl := Option.some.inj hmode
      refine ⟨rfl, ?_⟩
      show Stage copy s' (.copyIn false) (.execute :: (syncs ++ [.sync]))
      refine .copyIn hcopy hqf ?_ hlen (by rw [hlink]; exact hclient)
      intro q hq
      rcases List.mem_append.mp hq with hold | hnew
      · exact hsyncs q hold
      · exact List.mem_singleton.mp hnew
    | copyDone =>
      obtain rfl := Option.some.inj hmode
      have hnil : copyEnds s'.unread = [] := by
        simpa [Pkt.type, ReqType.isCopyEnd] using hlen
      refine ⟨rfl, .copyDone hcopy hqf hsyncs hnil ?_⟩
      rw [hlink]
      simpa [Pkt.type, ReqType.isCopyEnd] using hclient
    | copyFail =>
      obtain rfl := Option.some.inj hmode
      have hnil : copyEnds s'.unread = [] := by
        simpa [Pkt.type, ReqType.isCopyEnd] using hlen
      refine ⟨rfl, .copyFail hcopy hqf hsyncs hnil ?_⟩
      rw [hlink]
      simpa [Pkt.type, ReqType.isCopyEnd] using hclient
    | parse | bind | describe | close | execute | query | functionCall | terminate | unknown =>
      exact absurd hmode (by simp [Backend.modeAfter, Pkt.type])
  | copyDone | copyFail => exact absurd hmode (by simp [Backend.modeAfter])

theorem Lockstep.read (h : Lockstep copy s pre) (hstep : s.readStep = some s') :
    ∃ p, s.unread = p :: s'.unread ∧ s'.backend.mode.copying = s.backend.mode.copying ∧
      Lockstep copy s'
        (pre ++ if trackOutstanding s.backend.mode.copying p.type then [p] else []) := by
  obtain ⟨p, b, hunread, hp, htake, hs'⟩ := readStep_some hstep
  obtain ⟨mode, hmode, rfl⟩ := Option.map_eq_some_iff.mp htake
  have hlink : s'.link = s.link := by rw [hs']
  have hmode' : s'.backend.mode = mode := by rw [hs']
  have hans : mode = .busy p ∨ mode = .failed → s'.answering = some p := by
    intro hor
    rw [hs', answering]
    simp only [if_pos hor]
    exact hp
  obtain ⟨hcopying, hstage⟩ := h.stage.read hmode hlink hunread hans
  refine ⟨p, hunread, hmode'.symm ▸ hcopying, hmode'.symm ▸ hstage, ?_, ?_,
    by rw [hlink]; exact h.head, by rw [hlink]; exact h.fakes⟩
  · have hm := h.matched
    rw [hunread, tracked_cons, ← List.append_assoc] at hm
    rw [hlink, hmode', hcopying]
    exact hm
  · rw [hlink, hmode', hcopying]
    exact h.copyMode

end

end Session

end PgBouncer
