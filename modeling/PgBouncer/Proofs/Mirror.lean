/-
The queue of outstanding requests mirrors the backend.

The log of a session has every request in order, and `settled` says how far the
backend has answered.  What is waiting is the rest of the log, without the held-back
requests in front, whose responses have been made up.  The queue is meant to be
exactly that, and the client's copy flag is meant to say whether a copy-in is open.

Both are true as long as the conditions of `CopyOk` are met.  They are not true of a
COPY that was started by a simple query.
-/
import PgBouncer.Lib.Waiting
import PgBouncer.Proofs.LockstepRun

namespace PgBouncer

open Waiting

/-! ### Positions of packets -/

/-- The positions of the packets that are remembered, the first packet being at `k`. -/
def positions (copying : Bool) : Nat → List (Pkt StmtRef) → List Nat
  | _, [] => []
  | k, p :: ps =>
    (if trackOutstanding copying p.type then [k] else []) ++ positions copying (k + 1) ps

theorem positions_append (copying : Bool) (ps qs : List (Pkt StmtRef)) :
    ∀ k, positions copying k (ps ++ qs) =
      positions copying k ps ++ positions copying (k + ps.length) qs := by
  induction ps with
  | nil => intro k; rfl
  | cons p ps ih =>
    intro k
    rw [List.cons_append, positions, positions, ih, List.append_assoc, List.length_cons,
      Nat.add_assoc, Nat.add_comm 1]

variable {ps : List (Pkt StmtRef)}

theorem le_of_mem_positions {copying : Bool} :
    ∀ {k x}, x ∈ positions copying k ps → k ≤ x := by
  induction ps with
  | nil => intro k x hx; exact absurd hx List.not_mem_nil
  | cons p ps ih =>
    intro k x hx
    rcases List.mem_append.mp hx with hp | hps
    · split at hp
      · exact Nat.le_of_eq (List.mem_singleton.mp hp).symm
      · exact absurd hp List.not_mem_nil
    · exact Nat.le_of_succ_le (ih hps)

theorem lt_of_mem_positions {copying : Bool} :
    ∀ {k x}, x ∈ positions copying k ps → x < k + ps.length := by
  induction ps with
  | nil => intro k x hx; exact absurd hx List.not_mem_nil
  | cons p ps ih =>
    intro k x hx
    rw [List.length_cons]
    rcases List.mem_append.mp hx with hp | hps
    · split at hp
      · rw [List.mem_singleton.mp hp]
        omega
      · exact absurd hp List.not_mem_nil
    · have := ih hps
      omega

theorem positions_sorted (copying : Bool) (ps : List (Pkt StmtRef)) :
    ∀ k, (positions copying k ps).Pairwise (· ≤ ·) := by
  induction ps with
  | nil => intro k; exact .nil
  | cons p ps ih =>
    intro k
    refine List.pairwise_append.mpr ⟨?_, ih (k + 1), ?_⟩
    · split
      · exact List.pairwise_singleton _ _
      · exact .nil
    · intro x hx y hy
      split at hx
      · rw [List.mem_singleton.mp hx]
        exact Nat.le_of_succ_le (le_of_mem_positions hy)
      · exact absurd hx List.not_mem_nil

theorem positions_length (copying : Bool) (ps : List (Pkt StmtRef)) :
    ∀ k, (positions copying k ps).length = (tracked copying ps).length := by
  induction ps with
  | nil => intro k; rfl
  | cons p ps ih =>
    intro k
    rw [positions, Session.tracked_cons, List.length_append, List.length_append, ih]
    split <;> rfl

theorem positions_of_copyEnds_nil (h : copyEnds ps = []) :
    ∀ k, positions true k ps = positions false k ps := by
  induction ps with
  | nil => intro k; rfl
  | cons p ps ih =>
    intro k
    rw [Session.copyEnds_cons] at h
    obtain ⟨hp, hps⟩ := List.append_eq_nil_iff.mp h
    have hend : p.type.isCopyEnd = false := by
      by_contra hend
      rw [if_pos (by simpa using hend)] at hp
      exact absurd hp (by simp)
    rw [positions, positions, ih hps, trackOutstanding_true, trackOutstanding_false, hend,
      Bool.or_false]

/-- The first packet to be remembered ends the copy: the others are behind it. -/
theorem positions_copyEnd {rest : List (Pkt StmtRef)} {p : Pkt StmtRef} :
    (copyEnds ps).length ≤ 1 → p.type.isCopyEnd = true → tracked true ps = p :: rest →
    ∃ i, ps.findIdx? (·.type.isCopyEnd) = some i ∧ i < ps.length ∧
      ∀ k, positions true k ps = (k + i) :: positions false k ps ∧
        ∀ x ∈ positions false k ps, k + i < x := by
  intro hends hp
  induction ps with
  | nil => intro h; exact absurd h (by simp [tracked])
  | cons q qs ih =>
    intro h
    rw [Session.copyEnds_cons] at hends
    rw [Session.tracked_cons] at h
    by_cases htrack : trackOutstanding true q.type = true
    · rw [if_pos htrack] at h
      obtain rfl : q = p := (List.cons.inj h).1
      rw [if_pos hp] at hends
      have hnil : copyEnds qs = [] := by simpa using hends
      have hfalse : trackOutstanding false q.type = false := by
        rw [trackOutstanding_false]
        cases htype : q.type <;> first | rfl | exact absurd (htype ▸ hp) (by decide)
      refine ⟨0, by simp [List.findIdx?_cons, hp], Nat.succ_pos _, fun k => ?_⟩
      rw [positions, positions, if_pos htrack, hfalse, positions_of_copyEnds_nil hnil]
      exact ⟨rfl, fun x hx => Nat.lt_of_succ_le (le_of_mem_positions hx)⟩
    · rw [if_neg htrack] at h
      have hfalse : q.type.isRequest = false ∧ q.type.isCopyEnd = false := by
        rw [trackOutstanding_true] at htrack
        simpa using htrack
      rw [hfalse.2] at hends
      obtain ⟨i, hi, hlt, hpos⟩ := ih (by simpa using hends) h
      refine ⟨i + 1, by simp [List.findIdx?_cons, hfalse.2, hi], Nat.succ_lt_succ hlt,
        fun k => ?_⟩
      obtain ⟨heq, hall⟩ := hpos (k + 1)
      rw [positions, positions, if_neg htrack, trackOutstanding_false, hfalse.1, heq]
      rw [Nat.add_assoc, Nat.add_comm 1] at hall ⊢
      exact ⟨rfl, hall⟩

/-! ### Slots and requests -/

/-- A request that was held back. -/
def Slot.fake (t : Slot) : Bool :=
  t.action = .fake

theorem map_sig_dropFakes (q : List OutstandingRequest) :
    (dropFakes q).map OutstandingRequest.sig =
      (q.map OutstandingRequest.sig).dropWhile (·.2 = .fake) := by
  induction q with
  | nil => rfl
  | cons r rest ih =>
    rw [dropFakes, List.map_cons, List.dropWhile_cons]
    by_cases hfake : r.action = .fake
    · rw [if_pos hfake, ih]
      exact (if_pos (decide_eq_true hfake)).symm
    · rw [if_neg hfake]
      exact (if_neg fun h => hfake (of_decide_eq_true h)).symm

theorem map_sig_dropWhile (w : List Slot) :
    (w.dropWhile Slot.fake).map Slot.sig = (w.map Slot.sig).dropWhile (·.2 = .fake) := by
  rw [List.dropWhile_map]
  rfl

/-- As many requests are behind a packet as slots are. -/
theorem length_real_eq {q : List OutstandingRequest} {w : List Slot}
    (h : q.map OutstandingRequest.sig = w.map Slot.sig) :
    (real q).length = (bound Slot.fake w).length := by
  have hq : (real q).map OutstandingRequest.sig =
      (q.map OutstandingRequest.sig).filter (·.2 ≠ .fake) := by
    rw [List.filter_map]
    rfl
  have hw : (bound Slot.fake w).map Slot.sig = (w.map Slot.sig).filter (·.2 ≠ .fake) := by
    rw [List.filter_map, bound]
    refine congrArg _ (List.filter_congr fun t _ => ?_)
    exact (decide_not (p := t.action = .fake)).symm
  rw [← List.length_map OutstandingRequest.sig, hq, h, ← hw, List.length_map]

/-- The positions of the requests a packet of the client turns into. -/
theorem slotsOf_pos (cfg : Config) (copying : Bool) (p : Pkt Bytes) (start : Nat)
    (sent : List (Pkt StmtRef)) (h : ¬(psAction cfg p && sent.isEmpty) = true) :
    (slotsOf cfg copying p start sent).map Slot.pos = positions copying (start + 1) sent ∧
      ∀ t ∈ slotsOf cfg copying p start sent, t.fake = false := by
  rw [slotsOf, if_neg h]
  clear h
  generalize start + 1 = k
  induction sent generalizing k with
  | nil => exact ⟨rfl, fun t ht => absurd ht (by simp)⟩
  | cons q rest ih =>
    obtain ⟨hpos, hreal⟩ := ih (k + 1)
    rw [List.zipIdx_cons, List.filterMap_cons, positions]
    by_cases htrack : trackOutstanding copying q.type = true
    · simp only [if_pos htrack, List.map_cons]
      refine ⟨congrArg (k :: ·) hpos, fun t ht => ?_⟩
      rcases List.mem_cons.mp ht with rfl | hrest
      · simp only [Slot.fake]
        split <;> rfl
      · exact hreal t hrest
    · simp only [if_neg htrack]
      exact ⟨hpos, hreal⟩

/-! ### The end of what is taken off the queue -/

/-- What is dropped ends with a request that is behind a packet, or it is everything. -/
def EndsReal (front back : List OutstandingRequest) : Prop :=
  back = [] ∨ ∃ init r, front = init ++ [r] ∧ r.action ≠ .fake

theorem dropUntil_split {types : List ReqType} {q : List OutstandingRequest} :
    (∀ r ∈ q, r.action = .fake → r.type ∉ types) →
    ∃ front, q = front ++ dropUntil types q ∧ EndsReal front (dropUntil types q) := by
  induction q with
  | nil => intro _; exact ⟨[], rfl, .inl rfl⟩
  | cons r rest ih =>
    intro h
    rw [dropUntil]
    split
    · rename_i hr
      refine ⟨[r], rfl, .inr ⟨[], r, rfl, fun hfake => ?_⟩⟩
      exact h r List.mem_cons_self hfake hr
    · obtain ⟨front, hfront, hend⟩ := ih fun x hx => h x (List.mem_cons_of_mem r hx)
      refine ⟨r :: front, by rw [List.cons_append, ← hfront], ?_⟩
      rcases hend with hnil | ⟨init, x, rfl, hx⟩
      · exact .inl hnil
      · exact .inr ⟨r :: init, x, rfl, hx⟩

theorem popQueue_split (types : List ReqType) (q : List OutstandingRequest) :
    popQueue types q = q ∨
      ∃ r, q = r :: popQueue types q ∧ r.action ≠ .fake := by
  unfold popQueue
  cases q with
  | nil => exact .inl rfl
  | cons r rest =>
    split
    · rename_i hpop
      simp only [poppable, decide_eq_true_eq] at hpop
      exact .inr ⟨r, rfl, hpop.1⟩
    · exact .inl rfl

/-- What a message takes off the queue. -/
theorem queueAfter_split {copy : Bool} {s : Session} {pre : List (Pkt StmtRef)}
    (h : s.Lockstep copy pre) (m : ServerMsg) :
    queueAfter s.link.server m = s.link.server.outstandingRequests ∨
      ∃ front, s.link.server.outstandingRequests = front ++ queueAfter s.link.server m ∧
        EndsReal front (queueAfter s.link.server m) := by
  have hdrop : ∀ types : List ReqType, (∀ t ∈ types, (t.isReady || t.isCopyEnd) = true) → _ :=
    fun types ht => dropUntil_split (h.fake_not_mem types ht)
  have hend : endCopyQueue s.link.server m = s.link.server.outstandingRequests ∨
      ∃ front, s.link.server.outstandingRequests = front ++ endCopyQueue s.link.server m ∧
        EndsReal front (endCopyQueue s.link.server m) := by
    unfold endCopyQueue
    split
    · split
      · exact .inr (hdrop _ (by decide))
      · exact .inl rfl
    · split
      · exact .inr (hdrop _ (by decide))
      · exact .inl rfl
    · exact .inl rfl
  unfold queueAfter
  split
  · unfold readyQueue
    split
    · rename_i hpop
      cases hq : s.link.server.outstandingRequests with
      | nil => exact .inl rfl
      | cons r rest => exact .inr ⟨[r], rfl, .inr ⟨[], r, rfl, h.head r rest hq⟩⟩
    · split
      · exact .inr (hdrop _ (by decide))
      · exact .inl rfl
  · rcases popQueue_split (popTypes m) (endCopyQueue s.link.server m) with hpop | ⟨r, hr, hreal⟩
    · rw [hpop]
      exact hend
    · generalize popQueue (popTypes m) (endCopyQueue s.link.server m) = back at hr
      rw [hr] at hend
      rcases hend with hsame | ⟨front, hfront, _⟩
      · exact .inr ⟨[r], hsame.symm, .inr ⟨[], r, rfl, hreal⟩⟩
      · exact .inr ⟨front ++ [r], by simp [hfront], .inr ⟨front, r, rfl, hreal⟩⟩

/-! ### The log and the queue -/

namespace Session

/-- The requests that have not had their final reply. -/
def waiting (s : Session) : List Slot :=
  Waiting.waiting Slot.fake Slot.pos s.settled s.log

/-- **The queue mirrors the backend**, and the client's copy flag says whether it has a
copy-in to end. -/
structure Mirror (s : Session) : Prop where
  queue : s.link.server.outstandingRequests.map OutstandingRequest.sig = s.waiting.map Slot.sig
  copyMode : s.link.client.copyMode = s.copyOpen

/-- What is needed to see that the queue goes on mirroring the backend: where the packets
of the waiting requests are.  `pre` are the packets the backend is not done with. -/
structure Aligned (s : Session) (pre : List (Pkt StmtRef)) : Prop where
  mirror : s.Mirror
  sorted : s.log.Pairwise (·.pos ≤ ·.pos)
  pos_le : ∀ t ∈ s.log, t.pos ≤ s.link.toServer.length
  settled_le : s.settled ≤ s.link.toServer.length
  /-- After an error the packet that ends a copy may be settled and unread. -/
  settled_read : s.backend.mode ≠ .skipping → s.settled ≤ s.backend.read
  split : ∃ done ahead, bound Slot.fake s.waiting = done ++ ahead ∧ done.length = pre.length ∧
    (∀ t ∈ done, t.pos ≤ s.backend.read) ∧
    ahead.map (·.pos) = positions s.backend.mode.copying (s.backend.read + 1) s.unread

section

variable {cfg : Config} {s s' : Session} {pre : List (Pkt StmtRef)}

theorem length_unread (hs : s.Sane) :
    s.backend.read + s.unread.length = s.link.toServer.length := by
  rw [unread, List.length_drop]
  have := hs.read_le
  omega

theorem Mirror.waiting_eq_nil (h : s.Mirror) :
    s.waiting = [] ↔ s.link.server.outstandingRequests = [] := by
  have hlen := congrArg List.length h.queue
  rw [List.length_map, List.length_map] at hlen
  rw [← List.length_eq_zero_iff, ← List.length_eq_zero_iff, hlen]

/-! ### A packet of the client -/

/-- New requests join those waiting, in step with the packets sent for them. -/
theorem Aligned.sends {sent : List (Pkt StmtRef)} {new : List Slot} (h : Aligned s pre)
    (hs : s.Sane) (hmirror : s'.Mirror) (hlog : s'.log = s.log ++ new)
    (hsettled : s'.settled = s.settled) (hbackend : s'.backend = s.backend)
    (htoServer : s'.link.toServer = s.link.toServer ++ sent)
    (hsorted : new.Pairwise (·.pos ≤ ·.pos))
    (hpos : ∀ t ∈ new, s.link.toServer.length ≤ t.pos ∧
      t.pos ≤ s.link.toServer.length + sent.length)
    (hnew : (bound Slot.fake new).map (·.pos) =
      positions s.backend.mode.copying (s.link.toServer.length + 1) sent) :
    Aligned s' pre := by
  have hlen : s'.link.toServer.length = s.link.toServer.length + sent.length := by
    rw [htoServer, List.length_append]
  refine ⟨hmirror, ?_, ?_, ?_, ?_, ?_⟩
  · rw [hlog]
    refine List.pairwise_append.mpr ⟨h.sorted, hsorted, fun t ht t' ht' => ?_⟩
    exact Nat.le_trans (h.pos_le t ht) (hpos t' ht').1
  · intro t ht
    rw [hlen]
    rw [hlog] at ht
    rcases List.mem_append.mp ht with hold | hin
    · exact Nat.le_add_right_of_le (h.pos_le t hold)
    · exact (hpos t hin).2
  · rw [hsettled, hlen]
    exact Nat.le_add_right_of_le h.settled_le
  · rw [hbackend, hsettled]
    exact h.settled_read
  · obtain ⟨done, ahead, hsplit, hdone, hread, hahead⟩ := h.split
    refine ⟨done, ahead ++ bound Slot.fake new, ?_, hdone, ?_, ?_⟩
    · rw [Session.waiting, hsettled, hlog, bound_waiting_append, ← List.append_assoc, ← hsplit]
      · rfl
      · intro t ht
        have hmem : t.pos ∈ positions s.backend.mode.copying (s.link.toServer.length + 1) sent :=
          hnew ▸ List.mem_map_of_mem ht
        exact Nat.lt_of_le_of_lt h.settled_le (le_of_mem_positions hmem)
    · rw [hbackend]
      exact hread
    · rw [unread_append hs htoServer hbackend, hbackend, positions_append, List.map_append, hahead,
        hnew, Nat.add_right_comm, length_unread hs]

/-- A packet was held back. -/
theorem Aligned.holdsBack {t : Slot} (h : Aligned s pre) (hs : s.Sane) (hmirror : s'.Mirror)
    (hlog : s'.log = s.log ++ [t]) (hsettled : s'.settled = s.settled)
    (hbackend : s'.backend = s.backend) (htoServer : s'.link.toServer = s.link.toServer ++ [])
    (hfake : t.fake = true) (hpos : t.pos = s.link.toServer.length) : Aligned s' pre := by
  refine h.sends hs hmirror hlog hsettled hbackend htoServer (List.pairwise_singleton _ _) ?_ ?_
  · intro t' ht'
    rw [List.mem_singleton.mp ht', hpos]
    exact ⟨Nat.le_refl _, Nat.le_refl _⟩
  · simp [bound, hfake, positions]

theorem Aligned.client {p : Pkt Bytes} (h : Aligned s pre) (hl : Lockstep true s pre)
    (hs : s.Sane) (hstep : s.clientStep cfg p = some s') : Aligned s' pre := by
  obtain ⟨added, sent, heff, _, hs'⟩ := clientStep_effect hs hstep
  have hlog : s'.log = s.log ++
      slotsOf cfg s.backend.mode.copying p s.link.toServer.length sent := by rw [hs']
  have hbackend : s'.backend = s.backend := by rw [hs']
  have hsettled : s'.settled = s.settled := by rw [hs']
  have hcopy : s'.link.client.copyMode = s'.copyOpen := by
    rw [heff.clientCopyMode, h.mirror.copyMode, hs']
  have hw : s'.waiting = Waiting.waiting Slot.fake Slot.pos s.settled (s.log ++
      slotsOf cfg s.backend.mode.copying p s.link.toServer.length sent) := by
    rw [Session.waiting, hsettled, hlog]
  have hheld : (psAction cfg p && sent.isEmpty) = true →
      slotsOf cfg s.backend.mode.copying p s.link.toServer.length sent =
        [{ type := p.type, action := .fake, pos := s.link.toServer.length }] :=
    fun hc => if_pos hc
  -- Nothing is outstanding, and the response has been made up.
  have hanswered : psAction cfg p = true → s.link.server.outstandingRequests = [] → added = [] →
      sent = [] → Aligned s' pre := by
    intro hps hempty hadded hsent
    have hslot := hheld (by simp [hps, hsent])
    refine h.holdsBack hs ⟨?_, hcopy⟩ (hslot ▸ hlog) hsettled hbackend (hsent ▸ heff.toServer)
      rfl rfl
    have hnil : s'.waiting = [] := by
      rw [hw, hslot]
      exact waiting_append_free (h.mirror.waiting_eq_nil.mpr hempty) (by simp [Slot.fake])
    rw [hnil, heff.queue, hempty, hadded]
    rfl
  cases heff.response with
  | madeUp hps hempty hadded hsent => exact hanswered hps hempty hadded hsent
  | written hps hempty hadded hsent => exact hanswered hps hempty hadded hsent
  | queued _ _ hsig hreal =>
    rw [hl.copyMode, ← slotsOf_sig cfg _ p s.link.toServer.length] at hsig
    have hmirror : (∀ t ∈ slotsOf cfg s.backend.mode.copying p s.link.toServer.length sent,
          s.settled < t.pos) →
        (s.waiting = [] →
          (slotsOf cfg s.backend.mode.copying p s.link.toServer.length sent).dropWhile Slot.fake =
            slotsOf cfg s.backend.mode.copying p s.link.toServer.length sent) → s'.Mirror := by
      intro hpos hfree
      refine ⟨?_, hcopy⟩
      rw [hw, waiting_append hpos hfree, heff.queue, List.map_append, List.map_append, hsig,
        h.mirror.queue]
      rfl
    by_cases hc : (psAction cfg p && sent.isEmpty) = true
    · have hslot := hheld hc
      have hne : s.link.server.outstandingRequests ≠ [] := by
        intro hempty
        rw [hslot] at hsig
        have hlen := length_real_eq hsig
        rw [hreal hempty, ← List.length_map OutstandingRequest.sig, hsig] at hlen
        exact absurd hlen (by simp [bound, Slot.fake])
      have hwne : s.waiting ≠ [] := fun hnil => hne (h.mirror.waiting_eq_nil.mp hnil)
      have hsent : sent = [] := List.isEmpty_iff.mp (Bool.and_eq_true_iff.mp hc).2
      refine h.holdsBack hs (hmirror ?_ fun hnil => absurd hnil hwne) (hslot ▸ hlog) hsettled
        hbackend (hsent ▸ heff.toServer) rfl rfl
      intro t ht
      obtain ⟨x, hx⟩ := List.exists_mem_of_ne_nil _ hwne
      obtain ⟨hxlog, hxpos⟩ := mem_waiting hx
      rw [hslot] at ht
      rw [List.mem_singleton.mp ht]
      exact Nat.lt_of_lt_of_le hxpos (h.pos_le x hxlog)
    · obtain ⟨hpositions, hnofake⟩ :=
        slotsOf_pos cfg s.backend.mode.copying p s.link.toServer.length sent hc
      generalize slotsOf cfg s.backend.mode.copying p s.link.toServer.length sent = new at *
      have hmem : ∀ t ∈ new, t.pos ∈
          positions s.backend.mode.copying (s.link.toServer.length + 1) sent :=
        fun t ht => hpositions ▸ List.mem_map_of_mem ht
      have hbound : bound Slot.fake new = new :=
        List.filter_eq_self.mpr fun t ht => by rw [hnofake t ht]; rfl
      refine h.sends hs (hmirror ?_ fun _ => ?_) hlog hsettled hbackend heff.toServer ?_ ?_ ?_
      · intro t ht
        exact Nat.lt_of_le_of_lt h.settled_le (le_of_mem_positions (hmem t ht))
      · cases new with
        | nil => rfl
        | cons t rest =>
          exact List.dropWhile_cons_of_neg (by simp [hnofake t List.mem_cons_self])
      · rw [← List.pairwise_map (f := Slot.pos), hpositions]
        exact positions_sorted _ _ _
      · intro t ht
        have hle := le_of_mem_positions (hmem t ht)
        have hlt := lt_of_mem_positions (hmem t ht)
        omega
      · rw [hbound, hpositions]

/-! ### The backend reads -/

theorem Aligned.read (h : Aligned s pre) (hstep : s.readStep = some s') {p : Pkt StmtRef}
    (hunread : s.unread = p :: s'.unread)
    (hcopying : s'.backend.mode.copying = s.backend.mode.copying) :
    Aligned s' (pre ++ if trackOutstanding s.backend.mode.copying p.type then [p] else []) := by
  obtain ⟨q, b, hq, _, htake, hs'⟩ := readStep_some hstep
  obtain rfl : q = p := (List.cons.inj (hq.symm.trans hunread)).1
  obtain ⟨mode, hmode, rfl⟩ := Option.map_eq_some_iff.mp htake
  have hw : s'.waiting = s.waiting := by rw [hs']; rfl
  have hread : s'.backend.read = s.backend.read + 1 := by rw [hs']
  obtain ⟨done, ahead, hsplit, hdone, hle, hahead⟩ := h.split
  have hpos : ahead.map (·.pos) =
      (if trackOutstanding s.backend.mode.copying q.type then [s.backend.read + 1] else []) ++
        positions s'.backend.mode.copying (s'.backend.read + 1) s'.unread := by
    rw [hahead, hunread, positions, hread, hcopying]
  obtain ⟨front, ahead', rfl, hfront, hahead'⟩ := List.map_eq_append_iff.mp hpos
  have hle' : ∀ t ∈ done ++ front, t.pos ≤ s'.backend.read := by
    intro t ht
    rw [hread]
    rcases List.mem_append.mp ht with hd | hf
    · exact Nat.le_succ_of_le (hle t hd)
    · have hmem : t.pos ∈ front.map (·.pos) := List.mem_map_of_mem hf
      rw [hfront] at hmem
      split at hmem
      · exact Nat.le_of_eq (List.mem_singleton.mp hmem)
      · exact absurd hmem List.not_mem_nil
  refine ⟨⟨?_, ?_⟩, ?_, ?_, ?_, ?_, done ++ front, ahead', ?_, ?_, hle', hahead'⟩
  · rw [hw, hs']
    exact h.mirror.queue
  · rw [hs']
    exact h.mirror.copyMode
  · rw [hs']
    exact h.sorted
  · rw [hs']
    exact h.pos_le
  · rw [hs']
    exact h.settled_le
  · intro hne
    by_cases hskip : s.backend.mode = .skipping
    · -- Only a Sync ends the skipping, and its request is still waiting.
      have hsync : q.type = .sync := by
        by_contra hns
        rw [hskip] at hmode
        simp only [Backend.modeAfter, if_neg hns] at hmode
        split at hmode
        · exact absurd hmode (by simp)
        · exact hne (by rw [hs']; exact (Option.some.inj hmode).symm)
      rw [hsync, show trackOutstanding s.backend.mode.copying .sync = true by
        cases s.backend.mode.copying <;> rfl] at hfront
      obtain ⟨t, _, rfl, ht, _⟩ := List.map_eq_cons_iff.mp hfront
      have hmem : t ∈ bound Slot.fake s.waiting := by rw [hsplit]; simp
      have hlt := (mem_waiting (mem_bound.mp hmem).1).2
      rw [hread, ← ht]
      rw [hs']
      exact Nat.le_of_lt hlt
    · have hold := h.settled_read hskip
      rw [hread]
      rw [hs']
      exact Nat.le_succ_of_le hold
  · rw [hw, hsplit, List.append_assoc]
  · have hlen := congrArg List.length hfront
    rw [List.length_map] at hlen
    rw [List.length_append, List.length_append, hdone, hlen]
    split <;> rfl

/-! ### A message of the backend -/

/-- The queue goes on mirroring the backend when requests get their final reply. -/
theorem Aligned.settle {n : Nat} {front back : List OutstandingRequest} {gone left : List Nat}
    (h : Aligned s pre) (hle : s.settled ≤ n) (hread : s.backend.read ≤ n)
    (hq : s.link.server.outstandingRequests = front ++ back) (hend : EndsReal front back)
    (hback : (real back).length = left.length)
    (hpos : positions s.backend.mode.copying (s.backend.read + 1) s.unread = gone ++ left)
    (hgone : ∀ x ∈ gone, x ≤ n) (hleft : ∀ x ∈ left, n < x) :
    (dropFakes back).map OutstandingRequest.sig =
        (Waiting.waiting Slot.fake Slot.pos n s.log).map Slot.sig ∧
      (bound Slot.fake (Waiting.waiting Slot.fake Slot.pos n s.log)).map (·.pos) = left := by
  have hsig := h.mirror.queue
  rw [hq, List.map_append] at hsig
  obtain ⟨w, w', hw, hfrontsig, hbacksig⟩ := List.map_eq_append_iff.mp hsig.symm
  obtain ⟨done, ahead, hsplit, _, hdone, hahead⟩ := h.split
  rw [hpos] at hahead
  obtain ⟨ahead₁, ahead₂, rfl, hgone', hleft'⟩ := List.map_eq_append_iff.mp hahead
  -- As many requests are left as packets the backend has not read.
  have hlen : (bound Slot.fake w').length = ahead₂.length := by
    rw [← length_real_eq hbacksig.symm, hback, ← hleft', List.length_map]
  rw [hw, bound_append, ← List.append_assoc] at hsplit
  obtain ⟨hw₁, hw₂⟩ := List.append_inj' hsplit hlen
  have hfront : ∀ t ∈ bound Slot.fake w, t.pos ≤ n := by
    intro t ht
    rw [hw₁] at ht
    rcases List.mem_append.mp ht with hd | hg
    · exact Nat.le_trans (hdone t hd) hread
    · exact hgone _ (hgone' ▸ List.mem_map_of_mem hg)
  have hbound : ∀ t ∈ bound Slot.fake w', n < t.pos := by
    intro t ht
    rw [hw₂] at ht
    exact hleft _ (hleft' ▸ List.mem_map_of_mem ht)
  have hlast : w' = [] ∨ ∃ init x, w = init ++ [x] ∧ Slot.fake x = false := by
    rcases hend with rfl | ⟨init, r, rfl, hr⟩
    · exact .inl (List.map_eq_nil_iff.mp hbacksig)
    · rw [List.map_append] at hfrontsig
      obtain ⟨init', last, rfl, _, hlast⟩ := List.map_eq_append_iff.mp hfrontsig
      obtain ⟨x, _, rfl, hx, hnil⟩ := List.map_eq_cons_iff.mp hlast
      obtain rfl := List.map_eq_nil_iff.mp hnil
      refine .inr ⟨init', x, rfl, decide_eq_false fun hfake => hr ?_⟩
      exact (Prod.mk.inj hx).2.symm.trans hfake
  have hwaiting := waiting_settle h.sorted hle hw hfront hbound hlast
  rw [hwaiting, map_sig_dropFakes, map_sig_dropWhile, hbacksig, bound_dropWhile, hw₂]
  exact ⟨rfl, hleft'⟩

/-- Position `n` is at or behind what the backend has read, and of the packets it has not
read those in front of `n` are the ones that are remembered for the copy-in only. -/
structure SettlesAt (s : Session) (n : Nat) : Prop where
  read_le : s.backend.read ≤ n
  le_length : n ≤ s.link.toServer.length
  left : ∀ x ∈ positions false (s.backend.read + 1) s.unread, n < x
  gone : ∃ gone, positions s.backend.mode.copying (s.backend.read + 1) s.unread =
      gone ++ positions false (s.backend.read + 1) s.unread ∧ ∀ x ∈ gone, x ≤ n

theorem SettlesAt.read (hs : s.Sane)
    (h : positions s.backend.mode.copying (s.backend.read + 1) s.unread =
      positions false (s.backend.read + 1) s.unread) : s.SettlesAt s.backend.read :=
  ⟨Nat.le_refl _, hs.read_le, fun _ hx => le_of_mem_positions hx,
    [], by rw [h, List.nil_append], by simp⟩

variable {m : ServerMsg}

/-- How far the requests have been answered when the backend is done with what it has
read. -/
theorem settledAfter_settles (hl : Lockstep true s pre) (hs : s.Sane) (hok : CopyOk s (.reply m))
    (hemits : Backend.Emits s.backend m s'.backend) (hm : m.async = false)
    (hidle : s'.backend.mode = .idle ∨
      s'.backend.mode = .skipping ∧ m = .errorResponse ∧ s.backend.mode.copying = true) :
    s.SettlesAt (s.settledAfter m s'.backend) := by
  have hends : copyEnds s.unread = [] → ∀ copying,
      positions copying (s.backend.read + 1) s.unread =
        positions false (s.backend.read + 1) s.unread := by
    intro hnil copying
    cases copying with
    | false => rfl
    | true => exact positions_of_copyEnds_nil hnil _
  have hafter : s.settledAfter m s'.backend =
      if s'.backend.mode = .idle then s.backend.read
      else s.backend.read + s.unreadCopyEnd := by
    rw [settledAfter, hm]
    simp only [Bool.false_eq_true, if_false]
    split
    · rfl
    · rename_i hne
      rw [if_pos (hidle.resolve_left hne).2]
  have hstage := hl.stage
  generalize hmode : s.backend.mode = mode at hstage hidle
  cases hstage with
  | idle | busy | failed | resync | skipping =>
    have hi : s'.backend.mode = .idle :=
      hidle.resolve_right fun hc => absurd hc.2.2 (by simp [Mode.copying])
    rw [hafter, if_pos hi]
    exact .read hs (by rw [hmode]; rfl)
  | copyDone _ _ _ hnil | copyFail _ _ _ hnil =>
    have hread : s.settledAfter m s'.backend = s.backend.read := by
      rw [hafter, unreadCopyEnd, hmode]
      split <;> rfl
    rw [hread]
    exact .read hs (hends hnil _)
  | copyIn _ _ _ hone _ =>
    have hne : s'.backend.mode ≠ .idle := hemits.idle_from.2 false hmode hm
    obtain ⟨_, rfl, _⟩ := hidle.resolve_left hne
    rw [if_neg hne] at hafter
    cases htracked : tracked true s.unread with
    | nil =>
      have hnil : copyEnds s.unread = [] := by rw [← copyEnds_tracked, htracked]; rfl
      have hnone : s.unread.findIdx? (·.type.isCopyEnd) = none := by
        rw [List.findIdx?_eq_none_iff]
        intro p hp
        simpa using List.filter_eq_nil_iff.mp hnil p hp
      have hread : s.backend.read + s.unreadCopyEnd = s.backend.read := by
        rw [unreadCopyEnd, hmode, hnone]
        rfl
      rw [hafter, hread]
      exact .read hs (hends hnil _)
    | cons p rest =>
      have hend := hok hmode p (by rw [htracked]; rfl)
      obtain ⟨i, hi, hlt, hpos⟩ := positions_copyEnd hone hend htracked
      obtain ⟨heq, hall⟩ := hpos (s.backend.read + 1)
      have hn : s.backend.read + s.unreadCopyEnd = s.backend.read + 1 + i := by
        rw [unreadCopyEnd, hmode, hi]
        simp only
        omega
      have hlen := length_unread hs
      rw [hafter, hn]
      refine ⟨by omega, by omega, hall, [s.backend.read + 1 + i], by rw [hmode]; exact heq, ?_⟩
      intro x hx
      exact Nat.le_of_eq (List.mem_singleton.mp hx)

theorem settledAfter_goesOn {b : Backend} (hidle : m.async = true ∨ b.mode ≠ .idle)
    (herror : m = .errorResponse → s.backend.mode.copying = false) :
    s.settledAfter m b = s.settled := by
  unfold settledAfter
  by_cases hm : m.async = true
  · rw [if_pos hm]
  · rw [if_neg hm, if_neg (hidle.resolve_left hm), if_neg]
    rintro ⟨he, hc⟩
    rw [herror he] at hc
    exact absurd hc (by simp)

/-- The client's copy flag after a message. -/
theorem copyMode_reply (hok : CopyOk s (.reply m)) (hemits : Backend.Emits s.backend m s'.backend)
    (hclient : s'.link.client = clientAfter cfg m s.link.client) (hopen : s'.copyOpen =
      if m = .copyInResponse then s.unread.all fun p => !p.type.isCopyEnd else s.copyOpen)
    (h : s.link.client.copyMode = s.copyOpen) : s'.link.client.copyMode = s'.copyOpen := by
  rw [hclient, hopen]
  by_cases hcopyIn : m = .copyInResponse
  · subst hcopyIn
    rw [if_pos rfl, eq_comm]
    have hnil : copyEnds s.unread = [] := hok.2
    refine List.all_eq_true.mpr fun p hp => ?_
    simpa using List.filter_eq_nil_iff.mp hnil p hp
  · rw [if_neg hcopyIn, ← h]
    have hboth := ne_copyBothResponse hemits
    unfold clientAfter
    split
    · exact absurd rfl hcopyIn
    · exact absurd rfl hboth
    · split <;> rfl
    · rfl

theorem Aligned.reply {pre' : List (Pkt StmtRef)} (h : Aligned s pre) (hl : Lockstep true s pre)
    (hl' : Lockstep true s' pre') (hs : s.Sane) (hok : CopyOk s (.reply m))
    (hstep : s.replyStep cfg m = some s') (hturn : Turn s s' m pre pre') : Aligned s' pre' := by
  have hr := replyStep_replied hs hstep
  obtain ⟨b, l, _, _, hs'⟩ := replyStep_some hstep
  have hemits := replyStep_emits hstep
  have hread : s'.backend.read = s.backend.read := hemits.position.1
  have hunread : s'.unread = s.unread := by rw [unread, unread, hr.toServer, hread]
  have hlog : s'.log = s.log := by rw [hs']
  have hsettled : s'.settled = s.settledAfter m s'.backend := by rw [hs']
  have hcopy := copyMode_reply hok hemits hr.client (by rw [hs']) h.mirror.copyMode
  have hsorted : s'.log.Pairwise (·.pos ≤ ·.pos) := by rw [hlog]; exact h.sorted
  have hpos_le : ∀ t ∈ s'.log, t.pos ≤ s'.link.toServer.length := by
    rw [hlog, hr.toServer]
    exact h.pos_le
  cases hturn with
  | goesOn hq hidle herror hcopying =>
    have hsame : s'.settled = s.settled := hsettled.trans (settledAfter_goesOn hidle herror)
    have hw : s'.waiting = s.waiting := by rw [Session.waiting, hsame, hlog]; rfl
    refine ⟨⟨?_, hcopy⟩, hsorted, hpos_le, ?_, ?_, ?_⟩
    · rw [hr.queue, hq, dropFakes_of_head hl.head, hw]
      exact h.mirror.queue
    · rw [hsame, hr.toServer]
      exact h.settled_le
    · intro hne
      rw [hsame, hread]
      exact h.settled_read fun hskip => hne (hemits.idle_from.1 hskip)
    · obtain ⟨done, ahead, hsplit, hdone, hle, hahead⟩ := h.split
      refine ⟨done, ahead, by rw [hw, hsplit], hdone, by rw [hread]; exact hle, ?_⟩
      rw [hahead, hread, hunread]
      rcases hcopying with hsame' | ⟨htrue, hends⟩
      · rw [hsame']
      · rw [htrue]
        cases s.backend.mode.copying with
        | false => exact (positions_of_copyEnds_nil hends _).symm
        | true => rfl
  | settles hpre hm hidle =>
    have hcopying : s'.backend.mode.copying = false := by
      rcases hidle with hi | ⟨hi, _⟩ <;> rw [hi] <;> rfl
    have hat : s.SettlesAt s'.settled := hsettled ▸ settledAfter_settles hl hs hok hemits hm hidle
    have hne : s.backend.mode ≠ .skipping := by
      intro hskip
      rcases hidle with hi | ⟨_, _, hc⟩
      · exact absurd ((hemits.idle_from.1 hskip).symm.trans hi) (by simp)
      · rw [hskip] at hc
        exact absurd hc (by simp [Mode.copying])
    obtain ⟨gone, hpositions, hgone⟩ := hat.gone
    have hback : (real (queueAfter s.link.server m)).length =
        (positions false (s.backend.read + 1) s.unread).length := by
      have hm' := hl'.matched.length_eq
      rw [hr.queue, real_dropFakes, hcopying, hunread] at hm'
      rw [hm', positions_length]
      rfl
    rcases queueAfter_split hl m with hq | ⟨front, hq, hend⟩
    · -- The backend is done with something, so something is taken off.
      have hlen := hl.matched.length_eq
      rw [← hq, hback, List.length_append, ← positions_length _ _ (s.backend.read + 1),
        hpositions, List.length_append] at hlen
      exact absurd (List.length_pos_iff.mpr hpre) (by omega)
    · obtain ⟨hsig, hpos⟩ := h.settle (Nat.le_trans (h.settled_read hne) hat.read_le)
        hat.read_le hq hend hback hpositions hgone hat.left
      have hw : s'.waiting = Waiting.waiting Slot.fake Slot.pos s'.settled s.log := by
        rw [Session.waiting, hlog]
      refine ⟨⟨by rw [hr.queue, hsig, hw], hcopy⟩, hsorted, hpos_le,
        by rw [hr.toServer]; exact hat.le_length, ?_, [], bound Slot.fake s'.waiting, rfl, rfl,
        by simp, ?_⟩
      · intro hskip
        have hi := hidle.resolve_right fun hc => hskip hc.1
        rw [hsettled, settledAfter, hm, if_neg (by simp), if_pos hi, hread]
      · rw [hw, hpos, hcopying, hread, hunread]

end

/-! ### Whole runs -/

theorem Aligned.step {cfg : Config} {s s' : Session} {pre : List (Pkt StmtRef)}
    {e : SessionEvent} (h : Aligned s pre) (hl : Lockstep true s pre) (hs : s.Sane)
    (hok : CopyOk s e) (hstep : s.step cfg e = some s') :
    ∃ pre', Lockstep true s' pre' ∧ Aligned s' pre' := by
  cases e with
  | client p => exact ⟨pre, hl.client hs hok hstep, h.client hl hs hstep⟩
  | read =>
    obtain ⟨p, hunread, hcopying, hl'⟩ := hl.read hstep
    exact ⟨_, hl', h.read hstep hunread hcopying⟩
  | reply m =>
    obtain ⟨pre', hl', hturn⟩ := hl.reply hok (replyStep_replied hs hstep) (replyStep_emits hstep)
    exact ⟨pre', hl', h.reply hl hl' hs hok hstep hturn⟩
  | arriving =>
    obtain rfl := Option.some.inj hstep
    exact ⟨pre, hl.arriving, ⟨h.mirror.queue, h.mirror.copyMode⟩, h.sorted, h.pos_le,
      h.settled_le, h.settled_read, h.split⟩

/-- **The queue mirrors the backend in every state of a run whose events meet
`CopyOk`.** -/
theorem mirror_of_copyOk (cfg : Config) (u : Setup) {s : Session} (h : Reach cfg CopyOk u s) :
    s.Mirror := by
  suffices hinv : ∃ pre, Lockstep true s pre ∧ Aligned s pre from hinv.elim fun _ hi => hi.2.mirror
  induction h with
  | start =>
    exact ⟨[], .start true u, ⟨rfl, rfl⟩, .nil, fun t ht => absurd ht List.not_mem_nil,
      Nat.le_refl _, fun _ => Nat.le_refl _, [], [], rfl, rfl,
      fun t ht => absurd ht List.not_mem_nil, rfl⟩
  | step hreach e hok hstep ih =>
    obtain ⟨pre, hl, ha⟩ := ih
    exact ha.step hl hreach.sane hok hstep
  | others _ g refs _ ih =>
    obtain ⟨pre, hl, ha⟩ := ih
    exact ⟨pre, hl.others g, ⟨ha.mirror.queue, ha.mirror.copyMode⟩, ha.sorted, ha.pos_le,
      ha.settled_le, ha.settled_read, ha.split⟩

/-- A copy-in for an Execute, with the Sync sent along with it and the end of the copy. -/
theorem mirror_of_copyOk_execute :
    ∃ s, Reach { maxPreparedStatements := 10 } CopyOk .empty s ∧
      s.link.server.outstandingRequests.length = 3 ∧ s.Mirror := by
  have hrun : ∃ s, Setup.empty.session.run { maxPreparedStatements := 10 } CopyOk
      [.client .execute, .client .sync, .read, .reply .copyInResponse, .client .copyData,
        .read, .client .copyDone, .read] = some s ∧
      s.link.server.outstandingRequests.length = 3 := ⟨_, rfl, rfl⟩
  obtain ⟨s, hs, hlen⟩ := hrun
  exact ⟨s, Reach.run .start hs, hlen, mirror_of_copyOk _ .empty (Reach.run .start hs)⟩

/-- A copy-in started by a simple query does not mirror: its CommandComplete takes the
Query off the queue, and then its ReadyForQuery takes off the next Query, which has not
been answered at all. -/
theorem not_mirror_copy_query :
    ∃ s, Reach { maxPreparedStatements := 10 } (fun _ _ => True) .empty s ∧
      s.link.server.outstandingRequests = [] ∧
      s.waiting = [{ type := .query, action := .forward, pos := 3 }] ∧ ¬s.Mirror := by
  have hrun : ∃ s, Setup.empty.session.run { maxPreparedStatements := 10 } (fun _ _ => True)
      [.client .query, .read, .reply .copyInResponse, .client .copyDone, .client .query, .read,
        .reply (.commandComplete .other), .reply (.readyForQuery .idle)] = some s ∧
      s.link.server.outstandingRequests = [] ∧
      s.waiting = [{ type := .query, action := .forward, pos := 3 }] := ⟨_, rfl, rfl, rfl⟩
  obtain ⟨s, hs, hempty, hwaiting⟩ := hrun
  refine ⟨s, Reach.run .start hs, hempty, hwaiting, fun hm => ?_⟩
  have hqueue := hm.queue
  rw [hempty, hwaiting] at hqueue
  exact absurd hqueue (by simp)

end Session

end PgBouncer
