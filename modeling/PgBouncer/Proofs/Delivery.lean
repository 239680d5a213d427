/-
A client receives what it is meant to receive.

The proof carries one equation along a run.  Whatever requests and messages are still
to come, delivering everything from the start is what the client has received so far,
followed by delivering from where the queue stands now.  The queue stands in for the
part of the log that has not been answered, so each event is one unfolding of
`deliver`.  That the log holds what the client has asked for, and nothing twice, is seen
from what is sent for each of its packets (`carries_of_accepts`).
-/
import PgBouncer.Delivery
import PgBouncer.Proofs.LockstepRun

namespace PgBouncer

/-! ### Unfolding the specification -/

theorem isFinal_eq (type : ReqType) (m : ServerMsg) :
    isFinal type m = decide (type ∈ popTypes m) := by
  cases m <;> cases type <;> rfl

theorem madeUp_eq (type : ReqType) : madeUp type = (fakeReply type).map .generated := by
  cases type <;> rfl

/-- Made-up replies at the head of the queue are due at once. -/
theorem deliver_fakes (q : List OutstandingRequest) (later : List Request)
    (msgs : List ServerMsg) :
    deliver false (q.map OutstandingRequest.sig ++ later) msgs =
      (fakesOf q).map .generated ++
        deliver false ((dropFakes q).map OutstandingRequest.sig ++ later) msgs := by
  induction q with
  | nil => rfl
  | cons r rest ih =>
    rw [fakesOf, dropFakes]
    by_cases hfake : r.action = .fake
    · rw [if_pos hfake, if_pos hfake, List.map_cons, List.cons_append, deliver,
        if_pos (show r.sig.2 = .fake from hfake), ih, List.map_append, List.append_assoc,
        ← madeUp_eq]
      rfl
    · rw [if_neg hfake, if_neg hfake]
      rfl

section

variable {r : OutstandingRequest} {rest : List Request} {m : ServerMsg} {msgs : List ServerMsg}

theorem deliver_real (hr : r.action ≠ .fake) :
    deliver false (r.sig :: rest) msgs =
      answerWith r.sig (fun failed => deliver failed rest) msgs := by
  rw [deliver, if_neg (show r.sig.2 ≠ .fake from hr), if_neg (by simp)]

/-- The last message of an answer. -/
theorem deliver_final (hr : r.action ≠ .fake) (hm : r.type ∈ popTypes m) :
    deliver false (r.sig :: rest) (m :: msgs) = shown r.action m ++ deliver false rest msgs := by
  have hfinal : isFinal r.sig.1 m = true := (isFinal_eq _ _).trans (decide_eq_true hm)
  rw [deliver_real hr, answerWith, if_pos hfinal]
  rfl

/-- A message that is not the last one of an answer. -/
theorem deliver_more (hr : r.action ≠ .fake) (hm : r.type ∉ popTypes m)
    (herror : m = .errorResponse → r.type.isReady = true) :
    deliver false (r.sig :: rest) (m :: msgs) =
      shown r.action m ++ deliver false (r.sig :: rest) msgs := by
  have hfinal : isFinal r.sig.1 m = false := (isFinal_eq _ _).trans (decide_eq_false hm)
  rw [deliver_real hr, deliver_real hr, answerWith, if_neg (by rw [hfinal]; simp), if_neg]
  · rfl
  · rintro ⟨he, hready⟩
    exact absurd ((herror he).symm.trans hready) (by simp)

/-- Skipping goes past requests other than Sync. -/
theorem deliver_skips (hr : r.type ≠ .sync) :
    deliver true (r.sig :: rest) msgs = deliver true rest msgs := by
  rw [deliver]
  by_cases hfake : r.sig.2 = .fake
  · rw [if_pos hfake]
    rfl
  · rw [if_neg hfake, if_pos ⟨rfl, hr⟩]

/-- An error of the extended protocol: the rest of the batch is skipped. -/
theorem deliver_error (hr : r.action ≠ .fake) (hready : r.type.isReady = false) :
    deliver false (r.sig :: rest) (.errorResponse :: msgs) =
      .forwarded .errorResponse :: deliver true (r.sig :: rest) msgs := by
  have hsync : r.type ≠ .sync := by
    intro h
    rw [h] at hready
    exact absurd hready (by simp [ReqType.isReady])
  rw [deliver_real hr, answerWith, isFinal_eq,
    if_neg (by simp [popTypes]), if_pos ⟨rfl, hready⟩, deliver_skips hsync]
  simp [shown]

theorem deliver_sync (hr : r.action = .forward) (hsync : r.type = .sync) (state : TxStatus) :
    deliver true (r.sig :: rest) (.readyForQuery state :: msgs) =
      .forwarded (.readyForQuery state) :: deliver false rest msgs := by
  have hsig : r.sig = (.sync, .forward) := by rw [OutstandingRequest.sig, hr, hsync]
  rw [hsig]
  rfl

end

/-- The ReadyForQuery behind a failed batch: everything up to the Sync is skipped. -/
theorem deliver_resync {post : List (Pkt StmtRef)} (later : List Request)
    (msgs : List ServerMsg) (state : TxStatus) :
    ∀ {q : List OutstandingRequest} {skipped : List (Pkt StmtRef)},
      (∀ r ∈ q, r.action = .fake → r.type ∉ [ReqType.sync]) →
      (∀ r ∈ q, r.action = .skip → r.type = .parse ∨ r.type = .close) →
      (∀ p ∈ skipped, p.type ≠ .sync) →
      List.Forall₂ Matches (real q) (skipped ++ .sync :: post) →
      deliver true (q.map OutstandingRequest.sig ++ later) (.readyForQuery state :: msgs) =
        .forwarded (.readyForQuery state) ::
          deliver false ((dropUntil [.sync] q).map OutstandingRequest.sig ++ later) msgs := by
  intro q
  induction q with
  | nil =>
    intro skipped _ _ _ h
    have hlen := h.length_eq
    simp at hlen
  | cons r rest ih =>
    intro skipped hfakes hskips hsk h
    have hfakes' : ∀ x ∈ rest, x.action = .fake → x.type ∉ [ReqType.sync] :=
      fun x hx => hfakes x (List.mem_cons_of_mem r hx)
    have hskips' : ∀ x ∈ rest, x.action = .skip → x.type = .parse ∨ x.type = .close :=
      fun x hx => hskips x (List.mem_cons_of_mem r hx)
    rw [List.map_cons, List.cons_append, dropUntil]
    by_cases hfake : r.action = .fake
    · have hns := hfakes r List.mem_cons_self hfake
      rw [real_cons_fake hfake] at h
      rw [if_neg hns, deliver_skips (by simpa using hns)]
      exact ih hfakes' hskips' hsk h
    · rw [real_cons_of_ne hfake] at h
      cases skipped with
      | nil =>
        rw [List.nil_append, List.forall₂_cons] at h
        have hsync : r.type = .sync := h.1.type
        have hforward : r.action = .forward := by
          cases haction : r.action with
          | forward => rfl
          | fake => exact absurd haction hfake
          | skip =>
            have hps := hskips r List.mem_cons_self haction
            rw [hsync] at hps
            simp at hps
        rw [if_pos (by simp [hsync]), deliver_sync hforward hsync]
      | cons p ps =>
        rw [List.cons_append, List.forall₂_cons] at h
        have hns : r.type ≠ .sync := h.1.type ▸ hsk p List.mem_cons_self
        rw [if_neg (by simpa using hns), deliver_skips hns]
        exact ih hfakes' hskips' (fun x hx => hsk x (List.mem_cons_of_mem p hx)) h.2

/-! ### The client's packets and the requests -/

section

variable {cfg : Config} {p : Pkt Bytes}

theorem Carries.append {packets packets' : List (Pkt Bytes)} {requests requests' : List Request}
    (h : Carries packets requests) (h' : Carries packets' requests') :
    Carries (packets ++ packets') (requests ++ requests') where
  asked := by
    simp only [List.filter_append, List.map_append, h.asked, h'.asked]
  ours r hr := (List.mem_append.mp hr).elim (h.ours r) (h'.ours r)

theorem answered_eq (type : ReqType) : type.answered = trackOutstanding false type := by
  cases type <;> rfl

/-- Packets of pgbouncer's own making are nothing the client asked for. -/
theorem carries_own {own : List (Pkt StmtRef)}
    (hown : ∀ q ∈ own, (q.type = .parse ∨ q.type = .close) ∧ q.type ≠ p.type) :
    Carries [] ((tracked false own).map fun q =>
      (q.type, if q.type = p.type then .forward else .skip)) := by
  have hskip : ∀ r ∈ (tracked false own).map fun q =>
      (q.type, if q.type = p.type then ResponseAction.forward else .skip),
      r.2 = .skip ∧ (r.1 = .parse ∨ r.1 = .close) := by
    intro r hr
    obtain ⟨q, hq, rfl⟩ := List.mem_map.mp hr
    obtain ⟨htype, hne⟩ := hown q (List.mem_of_mem_filter hq)
    exact ⟨if_neg hne, htype⟩
  refine ⟨?_, fun r hr _ => (hskip r hr).2⟩
  rw [List.filter_eq_nil_iff.mpr fun r hr => by simp [(hskip r hr).1]]
  rfl

/-- A packet that is sent on. -/
theorem carries_forwarded {q : Pkt StmtRef} (hq : q.type = p.type) :
    Carries [p] ((tracked false [q]).map fun q =>
      (q.type, if q.type = p.type then .forward else .skip)) := by
  cases htrack : trackOutstanding false p.type <;>
    constructor <;> simp [tracked, hq, htrack, answered_eq]

/-- A packet that is held back. -/
theorem carries_fake (hps : psAction cfg p = true)
    (htype : p.type = .parse ∨ p.type = .close) : Carries [p] (requestsOf cfg false p []) := by
  rcases htype with htype | htype <;>
    constructor <;> simp [requestsOf, hps, htype, answered_eq, trackOutstanding]

/-- Every packet of the client is carried out once, whatever is sent for it. -/
theorem carries_of_accepts {l l' : Link} {sent : List (Pkt StmtRef)} (h : Accepts cfg l p l')
    (hsent : l'.toServer = l.toServer ++ sent) : Carries [p] (requestsOf cfg false p sent) := by
  cases h with
  | forward hps =>
    obtain rfl : [p.forwarded] = sent := List.append_cancel_left hsent
    rw [requestsOf, hps]
    exact carries_forwarded (by simp)
  | close hps =>
    obtain ⟨_, heff⟩ := effect_close (l := l) hps
    obtain rfl := List.append_cancel_left (heff.toServer.symm.trans hsent)
    exact carries_fake hps (.inr rfl)
  | parseKnown hps =>
    obtain rfl : sent = [] := List.self_eq_append_right.mp hsent
    exact carries_fake hps (.inl rfl)
  | @parse name query ps _ _ hps =>
    obtain rfl := List.append_cancel_left hsent
    rw [requestsOf, hps]
    refine (carries_forwarded (p := .parse name query) (q := .parse (.pgbouncer _) _) rfl).append
      (carries_own fun q hq => ?_)
    obtain ⟨id, _, rfl⟩ := List.mem_map.mp hq
    simp
  | useKnown hps huses =>
    obtain rfl := List.append_cancel_left hsent
    obtain ⟨hpkt, hp, _⟩ := huses.type_eq (.pgbouncer _)
    rw [requestsOf, hps]
    exact carries_forwarded (hpkt.trans hp.symm)
  | @use p name type pkt e hps huses =>
    obtain rfl := List.append_cancel_left ((List.append_assoc ..).symm.trans hsent)
    obtain ⟨hpkt, hp, _, htype⟩ := huses.type_eq (.pgbouncer e.ps)
    have hne : p.type ≠ .parse ∧ p.type ≠ .close := by
      rcases htype with h | h <;> simp [hp, h]
    rw [requestsOf, hps, tracked_append, List.map_append]
    refine Carries.append (carries_own fun q hq => ?_) (carries_forwarded (hpkt.trans hp.symm))
    rcases List.mem_cons.mp hq with rfl | hq
    · exact ⟨.inl rfl, hne.1.symm⟩
    · obtain ⟨id, _, rfl⟩ := List.mem_map.mp hq
      exact ⟨.inr rfl, hne.2.symm⟩

end

/-! ### The equation -/

namespace Session

/-- The packets of pgbouncer's own making, and the equation the proof carries. -/
structure Delivers (s : Session) (skipping : Bool) : Prop where
  skips : ∀ r ∈ s.link.server.outstandingRequests, r.action = .skip →
    r.type = .parse ∨ r.type = .close
  residual : ∀ later msgs,
    deliver false (s.requests ++ later) (s.replies ++ msgs) =
      (s.received ++ s.pending) ++
        deliver skipping
          (s.link.server.outstandingRequests.map OutstandingRequest.sig ++ later) msgs

variable {skipping : Bool}

section

variable {cfg : Config} {s s' : Session} {pre : List (Pkt StmtRef)}

/-- Something that has failed is in the queue. -/
theorem Lockstep.queryFailed_of_nil (h : Lockstep false s pre)
    (hempty : s.link.server.outstandingRequests = []) : s.link.server.queryFailed = false := by
  have hlen := h.matched.length_eq
  rw [hempty, List.length_append] at hlen
  obtain rfl : pre = [] := List.length_eq_zero_iff.mp (Nat.eq_zero_of_add_eq_zero_right hlen.symm)
  have hstage := h.stage
  generalize s.backend.mode = mode at hstage
  generalize hpre : ([] : List (Pkt StmtRef)) = pre at hstage
  cases hstage with
  | idle hqf => exact hqf
  | busy | failed | resync | copyIn | copyDone | copyFail => exact absurd hpre (by simp)
  | skipping _ hsk =>
    obtain ⟨p, rest, rfl, _⟩ := hsk.head rfl
    exact absurd hpre (by simp)

theorem requests_client {p : Pkt Bytes} {sent : List (Pkt StmtRef)}
    (hlog : s'.log = s.log ++
      slotsOf cfg s.backend.mode.copying p s.link.toServer.length sent) :
    s'.requests = s.requests ++ requestsOf cfg s.backend.mode.copying p sent := by
  rw [requests, hlog, List.map_append, slotsOf_sig]
  rfl

theorem Delivers.client {p : Pkt Bytes} (h : s.Delivers s.batchFailed)
    (hl : Lockstep false s pre) (hs : s.Sane) (hstep : s.clientStep cfg p = some s') :
    s'.Delivers s'.batchFailed := by
  obtain ⟨added, sent, heff, _, hs'⟩ := clientStep_effect hs hstep
  have hrequests : s'.requests = _ := requests_client (by rw [hs'])
  have hreplies : s'.replies = s.replies := by rw [hs']
  have hfailed : s'.batchFailed = s.batchFailed := by
    rw [batchFailed, batchFailed, heff.queryFailed, heff.queue]
    cases hq : s.link.server.outstandingRequests with
    | nil => rw [hl.queryFailed_of_nil hq, Bool.false_and, Bool.false_and]
    | cons r rest => rfl
  have hskips : ∀ r ∈ s'.link.server.outstandingRequests, r.action = .skip →
      r.type = .parse ∨ r.type = .close := by
    intro r hr
    rw [heff.queue] at hr
    rcases List.mem_append.mp hr with hold | hnew
    · exact h.skips r hold
    · exact heff.skips r hnew
  refine ⟨hskips, fun later msgs => ?_⟩
  rw [hfailed, hrequests, hreplies, List.append_assoc, h.residual, heff.queue]
  -- When nothing is outstanding, a made-up reply is the next thing to be delivered.
  have hnext : psAction cfg p = true → s.link.server.outstandingRequests = [] → added = [] →
      sent = [] → deliver s.batchFailed
        (s.link.server.outstandingRequests.map OutstandingRequest.sig ++
          (requestsOf cfg s.backend.mode.copying p sent ++ later)) msgs =
        madeUp p.type ++ deliver s.batchFailed
          ((s.link.server.outstandingRequests ++ added).map OutstandingRequest.sig ++ later)
          msgs := by
    intro hps hempty hadded hsent
    rw [batchFailed, hl.queryFailed_of_nil hempty, hempty, hadded, hsent, requestsOf, hps]
    rfl
  cases heff.response with
  | queued hextra hclient hsig _ =>
    have hout : s'.received ++ s'.pending = s.received ++ s.pending := by
      rw [received, pending, hclient, hextra]
      rfl
    rw [hout, ← hl.copyMode, ← hsig, List.map_append]
    simp only [List.append_assoc]
  | madeUp hps hempty hadded hsent hextra hclient =>
    have hout : s'.received ++ s'.pending = s.received ++ s.pending ++ madeUp p.type := by
      rw [received, pending, hclient, hextra, List.map_append, madeUp_eq, ← List.append_assoc]
      rfl
    rw [hnext hps hempty hadded hsent, hout]
    simp only [List.append_assoc]
  | written hps hempty hadded hsent htype hextra hextra' hclient =>
    have hout : s'.received ++ s'.pending = s.received ++ s.pending ++ madeUp p.type := by
      rw [received, pending, received, pending, hclient, hextra, hextra', htype,
        List.filter_append]
      simp [madeUp, ToClient.async]
    rw [hnext hps hempty hadded hsent, hout]
    simp only [List.append_assoc]

/-! ### A message of the backend -/

variable {m : ServerMsg} {p : Pkt StmtRef}

/-- What has been delivered after a message. -/
theorem delivered_reply (hr : Replied cfg s.link s'.link m) :
    s'.received ++ s'.pending = s.received ++ s.pending ++
      ((if m.async ∨ ignoreAfter s.link.server m then [] else [.forwarded m]) ++
        (fakesOf (queueAfter s.link.server m)).map .generated) := by
  have hgen : ∀ ms : List ServerMsg, (ms.map ToClient.generated).filter (!·.async) =
      ms.map ToClient.generated := by
    intro ms
    refine List.filter_eq_self.mpr fun x hx => ?_
    obtain ⟨m', _, rfl⟩ := List.mem_map.mp hx
    rfl
  have hm : (if ignoreAfter s.link.server m = true then [] else [ToClient.forwarded m]).filter
      (!·.async) =
      if m.async ∨ ignoreAfter s.link.server m then [] else [.forwarded m] := by
    by_cases hig : ignoreAfter s.link.server m = true
    · simp [hig]
    · by_cases hasync : m.async = true <;> simp [hig, hasync, ToClient.async]
  rw [received, pending, hr.extraPackets, hr.toClient, List.filter_append, List.filter_append,
    List.filter_append, hgen, hgen, hm, List.map_nil, List.append_nil, ← List.append_assoc]
  rfl

theorem fakesOf_of_head {q : List OutstandingRequest} (h : dropFakes q = q) : fakesOf q = [] := by
  cases q with
  | nil => rfl
  | cons r rest =>
    by_cases hfake : r.action = .fake
    · rw [dropFakes, if_pos hfake] at h
      have hlen := congrArg List.length h
      have hle := (dropFakes_suffix rest).length_le
      rw [List.length_cons] at hlen
      omega
    · rw [fakesOf, if_neg hfake]

/-- One message, one unfolding. -/
theorem Delivers.of_replied {skipping' : Bool} (h : s.Delivers skipping)
    (hr : Replied cfg s.link s'.link m) (hrequests : s'.requests = s.requests)
    (hreplies : s'.replies = if m.async then s.replies else s.replies ++ [m])
    (hm : ∀ later msgs, deliver skipping
        (s.link.server.outstandingRequests.map OutstandingRequest.sig ++ later)
        (if m.async then msgs else m :: msgs) =
      (if m.async ∨ ignoreAfter s.link.server m then [] else [.forwarded m]) ++
        deliver skipping'
          ((queueAfter s.link.server m).map OutstandingRequest.sig ++ later) msgs)
    (hfakes : skipping' = false ∨
      dropFakes (queueAfter s.link.server m) = queueAfter s.link.server m) :
    s'.Delivers skipping' := by
  refine ⟨fun r hmem => ?_, fun later msgs => ?_⟩
  · rw [hr.queue] at hmem
    exact h.skips r ((queueAfter_suffix _ _).subset ((dropFakes_suffix _).subset hmem))
  · have hres := h.residual later (if m.async then msgs else m :: msgs)
    have happend : s.replies ++ (if m.async then msgs else m :: msgs) = s'.replies ++ msgs := by
      rw [hreplies]
      split
      · rfl
      · rw [List.append_assoc, List.singleton_append]
    rw [happend] at hres
    rw [hrequests, hres, hm, delivered_reply hr, hr.queue]
    rcases hfakes with rfl | hhead
    · rw [deliver_fakes]
      simp only [List.append_assoc]
    · rw [hhead, fakesOf_of_head hhead]
      simp only [List.append_assoc, List.map_nil, List.nil_append]

theorem ignoreAfter_cons {r : OutstandingRequest} {rest : List OutstandingRequest}
    (hcopy : s.link.server.copyMode = false) (hq : s.link.server.outstandingRequests = r :: rest) :
    ignoreAfter s.link.server m = decide (r.action = .skip ∧ r.type ∈ popTypes m) := by
  have hend : endCopyQueue s.link.server m = r :: rest := by
    rw [← hq]
    unfold endCopyQueue
    simp only [hcopy, Bool.false_eq_true, if_false]
    split <;> rfl
  rw [ignoreAfter, hend]
  rfl

theorem Delivers.not_skip (h : s.Delivers skipping) {r : OutstandingRequest}
    {rest : List OutstandingRequest} (hq : s.link.server.outstandingRequests = r :: rest)
    (hr : r.type ≠ .parse ∧ r.type ≠ .close) : r.action ≠ .skip := by
  intro hskip
  rcases h.skips r (by rw [hq]; exact List.mem_cons_self) hskip with hp | hc
  · exact hr.1 hp
  · exact hr.2 hc

/-- A message that is not the last one of an answer goes to the client. -/
theorem Delivers.goesOn (h : s.Delivers false) (hl : Lockstep false s [p])
    (hr : Replied cfg s.link s'.link m) (hrequests : s'.requests = s.requests)
    (hreplies : s'.replies = s.replies ++ [m]) (hm : m.async = false)
    (hcopy : s.link.server.copyMode = false)
    (hq : queueAfter s.link.server m = s.link.server.outstandingRequests) (hp : p.type ∉ popTypes m)
    (herror : m = .errorResponse → p.type.isReady = true)
    (hown : p.type ≠ .parse ∧ p.type ≠ .close) : s'.Delivers false := by
  obtain ⟨r, rest, hcons, hmatch, _, _⟩ := matched_cons hl.head hl.matched
  have hreal := hl.head r rest hcons
  have hforward := h.not_skip hcons (hmatch.type ▸ hown)
  refine h.of_replied hr hrequests (by rw [hm]; exact hreplies) (fun later msgs => ?_) (.inl rfl)
  rw [hq, hcons, hm, ignoreAfter_cons hcopy hcons, decide_eq_false fun hc => hforward hc.1]
  rw [List.map_cons, List.cons_append]
  simp only [Bool.false_eq_true, false_or, if_false]
  rw [deliver_more hreal (hmatch.type ▸ hp) (hmatch.type ▸ herror), shown,
    if_neg fun hc => hforward hc.1]

/-- The last message of an answer goes to the client, unless pgbouncer asked for it. -/
theorem Delivers.pops (h : s.Delivers false) (hl : Lockstep false s [p])
    (hr : Replied cfg s.link s'.link m) (hrequests : s'.requests = s.requests)
    (hreplies : s'.replies = s.replies ++ [m]) (hm : m.async = false) (hne : m ≠ .errorResponse)
    (hcopy : s.link.server.copyMode = false)
    (hq : poppable (popTypes m) s.link.server.outstandingRequests = true →
      queueAfter s.link.server m = s.link.server.outstandingRequests.tail)
    (hp : p.type ∈ popTypes m) : s'.Delivers false := by
  obtain ⟨r, rest, hcons, hmatch, _, hpop⟩ := matched_cons hl.head hl.matched
  have hreal := hl.head r rest hcons
  have hr' : r.type ∈ popTypes m := hmatch.type ▸ hp
  refine h.of_replied hr hrequests (by rw [hm]; exact hreplies) (fun later msgs => ?_) (.inl rfl)
  rw [hq (by rw [hpop, decide_eq_true hp]), hcons, hm, ignoreAfter_cons hcopy hcons]
  rw [List.map_cons, List.cons_append]
  simp only [Bool.false_eq_true, false_or, if_false, List.tail_cons]
  rw [deliver_final hreal hr', shown]
  simp [hr', hne]

/-- An error of the extended protocol goes to the client, and the rest of the batch is
skipped. -/
theorem Delivers.fails (h : s.Delivers false) (hl : Lockstep false s [p])
    (hr : Replied cfg s.link s'.link .errorResponse) (hrequests : s'.requests = s.requests)
    (hreplies : s'.replies = s.replies ++ [.errorResponse]) (hcopy : s.link.server.copyMode = false)
    (hq : queueAfter s.link.server .errorResponse = s.link.server.outstandingRequests)
    (hp : p.type.isReady = false) : s'.Delivers true := by
  obtain ⟨r, rest, hcons, hmatch, _, _⟩ := matched_cons hl.head hl.matched
  have hreal := hl.head r rest hcons
  refine h.of_replied hr hrequests hreplies (fun later msgs => ?_)
    (.inr (by rw [hq]; exact dropFakes_of_head hl.head))
  rw [hq, hcons, ignoreAfter_cons hcopy hcons, decide_eq_false (by simp [popTypes])]
  rw [List.map_cons, List.cons_append]
  exact deliver_error hreal (hmatch.type ▸ hp)

/-- The ReadyForQuery behind a failed batch. -/
theorem Delivers.resyncs {state : TxStatus} {skipped : List (Pkt StmtRef)}
    (h : s.Delivers true) (hl : Lockstep false s (skipped ++ [.sync]))
    (hsk : Skipped false skipped) (hqf : s.link.server.queryFailed = true)
    (hmode : s.backend.mode = .failed) (hr : Replied cfg s.link s'.link (.readyForQuery state))
    (hrequests : s'.requests = s.requests)
    (hreplies : s'.replies = s.replies ++ [.readyForQuery state]) : s'.Delivers false := by
  obtain ⟨p, rest, rfl, hp⟩ := hsk.head rfl
  have hm := hl.matched
  rw [List.append_assoc] at hm
  obtain ⟨r, tail, hcons, hmatch, _, hpop⟩ := matched_cons hl.head hm
  have hcopy : s.link.server.copyMode = false := by
    rw [hl.copyMode, hmode]
    rfl
  have hnot : p.type ∉ Handled.readyTypes := by
    rw [mem_readyTypes, hp]
    simp
  have hq : queueAfter s.link.server (.readyForQuery state) =
      dropUntil [.sync] s.link.server.outstandingRequests := by
    show readyQueue s.link.server = _
    rw [readyQueue, if_neg (by rw [hpop, decide_eq_false hnot]; simp), if_pos hqf]
  have hig : ignoreAfter s.link.server (.readyForQuery state) = false := by
    rw [ignoreAfter_cons hcopy hcons]
    exact decide_eq_false fun hc => hnot (hmatch.type ▸ hc.2)
  refine h.of_replied hr hrequests hreplies (fun later msgs => ?_) (.inl rfl)
  rw [hq, hig]
  exact deliver_resync later msgs state (hl.fake_not_mem [.sync] (by decide)) h.skips
    (fun x hx => hsk.noSync x hx) hm

theorem not_own_of_ready (hp : p.type.isReady = true) :
    p.type ≠ .parse ∧ p.type ≠ .close := by
  constructor <;> intro h <;> rw [h] at hp <;> exact absurd hp (by simp [ReqType.isReady])

theorem not_own_of_more (h : Backend.more p m = true) :
    (p.type ≠ .parse ∧ p.type ≠ .close) ∧ m.async = false := by
  unfold Backend.more at h
  split at h <;>
    first | exact ⟨⟨by simp [Pkt.type], by simp [Pkt.type]⟩, rfl⟩ | exact absurd h (by simp)

theorem Delivers.reply (h : s.Delivers s.batchFailed) (hl : Lockstep false s pre) (hs : s.Sane)
    (hok : m ≠ .copyInResponse) (hstep : s.replyStep cfg m = some s') :
    s'.Delivers s'.batchFailed := by
  have hr := replyStep_replied hs hstep
  obtain ⟨b, l, hemit, _, hs'⟩ := replyStep_some hstep
  have hemits : Backend.Emits s.backend m b := Backend.emit_emits hemit
  have hrequests : s'.requests = s.requests := by rw [hs']; rfl
  have hreplies : s'.replies = if m.async then s.replies else s.replies ++ [m] := by rw [hs']
  have hafter : s'.link.server.queryFailed = queryFailedAfter m s.link.server.queryFailed :=
    hr.queryFailed
  have hstage := hl.stage
  cases hemits with
  | async hm =>
    obtain ⟨hfailed, _, _, hq⟩ := async_facts cfg hm s.link.server s.link.client
    have hsame : s'.batchFailed = s.batchFailed := by
      rw [batchFailed, batchFailed, hafter, hfailed, hr.queue, hq, dropFakes_of_head hl.head]
      rfl
    rw [hsame]
    refine h.of_replied hr hrequests hreplies (fun later msgs => ?_)
      (.inr (by rw [hq]; exact dropFakes_of_head hl.head))
    simp [hm, hq]
  | @more p _ hmode hmore =>
    obtain ⟨rfl, hqf, _, _⟩ := (hmode ▸ hstage).of_busy
    obtain ⟨hplain, hp⟩ := more_facts hmore
    obtain ⟨hown, hasync⟩ := not_own_of_more hmore
    obtain ⟨hfailed, _, _⟩ := plain_flags cfg hplain s.link.client
    have hcopy := hl.copyMode_of_busy hmode
    rw [batchFailed_of_not_failed hqf] at h
    rw [hfailed, id, hqf] at hafter
    rw [batchFailed_of_not_failed hafter]
    refine h.goesOn hl hr hrequests (by rw [hreplies, hasync]; rfl) hasync hcopy
      (hl.queueAfter_goesOn hcopy hplain hp) hp (fun he => ?_) hown
    rw [he] at hplain
    exact absurd hplain (by simp [plain])
  | command hmode =>
    obtain ⟨rfl, hqf, _, _⟩ := (hmode ▸ hstage).of_busy
    have hcopy := hl.copyMode_of_busy hmode
    rw [batchFailed_of_not_failed hqf] at h
    rw [batchFailed_of_not_failed (hafter.trans hqf)]
    exact h.goesOn hl hr hrequests hreplies rfl hcopy
      (hl.queueAfter_goesOn hcopy rfl (by simp [popTypes])) (by simp [popTypes])
      (fun he => absurd he (by simp)) (by simp)
  | copyIn => exact absurd rfl hok
  | @complete p _ _ hmode hcomplete =>
    obtain ⟨rfl, hqf, _, _⟩ := (hmode ▸ hstage).of_busy
    obtain ⟨hplain, hp, hasync⟩ := complete_facts hcomplete
    obtain ⟨hfailed, _, _⟩ := plain_flags cfg hplain s.link.client
    have hcopy := hl.copyMode_of_busy hmode
    rw [batchFailed_of_not_failed hqf] at h
    rw [hfailed, id, hqf] at hafter
    rw [batchFailed_of_not_failed hafter]
    refine h.pops hl hr hrequests (by rw [hreplies, hasync]; rfl) hasync (fun he => ?_) hcopy
      (fun hpop => ?_) hp
    · rw [he] at hplain
      exact absurd hplain (by simp [plain])
    · rw [queueAfter_plain hplain hcopy, popQueue, if_pos hpop]
  | @ready p state hmode hp =>
    obtain ⟨rfl, hqf, _, _⟩ := (hmode ▸ hstage).of_busy
    rw [batchFailed_of_not_failed hqf] at h
    rw [batchFailed_of_not_failed hafter]
    exact h.pops hl hr hrequests hreplies rfl (by simp) (hl.copyMode_of_busy hmode)
      (fun hpop => if_pos hpop) (mem_readyTypes.mpr hp)
  | @error p hmode =>
    obtain ⟨rfl, hqf, _, _⟩ := (hmode ▸ hstage).of_busy
    have hcopy := hl.copyMode_of_busy hmode
    have hq := queueAfter_errorResponse hcopy
    obtain ⟨r, rest, hcons, hmatch, _, _⟩ := matched_cons hl.head hl.matched
    have hcons' : s'.link.server.outstandingRequests = r :: rest := by
      rw [hr.queue, hq, dropFakes_of_head hl.head, hcons]
    rw [batchFailed_of_not_failed hqf] at h
    cases hready : p.type.isReady with
    | true =>
      rw [batchFailed_of_ready hcons' (hmatch.type ▸ hready)]
      exact h.goesOn hl hr hrequests hreplies rfl hcopy hq (by simp [popTypes])
        (fun _ => hready) (not_own_of_ready hready)
    | false =>
      rw [batchFailed_of_not_ready hafter hcons' (hmatch.type ▸ hready)]
      exact h.fails hl hr hrequests hreplies hcopy hq hready
  | @failedReady state hmode =>
    rw [hmode] at hstage
    rw [batchFailed_of_not_failed hafter]
    cases hstage with
    | @failed p _ hp _ =>
      obtain ⟨r, rest, hcons, hmatch, _, _⟩ := matched_cons hl.head hl.matched
      rw [batchFailed_of_ready hcons (hmatch.type ▸ hp)] at h
      exact h.pops hl hr hrequests hreplies rfl (by simp) (by rw [hl.copyMode, hmode]; rfl)
        (fun hpop => if_pos hpop) (mem_readyTypes.mpr hp)
    | resync hqf hsk hsync =>
      obtain ⟨p, ps, rfl, hp⟩ := hsk.head rfl
      have hm := hl.matched
      rw [List.append_assoc] at hm
      obtain ⟨r, rest, hcons, hmatch, _, _⟩ := matched_cons hl.head hm
      rw [batchFailed_of_not_ready hqf hcons (hmatch.type ▸ hp)] at h
      exact h.resyncs hl hsk hqf hmode hr hrequests hreplies
  | copyError hmode =>
    have hcopying := hstage.not_copying
    rcases hmode with hm | hm | hm <;> rw [hm] at hcopying <;>
      exact absurd hcopying (by simp [Mode.copying])
  | copyComplete hmode =>
    have hcopying := hstage.not_copying
    rw [hmode] at hcopying
    exact absurd hcopying (by simp [Mode.copying])

end

/-! ### Whole runs -/

/-- What waited in the stream buffer is received. -/
theorem received_arriving (s : Session) :
    s.received ++ s.pending = received { s with link := s.link.partialPacket } ++
      pending { s with link := s.link.partialPacket } := by
  have hpending : s.pending.filter (!·.async) = s.pending := by
    refine List.filter_eq_self.mpr fun t ht => ?_
    obtain ⟨m, _, rfl⟩ := List.mem_map.mp ht
    rfl
  calc s.received ++ s.pending
      = s.link.toClient.filter (!·.async) ++ s.pending.filter (!·.async) := by
        rw [hpending, received]
    _ = (s.link.toClient ++ s.pending).filter (!·.async) := (List.filter_append ..).symm
    _ = _ := (List.append_nil _).symm

theorem Delivers.step {cfg : Config} {s s' : Session} {pre : List (Pkt StmtRef)}
    {e : SessionEvent} (h : s.Delivers s.batchFailed) (hl : Lockstep false s pre) (hs : s.Sane)
    (hok : NoCopy s e) (hstep : s.step cfg e = some s') : s'.Delivers s'.batchFailed := by
  cases e with
  | client p => exact h.client hl hs hstep
  | read =>
    obtain ⟨p, b, _, _, _, rfl⟩ := readStep_some hstep
    exact ⟨h.skips, h.residual⟩
  | reply m => exact h.reply hl hs (fun hm => hok (hm ▸ rfl)) hstep
  | arriving =>
    obtain rfl := Option.some.inj hstep
    refine ⟨h.skips, fun later msgs => (h.residual later msgs).trans ?_⟩
    rw [received_arriving]
    rfl

section

variable {cfg : Config} {u : Setup} {s : Session}

theorem Reach.lockstep_noCopy (h : Reach cfg NoCopy u s) : ∃ pre, Lockstep false s pre :=
  h.lockstep fun _ _ hno => hno

theorem Reach.delivers (h : Reach cfg NoCopy u s) : s.Delivers s.batchFailed := by
  induction h with
  | start => exact ⟨fun _ hr => absurd hr List.not_mem_nil, fun _ _ => rfl⟩
  | @step s s' hreach e hok hstep ih =>
    obtain ⟨pre, hl⟩ := hreach.lockstep_noCopy
    exact ih.step hl hreach.sane hok hstep
  | others _ g refs _ ih => exact ⟨ih.skips, ih.residual⟩

theorem Reach.carries (h : Reach cfg NoCopy u s) : Carries s.packets s.requests := by
  induction h with
  | start => exact ⟨rfl, fun _ hr => absurd hr List.not_mem_nil⟩
  | @step s s' hreach e hok hstep ih =>
    cases e with
    | client p =>
      obtain ⟨pre, hl⟩ := hreach.lockstep_noCopy
      obtain ⟨added, sent, heff, hacc, hs'⟩ := clientStep_effect hreach.sane hstep
      have hrequests : s'.requests = _ := requests_client (by rw [hs'])
      rw [hl.stage.not_copying] at hrequests
      rw [hrequests, show s'.packets = s.packets ++ [p] by rw [hs']]
      exact ih.append (carries_of_accepts hacc heff.toServer)
    | read =>
      obtain ⟨p, b, _, _, _, rfl⟩ := readStep_some hstep
      exact ih
    | reply m =>
      obtain ⟨b, l, _, _, rfl⟩ := replyStep_some hstep
      exact ih
    | arriving =>
      obtain rfl := Option.some.inj hstep
      exact ih
  | others _ g refs _ ih => exact ih

end

theorem deliver_skipping_nil (rest : List Request) : deliver true rest [] = [] := by
  induction rest with
  | nil => rfl
  | cons r rest ih =>
    rw [deliver]
    split
    · rw [ih]
      rfl
    · split
      · exact ih
      · rfl

/-- Nothing more is due until the backend says something. -/
theorem deliver_queue_nil {q : List OutstandingRequest}
    (h : ∀ r rest, q = r :: rest → r.action ≠ .fake) :
    deliver skipping (q.map OutstandingRequest.sig) [] = [] := by
  cases skipping with
  | true => exact deliver_skipping_nil _
  | false =>
    cases q with
    | nil => rfl
    | cons r rest =>
      rw [List.map_cons, deliver_real (h r rest rfl)]
      rfl

/-- **A client receives the replies to its requests in order, each once.**  Whenever a
message of the backend has been processed, the client has received what it is meant to
have received at that point, for requests that are those of its own packets. -/
theorem received_eq_deliver (cfg : Config) (u : Setup) {s s' : Session} {m : ServerMsg}
    (h : Reach cfg NoCopy u s) (hm : m ≠ .copyInResponse)
    (hstep : s.step cfg (.reply m) = some s') :
    s'.received = deliver false s'.requests s'.replies ∧ Carries s'.packets s'.requests := by
  have hok : NoCopy s (.reply m) := fun he => hm (SessionEvent.reply.inj he)
  have hreach := h.step (.reply m) hok hstep
  obtain ⟨pre, hl⟩ := hreach.lockstep_noCopy
  have hpending : s'.pending = [] := by
    have hr := replyStep_replied h.sane hstep
    rw [pending, hr.extraPackets]
    rfl
  have hres := hreach.delivers.residual [] []
  rw [List.append_nil, List.append_nil, List.append_nil, deliver_queue_nil hl.head, hpending,
    List.append_nil, List.append_nil] at hres
  exact ⟨hres.symm, hreach.carries⟩

/-- A Parse of a statement the server has is held back, a Bind that needs a statement the
server does not have is expanded, and a batch that fails is skipped. -/
theorem received_eq_deliver_pipeline :
    ∃ s s', Reach { maxPreparedStatements := 1 } NoCopy .empty s ∧
      s.step { maxPreparedStatements := 1 } (.reply (.readyForQuery .idle)) = some s' ∧
      s'.received =
        [.forwarded .parseComplete, .forwarded (.readyForQuery .idle),
          .generated .parseComplete, .forwarded .bindComplete, .forwarded .errorResponse,
          .forwarded (.readyForQuery .idle)] ∧
      s'.received = deliver false s'.requests s'.replies ∧
      Carries s'.packets s'.requests := by
  have hrun : ((Setup.empty.session.run { maxPreparedStatements := 1 } NoCopy
      [.client (.parse [1] [10]), .client .sync, .read, .reply .parseComplete, .read,
        .reply (.readyForQuery .idle),
        .client (.parse [2] [10]), .client (.bind [] [2]), .client (.parse [3] [11]),
        .client (.bind [] [1]), .client .sync,
        .read, .reply .bindComplete, .read, .reply .errorResponse, .read, .read, .read, .read,
        .read]).bind fun s =>
      (s.step { maxPreparedStatements := 1 } (.reply (.readyForQuery .idle))).map received) =
      some [.forwarded .parseComplete, .forwarded (.readyForQuery .idle),
        .generated .parseComplete, .forwarded .bindComplete, .forwarded .errorResponse,
        .forwarded (.readyForQuery .idle)] := by decide +kernel
  obtain ⟨s, hs, hmap⟩ := Option.bind_eq_some_iff.mp hrun
  obtain ⟨s', hstep, hreceived⟩ := Option.map_eq_some_iff.mp hmap
  have hreach : Reach { maxPreparedStatements := 1 } NoCopy .empty s := Reach.run .start hs
  exact ⟨s, s', hreach, hstep, hreceived, received_eq_deliver _ .empty hreach (by simp) hstep⟩

end Session

end PgBouncer
