/-
What a client's packet does to the queue, the wire and the log of requests.

Every packet the server is going to answer is remembered by one request of the same
type, in the same order, and a request that carries a statement belongs to the
packet that creates or removes that statement.  A packet held back is remembered by
a fake request, unless nothing is outstanding: then its response is made up at once
and the queue stays empty.
-/
import Mathlib.Data.List.Forall2
import PgBouncer.Proofs.ServerWork
import PgBouncer.Session

namespace PgBouncer

/-! ### Requests and packets -/

/-- What a packet does to the statements of a server. -/
def Pkt.op : Pkt StmtRef → StmtOp
  | .parse (.pgbouncer id) _ => .add id
  | .close _ (.pgbouncer id) => .remove id
  | _ => .keep

/-- A request remembers a packet. -/
structure Matches (r : OutstandingRequest) (p : Pkt StmtRef) : Prop where
  type : r.type = p.type
  op : r.op = p.op

/-- The requests that are behind a packet. -/
def real (q : List OutstandingRequest) : List OutstandingRequest :=
  q.filter (·.action ≠ .fake)

@[simp] theorem real_nil : real [] = [] := rfl

@[simp] theorem real_append (q q' : List OutstandingRequest) :
    real (q ++ q') = real q ++ real q' :=
  List.filter_append q q'

variable {r : OutstandingRequest}

theorem real_cons_of_ne (h : r.action ≠ .fake) (q : List OutstandingRequest) :
    real (r :: q) = r :: real q := by
  simp [real, h]

theorem real_cons_fake (h : r.action = .fake) (q : List OutstandingRequest) :
    real (r :: q) = real q := by
  simp [real, h]

/-- Type and action of a request, which is all the log records of it. -/
def OutstandingRequest.sig (r : OutstandingRequest) : ReqType × ResponseAction :=
  (r.type, r.action)

/-- The packets among `sent` that are remembered. -/
def tracked (copying : Bool) (sent : List (Pkt StmtRef)) : List (Pkt StmtRef) :=
  sent.filter fun q => trackOutstanding copying q.type

/-- The requests of a client's packet, by what was sent for it. -/
def requestsOf (cfg : Config) (copying : Bool) (p : Pkt Bytes) (sent : List (Pkt StmtRef)) :
    List (ReqType × ResponseAction) :=
  if psAction cfg p && sent.isEmpty then [(p.type, .fake)]
  else (tracked copying sent).map fun q => (q.type, if q.type = p.type then .forward else .skip)

theorem slotsOf_sig (cfg : Config) (copying : Bool) (p : Pkt Bytes) (start : Nat)
    (sent : List (Pkt StmtRef)) :
    (slotsOf cfg copying p start sent).map Slot.sig = requestsOf cfg copying p sent := by
  unfold slotsOf requestsOf
  split
  · rfl
  · rename_i hsent
    clear hsent
    generalize start + 1 = k
    induction sent generalizing k with
    | nil => rfl
    | cons q rest ih =>
      rw [List.zipIdx_cons, List.filterMap_cons, tracked, List.filter_cons]
      by_cases htrack : trackOutstanding copying q.type = true
      · simp only [if_pos htrack, List.map_cons]
        rw [ih]
        rfl
      · simp only [if_neg htrack]
        exact ih _

/-! ### The effect of a packet -/

/-- Where the response to a packet is going to come from. -/
inductive Response (cfg : Config) (l l' : Link) (p : Pkt Bytes) (added : List OutstandingRequest)
    (sent : List (Pkt StmtRef)) : Prop
  /-- The requests are in the queue. -/
  | queued (hextra : l'.server.extraPackets = l.server.extraPackets)
      (hclient : l'.toClient = l.toClient)
      (hsig : added.map OutstandingRequest.sig = requestsOf cfg l.server.copyMode p sent)
      (hreal : l.server.outstandingRequests = [] → real added = added)
  /-- Nothing was outstanding and the response is in the server's stream buffer. -/
  | madeUp (hps : psAction cfg p = true) (hempty : l.server.outstandingRequests = [])
      (hadded : added = []) (hsent : sent = [])
      (hextra : l'.server.extraPackets = l.server.extraPackets ++ fakeReply p.type)
      (hclient : l'.toClient = l.toClient)
  /-- Nothing at all was in flight and the response was written to the client. -/
  | written (hps : psAction cfg p = true) (hempty : l.server.outstandingRequests = [])
      (hadded : added = []) (hsent : sent = []) (htype : p.type = .close)
      (hextra : l.server.extraPackets = []) (hextra' : l'.server.extraPackets = [])
      (hclient : l'.toClient = l.toClient ++ [.generated .closeComplete])

/-- A request for a packet that was held back: a statement packet, which changes nothing on
the server. -/
structure OutstandingRequest.HeldBack (r : OutstandingRequest) : Prop where
  ready : r.type.isReady = false
  copyEnd : r.type.isCopyEnd = false
  op : r.op = .keep

/-- The effect of a packet: `added` joins the queue and `sent` goes to the server. -/
structure Effect (cfg : Config) (l l' : Link) (p : Pkt Bytes) (added : List OutstandingRequest)
    (sent : List (Pkt StmtRef)) : Prop where
  queue : l'.server.outstandingRequests = l.server.outstandingRequests ++ added
  toServer : l'.toServer = l.toServer ++ sent
  matched : List.Forall₂ Matches (real added) (tracked l.server.copyMode sent)
  response : Response cfg l l' p added sent
  copyMode : l'.server.copyMode = l.server.copyMode
  queryFailed : l'.server.queryFailed = l.server.queryFailed
  settingVars : l'.server.settingVars = l.server.settingVars
  clientCopyMode : l'.client.copyMode = (l.client.copyMode && !p.type.isCopyEnd)
  fakes : ∀ r ∈ added, r.action = .fake → r.HeldBack
  /-- Of pgbouncer's own making are only Parse and Close packets. -/
  skips : ∀ r ∈ added, r.action = .skip → r.type = .parse ∨ r.type = .close
  copyEnds : sent.filter (·.type.isCopyEnd) = if p.type.isCopyEnd then [p.forwarded] else []

variable {type : ReqType} {action : ResponseAction} {id : QueryId} {cfg : Config} {name : Bytes}
  {l : Link} {ps : PgPreparedStatement}

theorem matches_plain {p : Pkt StmtRef} (htype : p.type = type) (hop : p.op = .keep) :
    Matches { type := type, action := action } p := by
  refine ⟨htype.symm, hop ▸ ?_⟩
  simp [OutstandingRequest.op]

@[simp] theorem Pkt.forwarded_op (p : Pkt Bytes) : p.forwarded.op = .keep := by
  cases p <;> rfl

theorem matches_parseRequest (hid : 0 < id) (query : Bytes) :
    Matches (parseRequest action id) (.parse (.pgbouncer id) query) :=
  ⟨rfl, by simp [parseRequest, OutstandingRequest.op, Pkt.op, hid]⟩

theorem matches_closeRequest (id : QueryId) : Matches (closeRequest id) (closePkt id) :=
  ⟨rfl, by simp [closeRequest, OutstandingRequest.op, Pkt.op, closePkt]⟩

theorem forall₂_closeRequests (ids : List QueryId) :
    List.Forall₂ Matches (ids.map closeRequest) (ids.map closePkt) := by
  induction ids with
  | nil => exact .nil
  | cons id rest ih => exact .cons (matches_closeRequest id) ih

@[simp] theorem closePkt_type (id : QueryId) : (closePkt id).type = .close := rfl

@[simp] theorem real_closeRequests (ids : List QueryId) :
    real (ids.map closeRequest) = ids.map closeRequest := by
  refine List.filter_eq_self.mpr fun r hr => ?_
  obtain ⟨id, _, rfl⟩ := List.mem_map.mp hr
  rfl

@[simp] theorem tracked_closePkts (copying : Bool) (ids : List QueryId) :
    tracked copying (ids.map closePkt) = ids.map closePkt := by
  refine List.filter_eq_self.mpr fun r hr => ?_
  obtain ⟨id, _, rfl⟩ := List.mem_map.mp hr
  rfl

@[simp] theorem tracked_append (copying : Bool) (sent sent' : List (Pkt StmtRef)) :
    tracked copying (sent ++ sent') = tracked copying sent ++ tracked copying sent' :=
  List.filter_append sent sent'

theorem tracked_cons_of_pos {copying : Bool} {q : Pkt StmtRef}
    (h : trackOutstanding copying q.type = true) (sent : List (Pkt StmtRef)) :
    tracked copying (q :: sent) = q :: tracked copying sent := by
  simp [tracked, h]

theorem sig_closeRequests (p : Pkt Bytes) (hp : p.type ≠ .close) (ids : List QueryId) :
    (ids.map closeRequest).map OutstandingRequest.sig =
      (ids.map closePkt).map fun q =>
        (q.type, if q.type = p.type then ResponseAction.forward else .skip) := by
  simp only [List.map_map]
  refine List.map_congr_left fun id _ => ?_
  simp [OutstandingRequest.sig, closeRequest, Ne.symm hp]

/-! ### Case by case -/

variable {p : Pkt Bytes}

theorem type_of_psAction (h : psAction cfg p = true) :
    p.type.isReady = false ∧ p.type.isCopyEnd = false := by
  cases p <;> first | exact ⟨rfl, rfl⟩ | exact absurd h (by simp [psAction])

theorem isCopyEnd_of_psAction (h : psAction cfg p = true) :
    p.type.isCopyEnd = false :=
  (type_of_psAction h).2

theorem copyEnds_closePkts (ids : List QueryId) :
    (ids.map closePkt).filter (·.type.isCopyEnd) = [] := by
  refine List.filter_eq_nil_iff.mpr fun q hq => ?_
  obtain ⟨id, _, rfl⟩ := List.mem_map.mp hq
  simp [ReqType.isCopyEnd]

theorem action_closeRequests {ids : List QueryId} (hr : r ∈ ids.map closeRequest) :
    r.action = .skip := by
  obtain ⟨id, _, rfl⟩ := List.mem_map.mp hr
  rfl

variable {pkt : StmtRef → Pkt StmtRef}

theorem Uses.type_eq (h : Uses p name type pkt) (ref : StmtRef) :
    (pkt ref).type = type ∧ p.type = type ∧ (pkt ref).op = .keep ∧
      (type = .bind ∨ type = .describe) := by
  cases h with
  | bind => exact ⟨rfl, rfl, rfl, .inl rfl⟩
  | describe => exact ⟨rfl, rfl, rfl, .inr rfl⟩

theorem effect_forward (hps : psAction cfg p = false) :
    ∃ added, Effect cfg l (forwardPacket (tagDirty l) p) p added [p.forwarded] := by
  have hclient : (forwardPacket (tagDirty l) p).client.copyMode =
      (l.client.copyMode && !p.type.isCopyEnd) := by
    unfold forwardPacket
    cases h : p.type <;> simp [ReqType.isCopyEnd, tagDirty]
  have hends : [p.forwarded].filter (·.type.isCopyEnd) =
      if p.type.isCopyEnd then [p.forwarded] else [] := by
    simp [List.filter_cons]
  by_cases htrack : trackOutstanding l.server.copyMode p.type = true
  · have hsv : (forwardPacket (tagDirty l) p).server =
        addOutstandingRequest (tagDirty l).server p.type .forward := if_pos htrack
    have htracked : tracked l.server.copyMode [p.forwarded] = [p.forwarded] := by
      simp [tracked, htrack]
    refine ⟨[{ type := p.type, action := .forward }], ?_, rfl, ?_, ?_, ?_, ?_, ?_, hclient,
      by simp, by simp, hends⟩
    · rw [hsv]; simp [tagDirty]
    · rw [htracked]
      exact .cons (matches_plain (by simp) (by simp)) .nil
    · refine .queued ?_ rfl ?_ fun _ => rfl
      · rw [hsv]; simp [tagDirty]
      · simp [requestsOf, hps, htracked, OutstandingRequest.sig]
    all_goals rw [hsv]; simp [tagDirty]
  · have hsv : (forwardPacket (tagDirty l) p).server = (tagDirty l).server := if_neg htrack
    have htracked : tracked l.server.copyMode [p.forwarded] = [] := by
      simp [tracked, htrack]
    refine ⟨[], ?_, rfl, ?_, ?_, ?_, ?_, ?_, hclient, by simp, by simp, hends⟩
    · rw [hsv]; simp [tagDirty]
    · rw [htracked]
      exact .nil
    · refine .queued ?_ rfl ?_ fun _ => rfl
      · rw [hsv]; simp [tagDirty]
      · simp [requestsOf, hps, htracked]
    all_goals rw [hsv]; simp [tagDirty]

/-- A packet held back: a fake request, or a response made up at once. -/
theorem effect_heldBack (l l₁ : Link) (hps : psAction cfg p = true)
    (hqueue : l₁.server.outstandingRequests = l.server.outstandingRequests)
    (hextra : l₁.server.extraPackets = l.server.extraPackets)
    (hcopy : l₁.server.copyMode = l.server.copyMode)
    (hfailed : l₁.server.queryFailed = l.server.queryFailed)
    (hvars : l₁.server.settingVars = l.server.settingVars)
    (hclient : l₁.client.copyMode = l.client.copyMode) (hsent : l₁.toServer = l.toServer)
    (hreceived : l₁.toClient = l.toClient) :
    ∃ added, Effect cfg l
      { l₁ with server := addOutstandingRequest l₁.server p.type .fake } p added [] := by
  have hmode : l₁.client.copyMode = (l.client.copyMode && !p.type.isCopyEnd) := by
    simp [hclient, isCopyEnd_of_psAction hps]
  by_cases hempty : l.server.outstandingRequests = []
  · rw [addOutstandingRequest_fake_of_nil _ (hqueue.trans hempty), queueFakeResponse_eq]
    refine ⟨[], by simpa using hqueue, by simpa using hsent, .nil, ?_, hcopy, hfailed, hvars, hmode,
      by simp, by simp, by simp [isCopyEnd_of_psAction hps]⟩
    exact .madeUp hps hempty rfl rfl (by simp [hextra]) hreceived
  · rw [addOutstandingRequest_fake_of_ne _ (by rw [hqueue]; exact hempty)]
    refine ⟨[{ type := p.type, action := .fake }], by simp [hqueue], by simpa using hsent, .nil, ?_,
      hcopy, hfailed, hvars, hmode, ?_, by simp, by simp [isCopyEnd_of_psAction hps]⟩
    · refine .queued hextra hreceived ?_ fun h => absurd h hempty
      simp [requestsOf, hps, OutstandingRequest.sig]
    · intro r hr _
      rw [List.mem_singleton.mp hr]
      exact ⟨(type_of_psAction hps).1, (type_of_psAction hps).2, by simp [OutstandingRequest.op]⟩

theorem forgetStatement_copyMode (c : Client) (g : Statements) (name : Bytes) :
    (forgetStatement c g name).1.copyMode = c.copyMode := by
  unfold forgetStatement
  split <;> rfl

theorem effect_close (hps : psAction cfg (.close .statement name) = true) :
    ∃ added, Effect cfg l (handleCloseStatementCommand l name)
      (.close .statement name) added [] := by
  unfold handleCloseStatementCommand
  simp only
  split
  · rename_i hflight
    simp only [nothingInFlightToClient, Bool.and_eq_true, List.isEmpty_iff] at hflight
    refine ⟨[], by simp, by simp, .nil, ?_, rfl, rfl, rfl, ?_, by simp, by simp, rfl⟩
    · exact .written hps hflight.1.1 rfl rfl rfl hflight.1.2 hflight.1.2 rfl
    · simp [forgetStatement_copyMode, ReqType.isCopyEnd]
  · have hclient := forgetStatement_copyMode l.client l.stmts name
    generalize forgetStatement l.client l.stmts name = r at hclient ⊢
    exact effect_heldBack l { l with client := r.1, stmts := r.2 } hps
      rfl rfl rfl rfl rfl hclient rfl rfl

/-- The requests and packets of a Parse, with what evicting costs. -/
theorem parsed_matched (cfg : Config) (cache : List QueryId) (copying : Bool)
    (action : ResponseAction) (haction : action ≠ .fake) (hid : 0 < ps.queryId) :
    List.Forall₂ Matches
      (real (parseRequest action ps.queryId :: (evicted cfg cache).map closeRequest))
      (tracked copying (.parse (.pgbouncer ps.queryId) ps.queryAndParameters ::
        (evicted cfg cache).map closePkt)) := by
  rw [real_cons_of_ne haction, real_closeRequests, tracked_cons_of_pos rfl, tracked_closePkts]
  exact .cons (matches_parseRequest hid _) (forall₂_closeRequests _)

theorem parsed_action {cache : List QueryId} (haction : action ≠ .fake)
    (hr : r ∈ parseRequest action id :: (evicted cfg cache).map closeRequest) :
    r.action ≠ .fake := by
  rcases List.mem_cons.mp hr with rfl | hclose
  · exact haction
  · rw [action_closeRequests hclose]
    simp

theorem parsed_type {cache : List QueryId}
    (hr : r ∈ parseRequest action id :: (evicted cfg cache).map closeRequest) :
    r.type = .parse ∨ r.type = .close := by
  rcases List.mem_cons.mp hr with rfl | hclose
  · exact .inl rfl
  · obtain ⟨id, _, rfl⟩ := List.mem_map.mp hclose
    exact .inr rfl

theorem parsed_copyEnds (cfg : Config) (cache : List QueryId) (ps : PgPreparedStatement) :
    (Pkt.parse (.pgbouncer ps.queryId) ps.queryAndParameters ::
      (evicted cfg cache).map closePkt).filter (·.type.isCopyEnd) = [] := by
  rw [List.filter_cons, copyEnds_closePkts]
  rfl

theorem effect_parse {query : Bytes} {g : Statements}
    (hps : psAction cfg (.parse name query) = true) (hid : 0 < ps.queryId) :
    ∃ added sent, Effect cfg l (((tagDirty l).named name ps.queryId g).parsed cfg ps .forward)
      (.parse name query) added sent := by
  refine ⟨_, _, rfl, rfl, parsed_matched cfg _ _ .forward (by simp) hid, ?_, rfl, rfl, rfl, ?_,
    fun _ hr hfake => absurd hfake (parsed_action (by simp) hr), fun _ hr _ => parsed_type hr,
    parsed_copyEnds cfg _ ps⟩
  · refine .queued rfl rfl ?_ fun _ => ?_
    · simp only [requestsOf, hps, List.isEmpty_cons, Bool.and_false, Bool.false_eq_true, if_false,
        tracked_cons_of_pos (show trackOutstanding l.server.copyMode
          (Pkt.parse (StmtRef.pgbouncer ps.queryId) ps.queryAndParameters).type = true from rfl),
        tracked_closePkts, List.map_cons, sig_closeRequests (.parse name query) (by simp)]
      rfl
    · rw [real_cons_of_ne (by simp [parseRequest]), real_closeRequests]
  · simp [Link.parsed, createClientPreparedStatement, tagDirty, ReqType.isCopyEnd]

theorem effect_useKnown (hps : psAction cfg p = true) (huses : Uses p name type pkt) :
    ∃ added sent, Effect cfg l (((tagDirty l).touched id).forwarded type (pkt (.pgbouncer id)))
      p added sent := by
  obtain ⟨hpkt, hp, hop, htype⟩ := huses.type_eq (.pgbouncer id)
  have htrack : trackOutstanding l.server.copyMode (pkt (.pgbouncer id)).type = true := by
    rcases htype with h | h <;> rw [hpkt, h] <;> rfl
  have hpkts : tracked l.server.copyMode [pkt (.pgbouncer id)] = [pkt (.pgbouncer id)] := by
    rw [tracked_cons_of_pos htrack]
    rfl
  refine ⟨_, _, rfl, rfl, ?_, ?_, rfl, rfl, rfl, ?_, by simp, by simp, ?_⟩
  · rw [hpkts]
    exact .cons (matches_plain hpkt hop) .nil
  · refine .queued rfl rfl ?_ fun _ => rfl
    simp [requestsOf, hpkts, hpkt, hp, OutstandingRequest.sig]
  · simp [Link.forwarded, Link.touched, tagDirty, isCopyEnd_of_psAction hps]
  · have hend := isCopyEnd_of_psAction hps
    simp [hpkt, hp ▸ hend, hend]

theorem effect_use (hps : psAction cfg p = true) (huses : Uses p name type pkt)
    (hid : 0 < ps.queryId) :
    ∃ added sent, Effect cfg l
      (((tagDirty l).parsed cfg ps .skip).forwarded type (pkt (.pgbouncer ps.queryId)))
      p added sent := by
  obtain ⟨hpkt, hp, hop, htype⟩ := huses.type_eq (.pgbouncer ps.queryId)
  have htrack : trackOutstanding l.server.copyMode (pkt (.pgbouncer ps.queryId)).type = true := by
    rcases htype with h | h <;> rw [hpkt, h] <;> rfl
  have hpkts : tracked l.server.copyMode [pkt (.pgbouncer ps.queryId)] =
      [pkt (.pgbouncer ps.queryId)] := by
    rw [tracked_cons_of_pos htrack]
    rfl
  refine ⟨_, _, List.append_assoc _ _ _, List.append_assoc _ _ _, ?_, ?_, rfl, rfl, rfl, ?_, ?_,
    ?_, ?_⟩
  · rw [real_append, tracked_append, hpkts]
    exact List.rel_append (parsed_matched cfg _ _ .skip (by simp) hid)
      (.cons (matches_plain hpkt hop) .nil)
  · refine .queued rfl rfl ?_ fun _ => ?_
    · have hne : p.type ≠ .close := by rcases htype with h | h <;> rw [hp, h] <;> simp
      have hne' : ReqType.parse ≠ type := by rcases htype with h | h <;> rw [h] <;> simp
      rw [requestsOf, tracked_append, hpkts, tracked_cons_of_pos rfl, tracked_closePkts]
      simp [sig_closeRequests p hne, OutstandingRequest.sig, parseRequest, hp, hpkt, hne']
    · rw [real_append, real_cons_of_ne (by simp [parseRequest]), real_closeRequests]
      rfl
  · simp [Link.forwarded, Link.parsed, tagDirty, isCopyEnd_of_psAction hps]
  · intro r hr hfake
    rcases List.mem_append.mp hr with hparsed | hforward
    · exact absurd hfake (parsed_action (by simp) hparsed)
    · rw [List.mem_singleton.mp hforward] at hfake
      exact absurd hfake (by simp)
  · intro r hr hskip
    rcases List.mem_append.mp hr with hparsed | hforward
    · exact parsed_type hparsed
    · rw [List.mem_singleton.mp hforward] at hskip
      exact absurd hskip (by simp)
  · have hend := isCopyEnd_of_psAction hps
    rw [List.filter_append, parsed_copyEnds]
    simp [hpkt, hp ▸ hend, hend]

/-- The ids the handlers take from the table and from the client's map are real ones. -/
def PositiveIds (l : Link) : Prop :=
  (∀ ps ∈ l.stmts.preparedStatements, 0 < ps.queryId) ∧
  ∀ e ∈ l.client.clientPreparedStatements, 0 < e.ps

/-- **Every packet that keeps the connection open has an effect of this form.** -/
theorem accepts_effect {l' : Link} (ha : Accepts cfg l p l') (hids : PositiveIds l) :
    ∃ added sent, Effect cfg l l' p added sent := by
  have hget : ∀ {query ps found g}, getPreparedStatement l.stmts query = (ps, found, g) →
      0 < ps.queryId := by
    intro query ps found g hget
    unfold getPreparedStatement at hget
    split at hget
    · rename_i ps' hfind
      obtain rfl := (Prod.mk.inj hget).1
      exact hids.1 _ (List.mem_of_find?_eq_some hfind)
    · obtain rfl := (Prod.mk.inj hget).1
      exact Nat.succ_pos _
  cases ha with
  | forward hps _ _ =>
    obtain ⟨added, h⟩ := effect_forward hps
    exact ⟨added, _, h⟩
  | close hps =>
    obtain ⟨added, h⟩ := effect_close hps
    exact ⟨added, _, h⟩
  | @parseKnown name query ps g hps _ _ _ =>
    obtain ⟨added, h⟩ := effect_heldBack (p := .parse name query) l
      ((tagDirty l).named name ps.queryId g) hps rfl rfl rfl rfl rfl rfl rfl rfl
    exact ⟨added, _, h⟩
  | parse hps _ hg _ => exact effect_parse hps (hget hg)
  | useKnown hps huses _ _ => exact effect_useKnown hps huses
  | @use _ _ _ _ e hps huses hname _ =>
    have hpos : 0 < (l.deref e).queryId := by
      rw [deref_queryId]
      exact hids.2 e (List.mem_of_find?_eq_some hname)
    have h := effect_use (l := l) hps huses hpos
    rwa [deref_queryId] at h

end PgBouncer
