/-
What has to be the case for the timeouts to hit nobody innocent.

The two times of a client are those of its `Dialogue` as long as packets and messages
take turns: the client asks nothing before it has the end of its last answer, sends
nothing that is not part of a request, and the server speaks only when it is asked.  That
is the condition `Orderly`, together with a clock that does not go back.  A server that is
not ready while its client has no transaction open would still be closed, because
`xact_start` is zero then and the janitor subtracts it all the same; so where that can
happen the condition asks that no transaction timeout is in effect.
-/
import PgBouncer.Proofs.ServerWork
import PgBouncer.Timeouts

namespace PgBouncer.Timeouts

open Maintenance (Usec ServerReason)

/-! ### What the timeouts are for -/

/-- More than `limit` has passed since `since`. -/
def Overdue (since limit now : Usec) : Prop := since.toNat + limit.toNat < now.toNat

instance (since limit now : Usec) : Decidable (Overdue since limit now) :=
  inferInstanceAs (Decidable (_ < _))

/-- The reason is true of the client and the server. -/
def World.Deserved (w : World) : ServerReason → Prop
  | .queryTimeout =>
    ∃ t ∈ w.dialogue.unanswered,
      Overdue t (w.settings.effectiveQueryTimeout w.serverSocket) w.now
  | .idleTransactionTimeout =>
    ∃ t, w.dialogue.idleTxSince = some t ∧
      Overdue t (w.settings.effectiveIdleTransactionTimeout w.serverSocket) w.now
  | .transactionTimeout =>
    ∃ t, w.dialogue.xactSince = some t ∧
      Overdue t (w.settings.effectiveTransactionTimeout w.serverSocket) w.now
  | .connectTimeout => False

/-! ### The condition -/

/-- No transaction timeout is in effect for the servers of a user. -/
def Untimed (settings : Maintenance.World) (loginUser : Bytes) : Prop :=
  settings.effectiveTransactionTimeout { id := 0, loginUser } = 0

instance (settings : Maintenance.World) (loginUser : Bytes) :
    Decidable (Untimed settings loginUser) :=
  inferInstanceAs (Decidable (_ = _))

/-- A message that comes in order.  A ReadyForQuery is the end of everything the client has
sent; but for a ReadyForQuery outside a transaction and a notification, a message comes
while a transaction is open or where there is no transaction timeout. -/
def World.OrderlyReply (w : World) (m : ServerMsg) (answered : Nat) : Prop :=
  (w.active → (∃ state, m = .readyForQuery state) →
    w.dialogue.unanswered.length ≤ answered ∧ queueAfter w.link.server m = []) ∧
  (m = .readyForQuery .idle ∨ m = .notificationResponse ∨ w.dialogue.xactSince.isSome ∨
    Untimed w.settings w.loginUser)

/-- **The condition on the events.** -/
def Orderly (cfg : Config) (w : World) : Event → Prop
  | .time now => w.now ≤ now
  | .reload settings =>
    w.linked → w.link.server.ready = false → w.dialogue.xactSince = none →
      Untimed settings w.loginUser
  | .startAuthQuery _ loginUser _ => Untimed w.settings loginUser
  | .packet p =>
    isRequest p ∨ w.dialogue.unanswered ≠ [] ∨
      w.linked = false ∧
        (handleUnlinkedClientWork cfg w.link.client w.link.stmts p).isSome
  | .reply m answered => w.link.server.settingVars = false → w.OrderlyReply m answered
  | _ => True

/-! ### Packets -/

/-- A ReadyForQuery for one of these requests is not kept from the client. -/
def Heard (queue : List OutstandingRequest) : Prop :=
  ∀ r ∈ queue, r.type ∈ Handled.readyTypes → r.action ≠ .skip

theorem Heard.append {q q' : List OutstandingRequest} (h : Heard q) (h' : Heard q') :
    Heard (q ++ q') := by
  intro r hr
  rcases List.mem_append.mp hr with hr | hr
  · exact h r hr
  · exact h' r hr

theorem heard_nil : Heard [] := fun _ hr => (List.not_mem_nil hr).elim

/-- From `sv` to `sv'` requests were queued, and nothing happened to the flags. -/
structure Queues (sv sv' : Server) : Prop where
  ready : sv'.ready = sv.ready
  idleTx : sv'.idleTx = sv.idleTx
  settingVars : sv'.settingVars = sv.settingVars
  heard : Heard sv.outstandingRequests → Heard sv'.outstandingRequests

variable {sv server : Server} {cfg : Config} {l l' : Link} {p : Pkt Bytes} {g : Statements}
  {c : Option Client} {m : ServerMsg} {answered : Nat} {now : Usec} {d : Dialogue}

theorem Queues.trans {sv' sv'' : Server} (h : Queues sv sv') (h' : Queues sv' sv'') :
    Queues sv sv'' where
  ready := h'.ready.trans h.ready
  idleTx := h'.idleTx.trans h.idleTx
  settingVars := h'.settingVars.trans h.settingVars
  heard := fun hheard => h'.heard (h.heard hheard)

theorem queues_addOutstandingRequest (sv : Server) (type : ReqType) {action : ResponseAction}
    (haction : action ≠ .skip) : Queues sv (addOutstandingRequest sv type action) := by
  unfold addOutstandingRequest
  split
  · rw [queueFakeResponse_eq]
    exact ⟨rfl, rfl, rfl, id⟩
  · refine ⟨rfl, rfl, rfl, fun h => h.append fun r hr _ => ?_⟩
    rw [List.mem_singleton.mp hr]
    exact haction

theorem queues_forwardPacket (l : Link) (p : Pkt Bytes) :
    Queues l.server (forwardPacket l p).server := by
  unfold forwardPacket
  dsimp only
  split
  · exact queues_addOutstandingRequest _ _ (by decide)
  · exact ⟨rfl, rfl, rfl, id⟩

theorem queues_parsed (cfg : Config) (l : Link) (ps : PgPreparedStatement)
    (action : ResponseAction) : Queues l.server (l.parsed cfg ps action).server := by
  refine ⟨rfl, rfl, rfl, fun h => h.append fun r hr htype => ?_⟩
  rcases List.mem_cons.mp hr with rfl | hr
  · exact absurd htype (by simp [parseRequest, Handled.readyTypes])
  · obtain ⟨id, _, rfl⟩ := List.mem_map.mp hr
    exact absurd htype (by simp [closeRequest, Handled.readyTypes])

theorem queues_touched (l : Link) (id : QueryId) : Queues l.server (l.touched id).server :=
  ⟨rfl, rfl, rfl, fun h => h⟩

theorem queues_forwarded (l : Link) (type : ReqType) (pkt : Pkt StmtRef) :
    Queues l.server (l.forwarded type pkt).server := by
  refine ⟨rfl, rfl, rfl, fun h => h.append fun r hr _ => ?_⟩
  rw [List.mem_singleton.mp hr]
  exact nofun

theorem queues_close (l : Link) (name : Bytes) :
    Queues l.server (handleCloseStatementCommand l name).server := by
  unfold handleCloseStatementCommand
  dsimp only
  split
  · exact ⟨rfl, rfl, rfl, id⟩
  · exact queues_addOutstandingRequest _ _ (by decide)

/-- **A packet that is handled** marks the server as busy, unless it is a Close that
pgbouncer answers. -/
theorem queues_handleClientWork (h : handleClientWork cfg l p = (l', none)) :
    Queues (if isNamedClose cfg p then l.server else (tagDirty l).server) l'.server := by
  have hplain : ∀ {p}, psAction cfg p = false → isNamedClose cfg p = false := by
    intro p hps
    unfold isNamedClose
    split
    · exact hps
    · rfl
  cases handleClientWork_accepts h with
  | forward hps _ _ =>
    rw [hplain hps]
    exact queues_forwardPacket _ _
  | close hps =>
    rw [isNamedClose, if_pos hps]
    exact queues_close _ _
  | parseKnown => exact queues_addOutstandingRequest _ _ (by decide)
  | parse => exact queues_parsed cfg _ _ _
  | useKnown _ huses _ _ =>
    cases huses <;> exact (queues_touched _ _).trans (queues_forwarded _ _ _)
  | use _ huses _ _ =>
    cases huses <;> exact (queues_parsed cfg _ _ _).trans (queues_forwarded _ _ _)

theorem busy_of_handled (h : handleClientWork cfg l p = (l', none))
    (hp : isNamedClose cfg p = false) :
    l'.server.ready = false ∧ l'.server.idleTx = false := by
  have hqueues := queues_handleClientWork h
  rw [hp] at hqueues
  exact ⟨hqueues.ready, hqueues.idleTx⟩

theorem settingVars_of_handled (h : handleClientWork cfg l p = (l', none)) :
    l'.server.settingVars = l.server.settingVars := by
  refine (queues_handleClientWork h).settingVars.trans ?_
  split <;> rfl

theorem heard_of_handled (h : handleClientWork cfg l p = (l', none))
    (hheard : Heard l.server.outstandingRequests) :
    Heard l'.server.outstandingRequests := by
  refine (queues_handleClientWork h).heard ?_
  split <;> exact hheard

/-- A Close that names a statement does not wait for a server. -/
theorem isNamedClose_of_waits {c : Client} (h : handleUnlinkedClientWork cfg c g p = none) :
    isNamedClose cfg p = false := by
  unfold isNamedClose
  split
  · rename_i name
    rw [handleUnlinkedClientWork] at h
    split at h
    · exact nomatch h
    · exact Bool.eq_false_iff.mpr ‹_›
  · rfl

/-! ### Messages -/

/-- `ready` of a server after a message. -/
def readyAfter (m : ServerMsg) (ready : Bool) : Bool :=
  match m with
  | .readyForQuery .idle => true
  | .notificationResponse => ready
  | _ => false

/-- `idle_tx` of a server after a message. -/
def idleTxAfter (m : ServerMsg) (idleTx : Bool) : Bool :=
  match m with
  | .readyForQuery .idle => false
  | .readyForQuery _ => true
  | .notificationResponse => idleTx
  | _ => false

theorem serverSwitch_flags (hd : (serverSwitch cfg sv c g m).disconnect = none) :
    (serverSwitch cfg sv c g m).server.ready = readyAfter m sv.ready ∧
      (serverSwitch cfg sv c g m).server.idleTx = idleTxAfter m sv.idleTx := by
  cases m with
  | readyForQuery state =>
    cases state with
    | idle => exact ⟨rfl, rfl⟩
    | inTransaction | failed =>
      simp only [serverSwitch] at hd ⊢
      split
      · rename_i hpool
        simp [hpool] at hd
      · exact ⟨rfl, rfl⟩
  | errorResponse =>
    simp only [serverSwitch] at hd ⊢
    split_ifs at hd ⊢
    exact ⟨rfl, rfl⟩
  | unknown => simp [serverSwitch] at hd
  | _ => exact ⟨rfl, rfl⟩

theorem settingVars_of_disconnect (hd : (serverSwitch cfg sv c g m).disconnect = none)
    (herror : m = .errorResponse) : sv.settingVars = false := by
  subst herror
  refine Bool.eq_false_iff.mpr fun hset => ?_
  simp [serverSwitch, hset] at hd

/-- What a message does to a server, as far as the janitor and the queue are concerned. -/
structure Speaks (m : ServerMsg) (sv sv' : Server) : Prop where
  ready : sv'.ready = readyAfter m sv.ready
  idleTx : sv'.idleTx = idleTxAfter m sv.idleTx
  settingVars : sv'.settingVars = sv.settingVars
  suffix : sv'.outstandingRequests <:+ sv.outstandingRequests

theorem speaks_serverSwitch (hd : (serverSwitch cfg sv c g m).disconnect = none) :
    Speaks m sv (serverSwitch cfg sv c g m).server where
  ready := (serverSwitch_flags hd).1
  idleTx := (serverSwitch_flags hd).2
  settingVars :=
    congrArg (·.server.settingVars) (serverSwitch_core (settingVars_of_disconnect hd))
  suffix := serverSwitch_queue (settingVars_of_disconnect hd) ▸ queueAfter_suffix sv m

theorem Speaks.sendFakes {sv' : Server} (h : Speaks m sv sv') :
    Speaks m sv (sendPendingFakeResponses sv') := by
  rw [sendPendingFakeResponses_eq]
  exact { h with suffix := (dropFakes_suffix _).trans h.suffix }

theorem disconnect_of_handled (h : handleServerWork cfg l m = (l', none)) :
    (serverSwitch cfg l.server (some l.client) l.stmts m).disconnect = none := by
  unfold handleServerWork at h
  dsimp only at h
  split at h
  · exact (Prod.mk.inj h).2
  · exact Option.not_isSome_iff_eq_none.mp ‹_›

theorem speaks_handleServerWork (h : handleServerWork cfg l m = (l', none)) :
    Speaks m l.server l'.server := by
  have hspeaks := speaks_serverSwitch (disconnect_of_handled h)
  have hnone := disconnect_of_handled h
  unfold handleServerWork at h
  dsimp only at h
  rw [hnone] at h
  simp only [Option.isSome_none, Bool.false_eq_true, if_false] at h
  split at h
  · obtain rfl := (Prod.mk.inj h).1
    exact hspeaks
  · obtain rfl := (Prod.mk.inj h).1
    exact hspeaks.sendFakes

theorem handled_of_processServerPacket (h : processServerPacket cfg l m = (l', none)) :
    ∃ l₁, handleServerWork cfg (flushExtraPackets l) m = (l₁, none) ∧
      l' = flushExtraPackets l₁ := by
  unfold processServerPacket at h
  split at h
  · exact ⟨_, ‹_›, (Prod.mk.inj h).1.symm⟩
  · rename_i hne
    exact absurd h (hne l')

/-! ### The two times -/

/-- The two times of a client are those of its dialogue. -/
structure Ledger (now queryStart xactStart : Usec) (d : Dialogue) : Prop where
  now_pos : 0 < now
  query : queryStart = d.unanswered.headD 0
  xact : xactStart = d.xactSince.getD 0
  asked : ∀ t ∈ d.unanswered, 0 < t ∧ t ≤ now
  opened : ∀ t, d.xactSince = some t → 0 < t ∧ t ≤ now
  within : d.xactSince = none → d.unanswered = []

abbrev World.Ledger (w : World) : Prop :=
  Timeouts.Ledger w.now w.queryStart w.xactStart w.dialogue

namespace Ledger

variable {now queryStart xactStart : Usec} {d : Dialogue}

theorem init : Ledger 1 0 0 {} where
  now_pos := by decide
  query := rfl
  xact := rfl
  asked := fun _ ht => (List.not_mem_nil ht).elim
  opened := fun _ ht => nomatch ht
  within := fun _ => rfl

theorem time (h : Ledger now queryStart xactStart d) {now' : Usec} (hle : now ≤ now') :
    Ledger now' queryStart xactStart d where
  __ := h
  now_pos := UInt64.lt_of_lt_of_le h.now_pos hle
  asked := fun t ht => ⟨(h.asked t ht).1, UInt64.le_trans (h.asked t ht).2 hle⟩
  opened := fun t ht => ⟨(h.opened t ht).1, UInt64.le_trans (h.opened t ht).2 hle⟩

theorem queryStart_eq_zero_iff (h : Ledger now queryStart xactStart d) :
    queryStart = 0 ↔ d.unanswered = [] := by
  rw [h.query]
  cases hd : d.unanswered with
  | nil => simp
  | cons t ts =>
    have hpos := (h.asked t (hd ▸ List.mem_cons_self)).1
    simpa using (UInt64.ne_of_lt hpos).symm

theorem queryStart_mem (h : Ledger now queryStart xactStart d) (hstart : queryStart ≠ 0) :
    queryStart ∈ d.unanswered := by
  rw [h.query]
  cases hd : d.unanswered with
  | nil => exact absurd (h.queryStart_eq_zero_iff.mpr hd) hstart
  | cons t ts => exact List.mem_cons_self

theorem xactStart_eq_zero_iff (h : Ledger now queryStart xactStart d) :
    xactStart = 0 ↔ d.xactSince = none := by
  rw [h.xact]
  cases hd : d.xactSince with
  | none => simp
  | some t =>
    have hpos := (h.opened t hd).1
    simpa using (UInt64.ne_of_lt hpos).symm

theorem request (h : Ledger now queryStart xactStart d) :
    Ledger now (if queryStart = 0 then now else queryStart)
      (if xactStart = 0 then if queryStart = 0 then now else queryStart else xactStart)
      (d.request now) where
  now_pos := h.now_pos
  query := by
    by_cases hnone : d.unanswered = []
    · rw [if_pos (h.queryStart_eq_zero_iff.mpr hnone), Dialogue.request, hnone]
      rfl
    · rw [if_neg fun h0 => hnone (h.queryStart_eq_zero_iff.mp h0), h.query, Dialogue.request]
      cases hd : d.unanswered with
      | nil => exact absurd hd hnone
      | cons t ts => rfl
  xact := by
    by_cases hnone : d.xactSince = none
    · rw [if_pos (h.xactStart_eq_zero_iff.mpr hnone),
        if_pos (h.queryStart_eq_zero_iff.mpr (h.within hnone)), Dialogue.request, hnone]
      rfl
    · rw [if_neg fun h0 => hnone (h.xactStart_eq_zero_iff.mp h0), h.xact, Dialogue.request]
      cases hd : d.xactSince with
      | none => exact absurd hd hnone
      | some t => rfl
  asked := by
    intro t ht
    rcases List.mem_append.mp ht with ht | ht
    · exact h.asked t ht
    · rw [List.mem_singleton.mp ht]
      exact ⟨h.now_pos, UInt64.le_refl now⟩
  opened := by
    intro t ht
    rcases Option.or_eq_some_iff.mp ht with ht | ⟨_, ht⟩
    · exact h.opened t ht
    · rw [← Option.some.inj ht]
      exact ⟨h.now_pos, UInt64.le_refl now⟩
  within := fun hnone => absurd (Option.or_eq_none_iff.mp hnone).2 nofun

theorem link (h : Ledger now queryStart xactStart d) : Ledger now queryStart xactStart d.link :=
  { h with }

/-- A ReadyForQuery outside a transaction that is the end of everything. -/
theorem ready (h : Ledger now queryStart xactStart d) {answered : Nat}
    (hall : d.unanswered.length ≤ answered) :
    Ledger now 0 0 (d.reply now false answered (.readyForQuery .idle)) := by
  have hnil := List.drop_eq_nil_of_le hall
  simp only [Dialogue.reply, Bool.false_eq_true, if_false, hnil]
  exact ⟨h.now_pos, rfl, rfl, fun _ ht => (List.not_mem_nil ht).elim, nofun, fun _ => rfl⟩

/-- The same in a transaction. -/
theorem idleTx (h : Ledger now queryStart xactStart d) {state : TxStatus}
    (hall : d.unanswered.length ≤ answered) (hstate : state ≠ .idle) :
    Ledger now 0 xactStart (d.reply now false answered (.readyForQuery state)) := by
  have hnil := List.drop_eq_nil_of_le hall
  cases state with
  | idle => exact absurd rfl hstate
  | inTransaction | failed =>
    simp only [Dialogue.reply, Bool.false_eq_true, if_false, hnil]
    exact ⟨h.now_pos, rfl, h.xact, fun _ ht => (List.not_mem_nil ht).elim, h.opened,
      fun _ => rfl⟩

end Ledger

variable {w : World}

/-- **A packet starts the times** of what it asks for, and no others. -/
theorem World.Ledger.startTimers (h : w.Ledger) (hp : isRequest p ∨ w.dialogue.unanswered ≠ []) :
    (w.startTimers p).Ledger ∧ (w.startTimers p).dialogue.xactSince.isSome := by
  unfold World.Ledger World.startTimers
  dsimp only
  by_cases hreq : isRequest p = true
  · rw [if_pos hreq]
    refine ⟨h.request, ?_⟩
    cases hx : w.dialogue.xactSince <;> simp [Dialogue.request, hx]
  · have hopen := hp.resolve_left hreq
    have hxact : w.dialogue.xactSince ≠ none := fun hnone => hopen (h.within hnone)
    rw [if_neg hreq, if_neg fun h0 => hopen (h.queryStart_eq_zero_iff.mp h0),
      if_neg fun h0 => hxact (h.xactStart_eq_zero_iff.mp h0)]
    exact ⟨h, Option.isSome_iff_ne_none.mpr hxact⟩

/-! ### The dialogue after a message -/

/-- A message that is neither a ReadyForQuery nor a notification. -/
theorem other_message (hready : ∀ state, m ≠ .readyForQuery state)
    (hnotify : m ≠ .notificationResponse) :
    (∀ b, readyAfter m b = false) ∧ (∀ b, idleTxAfter m b = false) ∧
      ∀ (d : Dialogue) now own answered, d.reply now own answered m = d := by
  cases m with
  | readyForQuery state => exact absurd rfl (hready state)
  | notificationResponse => exact absurd rfl hnotify
  | _ => exact ⟨fun _ => rfl, fun _ => rfl, fun _ _ _ _ => rfl⟩

theorem reply_own (d : Dialogue) (now : Usec) (answered : Nat) (m : ServerMsg) :
    (d.reply now true answered m).unanswered = d.unanswered ∧
      (d.reply now true answered m).xactSince = d.xactSince := by
  cases m with
  | readyForQuery state => cases state <;> exact ⟨rfl, rfl⟩
  | _ => exact ⟨rfl, rfl⟩

theorem Ledger.own {queryStart xactStart : Usec} (h : Ledger now queryStart xactStart d)
    (answered : Nat) (m : ServerMsg) :
    Ledger now queryStart xactStart (d.reply now true answered m) := by
  obtain ⟨hunanswered, hxact⟩ := reply_own d now answered m
  constructor
  · exact h.now_pos
  · rw [hunanswered]
    exact h.query
  · rw [hxact]
    exact h.xact
  · rw [hunanswered]
    exact h.asked
  · rw [hxact]
    exact h.opened
  · rw [hunanswered, hxact]
    exact h.within

/-- A server that reports to be idle in a transaction is. -/
theorem idleTxSince_reply {own idleTx : Bool}
    (hall : own = false → ∀ state, m = .readyForQuery state →
      d.unanswered.length ≤ answered) (hold : idleTx → ∃ t, d.idleTxSince = some t ∧ t ≤ now)
    (h : idleTxAfter m idleTx = true) :
    ∃ t, (d.reply now own answered m).idleTxSince = some t ∧ t ≤ now := by
  have hreply : ∀ state, m = .readyForQuery state →
      (own || (if own then d.unanswered else d.unanswered.drop answered).isEmpty) = true := by
    intro state hm
    cases own with
    | true => rfl
    | false => simp [List.drop_eq_nil_of_le (hall rfl state hm)]
  cases m with
  | readyForQuery state =>
    cases state with
    | idle => exact nomatch h
    | inTransaction | failed =>
      exact ⟨now, if_pos (hreply _ rfl), UInt64.le_refl now⟩
  | notificationResponse => exact hold h
  | _ => exact nomatch h

theorem ignoreAfter_readyForQuery {state : TxStatus} (h : Heard sv.outstandingRequests) :
    ignoreAfter sv (.readyForQuery state) = false := by
  change popSkips Handled.readyTypes sv.outstandingRequests = false
  cases hq : sv.outstandingRequests with
  | nil => rfl
  | cons r rest =>
    have hr := h r (hq ▸ List.mem_cons_self)
    simpa [popSkips] using fun haction htype => hr htype haction

/-! ### The invariant -/

/-- What the server of a client can be relied on for. -/
structure Standing (w : World) : Prop where
  ready : w.active → w.link.server.settingVars = false → w.link.server.ready →
    w.dialogue.xactSince = none
  idle : w.active → w.link.server.settingVars = false → w.link.server.idleTx →
    w.dialogue.unanswered = []
  setting : w.link.server.settingVars = w.pending.isSome
  untimed : w.link.server.ready = false → w.dialogue.xactSince = none →
    Untimed w.settings w.loginUser
  idleTx : w.link.server.idleTx → ∃ t, w.dialogue.idleTxSince = some t ∧ t ≤ w.requestTime ∧
    w.requestTime ≤ w.now
  heard : w.active → Heard w.link.server.outstandingRequests

/-- **The invariant.** -/
structure Sound (cfg : Config) (w : World) : Prop where
  ledger : w.Ledger
  login : w.active = false → w.dialogue.xactSince = none ∧ w.pending = none
  waiting : ∀ p, w.pending = some p → w.dialogue.xactSince.isSome ∧ isNamedClose cfg p = false
  apart : w.linked = false → w.pending = none → w.dialogue.xactSince = none
  standing : w.linked → Standing w

/-- A server that works on a transaction. -/
theorem Standing.busy (hready : w.link.server.ready = false) (hidle : w.link.server.idleTx = false)
    (hvars : w.link.server.settingVars = false) (hpending : w.pending = none)
    (hxact : w.dialogue.xactSince.isSome) (hheard : Heard w.link.server.outstandingRequests) :
    Standing w where
  ready := fun _ _ h => absurd (hready.symm.trans h) nofun
  idle := fun _ _ h => absurd (hidle.symm.trans h) nofun
  setting := by rw [hvars, hpending, Option.isSome_none]
  untimed := fun _ hnone => absurd hnone (Option.isSome_iff_ne_none.mp hxact)
  idleTx := fun h => absurd (hidle.symm.trans h) nofun
  heard := fun _ => hheard

/-- A server that only has had requests queued. -/
theorem Standing.queues (h : Standing w) (hqueues : Queues w.link.server l.server) :
    Standing { w with link := l } where
  ready := fun hactive hvars hready =>
    h.ready hactive (hqueues.settingVars.symm.trans hvars) (hqueues.ready.symm.trans hready)
  idle := fun hactive hvars hidle =>
    h.idle hactive (hqueues.settingVars.symm.trans hvars) (hqueues.idleTx.symm.trans hidle)
  setting := hqueues.settingVars.trans h.setting
  untimed := fun hready => h.untimed (hqueues.ready.symm.trans hready)
  idleTx := fun hidle => h.idleTx (hqueues.idleTx.symm.trans hidle)
  heard := fun hactive => hqueues.heard (h.heard hactive)

/-- What is known of a server that `find_server` takes. -/
theorem isIdle_iff : isIdle server = true ↔
    server.ready = true ∧ server.idleTx = false ∧ server.settingVars = false ∧
      server.outstandingRequests = [] := by
  simp [isIdle, and_assoc]

/-! ### Steps of the client -/

variable {w' : World}

theorem Sound.work (h : w.work cfg p = some w') (hledger : w.Ledger) (hactive : w.active)
    (hlinked : w.linked) (hvars : w.link.server.settingVars = false)
    (hxact : w.dialogue.xactSince.isSome) (hheard : Heard w.link.server.outstandingRequests)
    (hp : isNamedClose cfg p = false) :
    Sound cfg w' := by
  unfold World.work at h
  split at h
  · rename_i l hwork
    obtain rfl := Option.some.inj h
    obtain ⟨hready, hidle⟩ := busy_of_handled hwork hp
    refine ⟨hledger, fun hlogin => absurd (hactive.symm.trans hlogin) nofun, nofun,
      fun hl => absurd (hlinked.symm.trans hl) nofun, fun _ => ?_⟩
    exact .busy hready hidle ((settingVars_of_handled hwork).trans hvars) rfl hxact
      (heard_of_handled hwork hheard)
  · exact nomatch h

theorem Sound.namedClose (hw : Sound cfg w) (hlinked : w.linked) (hpending : w.pending = none)
    (hp : isNamedClose cfg p = true) (h : w.work cfg p = some w') : Sound cfg w' := by
  unfold World.work at h
  split at h
  · rename_i l hwork
    obtain rfl := Option.some.inj h
    have hqueues := queues_handleClientWork hwork
    rw [if_pos hp] at hqueues
    have hstanding := (hw.standing hlinked).queues hqueues
    refine ⟨hw.ledger, fun hlogin => ⟨(hw.login hlogin).1, rfl⟩, nofun,
      fun hl => absurd (hlinked.symm.trans hl) nofun, fun _ => ?_⟩
    exact { hstanding with setting := hpending ▸ hstanding.setting }
  · exact nomatch h

theorem Sound.packet (hw : Sound cfg w) (hcond : Orderly cfg w (.packet p))
    (h : w.packet cfg p = some w') : Sound cfg w' := by
  unfold World.packet at h
  split at h
  · exact nomatch h
  rename_i hguard
  simp only [Bool.or_eq_true, Bool.not_eq_true', not_or, Bool.not_eq_false,
    Bool.not_eq_true, Option.isSome_eq_false_iff, Option.isNone_iff_eq_none] at hguard
  obtain ⟨⟨hactive, hpending⟩, _⟩ := hguard
  split at h
  · rename_i hlinked
    split at h
    · exact hw.namedClose hlinked hpending ‹_› h
    · rename_i hp
      have hasks : isRequest p ∨ w.dialogue.unanswered ≠ [] := by
        rcases hcond with hreq | hopen | ⟨hunlinked, _⟩
        · exact .inl hreq
        · exact .inr hopen
        · exact absurd (hlinked.symm.trans hunlinked) nofun
      obtain ⟨hledger, hxact⟩ := hw.ledger.startTimers hasks
      have hstanding := hw.standing hlinked
      have hvars : w.link.server.settingVars = false := by
        rw [hstanding.setting, hpending, Option.isSome_none]
      exact Sound.work h hledger hactive hlinked hvars hxact (hstanding.heard hactive)
        (Bool.eq_false_iff.mpr hp)
  · rename_i hlinked
    split at h
    · obtain rfl := Option.some.inj h
      exact { hw with standing := fun hl => absurd hl hlinked }
    · rename_i hwaits
      obtain rfl := Option.some.inj h
      have hasks : isRequest p ∨ w.dialogue.unanswered ≠ [] := by
        rcases hcond with hreq | hopen | ⟨_, hanswered⟩
        · exact .inl hreq
        · exact .inr hopen
        · rw [hwaits] at hanswered
          exact nomatch hanswered
      obtain ⟨hledger, hxact⟩ := hw.ledger.startTimers hasks
      refine ⟨hledger, fun hlogin => absurd (hactive.symm.trans hlogin) nofun, ?_, nofun,
        fun hl => absurd hl hlinked⟩
      intro q hq
      obtain rfl := Option.some.inj hq
      exact ⟨hxact, isNamedClose_of_waits hwaits⟩

/-! ### Steps of the server -/

/-- Whether `handle_server_work` computes the times. -/
def timed (sv : Server) (m : ServerMsg) : Bool :=
  !sv.settingVars && !ignoreAfter sv m && (queueAfter sv m).isEmpty

/-- **A message to a client that has logged in.** -/
theorem workReply_eq (h : w.workReply cfg m answered = some w') :
    ∃ l, Speaks m w.link.server l.server ∧ w' =
      { w with
        link := l
        requestTime := w.now
        queryStart := if timed w.link.server m &&
            (readyAfter m w.link.server.ready || idleTxAfter m w.link.server.idleTx) then 0
          else w.queryStart
        xactStart := if timed w.link.server m && readyAfter m w.link.server.ready then 0
          else w.xactStart
        dialogue := w.dialogue.reply w.now w.link.server.settingVars answered m } := by
  unfold World.workReply at h
  dsimp only at h
  split at h
  · rename_i l hwork
    obtain ⟨l₁, hhandled, rfl⟩ := handled_of_processServerPacket hwork
    have hd := disconnect_of_handled hhandled
    have hsw := speaks_serverSwitch hd
    have hspeaks := speaks_handleServerWork hhandled
    refine ⟨flushExtraPackets l₁,
      { hspeaks with }, ?_⟩
    have hvars := settingVars_of_disconnect hd
    rw [hsw.ready, hsw.idleTx, hsw.settingVars, serverSwitch_ignorePacket hvars,
      serverSwitch_queue hvars, ignoreAfter_flush, queueAfter_flush] at h
    exact (Option.some.inj h).symm
  · exact nomatch h

theorem Heard.suffix {q q' : List OutstandingRequest} (h : Heard q) (hsuffix : q' <:+ q) :
    Heard q' := fun r hr => h r (hsuffix.subset hr)

theorem Standing.idleTx_reply {own : Bool} (h : Standing w)
    (hall : own = false → ∀ state, m = .readyForQuery state →
      w.dialogue.unanswered.length ≤ answered) (hidle : idleTxAfter m w.link.server.idleTx = true) :
    ∃ t, (w.dialogue.reply w.now own answered m).idleTxSince = some t ∧ t ≤ w.now ∧
      w.now ≤ w.now := by
  have hold : w.link.server.idleTx → ∃ t, w.dialogue.idleTxSince = some t ∧ t ≤ w.now := by
    intro hbefore
    obtain ⟨t, ht, hle, hnow⟩ := h.idleTx hbefore
    exact ⟨t, ht, UInt64.le_trans hle hnow⟩
  obtain ⟨t, ht, hle⟩ := idleTxSince_reply hall hold hidle
  exact ⟨t, ht, hle, UInt64.le_refl _⟩

/-- A message about the variables that are being set. -/
theorem Sound.varsReply (hw : Sound cfg w) (hlinked : w.linked)
    (hvars : w.link.server.settingVars = true) (hspeaks : Speaks m w.link.server l.server) :
    Sound cfg { w with
      link := l
      requestTime := w.now
      dialogue := w.dialogue.reply w.now true answered m } := by
  have hstanding := hw.standing hlinked
  have hset : l.server.settingVars = true := hspeaks.settingVars.trans hvars
  have hxact := (reply_own w.dialogue w.now answered m).2
  obtain ⟨p, hp⟩ := Option.isSome_iff_exists.mp (hstanding.setting.symm.trans hvars)
  have hopen := (hw.waiting p hp).1
  refine ⟨hw.ledger.own answered m, fun hlogin => ?_, fun q hq => ?_,
    fun hl => absurd (hlinked.symm.trans hl) nofun, fun _ => ?_⟩
  · exact absurd (hp.symm.trans (hw.login hlogin).2) nofun
  · exact ⟨hxact ▸ (hw.waiting q hq).1, (hw.waiting q hq).2⟩
  · constructor
    · exact fun _ hfalse => absurd (hset.symm.trans hfalse) nofun
    · exact fun _ hfalse => absurd (hset.symm.trans hfalse) nofun
    · exact hspeaks.settingVars.trans hstanding.setting
    · exact fun _ hnone => absurd (hxact.symm.trans hnone) (Option.isSome_iff_ne_none.mp hopen)
    · intro hidle
      exact hstanding.idleTx_reply nofun (hspeaks.idleTx.symm.trans hidle)
    · exact fun hactive => (hstanding.heard hactive).suffix hspeaks.suffix

/-- The state after a message to a client that does not wait. -/
theorem Sound.replied {q x : Usec} (hactive : w.active) (hlinked : w.linked)
    (hpending : w.pending = none) (hvars : l.server.settingVars = false)
    (hledger : Ledger w.now q x d) (hready : l.server.ready → d.xactSince = none)
    (hidle : l.server.idleTx → d.unanswered = [] ∧
      ∃ t, d.idleTxSince = some t ∧ t ≤ w.now ∧ w.now ≤ w.now)
    (huntimed : l.server.ready = false → d.xactSince = none → Untimed w.settings w.loginUser)
    (hheard : Heard l.server.outstandingRequests) :
    Sound cfg { w with
      link := l, requestTime := w.now, queryStart := q, xactStart := x, dialogue := d } where
  ledger := hledger
  login := fun hlogin => absurd (hactive.symm.trans hlogin) nofun
  waiting := fun p hp => absurd (hpending.symm.trans hp) nofun
  apart := fun hl => absurd (hlinked.symm.trans hl) nofun
  standing := fun _ =>
    { ready := fun _ _ => hready
      idle := fun _ _ h => (hidle h).1
      setting := by rw [hvars, hpending, Option.isSome_none]
      untimed := huntimed
      idleTx := fun h => (hidle h).2
      heard := fun _ => hheard }

/-- The times stay as they are where they are reset to what they are. -/
theorem reset_eq {b : Bool} {t : Usec} (h : b = true → t = 0) :
    (if b then 0 else t) = t := by
  split
  · exact (h ‹_›).symm
  · rfl

/-- **A message in order** to a client that has logged in. -/
theorem Sound.workReply (hw : Sound cfg w) (hlinked : w.linked) (hactive : w.active)
    (hcond : w.link.server.settingVars = false → w.OrderlyReply m answered)
    (h : w.workReply cfg m answered = some w') : Sound cfg w' := by
  obtain ⟨l, hspeaks, rfl⟩ := workReply_eq h
  by_cases hset : w.link.server.settingVars = true
  · have htimed : timed w.link.server m = false := by simp [timed, hset]
    simp only [htimed, hset, Bool.false_and, Bool.false_eq_true, if_false]
    exact hw.varsReply hlinked hset hspeaks
  have hvars := Bool.eq_false_iff.mpr hset
  have hstanding := hw.standing hlinked
  have hledger := hw.ledger
  obtain ⟨hall, hopen⟩ := hcond hvars
  have hheard := (hstanding.heard hactive).suffix hspeaks.suffix
  have hvars' := hspeaks.settingVars.trans hvars
  have hpending : w.pending = none := by
    rw [← Option.isSome_eq_false_iff.trans Option.isNone_iff_eq_none, ← hstanding.setting, hvars]
  have hidle : l.server.idleTx → ∃ t, (w.dialogue.reply w.now false answered m).idleTxSince =
      some t ∧ t ≤ w.now ∧ w.now ≤ w.now := fun hidle =>
    hstanding.idleTx_reply (fun _ state hm => (hall hactive ⟨state, hm⟩).1)
      (hspeaks.idleTx.symm.trans hidle)
  rw [hvars]
  by_cases hready : ∃ state, m = .readyForQuery state
  · obtain ⟨hend, hqueue⟩ := hall hactive hready
    obtain ⟨state, rfl⟩ := hready
    have htimed : timed w.link.server (.readyForQuery state) = true := by
      simp [timed, hvars, ignoreAfter_readyForQuery (hstanding.heard hactive), hqueue]
    have hnil := List.drop_eq_nil_of_le hend
    rw [htimed]
    cases state with
    | idle =>
      refine .replied hactive hlinked hpending hvars' (hledger.ready hend) ?_ ?_ ?_ hheard
      · intro _
        simp [Dialogue.reply, hnil]
      · exact fun hidle => absurd (hspeaks.idleTx.symm.trans hidle) nofun
      · exact fun hready => absurd (hspeaks.ready.symm.trans hready) nofun
    | inTransaction | failed =>
      refine .replied hactive hlinked hpending hvars' (hledger.idleTx hend nofun) ?_ ?_ ?_
        hheard
      · exact fun hready => absurd (hspeaks.ready.symm.trans hready) nofun
      · exact fun h => ⟨by simp [Dialogue.reply, hnil], hidle h⟩
      · intro _ hnone
        have hxact : w.dialogue.xactSince = none := hnone
        simpa [hxact] using hopen
  by_cases hnotify : m = .notificationResponse
  · subst hnotify
    -- nothing is timed here that is not zero already
    have hquery : (timed w.link.server .notificationResponse &&
        (w.link.server.ready || w.link.server.idleTx)) = true → w.queryStart = 0 := by
      intro h
      refine hledger.queryStart_eq_zero_iff.mpr ?_
      rcases Bool.or_eq_true_iff.mp (Bool.and_eq_true_iff.mp h).2 with hr | hi
      · exact hledger.within (hstanding.ready hactive hvars hr)
      · exact hstanding.idle hactive hvars hi
    have hxact : (timed w.link.server .notificationResponse && w.link.server.ready) = true →
        w.xactStart = 0 := fun h => hledger.xactStart_eq_zero_iff.mpr
      (hstanding.ready hactive hvars (Bool.and_eq_true_iff.mp h).2)
    change Sound cfg { w with
      link := l
      requestTime := w.now
      queryStart := if timed w.link.server .notificationResponse &&
        (w.link.server.ready || w.link.server.idleTx) then 0 else w.queryStart
      xactStart := if timed w.link.server .notificationResponse && w.link.server.ready then 0
        else w.xactStart }
    rw [reset_eq hquery, reset_eq hxact]
    refine .replied hactive hlinked hpending hvars' hledger ?_ ?_ ?_ hheard
    · exact fun hr => hstanding.ready hactive hvars (hspeaks.ready.symm.trans hr)
    · exact fun hi => ⟨hstanding.idle hactive hvars (hspeaks.idleTx.symm.trans hi), hidle hi⟩
    · exact fun hr => hstanding.untimed (hspeaks.ready.symm.trans hr)
  · have hstates : ∀ state, m ≠ .readyForQuery state := fun state hm => hready ⟨state, hm⟩
    obtain ⟨hr, hi, hd⟩ := other_message hstates hnotify
    rw [hd, hr, hi, Bool.or_false, Bool.and_false, if_neg Bool.false_ne_true,
      if_neg Bool.false_ne_true]
    refine .replied hactive hlinked hpending hvars' hledger ?_ ?_ ?_ hheard
    · exact fun h => absurd ((hspeaks.ready.trans (hr _)).symm.trans h) nofun
    · exact fun h => absurd ((hspeaks.idleTx.trans (hi _)).symm.trans h) nofun
    · intro _ hnone
      simpa [hstates, hnotify, hnone] using hopen

/-- A message about the query for the client's password. -/
theorem Sound.authQueryReply (hw : Sound cfg w) (hlinked : w.linked) (hactive : w.active = false)
    (hcond : w.link.server.settingVars = false → w.OrderlyReply m answered)
    (h : w.authQueryReply cfg m answered = some w') : Sound cfg w' := by
  unfold World.authQueryReply at h
  dsimp only at h
  split at h
  · exact nomatch h
  rename_i hgoes
  obtain rfl := Option.some.inj h
  have hd : (serverSwitch cfg w.link.server (some w.link.client) w.link.stmts m).disconnect =
      none := by
    simpa using fun hd => hgoes (Bool.or_eq_true_iff.mpr (.inl hd))
  have hspeaks := speaks_serverSwitch hd
  have hstanding := hw.standing hlinked
  obtain ⟨hxact, hpending⟩ := hw.login hactive
  have hvars : w.link.server.settingVars = false := by
    rw [hstanding.setting, hpending, Option.isSome_none]
  have hxact' : (w.dialogue.reply w.now true answered m).xactSince = none :=
    (reply_own _ _ _ _).2.trans hxact
  have hlogin : ∀ {a : Prop}, w.active → a := fun h => absurd (hactive.symm.trans h) nofun
  refine ⟨hw.ledger.own answered m, fun _ => ⟨hxact', hpending⟩,
    fun p hp => absurd (hpending.symm.trans hp) nofun, fun _ _ => hxact', fun _ => ?_⟩
  refine ⟨hlogin, hlogin, hspeaks.settingVars.trans hstanding.setting, fun hready _ => ?_,
    fun hidle => hstanding.idleTx_reply nofun (hspeaks.idleTx.symm.trans hidle), hlogin⟩
  have hready' : readyAfter m w.link.server.ready = false := hspeaks.ready.symm.trans hready
  rcases (hcond hvars).2 with rfl | rfl | hopen | huntimed
  · exact nomatch hready'
  · exact hstanding.untimed hready' hxact
  · rw [hxact] at hopen
    exact nomatch hopen
  · exact huntimed

/-! ### Runs -/

theorem Sound.setLink {loginUser : Bytes} {requestTime : Usec} (hw : Sound cfg w)
    (h : Standing (w.setLink server loginUser requestTime)) :
    Sound cfg (w.setLink server loginUser requestTime) where
  ledger := hw.ledger.link
  login := hw.login
  waiting := hw.waiting
  apart := nofun
  standing := fun _ => h

theorem Sound.active_of_pending (hw : Sound cfg w) (hp : w.pending = some p) : w.active = true := by
  by_contra hactive
  exact absurd (hp.symm.trans (hw.login (Bool.eq_false_iff.mpr hactive)).2) nofun

/-- A server is found for the packet that waits. -/
theorem Sound.found {loginUser : Bytes} {requestTime : Usec} {varchange : Bool} (hw : Sound cfg w)
    (h : w.step cfg (.link server loginUser requestTime varchange) = some w') :
    Sound cfg w' := by
  simp only [World.step] at h
  split at h
  · exact nomatch h
  rename_i p hp
  obtain ⟨hxact, hclose⟩ := hw.waiting p hp
  split at h
  · exact nomatch h
  rename_i hidle
  simp only [Bool.or_eq_true, Bool.not_eq_true', not_or, Bool.not_eq_false] at hidle
  obtain ⟨_, hidleTx, hvars, hempty⟩ := isIdle_iff.mp hidle.2
  split at h
  · obtain rfl := Option.some.inj h
    refine hw.setLink ⟨fun _ => nofun, fun _ => nofun, ?_, ?_, ?_, ?_⟩
    · simp [World.setLink, hp]
    · exact fun _ hnone => absurd hnone (Option.isSome_iff_ne_none.mp hxact)
    · exact fun h => absurd (hidleTx.symm.trans h) nofun
    · exact fun _ => hempty ▸ heard_nil
  · exact Sound.work h hw.ledger.link (hw.active_of_pending hp) rfl hvars hxact
      (hempty ▸ heard_nil) hclose

/-- The packet that waits goes on its way. -/
theorem Sound.varsSet (hw : Sound cfg w) (h : w.step cfg .varsSet = some w') : Sound cfg w' := by
  simp only [World.step] at h
  split at h
  · exact nomatch h
  rename_i p hp
  obtain ⟨hxact, hclose⟩ := hw.waiting p hp
  have hactive := hw.active_of_pending hp
  simp only [Option.ite_none_right_eq_some, Bool.and_eq_true] at h
  obtain ⟨⟨⟨hlinked, _⟩, _⟩, hwork⟩ := h
  exact Sound.work hwork hw.ledger hactive hlinked rfl hxact
    ((hw.standing hlinked).heard hactive) hclose

/-- **Every step in order keeps the invariant.** -/
theorem Sound.step {cfg : Config} {w w' : World} {e : Event} (hw : Sound cfg w)
    (hcond : Orderly cfg w e) (h : w.step cfg e = some w') : Sound cfg w' := by
  cases e with
  | time now =>
    obtain rfl := Option.some.inj h
    refine ⟨hw.ledger.time hcond, hw.login, hw.waiting, hw.apart, fun hl => ?_⟩
    have hs := hw.standing hl
    refine { hs with idleTx := fun hidle => ?_ }
    obtain ⟨t, ht, hle, hnow⟩ := hs.idleTx hidle
    exact ⟨t, ht, hle, UInt64.le_trans hnow hcond⟩
  | reload settings =>
    obtain rfl := Option.some.inj h
    refine { hw with standing := fun hl => ?_ }
    have hs := hw.standing hl
    exact { hs with untimed := hcond hl }
  | others stmts =>
    obtain rfl := Option.some.inj h
    refine { hw with standing := fun hl => ?_ }
    exact (hw.standing hl).queues ⟨rfl, rfl, rfl, id⟩
  | startAuthQuery server loginUser requestTime =>
    simp only [World.step, Option.ite_none_right_eq_some, Option.some.injEq,
      Bool.and_eq_true, Bool.not_eq_true'] at h
    obtain ⟨⟨⟨hactive, _⟩, hidle⟩, rfl⟩ := h
    obtain ⟨_, hidleTx, hvars, _⟩ := isIdle_iff.mp hidle
    have hlogin : ∀ {a : Prop}, w.active → a := fun h => absurd (hactive.symm.trans h) nofun
    refine hw.setLink ⟨hlogin, hlogin, ?_, fun _ _ => hcond, ?_, hlogin⟩
    · rw [addOutstandingRequest_skip]
      exact hvars.trans (by simp [World.setLink, (hw.login hactive).2])
    · rw [addOutstandingRequest_skip]
      exact fun h => absurd (hidleTx.symm.trans h) nofun
  | loginDone =>
    simp only [World.step, Option.ite_none_right_eq_some, Option.some.injEq,
      Bool.and_eq_true, Bool.or_eq_true, Bool.not_eq_true', List.isEmpty_iff] at h
    obtain ⟨⟨hactive, hready⟩, rfl⟩ := h
    obtain ⟨hxact, hpending⟩ := hw.login hactive
    refine { hw with login := nofun, standing := fun hl => ?_ }
    have hs := hw.standing hl
    have hempty := (hready.resolve_left fun hfalse => absurd (hl.symm.trans hfalse) nofun).2
    refine ⟨fun _ _ _ => hxact, fun _ _ _ => hw.ledger.within hxact, hs.setting, hs.untimed,
      hs.idleTx, fun _ => ?_⟩
    dsimp only
    rw [hempty]
    exact heard_nil
  | replication server loginUser requestTime =>
    simp only [World.step, Option.ite_none_right_eq_some, Option.some.injEq,
      Bool.and_eq_true, Bool.not_eq_true', Option.isNone_iff_eq_none] at h
    obtain ⟨⟨⟨⟨_, hunlinked⟩, hpending⟩, hidle⟩, rfl⟩ := h
    obtain ⟨hready, hidleTx, hvars, hempty⟩ := isIdle_iff.mp hidle
    have hxact := hw.apart hunlinked hpending
    refine hw.setLink ⟨fun _ _ _ => hxact, fun _ _ _ => hw.ledger.within hxact, ?_, ?_, ?_, ?_⟩
    · exact hvars.trans (by simp [World.setLink, hpending])
    · exact fun h => absurd (hready.symm.trans h) nofun
    · exact fun h => absurd (hidleTx.symm.trans h) nofun
    · exact fun _ => hempty ▸ heard_nil
  | packet p => exact hw.packet hcond h
  | link server loginUser requestTime varchange => exact hw.found h
  | varsSet => exact hw.varsSet h
  | arriving =>
    simp only [World.step, Option.ite_none_right_eq_some, Option.some.injEq] at h
    obtain ⟨_, rfl⟩ := h
    refine { hw with standing := fun hl => ?_ }
    have hs := hw.standing hl
    refine { hs with idleTx := fun hidle => ?_ }
    obtain ⟨t, ht, hle, hnow⟩ := hs.idleTx hidle
    exact ⟨t, ht, UInt64.le_trans hle hnow, UInt64.le_refl _⟩
  | reply m answered =>
    change w.reply cfg m answered = some w' at h
    unfold World.reply at h
    split at h
    · exact nomatch h
    rename_i hlinked
    rw [Bool.not_eq_true', Bool.not_eq_false] at hlinked
    split at h
    · exact hw.workReply hlinked ‹_› hcond h
    · exact hw.authQueryReply hlinked (Bool.eq_false_iff.mpr ‹_›) hcond h
  | release =>
    simp only [World.step, Option.ite_none_right_eq_some, Option.some.injEq, World.releases,
      Bool.and_eq_true, Bool.not_eq_true'] at h
    obtain ⟨⟨⟨⟨⟨⟨hlinked, hready⟩, hvars⟩, _⟩, _⟩, _⟩, rfl⟩ := h
    refine { hw with apart := fun _ _ => ?_, standing := nofun }
    by_cases hactive : w.active = true
    · exact (hw.standing hlinked).ready hactive hvars hready
    · exact (hw.login (Bool.eq_false_iff.mpr hactive)).1

/-- A difference of times that does not wrap around. -/
theorem overdue_of_lt_sub {since limit : Usec} (hle : since ≤ now) (h : limit < now - since) :
    Overdue since limit now := by
  rw [UInt64.lt_iff_toNat_lt, UInt64.toNat_sub_of_le now since hle] at h
  have hle' := UInt64.le_iff_toNat_le.mp hle
  unfold Overdue
  omega

/-- What the janitor closes over in a state that is sound is true. -/
theorem Sound.deserved (hw : Sound cfg w) {reason : ServerReason} (h : w.closes = some reason) :
    w.Deserved reason := by
  unfold World.closes at h
  simp only [Option.ite_none_right_eq_some, Bool.and_eq_true] at h
  obtain ⟨⟨hlinked, _⟩, h⟩ := h
  have hs := hw.standing hlinked
  have hledger := hw.ledger
  unfold Maintenance.World.serverVerdict at h
  split at h
  · exact nomatch h
  rename_i hready
  have hready' : w.link.server.ready = false := Bool.eq_false_iff.mpr hready
  dsimp only at h
  split at h
  · rename_i hquery
    obtain rfl := Option.some.inj h
    simp only [Bool.and_eq_true, decide_eq_true_eq] at hquery
    obtain ⟨⟨_, hpos⟩, hlate⟩ := hquery
    unfold Maintenance.Client.queryAge at hlate hpos
    split at hlate
    · rename_i hstart
      have hmem : w.queryStart ∈ w.dialogue.unanswered := hledger.queryStart_mem hstart
      exact ⟨_, hmem, overdue_of_lt_sub (hledger.asked _ hmem).2 hlate⟩
    · rename_i hzero
      rw [if_neg hzero] at hpos
      exact absurd hpos (UInt64.lt_irrefl 0)
  split at h
  · rename_i hidle
    obtain rfl := Option.some.inj h
    simp only [Bool.and_eq_true, decide_eq_true_eq] at hidle
    obtain ⟨⟨_, hidleTx⟩, hlate⟩ := hidle
    obtain ⟨t, ht, hle, hnow⟩ := hs.idleTx hidleTx
    have hover := overdue_of_lt_sub hnow hlate
    refine ⟨t, ht, ?_⟩
    have hle' := UInt64.le_iff_toNat_le.mp hle
    unfold Overdue at hover ⊢
    omega
  split at h
  · rename_i hxact
    obtain rfl := Option.some.inj h
    simp only [Bool.and_eq_true, decide_eq_true_eq] at hxact
    obtain ⟨hpos, hlate⟩ := hxact
    cases hsince : w.dialogue.xactSince with
    | none =>
      have huntimed : w.settings.effectiveTransactionTimeout w.serverSocket = 0 :=
        hs.untimed hready' hsince
      rw [huntimed] at hpos
      exact absurd hpos (UInt64.lt_irrefl 0)
    | some t =>
      have hstart : w.xactStart = t := by rw [hledger.xact, hsince, Option.getD_some]
      exact ⟨t, hsince, overdue_of_lt_sub (hledger.opened t hsince).2 (hstart ▸ hlate)⟩
  · exact nomatch h

/-- **The timeouts hit nobody innocent**, in no run whose events come in order: what the
janitor closes a server for is true of the server and the client it is linked to. -/
theorem World.timeouts_deserved {cfg : Config} {w : World} {es : List Event}
    (hmeets : Run.Meets (World.step cfg) (Orderly cfg) {} es) (hrun : World.run cfg es = some w)
    (reason : ServerReason) (h : w.closes = some reason) : w.Deserved reason := by
  have hinit : Sound cfg {} := ⟨.init, fun _ => ⟨rfl, rfl⟩, nofun, fun _ _ => rfl, nofun⟩
  exact (Run.invariant (fun hw hc hs => hw.step hc hs) hmeets hrun hinit).deserved h

instance decidableReady (m : ServerMsg) : Decidable (∃ state, m = .readyForQuery state) :=
  decidable_of_iff (m = .readyForQuery .idle ∨ m = .readyForQuery .inTransaction ∨
    m = .readyForQuery .failed) <| by
    constructor
    · rintro (h | h | h) <;> exact ⟨_, h⟩
    · rintro ⟨_ | _ | _, h⟩ <;> simp [h]

instance (w : World) (m : ServerMsg) (answered : Nat) : Decidable (w.OrderlyReply m answered) := by
  unfold World.OrderlyReply
  infer_instance

instance decidableOrderly (cfg : Config) (w : World) : ∀ e, Decidable (Orderly cfg w e) := by
  intro e
  cases e <;> (unfold Orderly; infer_instance)

/-- Timeouts for everybody: five seconds in a transaction for a server that is idle, ten
for a query, and twenty for a transaction. -/
def timeouts : Maintenance.World :=
  { cf :=
      { idleTransactionTimeout := 5000000
        queryTimeout := 10000000
        transactionTimeout := 20000000 } }

/-- A client logs in, begins a transaction, and goes away from the keyboard. -/
def forgotten : List Event :=
  [.time 1000000000, .reload timeouts, .loginDone, .packet .query, .link {} [97] 999000000 false,
    .reply (.commandComplete .other) 0, .reply (.readyForQuery .inTransaction) 1,
    .time 1006000000]

theorem timeouts_deserved_forgotten :
    ∃ w, World.run { maxPreparedStatements := 0 } forgotten = some w ∧
      w.closes = some .idleTransactionTimeout ∧ w.Deserved .idleTransactionTimeout := by
  have hcloses : (World.run { maxPreparedStatements := 0 } forgotten).bind World.closes =
      some .idleTransactionTimeout := by decide
  obtain ⟨w, hrun, hw⟩ := Option.bind_eq_some_iff.mp hcloses
  exact ⟨w, hrun, hw, World.timeouts_deserved (by decide) hrun _ hw⟩

/-- The query for the password of a client has just been sent. -/
def authQueryLogin : List Event :=
  [.time 1000000000, .reload timeouts, .startAuthQuery {} [97] 999000000]

/-- A session that is idle is told that the settings of its server have changed. -/
def changedSettings : List Event :=
  [.time 1000000000, .reload timeouts, .loginDone, .packet .query, .link {} [97] 999000000 false,
    .reply (.commandComplete .other) 0, .reply (.readyForQuery .idle) 1, .time 1001000000,
    .reply .parameterStatus 0]

/-- The first of two queries sent at once has begun a transaction, and the second takes
six seconds. -/
def pipelined : List Event :=
  [.time 1000000000, .reload timeouts, .loginDone, .packet .query, .link {} [97] 999000000 false,
    .packet .query, .reply (.commandComplete .other) 0, .reply (.readyForQuery .inTransaction) 1,
    .time 1006000000]

/-- The client sends a Flush that has nothing to flush. -/
def strayFlush : List Event :=
  [.time 1000000000, .reload timeouts, .loginDone, .packet .flush, .link {} [97] 999000000 false,
    .time 1011000000]

/-- The clock is set back by a second while a query runs. -/
def clockSetBack : List Event :=
  [.time 1000000000, .reload timeouts, .loginDone, .packet .query, .link {} [97] 999000000 false,
    .time 999000000]

/-- Runs after which the janitor closes a server, and the reason it gives. -/
def mishaps : List (List Event × ServerReason) :=
  [(authQueryLogin, .transactionTimeout), (changedSettings, .transactionTimeout),
    (pipelined, .idleTransactionTimeout), (strayFlush, .queryTimeout),
    (clockSetBack, .queryTimeout)]

instance (w : World) : ∀ reason, Decidable (w.Deserved reason)
  | .queryTimeout => by unfold World.Deserved; infer_instance
  | .idleTransactionTimeout => by unfold World.Deserved; infer_instance
  | .transactionTimeout => by unfold World.Deserved; infer_instance
  | .connectTimeout => isFalse id

theorem innocent_sessions_hit :
    mishaps.all fun x =>
      (World.run { maxPreparedStatements := 0, poolMode := .session } x.1).any fun w =>
        w.closes = some x.2 ∧ ¬ w.Deserved x.2 := by
  decide

end PgBouncer.Timeouts
