/-
Whether a packet that is handled in several runs counts once.

Most of what `handle_client_work` does before it can still return false is harmless
to repeat: the inspection changes nothing, the start of a query is counted behind a
flag, a server is assigned once.  Two things are not.  `client_bytes` is counted as
soon as there is a server, in front of the flush that a packet of `prepare.c` needs,
so a run that is stopped there has counted a packet it did not take.  And a Close is
taken out of the stream before its answer is written, so an answer the client's
socket does not take is lost together with the count.  `retried_once_iff` says that
there is nothing else: the runs come to the effect of one undisturbed run exactly if
none of them is stopped at these points.

The proof follows the state one undisturbed run would reach from where the packet
is.  Every run that comes again leaves that state as it is or makes it heavier, where
the weight is what was counted and written so far.
-/
import Mathlib.Data.List.Nodup
import PgBouncer.Retry

namespace PgBouncer.Retry

variable {e : Setup} {pk : Packet} {s s' : State} {t : Turn}

/-! ### The two points -/

/-- The run gets to a packet of `prepare.c` with a server, but the bytes in front of
the packet are not flushed, or it is a Describe whose end has not come in. -/
def stopsCounted (e : Setup) (pk : Packet) (s : State) (t : Turn) : Bool :=
  (inspect e.cfg pk.pkt (pk.seen s t) = .handle && pk.pkt.type ≠ .close ||
    inspect e.cfg pk.pkt (pk.seen s t) = .handleFullPacket && pk.len ≤ pk.seen s t) &&
  !e.admin && (s.linked || t.server = .found) &&
  (!(s.callback || t.flushed) || pk.pkt.type = .describe && pk.seen s t < pk.len)

/-- The run answers a Close itself, and the client's socket does not take the whole
answer; of a Close that was fetched, which is handled again, it takes a part. -/
def answerCut (e : Setup) (pk : Packet) (s : State) (t : Turn) : Bool :=
  inspect e.cfg pk.pkt (pk.seen s t) = .handle && pk.pkt.type = .close &&
  pk.len ≤ pk.seen s t && answersDirectly s &&
  t.written < 5 && (!s.callback || 0 < t.written)

/-- A run that is not stopped at either point. -/
structure Calm (e : Setup) (pk : Packet) (s : State) (t : Turn) : Prop where
  not_counted : stopsCounted e pk s t = false
  not_cut : answerCut e pk s t = false

instance : Decidable (Calm e pk s t) :=
  decidable_of_iff (stopsCounted e pk s t = false ∧ answerCut e pk s t = false)
    ⟨fun h => ⟨h.1, h.2⟩, fun h => ⟨h.not_counted, h.not_cut⟩⟩

/-! ### What a run that comes again has done -/

/-- The packet is a Close that names a statement. -/
def NamedClose (e : Setup) (pk : Packet) : Prop :=
  inspect e.cfg pk.pkt pk.len = .handle ∧ pk.pkt.type = .close

/-- The ways a run can come again, with what it leaves. -/
inductive Again (e : Setup) (pk : Packet) (s : State) (t : Turn) : State → Prop
  /-- The packet is not all there. -/
  | rest (hc : Calm e pk s t) : Again e pk s t s
  | fetched (hc : Calm e pk s t) : Again e pk s t { s with callback := true }
  | noServer (hc : Calm e pk s t) (hp : ¬ NamedClose e pk) : Again e pk s t (countStart s)
  | settingVars (hc : Calm e pk s t) (hp : ¬ NamedClose e pk) (ha : e.admin = false) :
      Again e pk s t (assign (countStart s))
  | counted (h : stopsCounted e pk s t = true) (hp : ¬ NamedClose e pk) (ha : e.admin = false) :
      Again e pk s t (countBytes pk (assign (countStart s)))
  | answer (name : Bytes) (hp : pk.pkt = .close .statement name) (hc : NamedClose e pk)
      (hd : answersDirectly s = true) (hst : stopsCounted e pk s t = false)
      (hcut : answerCut e pk s t = decide (0 < t.written)) (hw : t.written < 5) :
      Again e pk s t (writeDirectly (forget s name) (closeComplete.take t.written))

theorem seen_le (pk : Packet) (s : State) (t : Turn) : pk.seen s t ≤ pk.len := by
  unfold Packet.seen
  split
  · exact Nat.le_refl _
  · exact Nat.min_le_right _ _

theorem seen_clear (pk : Packet) (s : State) : pk.seen s (Turn.clear pk) = pk.len := by
  simp [Packet.seen, Turn.clear]

variable {p : Pkt Bytes} {n : Nat} {name : Bytes} {s₁ : State}

/-- Only a Close, Describe or Bind is handled without being complete. -/
theorem close_of_handle {cfg : Config} (h : inspect cfg p n = .handle) (hp : p.type = .close) :
    ∃ name, p = .close .statement name := by
  cases p with
  | close target name =>
    cases target with
    | statement => exact ⟨name, rfl⟩
    | portal =>
      simp only [inspect, inspectedBytes, psAction] at h
      split_ifs at h <;> simp_all
  | _ => exact nomatch hp

/-- An inspection that succeeds is not changed by more bytes. -/
theorem inspect_mono {cfg : Config} {m : Nat} (hnm : n ≤ m) (h : inspect cfg p n ≠ .inspectFailed) :
    inspect cfg p m = inspect cfg p n := by
  unfold inspect at h ⊢
  cases hb : inspectedBytes p with
  | none => rfl
  | some k =>
    rw [hb] at h
    dsimp only at h ⊢
    by_cases hk : n < k
    · by_cases hps : (!cfg.isPreparedStatementsEnabled) = true
      · rw [if_pos hps, if_pos hps]
      · rw [if_neg hps, if_pos hk] at h
        exact absurd rfl h
    · have hm : ¬ m < k := by omega
      simp only [if_neg hk, if_neg hm]

theorem inspect_len_ne_failed {a : PreparedStatementAction}
    (hi : inspect e.cfg pk.pkt (pk.seen s t) = a) (hf : a ≠ .inspectFailed) :
    inspect e.cfg pk.pkt pk.len ≠ .inspectFailed := by
  rw [inspect_mono (seen_le pk s t) (hi.trans_ne hf), hi]
  exact hf

theorem not_namedClose {a : PreparedStatementAction}
    (hi : inspect e.cfg pk.pkt (pk.seen s t) = a) (hf : a ≠ .inspectFailed) (ha : a ≠ .handle) :
    ¬ NamedClose e pk := by
  intro hc
  have := inspect_mono (seen_le pk s t) (hi.trans_ne hf)
  exact ha (hi.symm.trans (this.symm.trans hc.1))

/-- The ways through the first half of `handle_client_work`. -/
inductive Route (e : Setup) (pk : Packet) (s : State) (t : Turn) : State × Outcome → Prop
  | refused {d : Disconnect} : Route e pk s t (s, .disconnected d)
  | late (hr : refused e.cfg pk.pkt = none) (hl : lateCopy s pk.pkt = true) :
      Route e pk s t ({ s with callback := false }, .consumed)
  | failed {d : Disconnect} : Route e pk s t (s, .disconnected d)
  | wait {fetch : Bool} (hr : refused e.cfg pk.pkt = none) (hl : lateCopy s pk.pkt = false)
      (hc : Calm e pk s t) : Route e pk s t (waitForRest s fetch)
  | close {name : Bytes} (hr : refused e.cfg pk.pkt = none) (hl : lateCopy s pk.pkt = false)
      (hp : pk.pkt = .close .statement name) (hc : NamedClose e pk)
      (hi : inspect e.cfg pk.pkt (pk.seen s t) = .handle) (hn : pk.len ≤ pk.seen s t) :
      Route e pk s t (closeNamed pk name s t)
  | serve {statement : Bool} (hr : refused e.cfg pk.pkt = none) (hl : lateCopy s pk.pkt = false)
      (hf : inspect e.cfg pk.pkt pk.len ≠ .inspectFailed) (hp : ¬ NamedClose e pk)
      (hst : statement = true → stopsCounted e pk s t =
        (!e.admin && (s.linked || t.server = .found) &&
          (!(s.callback || t.flushed) || pk.pkt.type = .describe && pk.seen s t < pk.len)))
      (hno : statement = false → stopsCounted e pk s t = false)
      (hcut : answerCut e pk s t = false) :
      Route e pk s t (serve e pk statement s t (pk.seen s t))

/-- Every run takes one of the ways. -/
theorem route (e : Setup) (pk : Packet) (s : State) (t : Turn) :
    Route e pk s t (attempt e pk s t) := by
  unfold attempt
  cases hr : refused e.cfg pk.pkt with
  | some d => exact .refused
  | none =>
    dsimp only
    by_cases hl : lateCopy s pk.pkt = true
    · rw [if_pos hl]
      exact .late hr hl
    rw [if_neg hl]
    have hl : lateCopy s pk.pkt = false := Bool.eq_false_iff.mpr hl
    cases hi : inspect e.cfg pk.pkt (pk.seen s t) with
    | inspectFailed =>
      dsimp only
      split
      · exact .failed
      · exact .wait hr hl ⟨by simp [stopsCounted, hi], by simp [answerCut, hi]⟩
    | ignore =>
      exact .serve hr hl (inspect_len_ne_failed hi nofun) (not_namedClose hi nofun nofun)
        nofun (fun _ => by simp [stopsCounted, hi]) (by simp [answerCut, hi])
    | handleFullPacket =>
      dsimp only
      by_cases hn : pk.seen s t < pk.len
      · rw [if_pos hn]
        exact .wait hr hl
          ⟨by simp [stopsCounted, hi, Nat.not_le.mpr hn], by simp [answerCut, hi]⟩
      · rw [if_neg hn]
        exact .serve hr hl (inspect_len_ne_failed hi nofun) (not_namedClose hi nofun nofun)
          (fun _ => by simp [stopsCounted, hi, Nat.not_lt.mp hn]) nofun
          (by simp [answerCut, hi])
    | handle =>
      dsimp only
      by_cases hty : pk.pkt.type = .close
      · obtain ⟨name, hp⟩ := close_of_handle hi hty
        rw [hp]
        dsimp only
        by_cases hn : pk.seen s t < pk.len
        · rw [if_pos hn]
          have hwait : Route e pk s t (waitForRest s false) :=
            .wait hr hl ⟨by simp [stopsCounted, hi, hty], by
              simp [answerCut, hi, Nat.not_le.mpr hn]⟩
          exact hwait
        · rw [if_neg hn]
          have hlen := Nat.le_antisymm (seen_le pk s t) (Nat.not_lt.mp hn)
          exact .close hr hl hp ⟨hlen ▸ hi, hty⟩ hi (Nat.not_lt.mp hn)
      · have hserve : Route e pk s t (serve e pk true s t (pk.seen s t)) :=
          .serve hr hl (inspect_len_ne_failed hi nofun) (fun hc => hty hc.2)
            (fun _ => by simp [stopsCounted, hi, hty]) nofun (by simp [answerCut, hty])
        cases hp : pk.pkt <;> first | exact hserve | exact absurd (hp ▸ rfl) hty

theorem waitForRest_again {fetch : Bool} (hc : Calm e pk s t)
    (h : waitForRest s fetch = (s', .again)) : Again e pk s t s' := by
  obtain ⟨rfl, -⟩ := Prod.mk.inj h
  cases fetch with
  | true => exact .fetched hc
  | false => exact .rest hc

theorem deliver_ne_again : deliver e pk s ≠ (s', .again) := by
  unfold deliver
  split <;> exact fun h => nomatch (Prod.mk.inj h).2

theorem adminHandleClient_ne_again : adminHandleClient e pk s n ≠ (s', .again) := by
  unfold adminHandleClient
  split_ifs
  · exact fun h => nomatch (Prod.mk.inj h).2
  · split <;> exact fun h => nomatch (Prod.mk.inj h).2
  · exact fun h => nomatch (Prod.mk.inj h).2

/-- A packet that needs a server comes again for want of one, or behind the count. -/
theorem serve_again (statement : Bool) (hp : ¬ NamedClose e pk)
    (hs : statement = true → stopsCounted e pk s t =
      (!e.admin && (s.linked || t.server = .found) &&
        (!(s.callback || t.flushed) || pk.pkt.type = .describe && pk.seen s t < pk.len)))
    (hi : statement = false → stopsCounted e pk s t = false)
    (hcut : answerCut e pk s t = false)
    (h : serve e pk statement s t (pk.seen s t) = (s', .again)) : Again e pk s t s' := by
  unfold serve at h
  by_cases ha : e.admin = true
  · rw [if_pos ha] at h
    exact absurd h adminHandleClient_ne_again
  have ha : e.admin = false := Bool.eq_false_iff.mpr ha
  rw [if_neg (by simp [ha])] at h
  by_cases hl : (!(countStart s).linked && decide (t.server ≠ .found)) = true
  · -- no server yet
    rw [if_pos hl] at h
    obtain ⟨hlink, hfound⟩ : s.linked = false ∧ t.server ≠ .found := by
      simpa [countStart] using hl
    have hc : Calm e pk s t := by
      refine ⟨?_, hcut⟩
      cases statement with
      | false => exact hi rfl
      | true => rw [hs rfl]; simp [hlink, hfound]
    obtain ⟨rfl, -⟩ := Prod.mk.inj h
    by_cases hv : t.server = .settingVars
    · rw [if_pos hv]
      exact .settingVars hc hp ha
    · rw [if_neg hv]
      exact .noServer hc hp
  · rw [if_neg hl] at h
    have hserver : (s.linked || decide (t.server = .found)) = true := by
      cases hlink : s.linked <;> simp_all [countStart]
    dsimp only at h
    split_ifs at h with h1 h2
    · obtain ⟨rfl, -⟩ := Prod.mk.inj h
      obtain ⟨hst, hf⟩ := Bool.and_eq_true_iff.mp h1
      refine .counted ?_ hp ha
      have hf : (!(s.callback || t.flushed)) = true := hf
      rw [hs hst, ha, hserver, hf]
      rfl
    · obtain ⟨rfl, -⟩ := Prod.mk.inj h
      obtain ⟨hst, hd, hn⟩ : statement = true ∧ pk.pkt.type = .describe ∧
          pk.seen s t < pk.len := by simpa [and_assoc] using h2
      refine .counted ?_ hp ha
      rw [hs hst, ha, hserver]
      simp [hd, hn]
    · exact absurd h deliver_ne_again

/-- A Close that comes again was fetched, and its answer not taken. -/
theorem closeNamed_again (hp : pk.pkt = .close .statement name)
    (hi : inspect e.cfg pk.pkt (pk.seen s t) = .handle) (hn : pk.len ≤ pk.seen s t)
    (h : closeNamed pk name s t = (s', .again)) : Again e pk s t s' := by
  unfold closeNamed at h
  dsimp only at h
  by_cases hd : answersDirectly (forget s name) = true
  · rw [if_pos hd] at h
    by_cases hw : t.written < closeComplete.length
    · rw [if_pos hw] at h
      obtain ⟨rfl, hout⟩ := Prod.mk.inj h
      have hcb : s.callback = true := by
        by_contra hcb
        have hout : (if s.callback = true then Outcome.again else .skipped) = .again := hout
        rw [if_neg hcb] at hout
        exact nomatch hout
      have hd : answersDirectly s = true := hd
      have hw' : t.written < 5 := hw
      have hty : pk.pkt.type = .close := by rw [hp]; rfl
      have hlen : pk.seen s t = pk.len := Nat.le_antisymm (seen_le pk s t) hn
      refine .answer name hp ⟨hlen ▸ hi, hty⟩ hd (by simp [stopsCounted, hi, hty]) ?_ hw'
      simp [answerCut, hi, hty, hn, hd, hw', hcb]
    · rw [if_neg hw] at h
      exact nomatch (Prod.mk.inj h).2
  · rw [if_neg hd] at h
    exact nomatch (Prod.mk.inj h).2

/-- **What a run that comes again has done.** -/
theorem attempt_again (h : attempt e pk s t = (s', .again)) :
    refused e.cfg pk.pkt = none ∧ lateCopy s pk.pkt = false ∧ Again e pk s t s' := by
  have hroute := route e pk s t
  rw [h] at hroute
  generalize hout : (s', Outcome.again) = r at hroute
  cases hroute with
  | refused | late | failed => exact nomatch (Prod.mk.inj hout).2
  | wait hr hl hc => exact ⟨hr, hl, waitForRest_again hc hout.symm⟩
  | close hr hl hp hc hi hn => exact ⟨hr, hl, closeNamed_again hp hi hn hout.symm⟩
  | serve hr hl hf hp hst hno hcut => exact ⟨hr, hl, serve_again _ hp hst hno hcut hout.symm⟩

/-! ### Undisturbed runs -/

/-- What is left to do for a packet that needs a server, if nothing is in the way. -/
def finish (e : Setup) (pk : Packet) (s : State) : State × Outcome :=
  if e.admin then adminHandleClient e pk (countStart s) pk.len
  else deliver e pk (countBytes pk (assign (countStart s)))

theorem serve_clear (statement : Bool) :
    serve e pk statement s (Turn.clear pk) pk.len = finish e pk s := by
  simp [serve, finish, Turn.clear]

/-- Packets that are dropped are not inspected. -/
theorem inspect_ignore_of_lateCopy (cfg : Config) (n : Nat) (h : lateCopy s p = true) :
    inspect cfg p n = .ignore := by
  cases p <;> first | rfl | simp [lateCopy, Pkt.type] at h

section Clear

variable (hr : refused e.cfg pk.pkt = none) (hl : lateCopy s pk.pkt = false)
include hr hl

theorem attempt_clear_serve (hf : inspect e.cfg pk.pkt pk.len ≠ .inspectFailed)
    (hp : ¬ NamedClose e pk) : attempt e pk s (Turn.clear pk) = finish e pk s := by
  unfold attempt
  simp only [hr, hl, seen_clear, Bool.false_eq_true, if_false]
  cases hi : inspect e.cfg pk.pkt pk.len with
  | inspectFailed => exact absurd hi hf
  | ignore => exact serve_clear false
  | handleFullPacket => simp only [Nat.lt_irrefl, if_false]; exact serve_clear true
  | handle =>
    have hty : pk.pkt.type ≠ .close := fun hty => hp ⟨hi, hty⟩
    cases hpk : pk.pkt <;> first | exact serve_clear true | exact absurd (hpk ▸ rfl) hty

theorem attempt_clear_close (hp : pk.pkt = .close .statement name) (hc : NamedClose e pk) :
    attempt e pk s (Turn.clear pk) = closeNamed pk name s (Turn.clear pk) := by
  unfold attempt
  simp only [hr, hl, seen_clear, hc.1, Bool.false_eq_true, if_false]
  rw [hp]
  simp

theorem attempt_clear_failed (hf : inspect e.cfg pk.pkt pk.len = .inspectFailed) :
    attempt e pk s (Turn.clear pk) = (s, .disconnected (.client "failed to parse packet")) := by
  unfold attempt
  simp only [hr, hl, seen_clear, hf, Bool.false_eq_true, if_false, Nat.le_refl, if_true]

end Clear

theorem countStart_idem : countStart (countStart s) = countStart s := by
  simp [countStart]

theorem countStart_assign : countStart (assign s) = assign (countStart s) := rfl

theorem assign_idem : assign (assign s) = assign s := by
  simp [assign]

theorem countStart_countBytes : countStart (countBytes pk s) = countBytes pk (countStart s) := rfl

theorem assign_countBytes : assign (countBytes pk s) = countBytes pk (assign s) := rfl

theorem deliver_consumed_iff : deliver e pk s = (s', .consumed) ↔
    (handleClientWork e.cfg s.link pk.pkt).2 = none ∧
      s' = { s with
        link := (handleClientWork e.cfg s.link pk.pkt).1
        stats := countStatement e.cfg s.link pk.pkt s.stats
        callback := false } := by
  unfold deliver
  cases hw : handleClientWork e.cfg s.link pk.pkt with
  | mk l d =>
    cases d with
    | none => simp [eq_comm]
    | some d => simp

theorem adminHandleClient_consumed_iff :
    adminHandleClient e pk s n = (s', .consumed) ↔
      pk.len ≤ n ∧ pk.pkt.type = .query ∧ ∃ answer, e.console = some answer ∧
        s' = { s with sent := s.sent ++ answer, callback := false } := by
  unfold adminHandleClient
  by_cases hn : n < pk.len
  · simp [hn, Nat.not_le.mpr hn]
  · by_cases hq : pk.pkt.type = .query
    · cases hc : e.console with
      | none => simp [hn, hq]
      | some answer => simp [hn, hq, Nat.not_lt.mp hn, eq_comm]
    · simp [hn, hq]

/-- Whether the packet was fetched makes no difference to a run that takes it. -/
theorem finish_fetched (h : finish e pk { s with callback := true } = (s', .consumed)) :
    finish e pk s = (s', .consumed) := by
  unfold finish at h ⊢
  by_cases ha : e.admin = true
  · rw [if_pos ha] at h ⊢
    rw [adminHandleClient_consumed_iff] at h ⊢
    exact h
  · rw [if_neg ha] at h ⊢
    rw [deliver_consumed_iff] at h ⊢
    exact h

/-! ### Weight -/

/-- What was counted and written so far. -/
def weight (s : State) : Nat :=
  s.stats.clientBytes + s.sent.length

theorem countStatement_clientBytes (cfg : Config) (l : Link) (p : Pkt Bytes) (stats : PgStats) :
    (countStatement cfg l p stats).clientBytes = stats.clientBytes := by
  unfold countStatement
  split
  · rfl
  · split
    · split <;> rfl
    all_goals rfl

theorem weight_deliver (h : deliver e pk s = (s', .consumed)) : weight s' = weight s := by
  obtain ⟨-, rfl⟩ := deliver_consumed_iff.mp h
  simp [weight, countStatement_clientBytes]

theorem weight_countBytes (pk : Packet) (s : State) :
    weight (countBytes pk s) = weight s + pk.len := by
  simp only [weight, countBytes]
  omega

/-- A second count makes the state a packet is taken in heavier, and changes nothing
else. -/
theorem deliver_counted_twice {s₂ : State}
    (h : deliver e pk (countBytes pk (countBytes pk s)) = (s₂, .consumed)) :
    ∃ s₃, deliver e pk (countBytes pk s) = (s₃, .consumed) ∧ weight s₃ < weight s₂ := by
  obtain ⟨hw, -⟩ := deliver_consumed_iff.mp h
  have h₃ := deliver_consumed_iff.mpr ⟨(show (handleClientWork e.cfg
    (countBytes pk s).link pk.pkt).2 = none from hw), rfl⟩
  refine ⟨_, h₃, ?_⟩
  rw [weight_deliver h₃, weight_deliver h, weight_countBytes pk (countBytes pk s)]
  have := pk.header_le
  omega

/-! ### Closing twice -/

/-- The client's map holds each name once. -/
def UniqueNames (s : State) : Prop :=
  (s.link.client.clientPreparedStatements.map (·.stmtName)).Nodup

theorem find?_forgetStatement {c : Client} (g : Statements) (name : Bytes)
    (hc : (c.clientPreparedStatements.map (·.stmtName)).Nodup) :
    (forgetStatement c g name).1.find? name = none := by
  unfold forgetStatement
  cases hf : c.find? name with
  | none => exact hf
  | some entry =>
    dsimp only [Client.find?] at hf ⊢
    have hmem := List.mem_of_find?_eq_some hf
    have hname : entry.stmtName = name := by simpa using List.find?_some hf
    rw [List.find?_eq_none]
    intro x hx hxname
    have hxname : x.stmtName = name := by simpa using hxname
    have hsame : x = entry :=
      List.inj_on_of_nodup_map hc (List.mem_of_mem_erase hx) hmem (hxname.trans hname.symm)
    rw [hsame] at hx
    exact (List.Nodup.of_map _ hc).not_mem_erase hx

theorem forgetStatement_of_none {c : Client} {g : Statements} (h : c.find? name = none) :
    forgetStatement c g name = (c, g) := by
  unfold forgetStatement
  rw [h]

theorem forget_idem (name : Bytes) (hs : UniqueNames s) :
    forget (forget s name) name = forget s name := by
  have h := forgetStatement_of_none (g := (forgetStatement s.link.client s.link.stmts name).2)
    (find?_forgetStatement s.link.stmts name hs)
  simp only [forget, h]

theorem forget_writeDirectly (name answer : Bytes) :
    forget (writeDirectly s answer) name = writeDirectly (forget s name) answer := rfl

theorem writeDirectly_nil : writeDirectly s [] = s := by
  simp [writeDirectly]

theorem weight_written_twice (a b : Bytes) :
    weight (closed pk (writeDirectly (writeDirectly s a) b)) =
      weight (closed pk (writeDirectly s b)) + a.length := by
  simp only [weight, closed, writeDirectly, List.length_append]
  omega

theorem length_take_closeComplete (hn : n < 5) :
    (closeComplete.take n).length = n := by
  rw [List.length_take]
  exact Nat.min_eq_left (Nat.le_of_lt hn)

/-- An undisturbed Close: the name is forgotten, the answer written or queued. -/
theorem closeNamed_clear (name : Bytes) :
    closeNamed pk name s (Turn.clear pk) =
      (closed pk (if answersDirectly s then writeDirectly (forget s name) closeComplete
        else queueAnswer (forget s name)), .consumed) := by
  unfold closeNamed
  by_cases hd : answersDirectly s = true
  · have hd' : answersDirectly (forget s name) = true := hd
    simp only [hd, hd', if_true]
    rfl
  · have hd' : ¬ answersDirectly (forget s name) = true := hd
    rw [if_neg hd]
    exact if_neg hd'

theorem closeNamed_fetched (name : Bytes) :
    closeNamed pk name { s with callback := true } (Turn.clear pk) =
      closeNamed pk name s (Turn.clear pk) := by
  have hd : answersDirectly { s with callback := true } = answersDirectly s := rfl
  rw [closeNamed_clear, closeNamed_clear, hd]
  split <;> rfl

/-! ### One run, and what is left to do after it -/

theorem lateCopy_of_linked (h : lateCopy s pk.pkt = false)
    (hlinked : s.linked = true → s₁.linked = true) : lateCopy s₁ pk.pkt = false := by
  unfold lateCopy at h ⊢
  cases hl : s.linked with
  | true => simp [hlinked hl]
  | false =>
    rw [hl] at h
    simp only [Bool.not_false, Bool.true_and] at h
    rw [h, Bool.and_false]

theorem Again.linked (h : Again e pk s t s₁) (hl : s.linked = true) :
    s₁.linked = true := by
  cases h with
  | settingVars | counted => rfl
  | _ => exact hl

theorem Again.clientBytes (h : Again e pk s t s₁) (hc : NamedClose e pk) :
    s₁.stats.clientBytes = s.stats.clientBytes := by
  cases h with
  | noServer hcalm hp | settingVars hcalm hp | counted hst hp => exact absurd hc hp
  | _ => rfl

theorem Again.uniqueNames (h : Again e pk s t s₁) (hs : UniqueNames s) :
    UniqueNames s₁ := by
  cases h with
  | answer name hp hc hd hst hcut hw =>
    show ((forgetStatement s.link.client s.link.stmts name).1.clientPreparedStatements.map
      (·.stmtName)).Nodup
    unfold forgetStatement
    split
    · exact hs
    · exact hs.sublist (List.erase_sublist.map _)
  | _ => exact hs

/-- **A run that comes again** leaves what one undisturbed run from there would come
to as it was if it is calm, and makes it heavier otherwise. -/
theorem again_then_clear {s₂ : State} (hs : UniqueNames s) (h : attempt e pk s t = (s₁, .again))
    (h₂ : attempt e pk s₁ (Turn.clear pk) = (s₂, .consumed)) :
    ∃ s₃, attempt e pk s (Turn.clear pk) = (s₃, .consumed) ∧
      (Calm e pk s t → s₂ = s₃) ∧ (¬ Calm e pk s t → weight s₃ < weight s₂) ∧
      weight s₃ ≤ weight s₂ := by
  obtain ⟨hr, hl, hag⟩ := attempt_again h
  have hl₁ : lateCopy s₁ pk.pkt = false := lateCopy_of_linked hl hag.linked
  have same : ∀ (_ : Calm e pk s t) (_ : attempt e pk s (Turn.clear pk) = (s₂, .consumed)),
      ∃ s₃, attempt e pk s (Turn.clear pk) = (s₃, .consumed) ∧
        (Calm e pk s t → s₂ = s₃) ∧ (¬ Calm e pk s t → weight s₃ < weight s₂) ∧
        weight s₃ ≤ weight s₂ :=
    fun hc heq => ⟨s₂, heq, fun _ => rfl, fun hn => absurd hc hn, Nat.le_refl _⟩
  by_cases hf : inspect e.cfg pk.pkt pk.len = .inspectFailed
  · rw [attempt_clear_failed hr hl₁ hf] at h₂
    exact nomatch (Prod.mk.inj h₂).2
  cases hag with
  | rest hc => exact same hc h₂
  | fetched hc =>
    by_cases hp : NamedClose e pk
    · obtain ⟨name, hpk⟩ := close_of_handle hp.1 hp.2
      rw [attempt_clear_close hr hl₁ hpk hp, closeNamed_fetched] at h₂
      exact same hc ((attempt_clear_close hr hl hpk hp).trans h₂)
    · rw [attempt_clear_serve hr hl₁ hf hp] at h₂
      refine same hc ?_
      rw [attempt_clear_serve hr hl hf hp]
      exact finish_fetched h₂
  | noServer hc hp =>
    rw [attempt_clear_serve hr hl₁ hf hp] at h₂
    refine same hc ?_
    rw [attempt_clear_serve hr hl hf hp]
    simpa only [finish, countStart_idem] using h₂
  | settingVars hc hp ha =>
    rw [attempt_clear_serve hr hl₁ hf hp] at h₂
    refine same hc ?_
    rw [attempt_clear_serve hr hl hf hp]
    simpa only [finish, ha, countStart_assign, countStart_idem, assign_idem,
      Bool.false_eq_true, if_false] using h₂
  | counted hst hp ha =>
    rw [attempt_clear_serve hr hl₁ hf hp] at h₂
    simp only [finish, ha, countStart_countBytes, assign_countBytes, countStart_assign,
      countStart_idem, assign_idem, Bool.false_eq_true, if_false] at h₂
    obtain ⟨s₃, h₃, hlt⟩ := deliver_counted_twice h₂
    refine ⟨s₃, ?_, fun hc => ?_, fun _ => hlt, Nat.le_of_lt hlt⟩
    · rw [attempt_clear_serve hr hl hf hp]
      simpa only [finish, ha, Bool.false_eq_true, if_false] using h₃
    · rw [hc.not_counted] at hst
      exact nomatch hst
  | answer name hpk hc hd hst hcut hw =>
    have hd₁ : answersDirectly (writeDirectly (forget s name)
      (closeComplete.take t.written)) = true := hd
    rw [attempt_clear_close hr hl₁ hpk hc, closeNamed_clear, if_pos hd₁, forget_writeDirectly,
      forget_idem name hs] at h₂
    obtain ⟨rfl, -⟩ := Prod.mk.inj h₂
    refine ⟨closed pk (writeDirectly (forget s name) closeComplete), ?_, ?_, ?_, ?_⟩
    · rw [attempt_clear_close hr hl hpk hc, closeNamed_clear, if_pos hd]
    · intro hcalm
      have hzero : t.written = 0 := by simpa [hcut] using hcalm.not_cut
      rw [hzero, List.take_zero, writeDirectly_nil]
    · intro hcalm
      have hpos : 0 < t.written := by
        by_contra hzero
        exact hcalm ⟨hst, by rw [hcut]; exact decide_eq_false hzero⟩
      rw [weight_written_twice, length_take_closeComplete hw]
      omega
    · rw [weight_written_twice]
      exact Nat.le_add_right _ _

/-! ### The last run -/

theorem serve_consumed {statement : Bool} (h : serve e pk statement s t n = (s', .consumed)) :
    finish e pk s = (s', .consumed) ∧ (e.admin = false → statement = true →
      (s.callback || t.flushed) = true ∧ ¬ (pk.pkt.type = .describe ∧ n < pk.len)) := by
  unfold serve at h
  unfold finish
  by_cases ha : e.admin = true
  · rw [if_pos ha] at h ⊢
    obtain ⟨-, hrest⟩ := adminHandleClient_consumed_iff.mp h
    refine ⟨adminHandleClient_consumed_iff.mpr ⟨Nat.le_refl _, hrest⟩, fun hna => ?_⟩
    rw [ha] at hna
    exact nomatch hna
  · rw [if_neg ha] at h ⊢
    split at h
    · exact nomatch (Prod.mk.inj h).2
    dsimp only at h
    split at h
    · exact nomatch (Prod.mk.inj h).2
    rename_i hflush
    split at h
    · exact nomatch (Prod.mk.inj h).2
    rename_i hwhole
    refine ⟨h, fun _ hst => ⟨?_, ?_⟩⟩
    · by_contra hblocked
      refine hflush ?_
      rw [hst, Bool.true_and, Bool.not_eq_true']
      exact Bool.eq_false_iff.mpr hblocked
    · rintro ⟨hd, hn⟩
      simp [hst, hd, hn] at hwhole

theorem closeNamed_consumed (h : closeNamed pk name s t = (s', .consumed)) :
    closeNamed pk name s (Turn.clear pk) = (s', .consumed) ∧
      (answersDirectly s = true → 5 ≤ t.written) := by
  rw [closeNamed_clear]
  unfold closeNamed at h
  by_cases hd : answersDirectly s = true
  · rw [if_pos hd]
    have hd' : answersDirectly (forget s name) = true := hd
    dsimp only at h
    rw [if_pos hd'] at h
    by_cases hw : t.written < closeComplete.length
    · rw [if_pos hw] at h
      have hout := (Prod.mk.inj h).2
      split at hout <;> exact nomatch hout
    · rw [if_neg hw, List.take_of_length_le (Nat.not_lt.mp hw)] at h
      exact ⟨h, fun _ => Nat.not_lt.mp hw⟩
  · rw [if_neg hd]
    have hd' : ¬ answersDirectly (forget s name) = true := hd
    dsimp only at h
    rw [if_neg hd'] at h
    exact ⟨h, fun hyes => absurd hyes hd⟩

theorem not_stopsCounted
    (h : e.admin = false → true = true → (s.callback || t.flushed) = true ∧
      ¬ (pk.pkt.type = .describe ∧ pk.seen s t < pk.len)) : stopsCounted e pk s t = false := by
  by_contra hst
  simp only [stopsCounted, Bool.and_eq_true, Bool.not_eq_false, Bool.not_eq_true'] at hst
  obtain ⟨⟨⟨-, ha⟩, -⟩, hstop⟩ := hst
  obtain ⟨hflush, hwhole⟩ := h ha rfl
  rw [hflush] at hstop
  exact hwhole (by simpa using hstop)

/-- A run that takes the packet does what an undisturbed one does, and is calm. -/
theorem attempt_consumed (h : attempt e pk s t = (s', .consumed)) :
    attempt e pk s (Turn.clear pk) = (s', .consumed) ∧ Calm e pk s t := by
  have hroute := route e pk s t
  rw [h] at hroute
  generalize hout : (s', Outcome.consumed) = r at hroute
  cases hroute with
  | refused | failed | wait => exact nomatch (Prod.mk.inj hout).2
  | late hr hl =>
    have hi := inspect_ignore_of_lateCopy e.cfg (pk.seen s t) hl
    refine ⟨?_, by simp [stopsCounted, hi], by simp [answerCut, hi]⟩
    unfold attempt
    simp only [hr, hl, if_true]
  | close hr hl hp hc hi hn =>
    obtain ⟨hclose, hw⟩ := closeNamed_consumed hout.symm
    refine ⟨?_, by simp [stopsCounted, hi, hc.2], ?_⟩
    · rw [attempt_clear_close hr hl hp hc, hclose, hout]
    by_contra hcut
    simp only [answerCut, Bool.and_eq_true, Bool.not_eq_false, decide_eq_true_eq] at hcut
    have := hw hcut.1.1.2
    omega
  | serve hr hl hf hp hst hno hcut =>
    obtain ⟨hfin, hfree⟩ := serve_consumed hout.symm
    refine ⟨?_, ?_, hcut⟩
    · rw [attempt_clear_serve hr hl hf hp, hfin, hout]
    rename_i statement
    cases statement with
    | false => exact hno rfl
    | true => exact not_stopsCounted hfree

theorem serve_ne_skipped {statement : Bool} :
    serve e pk statement s t n ≠ (s', .skipped) := by
  intro h
  unfold serve adminHandleClient deliver at h
  dsimp only at h
  repeat' split at h
  all_goals exact nomatch (Prod.mk.inj h).2

theorem closeNamed_skipped (h : closeNamed pk name s t = (s', .skipped)) :
    answersDirectly s = true ∧ t.written < 5 ∧ s.callback = false ∧ s'.stats = s.stats := by
  unfold closeNamed at h
  dsimp only at h
  split at h
  · rename_i hd
    split at h
    · rename_i hw
      obtain ⟨rfl, hout⟩ := Prod.mk.inj h
      split at hout
      · exact nomatch hout
      · rename_i hcb
        exact ⟨hd, hw, Bool.eq_false_iff.mpr hcb, rfl⟩
    · exact nomatch (Prod.mk.inj h).2
  · exact nomatch (Prod.mk.inj h).2

/-- A run that has the packet skipped was cut off in the answer to a Close. -/
theorem attempt_skipped (h : attempt e pk s t = (s', .skipped)) :
    refused e.cfg pk.pkt = none ∧ lateCopy s pk.pkt = false ∧ NamedClose e pk ∧
      answerCut e pk s t = true ∧ s'.stats = s.stats := by
  have hroute := route e pk s t
  rw [h] at hroute
  generalize hout : (s', Outcome.skipped) = r at hroute
  cases hroute with
  | refused | late | failed | wait => exact nomatch (Prod.mk.inj hout).2
  | serve => exact absurd hout.symm serve_ne_skipped
  | close hr hl hp hc hi hn =>
    obtain ⟨hd, hw, hcb, hstats⟩ := closeNamed_skipped hout.symm
    refine ⟨hr, hl, hc, ?_, hstats⟩
    simp [answerCut, hi, hc.2, hn, hd, hw, hcb]

/-! ### All runs on a packet -/

/-- The runs up to one that takes the packet: one undisturbed run would have taken it
as well, and comes to the same if every run is calm and to less otherwise. -/
theorem attempts_consumed {ts : List Turn} (hs : UniqueNames s)
    (h : attempts e pk s ts = (s', .consumed)) :
    ∃ s₃, attempt e pk s (Turn.clear pk) = (s₃, .consumed) ∧
      ((∀ x ∈ visited e pk s ts, Calm e pk x.1 x.2) → s' = s₃) ∧
      (¬ (∀ x ∈ visited e pk s ts, Calm e pk x.1 x.2) → weight s₃ < weight s') ∧
      weight s₃ ≤ weight s' := by
  induction ts generalizing s with
  | nil => exact nomatch (Prod.mk.inj h).2
  | cons t ts ih =>
    unfold attempts at h
    unfold visited
    cases hat : attempt e pk s t with
    | mk s₁ o =>
      rw [hat] at h
      cases o with
      | again =>
        dsimp only at h ⊢
        obtain ⟨s₂, h₂, heq₂, hlt₂, hle₂⟩ := ih ((attempt_again hat).2.2.uniqueNames hs) h
        obtain ⟨s₃, h₃, heq₃, hlt₃, hle₃⟩ := again_then_clear hs hat h₂
        refine ⟨s₃, h₃, ?_, ?_, Nat.le_trans hle₃ hle₂⟩
        · rw [List.forall_mem_cons]
          rintro ⟨hc, hrest⟩
          exact (heq₂ hrest).trans (heq₃ hc)
        · rw [List.forall_mem_cons]
          intro hnot
          by_cases hc : Calm e pk s t
          · exact Nat.lt_of_le_of_lt hle₃ (hlt₂ fun hrest => hnot ⟨hc, hrest⟩)
          · exact Nat.lt_of_lt_of_le (hlt₃ hc) hle₂
      | consumed =>
        dsimp only at h ⊢
        obtain ⟨rfl, -⟩ := Prod.mk.inj h
        obtain ⟨h₃, hc⟩ := attempt_consumed hat
        refine ⟨s₁, h₃, fun _ => rfl, fun hnot => ?_, Nat.le_refl _⟩
        refine absurd ?_ hnot
        simpa using hc
      | skipped | disconnected => exact nomatch (Prod.mk.inj h).2

/-- The runs up to one that has the packet skipped have not counted it. -/
theorem attempts_skipped {ts : List Turn} (h : attempts e pk s ts = (s', .skipped)) :
    refused e.cfg pk.pkt = none ∧ lateCopy s pk.pkt = false ∧ NamedClose e pk ∧
      s'.stats.clientBytes = s.stats.clientBytes ∧
      ¬ (∀ x ∈ visited e pk s ts, Calm e pk x.1 x.2) := by
  induction ts generalizing s with
  | nil => exact nomatch (Prod.mk.inj h).2
  | cons t ts ih =>
    unfold attempts at h
    unfold visited
    cases hat : attempt e pk s t with
    | mk s₁ o =>
      rw [hat] at h
      cases o with
      | again =>
        dsimp only at h ⊢
        obtain ⟨hr, -, hc, hbytes, hnot⟩ := ih h
        obtain ⟨-, hl, hag⟩ := attempt_again hat
        refine ⟨hr, hl, hc, hbytes.trans (hag.clientBytes hc), fun hall => hnot ?_⟩
        exact fun x hx => hall x (List.mem_cons_of_mem _ hx)
      | skipped =>
        dsimp only at h ⊢
        obtain ⟨rfl, -⟩ := Prod.mk.inj h
        obtain ⟨hr, hl, hc, hcut, hstats⟩ := attempt_skipped hat
        refine ⟨hr, hl, hc, by rw [hstats], fun hall => ?_⟩
        have hcalm := hall (s, t) (List.mem_singleton.mpr rfl)
        exact Bool.false_ne_true (hcalm.not_cut.symm.trans hcut)
      | consumed | disconnected => exact nomatch (Prod.mk.inj h).2

/-- **When retried packets count once.**  The runs on a packet, up to the one after
which it is out of the stream, have the effect of one undisturbed run exactly if none
of them is stopped behind the count of its bytes or in a direct answer. -/
theorem retried_once_iff (e : Setup) (pk : Packet) (s s' : State) (ts : List Turn) (o : Outcome)
    (hs : UniqueNames s) (h : attempts e pk s ts = (s', o))
    (ho : o = .consumed ∨ o = .skipped) :
    s' = (attempt e pk s (Turn.clear pk)).1 ↔ ∀ x ∈ visited e pk s ts, Calm e pk x.1 x.2 := by
  rcases ho with rfl | rfl
  · obtain ⟨s₃, h₃, heq, hlt, -⟩ := attempts_consumed hs h
    rw [h₃]
    refine ⟨fun hsame => ?_, heq⟩
    by_contra hnot
    exact absurd (congrArg weight hsame) (Nat.ne_of_gt (hlt hnot))
  · obtain ⟨hr, hl, hc, hbytes, hnot⟩ := attempts_skipped h
    obtain ⟨name, hp⟩ := close_of_handle hc.1 hc.2
    have hone : (attempt e pk s (Turn.clear pk)).1.stats.clientBytes =
        s.stats.clientBytes + pk.len := by
      rw [attempt_clear_close hr hl hp hc, closeNamed_clear]
      dsimp only [closed]
      split <;> rfl
    refine ⟨fun hsame => ?_, fun hall => absurd hall hnot⟩
    rw [hsame, hone] at hbytes
    have := pk.header_le
    omega

/-- Statement support and a buffer of the usual size. -/
def pooled : Setup :=
  { cfg := { maxPreparedStatements := 100 }, sbufLen := 4096 }

/-- A Parse of a query of one byte, under a name of one byte. -/
def namedParse : Packet :=
  ⟨.parse [0x61] [0x62, 0, 0, 0], 11, by decide⟩

/-- A Parse that has to wait for a server twice, once for want of one and once for its
`SET`, counts once. -/
theorem retried_once_iff_waiting :
    (attempts pooled namedParse {} [⟨11, .waiting, true, 5⟩, ⟨11, .settingVars, true, 5⟩,
      ⟨11, .found, true, 5⟩]).1 = (attempt pooled namedParse {} (Turn.clear namedParse)).1 :=
  (retried_once_iff pooled namedParse {} _ _ .consumed List.nodup_nil rfl (.inl rfl)).mpr
    (by decide)

/-- A Parse behind bytes that the server's socket does not take yet is counted again
when the socket takes them.  A Close whose answer the client's socket does not take is
neither answered nor counted. -/
theorem retried_packets_counted :
    (∃ s', attempts pooled namedParse { linked := true }
        [⟨11, .found, false, 5⟩, ⟨11, .found, true, 5⟩] = (s', .consumed) ∧
      s'.stats.clientBytes = 22 ∧
      (attempt pooled namedParse { linked := true }
        (Turn.clear namedParse)).1.stats.clientBytes = 11) ∧
    (∃ (pk : Packet) (s' : State), pk.pkt = .close .statement [0x61] ∧
      attempts pooled pk {} [⟨pk.len, .found, true, 0⟩] = (s', .skipped) ∧
      s'.sent = [] ∧ s'.stats.clientBytes = 0 ∧
      (attempt pooled pk {} (Turn.clear pk)).1.sent = closeComplete ∧
      (attempt pooled pk {} (Turn.clear pk)).1.stats.clientBytes = pk.len) :=
  ⟨⟨_, rfl, by decide⟩,
    ⟨⟨.close .statement [0x61], 8, by decide⟩, _, rfl, rfl, by decide⟩⟩

end PgBouncer.Retry
