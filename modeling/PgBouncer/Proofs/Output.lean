/-
Buffers that wait to be written, and the connection they were meant for.

A pending write event goes to the `PgSocket` it was made for, whatever connection that
has by then.  `Tracked` says that it still has the one the buffer was queued for; every
event keeps it, apart from closing a socket that has something pending.

What has been written to a connection and what is pending for it make up what was asked
for.  That is kept as long as nobody sends anything to a socket that has something
pending, because whoever does is served first.
-/
import PgBouncer.Output
import Mathlib.Data.List.Nodup

namespace PgBouncer.Output

open World

variable {w w' : World} {sk owner conn : Nat} {data : Bytes} {res : SendResult} {q : Queued}
  {buf : PktBuf} {added : Bool}

/-! ### Pending buffers have their connection -/

structure Tracked (w : World) : Prop where
  zero : w.fds 0 = none
  opened : ∀ sk, w.sock sk ≠ 0 → w.connOf sk ≠ none
  sock : ∀ sk sk', w.sock sk ≠ 0 → w.sock sk = w.sock sk' → sk = sk'
  fresh : ∀ fd conn, w.fds fd = some conn → conn < w.nConns
  fds : ∀ fd fd' conn, w.fds fd = some conn → w.fds fd' = some conn → fd = fd'
  pending : ∀ q ∈ w.pending, w.connOf q.queuedDst = some q.conn
  writes : ∀ x ∈ w.writes, x.conn = x.owner

theorem Tracked.initial : Tracked {} where
  zero := rfl
  opened := fun _ h => absurd rfl h
  sock := fun _ _ h => absurd rfl h
  fresh := fun _ _ h => nomatch h
  fds := fun _ _ _ h => nomatch h
  pending := fun _ h => nomatch h
  writes := fun _ h => nomatch h

theorem Tracked.open_of_conn (h : Tracked w) (hconn : w.connOf sk = some conn) :
    w.sock sk ≠ 0 := by
  intro hzero
  unfold connOf at hconn
  rw [hzero, h.zero] at hconn
  cases hconn

/-- Sockets and descriptors are as they were. -/
structure SameSockets (w w' : World) : Prop where
  sock : w'.sock = w.sock
  fds : w'.fds = w.fds
  nConns : w'.nConns = w.nConns

theorem SameSockets.connOf (h : SameSockets w w') (sk : Nat) : w'.connOf sk = w.connOf sk := by
  unfold World.connOf
  rw [h.sock, h.fds]

theorem Tracked.same (h : Tracked w) (hsame : SameSockets w w')
    (hpending : ∀ q ∈ w'.pending, w.connOf q.queuedDst = some q.conn)
    (hwrites : ∀ x ∈ w'.writes, x.conn = x.owner) : Tracked w' where
  zero := by rw [hsame.fds]; exact h.zero
  opened := by
    intro sk hsk
    rw [hsame.connOf]
    exact h.opened sk (by rwa [hsame.sock] at hsk)
  sock := by rw [hsame.sock]; exact h.sock
  fresh := by rw [hsame.fds, hsame.nConns]; exact h.fresh
  fds := by rw [hsame.fds]; exact h.fds
  pending := fun q hq => (hsame.connOf q.queuedDst).trans (hpending q hq)
  writes := hwrites

/-- A send writes part of what it is given, or nothing and says so. -/
theorem sbufOpSend_cases (hconn : w.connOf sk = some conn) :
    (∃ n ≤ data.length, w.sbufOpSend sk owner data res =
      ({ w with writes := w.writes ++ [⟨conn, owner, data.take n⟩] }, .sent n)) ∨
    w.sbufOpSend sk owner data res = (w, res) ∧ (res = .eagain ∨ res = .error) := by
  unfold sbufOpSend
  rw [hconn]
  cases res with
  | sent n =>
    refine .inl ⟨min n data.length, Nat.min_le_right _ _, ?_⟩
    rw [← List.take_eq_take_min]
  | eagain => exact .inr ⟨rfl, .inl rfl⟩
  | error => exact .inr ⟨rfl, .inr rfl⟩

/-- What sending a buffer does: something is written, and something may become pending. -/
structure Sends (w w' : World) (conn : Nat) (part : Bytes) (left : List Queued) : Prop where
  same : SameSockets w w'
  calls : w'.calls = w.calls
  pending : w'.pending = w.pending ++ left
  writes : w'.writes = w.writes ∧ part = [] ∨ w'.writes = w.writes ++ [⟨conn, conn, part⟩]

theorem Sends.refl (w : World) (conn : Nat) : Sends w w conn [] [] :=
  ⟨⟨rfl, rfl, rfl⟩, rfl, (List.append_nil _).symm, .inl ⟨rfl, rfl⟩⟩

variable {part : Bytes} {left : List Queued}

theorem Sends.tracked (hs : Sends w w' conn part left) (h : Tracked w)
    (hleft : ∀ q ∈ left, w.connOf q.queuedDst = some q.conn) : Tracked w' := by
  refine h.same hs.same (fun q hq => ?_) (fun x hx => ?_)
  · rw [hs.pending] at hq
    rcases List.mem_append.1 hq with hq | hq
    · exact h.pending q hq
    · exact hleft q hq
  · rcases hs.writes with ⟨hwrites, -⟩ | hwrites
    · exact h.writes x (hwrites ▸ hx)
    · rw [hwrites] at hx
      rcases List.mem_append.1 hx with hx | hx
      · exact h.writes x hx
      · rw [List.mem_singleton.1 hx]

theorem sends_sbufOpSend (hconn : w.connOf sk = some conn) :
    ∃ n ≤ data.length, Sends w (w.sbufOpSend sk conn data res).1 conn (data.take n) [] ∧
      (w.sbufOpSend sk conn data res).2.amount = n := by
  rcases @sbufOpSend_cases w sk conn conn data res hconn with ⟨n, hn, hsend⟩ | ⟨hsend, hres⟩
  · rw [hsend]
    exact ⟨n, hn, ⟨⟨rfl, rfl, rfl⟩, rfl, (List.append_nil _).symm, .inr rfl⟩, rfl⟩
  · rw [hsend]
    refine ⟨0, Nat.zero_le _, .refl w conn, ?_⟩
    rcases hres with rfl | rfl <;> rfl

/-- If all of it was taken the call says so. -/
theorem sends_immediate (hconn : w.connOf sk = some conn) :
    ∃ part, Sends w (w.pktbufSendImmediate buf sk conn res).1 conn part [] ∧
      ((w.pktbufSendImmediate buf sk conn res).2 = true → part = buf.rest) := by
  unfold pktbufSendImmediate
  by_cases hfailed : buf.failed = true
  · rw [if_pos hfailed]
    exact ⟨[], .refl w conn, nofun⟩
  · rw [if_neg hfailed]
    obtain ⟨n, -, hsends, hamount⟩ := @sends_sbufOpSend w sk conn buf.rest res hconn
    refine ⟨_, hsends, fun hok => ?_⟩
    have hall : (w.sbufOpSend sk conn buf.rest res).2 = .sent buf.rest.length :=
      of_decide_eq_true hok
    rw [hall] at hamount
    rw [← hamount]
    exact List.take_length

/-- What is not written stays pending, unless the kernel or libevent reports an error. -/
theorem sends_func (hconn : w.connOf q.queuedDst = some q.conn) :
    ∃ part left, Sends w (w.pktbufSendFunc q res added) q.conn part left ∧
      (∀ q' ∈ left, q'.queuedDst = q.queuedDst ∧ q'.conn = q.conn ∧ q'.buf.failed = false) ∧
      left.length ≤ 1 ∧
      (q.buf.failed = false → res ≠ .error → added = true →
        part ++ left.flatMap (·.buf.rest) = q.buf.rest) := by
  unfold pktbufSendFunc
  by_cases hfailed : q.buf.failed = true
  · rw [if_pos hfailed]
    exact ⟨[], [], .refl w q.conn, by simp, by simp, fun h => nomatch hfailed.symm.trans h⟩
  rw [if_neg hfailed]
  obtain ⟨n, hn, hsends, hamount⟩ := @sends_sbufOpSend w q.queuedDst q.conn q.buf.rest res hconn
  have hkind := @sbufOpSend_cases w q.queuedDst q.conn q.conn q.buf.rest res hconn
  generalize w.sbufOpSend q.queuedDst q.conn q.buf.rest res = r at *
  dsimp only
  by_cases herror : r.2 = .error
  · rw [if_pos herror]
    refine ⟨_, [], hsends, by simp, by simp, fun _ hres _ => ?_⟩
    rcases hkind with ⟨m, -, rfl⟩ | ⟨rfl, hres'⟩
    · cases herror
    · exact absurd herror hres
  rw [if_neg herror, hamount]
  by_cases hmore : q.buf.sendPos + n < q.buf.buf.length ∧ added = true
  · rw [if_pos hmore]
    refine ⟨q.buf.rest.take n, [{ q with buf := { q.buf with sendPos := q.buf.sendPos + n } }], ?_,
      by simpa using hfailed, by simp, fun _ _ _ => ?_⟩
    · exact ⟨⟨hsends.same.1, hsends.same.2, hsends.same.3⟩, hsends.calls,
        by rw [hsends.pending, List.append_nil], hsends.writes⟩
    · simp [PktBuf.rest, ← List.drop_drop]
  · rw [if_neg hmore]
    refine ⟨_, [], hsends, by simp, by simp, fun _ _ hadded => ?_⟩
    have hall : q.buf.rest.length ≤ n := by
      have hlen : ¬ q.buf.sendPos + n < q.buf.buf.length := fun hlt => hmore ⟨hlt, hadded⟩
      simp only [PktBuf.rest, List.length_drop]
      omega
    simp [List.take_of_length_le hall]

/-- **A buffer is queued.** -/
theorem sends_queued (hconn : w.connOf sk = some conn) :
    ∃ part left, Sends w (w.pktbufSendQueued buf sk conn res added).1 conn part left ∧
      (∀ q ∈ left, q.queuedDst = sk ∧ q.conn = conn ∧ q.buf.failed = false) ∧ left.length ≤ 1 ∧
      (buf.failed = false → res ≠ .error → added = true →
        part ++ left.flatMap (·.buf.rest) = buf.rest) := by
  unfold pktbufSendQueued
  by_cases hfailed : buf.failed = true
  · rw [if_pos hfailed]
    obtain ⟨part, hsends, -⟩ := @sends_immediate w sk conn res
      (poolerError true none false (text "result prepare failed")) hconn
    exact ⟨part, [], hsends, by simp, by simp, fun h => nomatch hfailed.symm.trans h⟩
  · rw [if_neg hfailed]
    exact @sends_func w res ⟨buf, sk, w.sock sk, conn⟩ added hconn

/-- A socket is only closed when nothing is pending for it. -/
def NothingPending (w : World) : Event → Prop
  | .closed sk => ∀ q ∈ w.pending, q.queuedDst ≠ sk
  | _ => True

instance (w : World) : ∀ e, Decidable (NothingPending w e)
  | .closed sk => inferInstanceAs (Decidable (∀ q ∈ w.pending, q.queuedDst ≠ sk))
  | .opened _ _ | .immediate _ _ _ | .queued _ _ _ _ | .writable _ _ _ => isTrue trivial

/-- A socket gets a connection. -/
theorem Tracked.accept (h : Tracked w) {fd : Nat} (hsock : w.sock sk = 0) (hfd : fd ≠ 0)
    (hfree : w.fds fd = none) :
    Tracked { w with
      sock := Function.update w.sock sk fd
      fds := Function.update w.fds fd (some w.nConns)
      nConns := w.nConns + 1 } := by
  -- the descriptor was nobody's
  have hnobody : ∀ sk', w.sock sk' ≠ fd := by
    intro sk' hsk'
    have hopen := h.opened sk' (hsk' ▸ hfd)
    unfold connOf at hopen
    exact hopen (hsk' ▸ hfree)
  refine ⟨?_, fun sk' => ?_, fun sk₁ sk₂ => ?_, fun fd' conn => ?_, fun fd₁ fd₂ conn => ?_,
    fun q hq => ?_, h.writes⟩
  · simpa only [Function.update_of_ne hfd.symm] using h.zero
  · have hopen := h.opened sk'
    simp only [connOf, Function.update_apply] at hopen ⊢
    grind
  · have hinj := h.sock sk₁ sk₂
    simp only [Function.update_apply]
    grind
  · have hfresh := h.fresh fd' conn
    simp only [Function.update_apply]
    grind
  · have hinj := h.fds fd₁ fd₂ conn
    have hfresh := h.fresh
    simp only [Function.update_apply]
    grind
  · have hconn := h.pending q hq
    have hopen := h.open_of_conn hconn
    simp only [connOf, Function.update_apply] at hconn ⊢
    grind

/-- A socket with nothing pending is closed. -/
theorem Tracked.close (h : Tracked w) (hsock : w.sock sk ≠ 0)
    (hnothing : ∀ q ∈ w.pending, q.queuedDst ≠ sk) :
    Tracked { w with
      sock := Function.update w.sock sk 0
      fds := Function.update w.fds (w.sock sk) none } := by
  refine ⟨?_, fun sk' => ?_, fun sk₁ sk₂ => ?_, fun fd' conn => ?_, fun fd₁ fd₂ conn => ?_,
    fun q hq => ?_, h.writes⟩
  · simpa only [Function.update_of_ne hsock.symm] using h.zero
  · have hopen := h.opened sk'
    have hinj := h.sock sk' sk
    simp only [connOf, Function.update_apply] at hopen ⊢
    grind
  · have hinj := h.sock sk₁ sk₂
    simp only [Function.update_apply]
    grind
  · have hfresh := h.fresh fd' conn
    simp only [Function.update_apply]
    grind
  · have hinj := h.fds fd₁ fd₂ conn
    simp only [Function.update_apply]
    grind
  · have hconn := h.pending q hq
    have hinj := h.sock sk q.queuedDst hsock
    have hother := hnothing q hq
    simp only [connOf, Function.update_apply] at hconn ⊢
    grind

theorem Tracked.record (h : Tracked w) (conn : Nat) (buf : PktBuf) (b : Bool) :
    Tracked (w.record conn buf b) :=
  h.same ⟨rfl, rfl, rfl⟩ h.pending h.writes

theorem Tracked.forget (h : Tracked w) (i : Nat) :
    Tracked { w with pending := w.pending.eraseIdx i } :=
  h.same ⟨rfl, rfl, rfl⟩ (fun q hq => h.pending q (List.mem_of_mem_eraseIdx hq)) h.writes

/-! ### What an event does -/

/-- The ways an event can change the world. -/
inductive Outcome (w : World) : Event → World → Prop
  | opened {sk fd : Nat} (hsock : w.sock sk = 0) (hfd : fd ≠ 0) (hfree : w.fds fd = none) :
      Outcome w (.opened sk fd) { w with
        sock := Function.update w.sock sk fd
        fds := Function.update w.fds fd (some w.nConns)
        nConns := w.nConns + 1 }
  | closed {sk : Nat} (hsock : w.sock sk ≠ 0) :
      Outcome w (.closed sk) { w with
        sock := Function.update w.sock sk 0
        fds := Function.update w.fds (w.sock sk) none }
  | immediate {buf : PktBuf} {sk conn : Nat} {res : SendResult} (hconn : w.connOf sk = some conn) :
      Outcome w (.immediate buf sk res)
        ((w.pktbufSendImmediate buf sk conn res).1.record conn buf
          (w.pktbufSendImmediate buf sk conn res).2)
  | queued {buf : PktBuf} {sk conn : Nat} {res : SendResult} {added : Bool}
      (hconn : w.connOf sk = some conn) :
      Outcome w (.queued buf sk res added)
        ((w.pktbufSendQueued buf sk conn res added).1.record conn buf
          (w.pktbufSendQueued buf sk conn res added).2)
  | writable {i : Nat} {res : SendResult} {added : Bool} {q : Queued}
      (hq : w.pending[i]? = some q) :
      Outcome w (.writable i res added)
        ({ w with pending := w.pending.eraseIdx i }.pktbufSendFunc q res added)

theorem step_outcome {e : Event} (hstep : w.step e = some w') : Outcome w e w' := by
  unfold World.step at hstep
  split at hstep
  · split at hstep
    · rename_i hguard
      cases hstep
      exact .opened hguard.1 hguard.2.1 hguard.2.2
    · cases hstep
  · split at hstep
    · cases hstep
    · cases hstep
      exact .closed ‹_›
  · obtain ⟨conn, hconn, rfl⟩ := Option.map_eq_some_iff.1 hstep
    exact .immediate hconn
  · obtain ⟨conn, hconn, rfl⟩ := Option.map_eq_some_iff.1 hstep
    exact .queued hconn
  · split at hstep
    · cases hstep
    · split at hstep
      · cases hstep
        exact .writable ‹_›
      · cases hstep

theorem Tracked.step {e : Event} (h : Tracked w) (hcond : NothingPending w e)
    (hstep : w.step e = some w') : Tracked w' := by
  cases step_outcome hstep with
  | opened hsock hfd hfree => exact h.accept hsock hfd hfree
  | closed hsock => exact h.close hsock hcond
  | immediate hconn =>
    obtain ⟨part, hsends, -⟩ := sends_immediate hconn
    exact (hsends.tracked h (by simp)).record _ _ _
  | queued hconn =>
    obtain ⟨part, left, hsends, hleft, -⟩ := sends_queued hconn
    exact (hsends.tracked h fun q hq => by
      rw [(hleft q hq).1, (hleft q hq).2.1]
      exact hconn).record _ _ _
  | @writable i _ _ q hq =>
    have hconn : { w with pending := w.pending.eraseIdx i }.connOf q.queuedDst = some q.conn :=
      h.pending _ (List.mem_of_getElem? hq)
    obtain ⟨part, left, hsends, hleft, -⟩ := sends_func hconn
    refine hsends.tracked (h.forget _) fun q' hq' => ?_
    rw [(hleft q' hq').1, (hleft q' hq').2.1]
    exact hconn

/-- **What is queued for a connection is written to that connection or to none**, in every
run in which no socket is closed while something is pending for it. -/
theorem queued_stays_with_connection {es : List Event}
    (hmeets : Run.Meets World.step NothingPending {} es) (hrun : World.run {} es = some w) :
    ∀ x ∈ w.writes, x.conn = x.owner := by
  have h : Tracked w := Run.invariant (fun h => Tracked.step h) hmeets hrun .initial
  exact h.writes

/-- A buffer is written in two parts before its connection is closed. -/
theorem queued_stays_two_parts :
    ∃ w, World.run {} [.opened 0 7, .queued { buf := [1, 2] } 0 (.sent 1) true,
        .writable 0 (.sent 1) true, .closed 0, .opened 0 7] = some w ∧
      w.writes = [⟨0, 0, [1]⟩, ⟨0, 0, [2]⟩] ∧ ∀ x ∈ w.writes, x.conn = x.owner := by
  refine Run.exists_of_any (P := fun w => w.writes = [⟨0, 0, [1]⟩, ⟨0, 0, [2]⟩])
    (by decide) fun w hw hwrites => ?_
  exact ⟨hwrites, queued_stays_with_connection (by decide) hw⟩

/-- **The rest of a buffer goes to the next connection** that has the same `PgSocket` and the
same descriptor. -/
theorem queued_to_next_connection :
    ∃ w, World.run {} [.opened 0 7, .queued { buf := [1, 2] } 0 (.sent 1) true, .closed 0,
        .opened 0 7, .writable 0 (.sent 1) true] = some w ∧
      ⟨1, 0, [2]⟩ ∈ w.writes :=
  Run.exists_of_any (P := fun w => ⟨1, 0, [2]⟩ ∈ w.writes) (by decide) fun _ _ h => h

/-! ### Calls are served in order -/

/-- What is pending for a connection. -/
def World.unsent (w : World) (conn : Nat) : Bytes :=
  (w.pending.filter (·.conn = conn)).flatMap (·.buf.rest)

/-- Nobody sends anything to a socket that has something pending, and nothing that is
queued is lost to an error. -/
def InTurn (w : World) : Event → Prop
  | .opened _ _ => True
  | .closed sk => ∀ q ∈ w.pending, q.queuedDst ≠ sk
  | .immediate _ sk _ => ∀ q ∈ w.pending, q.queuedDst ≠ sk
  | .queued buf sk res added =>
    (∀ q ∈ w.pending, q.queuedDst ≠ sk) ∧ buf.failed = false ∧ res ≠ .error ∧ added = true
  | .writable _ res added => res ≠ .error ∧ added = true

instance (w : World) : ∀ e, Decidable (InTurn w e)
  | .opened _ _ => isTrue trivial
  | .closed sk => inferInstanceAs (Decidable (∀ q ∈ w.pending, q.queuedDst ≠ sk))
  | .immediate _ sk _ => inferInstanceAs (Decidable (∀ q ∈ w.pending, q.queuedDst ≠ sk))
  | .queued buf sk res added => inferInstanceAs (Decidable
      ((∀ q ∈ w.pending, q.queuedDst ≠ sk) ∧ buf.failed = false ∧ res ≠ .error ∧ added = true))
  | .writable _ res added => inferInstanceAs (Decidable (res ≠ .error ∧ added = true))

/-- Every call for a connection has reported success. -/
def World.AllOk (w : World) (conn : Nat) : Prop := ∀ x ∈ w.calls, x.conn = conn → x.res = true

structure Ordered (w : World) : Prop where
  tracked : Tracked w
  nodup : (w.pending.map (·.conn)).Nodup
  sound : ∀ q ∈ w.pending, q.buf.failed = false
  order : ∀ conn, w.AllOk conn → w.writtenTo conn ++ w.unsent conn = w.calledFor conn

theorem Sends.writtenTo (hs : Sends w w' conn part left) (k : Nat) :
    w'.writtenTo k = w.writtenTo k ++ if conn = k then part else [] := by
  unfold World.writtenTo
  rcases hs.writes with ⟨hwrites, rfl⟩ | hwrites
  · rw [hwrites, ite_self, List.append_nil]
  · rw [hwrites, List.filter_append, List.flatMap_append]
    by_cases hk : conn = k <;> simp [hk]

theorem Sends.unsent (hs : Sends w w' conn part left) (hleft : ∀ q ∈ left, q.conn = conn)
    (k : Nat) : w'.unsent k = w.unsent k ++ if conn = k then left.flatMap (·.buf.rest) else [] := by
  unfold World.unsent
  rw [hs.pending, List.filter_append, List.flatMap_append]
  by_cases hk : conn = k
  · have hmine : left.filter (·.conn = k) = left :=
      List.filter_eq_self.2 fun q hq => by simp [hleft q hq, hk]
    rw [if_pos hk, hmine]
  · have hother : left.filter (·.conn = k) = [] :=
      List.filter_eq_nil_iff.2 fun q hq => by simp [hleft q hq, hk]
    rw [if_neg hk, hother, List.flatMap_nil]

theorem unsent_eq_nil (h : ∀ q ∈ w.pending, q.conn ≠ conn) : w.unsent conn = [] := by
  unfold World.unsent
  rw [List.filter_eq_nil_iff.2 fun q hq => by simp [h q hq]]
  rfl

/-- Nothing is pending for a socket that is in nobody's way. -/
theorem Tracked.conn_ne (h : Tracked w) (hconn : w.connOf sk = some conn)
    (hnothing : ∀ q ∈ w.pending, q.queuedDst ≠ sk) : ∀ q ∈ w.pending, q.conn ≠ conn := by
  rintro q hq rfl
  have hfd := h.fds _ _ _ (h.pending q hq) hconn
  exact hnothing q hq (h.sock _ _ (h.open_of_conn (h.pending q hq)) hfd)

theorem Sends.nodup (hs : Sends w w' conn part left) (h : (w.pending.map (·.conn)).Nodup)
    (hfree : ∀ q ∈ w.pending, q.conn ≠ conn) (hleft : ∀ q ∈ left, q.conn = conn)
    (hone : left.length ≤ 1) :
    (w'.pending.map (·.conn)).Nodup := by
  rw [hs.pending, List.map_append, List.nodup_append]
  refine ⟨h, ?_, ?_⟩
  · match left, hone with
    | [], _ => exact List.nodup_nil
    | [_], _ => exact List.nodup_singleton _
  · rintro _ hx _ hy rfl
    obtain ⟨q, hq, rfl⟩ := List.mem_map.1 hx
    obtain ⟨q', hq', heq⟩ := List.mem_map.1 hy
    exact hfree q hq (heq ▸ hleft q' hq')

theorem Sends.sound (hs : Sends w w' conn part left) (h : ∀ q ∈ w.pending, q.buf.failed = false)
    (hleft : ∀ q ∈ left, q.buf.failed = false) :
    ∀ q ∈ w'.pending, q.buf.failed = false := by
  intro q hq
  rw [hs.pending] at hq
  exact (List.mem_append.1 hq).elim (h q) (hleft q)

/-- A call is served at once, or what is left of it becomes the only thing pending. -/
theorem Sends.ordered (hs : Sends w w' conn part left) (h : Ordered w) (htracked : Tracked w')
    (hfree : ∀ q ∈ w.pending, q.conn ≠ conn) (hleft : ∀ q ∈ left, q.conn = conn)
    (hone : left.length ≤ 1) (hsound : ∀ q ∈ left, q.buf.failed = false) {b : Bool}
    (hall : b = true → part ++ left.flatMap (·.buf.rest) = buf.rest) :
    Ordered (w'.record conn buf b) := by
  refine ⟨htracked.record _ _ _, hs.nodup h.nodup hfree hleft hone, hs.sound h.sound hsound,
    fun k hok => ?_⟩
  · have hbefore : w.AllOk k := fun x hx =>
      hok x (List.mem_append_left _ (by rw [hs.calls]; exact hx))
    have horder := h.order k hbefore
    have hwritten : (w'.record conn buf b).writtenTo k = _ := hs.writtenTo k
    have hunsent : (w'.record conn buf b).unsent k = _ := hs.unsent hleft k
    have hcalled : (w'.record conn buf b).calledFor k =
        w.calledFor k ++ if conn = k then buf.rest else [] := by
      unfold World.calledFor World.record
      rw [hs.calls, List.filter_append, List.flatMap_append]
      by_cases hk : conn = k <;> simp [hk]
    rw [hwritten, hunsent, hcalled, ← horder]
    by_cases hk : conn = k
    · subst hk
      have hb : b = true := hok ⟨conn, buf.rest, b⟩ (List.mem_append_right _ (by simp)) rfl
      simp only [if_true, unsent_eq_nil hfree, List.append_nil, List.nil_append,
        List.append_assoc, hall hb]
    · simp [hk]

/-- An event that fires takes its buffer off the list. -/
theorem unsent_forget (h : (w.pending.map (·.conn)).Nodup) {i : Nat}
    (hq : w.pending[i]? = some q) (k : Nat) :
    { w with pending := w.pending.eraseIdx i }.unsent k = (if q.conn = k then [] else w.unsent k) ∧
      (q.conn = k → w.unsent k = q.buf.rest) ∧ ∀ q' ∈ w.pending.eraseIdx i, q'.conn ≠ q.conn := by
  obtain ⟨hi, hget⟩ := List.getElem?_eq_some_iff.1 hq
  have hsplit : w.pending = w.pending.take i ++ q :: w.pending.drop (i + 1) := by
    rw [← hget, List.getElem_cons_drop, List.take_append_drop]
  have herase : w.pending.eraseIdx i = w.pending.take i ++ w.pending.drop (i + 1) :=
    List.eraseIdx_eq_take_drop_succ _ _
  have hothers : ∀ q' ∈ w.pending.eraseIdx i, q'.conn ≠ q.conn := by
    rw [hsplit, List.map_append, List.map_cons, List.nodup_middle, List.nodup_cons,
      ← List.map_append, ← herase] at h
    exact fun q' hq' heq => h.1 (heq ▸ List.mem_map_of_mem hq')
  have hunsent : w.unsent k =
      ((w.pending.take i).filter (·.conn = k)).flatMap (·.buf.rest) ++
        ((if q.conn = k then q.buf.rest else []) ++
          ((w.pending.drop (i + 1)).filter (·.conn = k)).flatMap (·.buf.rest)) := by
    unfold World.unsent
    conv_lhs => rw [hsplit]
    by_cases hk : q.conn = k <;> simp [hk]
  have hforget : { w with pending := w.pending.eraseIdx i }.unsent k =
      ((w.pending.take i).filter (·.conn = k)).flatMap (·.buf.rest) ++
        ((w.pending.drop (i + 1)).filter (·.conn = k)).flatMap (·.buf.rest) := by
    unfold World.unsent
    dsimp only
    rw [herase, List.filter_append, List.flatMap_append]
  by_cases hk : q.conn = k
  · subst hk
    have hnone : { w with pending := w.pending.eraseIdx i }.unsent q.conn = [] :=
      unsent_eq_nil hothers
    rw [hnone] at hforget
    obtain ⟨hbefore, hafter⟩ := List.append_eq_nil_iff.1 hforget.symm
    rw [hunsent, hbefore, hafter]
    simpa using ⟨hnone, hothers⟩
  · rw [hforget, hunsent]
    simpa [hk] using hothers

/-- A pending buffer is gone on with. -/
theorem Ordered.fire {i : Nat} (h : Ordered w) (hq : w.pending[i]? = some q)
    (hsends : Sends { w with pending := w.pending.eraseIdx i } w' q.conn part left)
    (htracked : Tracked w') (hleft : ∀ q' ∈ left, q'.conn = q.conn ∧ q'.buf.failed = false)
    (hone : left.length ≤ 1) (hall : part ++ left.flatMap (·.buf.rest) = q.buf.rest) :
    Ordered w' := by
  have hmine : ∀ q' ∈ left, q'.conn = q.conn := fun q' hq' => (hleft q' hq').1
  have hothers := (unsent_forget h.nodup hq q.conn).2.2
  refine ⟨htracked, ?_, ?_, fun k hok => ?_⟩
  · have hsub := (List.eraseIdx_sublist w.pending i).map (·.conn)
    exact hsends.nodup (h.nodup.sublist hsub) hothers hmine hone
  · exact hsends.sound (fun q' hq' => h.sound q' (List.mem_of_mem_eraseIdx hq'))
      fun q' hq' => (hleft q' hq').2
  · have hcalls : w'.calls = w.calls := hsends.calls
    have horder := h.order k fun x hx => hok x (by rw [hcalls]; exact hx)
    obtain ⟨hforget, hrest, -⟩ := unsent_forget h.nodup hq k
    have hcalled : w'.calledFor k = w.calledFor k := by
      unfold World.calledFor
      rw [hcalls]
    have hwritten : w'.writtenTo k = w.writtenTo k ++ _ := hsends.writtenTo k
    rw [hcalled, ← horder, hwritten, hsends.unsent hmine k, hforget]
    by_cases hk : q.conn = k
    · simp only [hk, if_true, List.nil_append, List.append_assoc]
      rw [hall, hrest hk]
    · simp [hk]

theorem Ordered.step {e : Event} (h : Ordered w) (hcond : InTurn w e)
    (hstep : w.step e = some w') : Ordered w' := by
  have htracked : Tracked w' := by
    refine h.tracked.step ?_ hstep
    cases e <;> first | exact trivial | exact hcond
  cases step_outcome hstep with
  | opened hsock hfd hfree => exact { h with tracked := htracked }
  | closed hsock => exact { h with tracked := htracked }
  | immediate hconn =>
    obtain ⟨part, hsends, hall⟩ := sends_immediate hconn
    exact hsends.ordered h (hsends.tracked h.tracked (by simp))
      (h.tracked.conn_ne hconn hcond) (by simp) (by simp) (by simp) (by simpa using hall)
  | queued hconn =>
    obtain ⟨part, left, hsends, hleft, hone, hall⟩ := sends_queued hconn
    exact hsends.ordered h
      (hsends.tracked h.tracked fun q hq => by
        rw [(hleft q hq).1, (hleft q hq).2.1]
        exact hconn)
      (h.tracked.conn_ne hconn hcond.1) (fun q hq => (hleft q hq).2.1) hone
      (fun q hq => (hleft q hq).2.2) fun _ => hall hcond.2.1 hcond.2.2.1 hcond.2.2.2
  | @writable i res added q hq =>
    have hmem := List.mem_of_getElem? hq
    have hconn : { w with pending := w.pending.eraseIdx i }.connOf q.queuedDst = some q.conn :=
      h.tracked.pending q hmem
    obtain ⟨part, left, hsends, hleft, hone, hall⟩ := @sends_func _ res q added hconn
    exact h.fire hq hsends htracked (fun q' hq' => (hleft q' hq').2) hone
      (hall (h.sound q hmem) hcond.1 hcond.2)

theorem Ordered.initial : Ordered {} :=
  ⟨.initial, List.nodup_nil, nofun, fun _ _ => rfl⟩

/-- **The calls for a connection are served in their order**, in every run that keeps to
`InTurn`: what has been written to it is the beginning of the buffers it was to be sent, and
if nothing is pending it is all of them. -/
theorem writes_in_call_order {es : List Event} (hmeets : Run.Meets World.step InTurn {} es)
    (hrun : World.run {} es = some w) (hok : w.AllOk conn) :
    w.writtenTo conn <+: w.calledFor conn ∧
      ((∀ q ∈ w.pending, q.conn ≠ conn) → w.writtenTo conn = w.calledFor conn) := by
  have h : Ordered w := Run.invariant (fun h => Ordered.step h) hmeets hrun .initial
  have horder := h.order conn hok
  refine ⟨⟨w.unsent conn, horder⟩, fun hnone => ?_⟩
  rw [unsent_eq_nil hnone, List.append_nil] at horder
  exact horder

/-- Two calls, one after the other. -/
theorem writes_in_call_order_two :
    ∃ w, World.run {} [.opened 0 7, .queued { buf := [1, 2] } 0 (.sent 1) true,
        .writable 0 (.sent 1) true, .immediate { buf := [3] } 0 (.sent 1)] = some w ∧
      w.AllOk 0 ∧ w.writtenTo 0 = [1, 2, 3] ∧ w.writtenTo 0 = w.calledFor 0 := by
  refine Run.exists_of_any (P := fun w => w.calls = [⟨0, [1, 2], true⟩, ⟨0, [3], true⟩] ∧
    w.pending = [] ∧ w.writtenTo 0 = [1, 2, 3]) (by decide) ?_
  rintro w hw ⟨hcalls, hpending, hwritten⟩
  have hok : w.AllOk 0 := by
    unfold World.AllOk
    rw [hcalls]
    decide
  refine ⟨hok, hwritten, (writes_in_call_order (by decide) hw hok).2 ?_⟩
  simp [hpending]

/-- **The second of two calls gets ahead of the rest of the first**, and both report
success. -/
theorem second_call_overtakes :
    ∃ w, World.run {} [.opened 0 7, .queued { buf := [1, 2] } 0 (.sent 1) true,
        .immediate { buf := [3] } 0 (.sent 1), .writable 0 (.sent 1) true] = some w ∧
      w.calls = [⟨0, [1, 2], true⟩, ⟨0, [3], true⟩] ∧ w.writtenTo 0 = [1, 3, 2] :=
  Run.exists_of_any (P := fun w => w.calls = [⟨0, [1, 2], true⟩, ⟨0, [3], true⟩] ∧
    w.writtenTo 0 = [1, 3, 2]) (by decide) fun _ _ h => h

end PgBouncer.Output
