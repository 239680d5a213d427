/-
The runs of a session.

A session starts when a server is linked: whatever statements the client has named
and whatever the server's cache holds, with the same statements on the backend.
`Reach` is the set of states it can get into by events that meet a condition, which
is a parameter.  In between, the rest of the pool may change the statement table in
any way that keeps it accounting for this client and this server.
-/
import PgBouncer.Proofs.Effect
import PgBouncer.Proofs.UseCount

namespace PgBouncer

/-- What a session starts from. -/
structure Setup where
  /-- The client's statement names. -/
  names : List PgClientPreparedStatement
  /-- The server's cache, which is what the backend has. -/
  cache : List QueryId
  stmts : Statements
  /-- The references of the other clients and servers. -/
  others : List QueryId
  nodup : cache.Nodup
  counted : Counted stmts (names.map (·.ps) ++ cache ++ others)

namespace Setup

/-- The state a session starts in. -/
def session (u : Setup) : Session :=
  { link :=
      { client := { clientPreparedStatements := u.names }
        server := { serverPreparedStatements := u.cache }
        stmts := u.stmts }
    backend := { stmts := u.cache } }

/-- Nothing named, nothing cached. -/
def empty : Setup where
  names := []
  cache := []
  stmts := {}
  others := []
  nodup := List.nodup_nil
  counted := Counted.nil

end Setup

namespace Session

/-- The states a session can get into by events that meet `ok`. -/
inductive Reach (cfg : Config) (ok : Session → SessionEvent → Prop) (u : Setup) : Session → Prop
  | start : Reach cfg ok u u.session
  | step {s s' : Session} (h : Reach cfg ok u s) (e : SessionEvent) (hok : ok s e)
      (hstep : s.step cfg e = some s') : Reach cfg ok u s'
  /-- The rest of the pool has changed the statement table. -/
  | others {s : Session} (h : Reach cfg ok u s) (g : Statements) (refs : List QueryId)
      (hsound : Link.Sound { s.link with stmts := g } refs) :
      Reach cfg ok u { s with link := { s.link with stmts := g } }

variable {cfg : Config} {s' s : Session}

theorem Reach.run {ok : Session → SessionEvent → Prop} [∀ s e, Decidable (ok s e)] {u : Setup} :
    ∀ {events : List SessionEvent} {s : Session}, Reach cfg ok u s →
      s.run cfg ok events = some s' → Reach cfg ok u s' := by
  intro events
  induction events with
  | nil => intro s h hrun; exact Option.some.inj hrun ▸ h
  | cons e rest ih =>
    intro s h hrun
    obtain ⟨s₁, hstep, hrest⟩ := Option.bind_eq_some_iff.mp hrun
    by_cases hok : ok s e
    · exact ih (h.step e hok ((if_pos hok).symm.trans hstep)) hrest
    · exact absurd ((if_neg hok).symm.trans hstep) (by simp)

/-! ### What one event does -/

theorem clientStep_some {p : Pkt Bytes} (h : s.clientStep cfg p = some s') :
    ∃ l, handleClientWork cfg s.link p = (l, none) ∧
      s' = { s with
        link := l
        packets := s.packets ++ [p]
        log := s.log ++ slotsOf cfg s.backend.mode.copying p s.link.toServer.length
          (l.toServer.drop s.link.toServer.length)
        copyOpen := s.copyOpen && !p.type.isCopyEnd } := by
  unfold clientStep at h
  split at h
  · rename_i l hwork
    exact ⟨l, hwork, (Option.some.inj h).symm⟩
  · exact absurd h (by simp)

theorem readStep_some (h : s.readStep = some s') :
    ∃ p b, s.unread = p :: s'.unread ∧ s.link.toServer[s.backend.read]? = some p ∧
      s.backend.take p = some b ∧ s' = { s with backend := b } := by
  unfold readStep at h
  split at h
  · exact absurd h (by simp)
  · rename_i p hp
    obtain ⟨b, htake, rfl⟩ := Option.map_eq_some_iff.mp h
    refine ⟨p, b, ?_, hp, htake, rfl⟩
    have hread : b.read = s.backend.read + 1 := by
      obtain ⟨mode, _, rfl⟩ := Option.map_eq_some_iff.mp htake
      rfl
    obtain ⟨hlt, rfl⟩ := List.getElem?_eq_some_iff.mp hp
    simp only [unread, hread]
    exact List.drop_eq_getElem_cons hlt

theorem replyStep_some {m : ServerMsg} (h : s.replyStep cfg m = some s') :
    ∃ b l, s.backend.emit m = some b ∧
      processServerPacket cfg
        { s.link with server := { s.link.server with sbufIsEmpty := true } } m = (l, none) ∧
      s' = {
        link := l
        backend := b
        packets := s.packets
        log := s.log
        settled := s.settledAfter m b
        replies := if m.async then s.replies else s.replies ++ [m]
        copyOpen :=
          if m = .copyInResponse then s.unread.all fun p => !p.type.isCopyEnd
          else s.copyOpen } := by
  unfold replyStep at h
  split at h
  · exact absurd h (by simp)
  · rename_i b hemit
    split at h
    · rename_i l hproc
      exact ⟨b, l, hemit, hproc, (Option.some.inj h).symm⟩
    · exact absurd h (by simp)

theorem replyStep_emits {m : ServerMsg} (h : s.replyStep cfg m = some s') :
    Backend.Emits s.backend m s'.backend := by
  obtain ⟨b, l, hemit, _, rfl⟩ := replyStep_some h
  exact Backend.emit_emits hemit

/-! ### What holds in every state -/

/-- The table accounts for the session, no variables are being set, and the backend
has read nothing that was not sent. -/
structure Sane (s : Session) : Prop where
  sound : ∃ others, s.link.Sound others
  settingVars : s.link.server.settingVars = false
  read_le : s.backend.read ≤ s.link.toServer.length

theorem positiveIds_of_sound {l : Link} {others : List QueryId} (hs : l.Sound others) :
    PositiveIds l := by
  refine ⟨hs.counted.queryId_pos, ?_⟩
  intro e he
  have hmem : e.ps ∈ optRefs (some l.client) ++ l.server.refs ++ others := by
    simp only [optRefs, Client.refs, List.mem_append, List.mem_map]
    exact .inl (.inl ⟨e, he, rfl⟩)
  obtain ⟨ps, hps, hid⟩ := (hs.counted.mem_iff e.ps).mpr (List.count_pos_iff.mpr hmem)
  exact hid ▸ hs.counted.queryId_pos ps hps

theorem unread_append {sent : List (Pkt StmtRef)} (hs : s.Sane)
    (htoServer : s'.link.toServer = s.link.toServer ++ sent) (hbackend : s'.backend = s.backend) :
    s'.unread = s.unread ++ sent := by
  rw [unread, unread, htoServer, hbackend, List.drop_append_of_le_length hs.read_le]

/-- The effect of a client's packet, with the packets it sent. -/
theorem clientStep_effect {p : Pkt Bytes} (h : s.Sane) (hstep : s.clientStep cfg p = some s') :
    ∃ added sent, Effect cfg s.link s'.link p added sent ∧ Accepts cfg s.link p s'.link ∧
      s' = { s with
        link := s'.link
        packets := s.packets ++ [p]
        log := s.log ++ slotsOf cfg s.backend.mode.copying p s.link.toServer.length sent
        copyOpen := s.copyOpen && !p.type.isCopyEnd } := by
  obtain ⟨l, hwork, rfl⟩ := clientStep_some hstep
  have hacc := handleClientWork_accepts hwork
  obtain ⟨added, sent, heff⟩ := accepts_effect hacc (positiveIds_of_sound h.sound.choose_spec)
  refine ⟨added, sent, heff, hacc, ?_⟩
  have hdrop : l.toServer.drop s.link.toServer.length = sent := by
    rw [heff.toServer, List.drop_left]
  rw [hdrop]

theorem replyStep_replied {m : ServerMsg} (h : s.Sane) (hstep : s.replyStep cfg m = some s') :
    Replied cfg s.link s'.link m := by
  obtain ⟨b, l, _, hproc, rfl⟩ := replyStep_some hstep
  have hr := processServerPacket_replied (by simpa using h.settingVars) hproc
  have hq : queueAfter { s.link.server with sbufIsEmpty := true } m
      = queueAfter s.link.server m := by cases m <;> rfl
  have hcache : cacheAfter cfg { s.link.server with sbufIsEmpty := true } m
      = cacheAfter cfg s.link.server m := by cases m <;> rfl
  have htoClient := hr.toClient
  rw [hq] at htoClient
  exact { hr with queue := hq ▸ hr.queue, toClient := htoClient, cache := hcache ▸ hr.cache }

theorem Sane.step {cfg : Config} {s s' : Session} {e : SessionEvent} (h : s.Sane)
    (hstep : s.step cfg e = some s') : s'.Sane := by
  cases e with
  | client p =>
    obtain ⟨added, sent, heff, hacc, hs'⟩ := clientStep_effect h hstep
    obtain ⟨others, hsound⟩ := h.sound
    refine ⟨⟨others, sound_accepts hacc hsound⟩, heff.settingVars.trans h.settingVars, ?_⟩
    rw [heff.toServer, List.length_append, hs']
    exact Nat.le_add_right_of_le h.read_le
  | read =>
    obtain ⟨p, b, _, hp, htake, rfl⟩ := readStep_some hstep
    refine ⟨h.sound, h.settingVars, ?_⟩
    obtain ⟨mode, _, rfl⟩ := Option.map_eq_some_iff.mp htake
    exact (List.getElem?_eq_some_iff.mp hp).1
  | reply m =>
    have hr := replyStep_replied h hstep
    obtain ⟨b, l, hemit, hproc, rfl⟩ := replyStep_some hstep
    obtain ⟨others, hsound⟩ := h.sound
    refine ⟨⟨others, ?_⟩, hr.settingVars, ?_⟩
    · have hs := sound_processServerPacket
        (l := { s.link with server := { s.link.server with sbufIsEmpty := true } }) cfg m
        ⟨hsound.counted, hsound.closes⟩
      rwa [hproc] at hs
    · rw [hr.toServer]
      exact (replyStep_emits hstep).position.1 ▸ h.read_le
  | arriving =>
    obtain rfl := Option.some.inj hstep
    obtain ⟨others, hsound⟩ := h.sound
    exact ⟨⟨others, hsound.counted, hsound.closes⟩, h.settingVars, h.read_le⟩

theorem Reach.sane {ok : Session → SessionEvent → Prop} {u : Setup} (h : Reach cfg ok u s) :
    s.Sane := by
  induction h with
  | start =>
    refine ⟨⟨u.others, ?_, by simp [ClosesOnly, Setup.session]⟩, rfl, Nat.zero_le _⟩
    simpa [optRefs, Setup.session, Client.refs, Server.refs] using u.counted
  | step _ e _ hstep ih => exact ih.step hstep
  | others _ g refs hsound ih => exact ⟨⟨refs, hsound⟩, ih.settingVars, ih.read_le⟩

end Session

end PgBouncer
