/-
The operations on sockets keep what holds between them.

Each of them is a handful of the changes that `Proofs.Sockets` is about, and which of them
it is follows from the states of the sockets.  All but one leave the stack such that `Ok`
holds; a request that gives up before it was sent is left with its own end on top of the
stack, and `Settled` allows for that.
-/
import PgBouncer.Proofs.Sockets

namespace PgBouncer.Sockets

variable {cfg : Config} {w w' : World} {c s r p t : Nat} {env : Env}

attribute [local grind] Client.sendingAuthQuery

/-! ### What a list says -/

theorem Files.mem_client (h : Files w) {l : ClientList} :
    c ∈ (w.clientLists l).items ↔ (w.clients c).list = some l := h.clients.mem

theorem Files.mem_server (h : Files w) {l : ServerList} :
    s ∈ (w.serverLists l).items ↔ (w.servers s).list = some l := h.servers.mem

theorem Files.first_waiting (h : Files w) (hfirst : (w.clientLists (.waiting p)).first = some c) :
    ((w.clients c).state = .waiting ∨ (w.clients c).state = .waitingLogin) ∧
      (w.clients c).pool = p := by
  have hmem := h.mem_client.1 (List.mem_of_mem_head? hfirst)
  revert hmem
  unfold Client.list
  cases (w.clients c).state <;> simp

theorem Files.first_waitingCancel (h : Files w)
    (hfirst : (w.clientLists (.waitingCancelReq p)).first = some r) :
    (w.clients r).state = .waitingCancel ∧ (w.clients r).pool = p := by
  have hmem := h.mem_client.1 (List.mem_of_mem_head? hfirst)
  revert hmem
  unfold Client.list
  cases (w.clients r).state <;> simp

theorem Files.idle (h : Files w) (hmem : s ∈ (w.serverLists (.idle p)).items) :
    (w.servers s).state = .idle := by
  have hmem := h.mem_server.1 hmem
  revert hmem
  unfold Server.list
  cases (w.servers s).state <;> simp

theorem Files.used (h : Files w) (hmem : s ∈ (w.serverLists (.used p)).items) :
    (w.servers s).state = .used := by
  have hmem := h.mem_server.1 hmem
  revert hmem
  unfold Server.list
  cases (w.servers s).state <;> simp

theorem Files.single (h : Files w) (hnew : (w.serverLists (.new p)).items = [])
    (hlogin : (w.servers s).state = .login) : (w.servers s).pool ≠ p := by
  rintro rfl
  have hmem : s ∈ (w.serverLists (.new (w.servers s).pool)).items :=
    h.mem_server.2 (by simp [Server.list, hlogin])
  rw [hnew] at hmem
  cases hmem

/-! ### Closing a server -/

theorem disconnectServer_of_link_none (hlink : (w.servers s).link = none)
    (hfree : (w.servers s).state ≠ .free) (hclosed : (w.servers s).state ≠ .justFree) :
    w.disconnectServer cfg s = w.closeServer cfg s := by
  unfold World.disconnectServer World.unlinkServer
  rw [hlink]
  split <;> first | rfl | contradiction | exact ite_self _

theorem Ok.disconnectServer (h : Ok none none w) (hno : .closeServer s ∉ w.todo) :
    Ok none none (w.disconnectServer cfg s) := by
  have hclose (hlink : (w.servers s).link = none) : Ok none none (w.closeServer cfg s) :=
    h.closeServer hlink hno (.inl rfl)
  have hunlink : Ok none none (w.unlinkServer cfg s) := by
    unfold World.unlinkServer
    split
    · rename_i hlink
      exact hclose hlink
    · rename_i hlink
      exact h.unlinkServer hlink
  unfold World.disconnectServer
  split
  case h_7 hlogin =>
    split
    · exact hunlink
    · rename_i hrepl
      exact hclose (h.linked.server_eq_none (by grind))
  case h_8 | h_9 => exact h.die _
  case h_1 | h_2 => exact hunlink
  all_goals
    rename_i hstate
    exact hclose (h.linked.server_eq_none (by grind))

variable {exS : Option Nat}

/-- A server that has just lost its client is closed. -/
theorem Ok.disconnectReleased (h : Ok exS none w) (hex : exS = none ∨ exS = some s)
    (hlink : exS = some s → (w.servers s).link = none)
    (hno : .closeServer s ∉ w.todo) (hfree : (w.servers s).state ≠ .free)
    (hclosed : (w.servers s).state ≠ .justFree) :
    Ok none none (w.disconnectServer cfg s) := by
  rcases hex with rfl | rfl
  · exact h.disconnectServer hno
  · rw [disconnectServer_of_link_none (hlink rfl) hfree hclosed]
    exact h.closeServer (hlink rfl) hno (.inr rfl)

/-! ### `release_server` -/

theorem Ok.reuseOnRelease (h : Ok none none w) :
    Ok none none (w.reuseOnRelease s) := by
  unfold World.reuseOnRelease
  split
  · exact h
  · rename_i c hfirst
    split
    · rename_i hnot
      have hwaits := (h.files.first_waiting hfirst).1
      exact h.activateClient hwaits (h.linked.client_eq_none (by grind))
    · exact h

/-- Only requests that have been sent are left. -/
theorem Canceling.sent_of_takeOff (h : Canceling w)
    (hr : ((w.takeOffCancels s fun c => (w.clients c).state = .waitingCancel).clients
      r).canceledServer = some s) : (w.clients r).state = .activeCancel := by
  have hmem := h.mem r s
  have hrequest := h.request r s
  grind

theorem Ok.settleServer (h : Ok exS none w) (hex : exS = none ∨ exS = some s)
    (hlinks : (w.servers s).link = none ∨
      exS = none ∧ (w.servers s).state = .login)
    (hno : .closeServer s ∉ w.todo) (hfree : (w.servers s).state ≠ .free)
    (hclosed : (w.servers s).state ≠ .justFree) {newstate : ServerState}
    (hnew : newstate = .idle ∨ newstate = .used ∨ newstate = .tested) :
    Ok none none (w.settleServer cfg s newstate env) := by
  have hsent := fun r => @Canceling.sent_of_takeOff w s r h.canceling
  simp only [World.settleServer]
  generalize hw1 : w.takeOffCancels s (fun c => decide ((w.clients c).state = .waitingCancel)) = w1
    at *
  have hoff : Ok exS none w1 := hw1 ▸ h.takeOffCancels _
  have hclients : ∀ x, (w1.clients x).state = (w.clients x).state := by simp [← hw1]
  have hstate : (w1.servers s).state = (w.servers s).state := by simp [← hw1]
  have hlink : (w1.servers s).link = (w.servers s).link := by simp [← hw1]
  have htodo : w1.todo = w.todo := by simp [← hw1]
  rw [← hstate] at hfree hclosed hlinks
  rw [← hlink] at hlinks
  rw [← htodo] at hno
  have hdisconnect : Ok none none (w1.disconnectServer cfg s) :=
    hoff.disconnectReleased hex (by grind) hno hfree hclosed
  split
  · exact hdisconnect
  split
  · exact hdisconnect
  split
  · exact hdisconnect
  split
  · -- a server that logs in is not canceled yet, so this one has no client
    rename_i hcount
    have hitems : (w1.servers s).cancelingClients.items ≠ [] := by
      intro hnil
      have hlength := (hoff.canceling.sound s).count
      rw [hnil] at hlength
      simp [hlength] at hcount
    obtain ⟨r, hr⟩ := List.exists_mem_of_ne_nil _ hitems
    rw [hoff.canceling.mem] at hr
    have hlogin : (w1.servers s).state ≠ .login := by
      intro hlogin
      have hwaits := (hoff.early.waits r s hr hlogin).1
      rw [hclients, hsent r hr] at hwaits
      cases hwaits
    refine hoff.park hex (by grind) hno (by grind) fun _ x hx => ?_
    rw [hclients, hsent x hx]
  split
  · split
    · rename_i x hx
      have hlogin : (w1.servers s).state = .login ∧ exS = none := by grind
      obtain ⟨hlogin, rfl⟩ := hlogin
      exact hoff.activateLinked hx hlogin
    · exact hdisconnect
  · rename_i hrepl
    have hnone : (w1.servers s).link = none := by
      rcases hlinks with hnone | ⟨-, hlogin⟩
      · exact hnone
      · exact hoff.linked.server_eq_none (by grind)
    have hpark : Ok none none (w1.changeServerState cfg s newstate) :=
      hoff.park hex hnone hno (by grind) (by grind)
    split
    · exact hpark.reuseOnRelease
    · split
      · exact hpark
      · exact hpark.disconnectServer hno
    · exact hpark

/-- The client of a server that is released may be the one that is being closed. -/
theorem Ok.releaseServer {exC : Option Nat} (h : Ok none exC w)
    (hex : exC = none ∨ (w.servers s).state = .active ∧ ∃ c, exC = some c ∧
      (w.servers s).link = some c) (hno : .closeServer s ∉ w.todo) :
    Ok none none (w.releaseServer cfg s env) := by
  have hnew : World.newState cfg (w.servers s) = .idle ∨ World.newState cfg (w.servers s) = .used ∨
      World.newState cfg (w.servers s) = .tested := by
    unfold World.newState
    split_ifs <;> simp
  have hreleased (hstate : (w.servers s).state = .active ∨ (w.servers s).state = .beingCanceled) :
      Ok none none ((w.unlinkReleased s).settleServer cfg s (World.newState cfg (w.servers s))
        env) := by
    unfold World.unlinkReleased
    split
    · rename_i hlink
      have hnone : exC = none := by grind
      subst hnone
      exact h.settleServer (.inl rfl) (.inl hlink) hno (by grind) (by grind) hnew
    · rename_i c hlink
      have hfits := h.linked.fits c s ((h.linked.sym c s).2 hlink)
      have hunlink : Ok (some s) none ((w.unlink c s).modifyClient c
          fun cl => { cl with copyMode := false }) :=
        (h.unlink hlink (by grind) (by grind)).modifyClient rfl
      refine hunlink.settleServer (.inr rfl) (.inl ?_) hno ?_ ?_ hnew
      · simp
      · simp only [servers_modifyClient, servers_unlink]
        grind
      · simp only [servers_modifyClient, servers_unlink]
        grind
  unfold World.releaseServer
  split
  case h_1 hstate => exact hreleased (.inr hstate)
  case h_2 hstate => exact hreleased (.inl hstate)
  all_goals
    rename_i hstate
    have hnone : exC = none := by grind
    subst hnone
  case h_3 | h_4 =>
    exact h.settleServer (.inl rfl)
      (.inl (h.linked.server_eq_none (by grind))) hno
      (by simp [hstate]) (by simp [hstate]) (.inl rfl)
  case h_5 =>
    exact h.settleServer (.inl rfl) (.inr ⟨rfl, hstate⟩) hno (by simp [hstate])
      (by simp [hstate]) (.inl rfl)
  all_goals exact h.die _

/-! ### `disconnect_client` -/

/-- What an operation leaves behind.  A request that gives up before it was sent is left with
its own end on top of the stack. -/
def Settled (w : World) : Prop :=
  Ok none none w ∨ ∃ w₀ c, w = w₀.push [.closeClient c] ∧ Ok none none w₀ ∧
    (w₀.clients c).link = none ∧ (w₀.clients c).canceledServer = none ∧ .closeClient c ∉ w₀.todo

theorem Ok.closing (h : Ok none (some c) w) (hc : Closing (w.clients c)) : Ok none none w := by
  refine ⟨h.files, h.linked, h.working, h.canceling, h.early, ?_, h.stack.server, h.stack.walks,
    h.stack.stacked⟩
  intro x _ hmem
  by_cases hx : x = c
  · rw [hx]
    exact hc
  · exact h.stack.client x (by simpa using Ne.symm hx) hmem

/-- A connection a request was sent on is closed. -/
theorem Ok.dropConnection (h : Ok none none w) :
    Ok none none (w.dropConnection cfg r) ∧ ((w.dropConnection cfg r).clients r).link = none ∧
      ((w.dropConnection cfg r).clients r).state = (w.clients r).state ∧
      (w.dropConnection cfg r).todo = w.todo := by
  unfold World.dropConnection
  split
  · rename_i hlink
    exact ⟨h, hlink, rfl, rfl⟩
  · rename_i s hlink
    have hback := (h.linked.sym r s).1 hlink
    have hfits := h.linked.fits r s hlink
    have hready : Ok none none (w.modifyServer s fun sv => { sv with ready := true }) :=
      h.modifyServer rfl
    have heq : (w.unlink r s).modifyServer s (fun sv => { sv with ready := true }) =
        (w.modifyServer s fun sv => { sv with ready := true }).unlink r s := by
      simp [World.unlink, World.modifyServer, World.modifyClient]
    rw [heq, disconnectServer_of_link_none (by simp) (by simp; grind) (by simp; grind)]
    refine ⟨hready.unlink_closeServer (by simpa using hback), ?_, ?_, rfl⟩
    · simp [World.closeServer]
    · simp [World.closeServer]

theorem Ok.finishCancel (h : Ok none none w) (hlink : (w.clients r).link = none)
    (hno : .closeClient r ∉ w.todo)
    (hstate : (w.clients r).state = .activeCancel ∨ (w.clients r).state = .waitingCancel) :
    Settled ((w.push [.closeClient r]).finishCancel cfg r env) := by
  have hpush := h.push_closeClient hno
  unfold World.finishCancel
  split
  · rename_i hnone
    rcases hstate with hactive | hwaiting
    · exact .inl (hpush.closing ⟨hlink, hnone, .inr (.inr hactive)⟩)
    · exact .inr ⟨w, r, rfl, h, hlink, hnone, hno⟩
  · rename_i s hs
    dsimp only
    rw [removeCancel_eq hpush.canceling hs]
    have hmem : r ∈ (w.servers s).cancelingClients.items := (h.canceling.mem r s).2 hs
    have hoff : Ok none (some r) ((w.push [.closeClient r]).takeOffCancels s fun x => x = r) :=
      hpush.takeOffCancels _
    rcases hstate with hactive | hwaiting
    · have hclosing : Ok none none ((w.push [.closeClient r]).takeOffCancels s fun x => x = r) := by
        refine hoff.closing ⟨?_, ?_, ?_⟩
        · simpa using hlink
        · simp [hmem]
        · simp [hactive]
      split
      · rename_i hreleases
        exact .inl
          (hclosing.releaseServer (.inl rfl) (hclosing.stack.closeServer_notMem (by grind)))
      · exact .inl hclosing
    · have hnot : (w.servers s).state ≠ .beingCanceled := by
        intro hbeing
        have := h.canceling.sent r s hs hbeing
        grind
      rw [if_neg (by simp [hnot])]
      refine .inr ⟨w.takeOffCancels s fun x => x = r, r, rfl, h.takeOffCancels _, ?_, ?_, hno⟩
      · simpa using hlink
      · simp [hmem]

theorem Ok.disconnectClient (h : Ok none none w) (hno : .closeClient c ∉ w.todo) :
    Settled (w.disconnectClient cfg c env) := by
  have hnone := @Canceling.canceledServer_eq_none w c h.canceling
  have hclose (hlink : (w.clients c).link = none) (hwaiting : (w.clients c).state ≠ .waitingCancel)
      (hactive : (w.clients c).state ≠ .activeCancel) : Settled (w.closeClient c) :=
    .inl (h.closeClient hlink (hnone hwaiting hactive) hno)
  have hboth (s : Nat) (hlink : (w.clients c).link = some s)
      (hwaiting : (w.clients c).state ≠ .waitingCancel)
      (hactive : (w.clients c).state ≠ .activeCancel) :
      Settled (((w.unlink c s).disconnectServer cfg s).closeClient c) := by
    have hback := (h.linked.sym c s).1 hlink
    have hfits := h.linked.fits c s hlink
    rw [disconnectServer_of_link_none (by simp) (by simp; grind) (by simp; grind)]
    refine .inl ((h.unlink_closeServer hback).closeClient ?_ ?_ hno)
    · simp [World.closeServer]
    · simp [World.closeServer, hnone hwaiting hactive]
  have hrelease (s : Nat) (hlink : (w.clients c).link = some s)
      (hstate : (w.clients c).state = .active ∨ (w.clients c).state = .login) :
      Settled ((w.push [.closeClient c]).releaseServer cfg s env) := by
    have hback := (h.linked.sym c s).1 hlink
    have hfits := h.linked.fits c s hlink
    refine .inl ((h.push_closeClient hno).releaseServer (.inr ⟨?_, c, rfl, hback⟩) ?_)
    · simp only [servers_push]
      grind
    · simpa using h.stack.closeServer_notMem (by grind)
  have hrepl (s : Nat) (hlink : (w.clients c).link = some s)
      (hstate : (w.clients c).state = .waiting ∨ (w.clients c).state = .waitingLogin) :
      (w.clients c).replication = true := by
    have hfits := h.linked.fits c s hlink
    have hasking := h.linked.asking c
    grind
  have hcancels (hstate : (w.clients c).state = .activeCancel ∨
      (w.clients c).state = .waitingCancel) :
      Settled (((w.dropConnection cfg c).push [.closeClient c]).finishCancel cfg c env) := by
    obtain ⟨hdrop, hlink, hsame, htodo⟩ := @Ok.dropConnection cfg w c h
    exact hdrop.finishCancel hlink (by rw [htodo]; exact hno)
      (by rw [hsame]; exact hstate)
  unfold World.disconnectClient
  dsimp only
  split
  case h_1 hstate | h_2 hstate =>
    split
    · exact hclose ‹_› (by simp [hstate]) (by simp [hstate])
    split
    · exact hboth _ ‹_› (by simp [hstate]) (by simp [hstate])
    · exact hrelease _ ‹_› (by simp [hstate])
  case h_3 hstate => exact hcancels (.inl hstate)
  case h_4 hstate => exact hcancels (.inr hstate)
  case h_5 hstate | h_6 hstate =>
    split
    · exact hboth _ ‹_› (by simp [hstate]) (by simp [hstate])
    · rename_i hother
      refine hclose (Option.eq_none_iff_forall_ne_some.mpr fun s hlink => ?_)
        (by simp [hstate]) (by simp [hstate])
      exact hother s (hrepl s hlink (by simp [hstate])) hlink
  all_goals exact .inl (h.die _)

/-! ### Getting a server -/

/-- A client that may ask for a server, or wait for one. -/
@[grind] def Client.mayWait (cl : Client) : Prop :=
  cl.state = .active ∨ cl.state = .login ∧ cl.sendingAuthQuery = true

theorem Ok.pauseClient (h : Ok none none w) (hc : (w.clients c).mayWait)
    (hlink : env.shutdown = false → (w.clients c).link = none) (hno : .closeClient c ∉ w.todo) :
    Settled (w.pauseClient cfg c env) := by
  unfold World.pauseClient
  split
  · exact h.disconnectClient hno
  · rename_i hshutdown
    have hwait := h.wait hc (hlink (by simpa using hshutdown)) hno
    dsimp only
    split
    · exact .inl (hwait.modifyClient rfl)
    · exact hwait.disconnectClient hno

/-- What `takeIdle` leaves as it was. -/
structure TookIdle (w w' : World) (found : Option Nat) : Prop where
  ok : Ok none none w'
  idle : ∀ s, found = some s → (w'.servers s).state = .idle
  clients : ∀ x, ∃ canceled, w'.clients x = { w.clients x with canceledServer := canceled }
  todo : w'.todo = w.todo

theorem Ok.takeIdle (h : Ok none none w) {items : List Nat} (hnodup : items.Nodup)
    (hidle : ∀ s ∈ items, (w.servers s).state = .idle) :
    TookIdle w (w.takeIdle cfg items).1 (w.takeIdle cfg items).2 := by
  induction items generalizing w with
  | nil => exact ⟨h, by simp [World.takeIdle], fun x => ⟨_, rfl⟩, rfl⟩
  | cons s rest ih =>
    have hs := hidle s List.mem_cons_self
    unfold World.takeIdle
    split
    · have hlink : (w.servers s).link = none :=
        h.linked.server_eq_none (by grind)
      have hno : .closeServer s ∉ w.todo := h.stack.closeServer_notMem (by grind)
      rw [disconnectServer_of_link_none hlink (by simp [hs]) (by simp [hs])]
      have hclosed : Ok none none (w.closeServer cfg s) := h.closeServer hlink hno (.inl rfl)
      have hrest := ih hclosed (List.nodup_cons.1 hnodup).2 (fun x hx => by
          have hne : x ≠ s := fun heq => (List.nodup_cons.1 hnodup).1 (heq ▸ hx)
          simp [World.closeServer, hne, hidle x (List.mem_cons_of_mem s hx)])
      refine { hrest with clients := fun x => ?_ }
      obtain ⟨canceled, heq⟩ := hrest.clients x
      refine ⟨canceled, ?_⟩
      rw [heq]
      simp [World.closeServer]
    · refine ⟨h, ?_, fun x => ⟨_, rfl⟩, rfl⟩
      rintro _ ⟨⟩
      exact hs

/-- A client has got a server and can go on, or something else has become of it. -/
structure Found (w : World) (c : Nat) (result : World × Bool) : Prop where
  settled : Settled result.1
  linked : result.2 = true → Ok none none result.1 ∧ (result.1.clients c).link ≠ none ∧
    (result.1.clients c).state = (w.clients c).state

theorem Ok.linkServer (h : Ok none none w) (hc : (w.clients c).mayWait)
    (hlink : (w.clients c).link = none) (hno : .closeClient c ∉ w.todo)
    (hidle : (w.servers s).state = .idle) (varchange : Bool) :
    Found w c (w.linkServer cfg c s varchange env) := by
  have hset : Ok none none ((w.setLink c s).changeServerState cfg s .active) :=
    h.setLink (by grind) hlink hno hidle
  unfold World.linkServer
  dsimp only
  split
  · have hvars : Ok none none (((w.setLink c s).changeServerState cfg s .active).modifyServer s
        fun sv => { sv with settingVars := true, ready := false }) :=
      hset.modifyServer rfl
    split
    · refine ⟨.inl ?_, by simp⟩
      dsimp only
      exact hvars.modifyClient rfl
    · exact ⟨hvars.disconnectClient hno, by simp⟩
  · exact ⟨.inl hset, fun _ => ⟨hset, by simp, by simp⟩⟩

theorem Ok.findServer (h : Ok none none w) (hc : (w.clients c).mayWait)
    (hno : .closeClient c ∉ w.todo) : Found w c (w.findServer cfg c env) := by
  unfold World.findServer
  dsimp only
  split
  · rename_i hsome
    refine ⟨.inl h, fun _ => ⟨h, ?_, rfl⟩⟩
    simpa [Option.isSome_iff_ne_none] using hsome
  rename_i hlink
  have hlink : (w.clients c).link = none := by simpa using hlink
  split
  · exact ⟨h.pauseClient hc (fun _ => hlink) hno, by simp⟩
  have htook := @Ok.takeIdle cfg w h _ (h.files.servers.sound (.idle (w.clients c).pool)).nodup
    fun s hs => h.files.idle hs
  obtain ⟨canceled, hclient⟩ := htook.clients c
  have hno' := hno
  rw [← htook.todo] at hno'
  split
  · rename_i w₁ heq
    rw [heq] at htook hclient hno'
    dsimp only at htook hclient hno'
    split
    · exact ⟨htook.ok.pauseClient (by rw [hclient]; exact hc)
        (fun _ => by rw [hclient]; exact hlink) hno', by simp⟩
    · exact ⟨htook.ok.disconnectClient hno', by simp⟩
  · rename_i w₁ s heq
    rw [heq] at htook hclient hno'
    dsimp only at htook hclient hno'
    have hs := htook.idle s rfl
    have hgo (varchange : Bool) : Found w c (w₁.linkServer cfg c s varchange env) := by
      have hfound := @Ok.linkServer cfg w₁ c s env htook.ok
        (by rw [hclient]; exact hc) (by rw [hclient]; exact hlink) hno' hs varchange
      refine ⟨hfound.settled, fun htrue => ?_⟩
      obtain ⟨hok, hne, hstate⟩ := hfound.linked htrue
      refine ⟨hok, hne, ?_⟩
      rw [hstate, hclient]
    split
    · exact hgo false
    split
    · exact hgo env.varchange
    · have hslink : (w₁.servers s).link = none :=
        htook.ok.linked.server_eq_none (by grind)
      have hsno : .closeServer s ∉ w₁.todo := htook.ok.stack.closeServer_notMem (by grind)
      rw [disconnectServer_of_link_none hslink (by simp [hs]) (by simp [hs])]
      refine ⟨(htook.ok.closeServer hslink hsno (.inl rfl)).pauseClient ?_ ?_ hno', by simp⟩
      · simpa [World.closeServer, hclient, Client.mayWait, Client.sendingAuthQuery] using hc
      · intro _
        simpa [World.closeServer, hclient] using hlink

theorem Ok.startAuthQuery (h : Ok none none w) (hlogin : (w.clients c).state = .login)
    (hno : .closeClient c ∉ w.todo) (pool db : Nat) :
    Settled (w.startAuthQuery cfg c pool db env) := by
  have hasks : Ok none none (w.modifyClient c fun cl =>
      { cl with pool, db, waitForUserConn := true }) := by
    refine h.modifyLogin hlogin hlogin rfl rfl ?_
    simp [Client.asked, Client.sendingAuthQuery]
  have hfound := @Ok.findServer cfg _ c env hasks
    (by simp [Client.mayWait, Client.sendingAuthQuery, hlogin]) hno
  unfold World.startAuthQuery
  dsimp only
  split
  · rename_i w₁ heq
    rw [heq] at hfound
    exact hfound.settled
  · rename_i w₁ heq
    rw [heq] at hfound
    obtain ⟨hok, hlink, hstate⟩ := hfound.linked rfl
    dsimp only at hok hlink hstate
    rw [clients_modifyClient, if_pos rfl] at hstate
    generalize hw₂ : w₁.modifyClient c (fun cl =>
      { cl with waitForUserConn := false, waitForUser := true }) = w₂
    have hwait : Ok none none w₂ := by
      refine hw₂ ▸ hok.modifyLogin (hstate.trans hlogin) (hstate.trans hlogin) rfl rfl ?_
      simp [Client.asked, Client.sendingAuthQuery]
    have hlink' : (w₂.clients c).link ≠ none := by simpa [← hw₂] using hlink
    have hlogin' : (w₂.clients c).state = .login := by simp [← hw₂, hstate, hlogin]
    split
    · exact .inl (hwait.die _)
    · rename_i s hs
      have hback := (hwait.linked.sym c s).1 hs
      have hfits := hwait.linked.fits c s hs
      have hsno : .closeServer s ∉ w₂.todo := hwait.stack.closeServer_notMem (by grind)
      split
      · refine .inl
          ((hwait.push_closeClient (hwait.stack.closeClient_notMem (by grind))).releaseServer
          (.inr ⟨?_, c, rfl, hback⟩) ?_)
        · simp only [servers_push]
          grind
        · simpa using hsno
      · have hsend : Ok none none ((w₂.modifyClient c fun cl =>
            { cl with reading := false }).modifyServer s
            fun sv => { sv with ready := false, outstanding := sv.outstanding + 1 }) :=
          (hwait.modifyClient rfl).modifyServer rfl
        split
        · exact .inl hsend
        · exact .inl (hsend.disconnectServer hsno)

/-- The login ends for a client without a server. -/
theorem Ok.finishClientLogin (h : Ok none none w)
    (hstate : (w.clients c).state = .login ∨ (w.clients c).state = .active)
    (hno : .closeClient c ∉ w.todo)
    (hlink : w.welcomeMsgReady (w.clients c).pool = false → cfg.admin (w.clients c).pool = false →
      env.shutdown = false → (w.clients c).link = none) (key : Bytes) :
    Settled (w.finishClientLogin cfg c key env) := by
  unfold World.finishClientLogin
  generalize hw₁ : (if (w.clients c).state = .login then w.changeClientState c .active else w) = w₁
  obtain ⟨hactive, hclient, hrest⟩ : Ok none none w₁ ∧
      w₁.clients c = { w.clients c with state := .active } ∧ w₁.todo = w.todo ∧
        w₁.welcomeMsgReady = w.welcomeMsgReady := by
    subst hw₁
    split
    · rename_i hlogin
      exact ⟨h.loggedIn hlogin, by simp [hlogin], rfl, rfl⟩
    · rename_i hnot
      exact ⟨h, by rw [← hstate.resolve_left hnot], rfl, rfl⟩
  have hauth : Ok none none (w₁.modifyClient c fun cl => { cl with waitForAuth := false }) :=
    hactive.modifyClient rfl
  dsimp only
  split
  · exact .inl (hauth.modifyClient rfl)
  · rename_i hready
    simp only [World.modifyClient, hrest.2, hclient] at hready
    refine Ok.pauseClient (hauth.modifyClient rfl) ?_ ?_ ?_
    · simp [hclient, Client.mayWait]
    · intro hshutdown
      simp only [clients_modifyClient, if_pos, hclient]
      apply hlink <;> simp_all
    · simpa [hrest.1] using hno

theorem Ok.forward (h : Ok none none w) (hstate : (w.clients c).state = .active)
    (hno : .closeClient c ∉ w.todo) (tracked : Nat) :
    Settled (w.forward cfg c tracked env) := by
  have hfound := @Ok.findServer cfg w c env h (.inl hstate) hno
  unfold World.forward
  split
  · rename_i w₁ heq
    rw [heq] at hfound
    exact hfound.settled
  · rename_i w₁ heq
    rw [heq] at hfound
    have hok := (hfound.linked rfl).1
    split
    · exact .inl (hok.die _)
    · exact .inl (hok.modifyServer rfl)

/-! ### Cancel requests -/

/-- Behind `pause_cancel_request`. -/
theorem Ok.pauseCancelRequest (h : Ok none none (w.changeClientState r .waitingCancel))
    (hno : .closeClient r ∉ w.todo) :
    Settled (w.pauseCancelRequest cfg r env) := by
  unfold World.pauseCancelRequest
  dsimp only
  split
  · exact .inl (h.modifyClient rfl)
  · exact h.disconnectClient hno

theorem Ok.acceptCancelRequestForPeer (h : Ok none none w) (hlogin : (w.clients r).state = .login)
    (hasked : (w.clients r).asked = false)
    (hno : .closeClient r ∉ w.todo) (key : Bytes) :
    Settled (w.acceptCancelRequestForPeer cfg r key env) := by
  unfold World.acceptCancelRequestForPeer
  split
  · exact h.disconnectClient hno
  split
  · exact h.disconnectClient hno
  · exact (h.acceptCancelForPeer hlogin hasked hno hlogin rfl rfl).pauseCancelRequest hno

theorem Ok.acceptCancelRequest (h : Ok none none w) (hlogin : (w.clients r).state = .login)
    (hasked : (w.clients r).asked = false)
    (hno : .closeClient r ∉ w.todo) (key : Bytes) {found : Option Nat}
    (hfound : ∀ t, found = some t → (w.clients t).state = .active ∨
      (w.clients t).state = .waiting ∨ (w.clients t).state = .waitingLogin) :
    Settled (w.acceptCancelRequest cfg r key found env) := by
  have hclose : Settled (w.disconnectClient cfg r env) := h.disconnectClient hno
  unfold World.acceptCancelRequest
  split
  · exact hclose
  rename_i t
  split
  · exact hclose
  split
  · exact hclose
  rename_i s hlink
  split
  · exact hclose
  · exact Ok.pauseCancelRequest
      (h.acceptCancel hlogin hasked hno hlink (hfound t rfl) hlogin rfl rfl rfl) hno

theorem unlink_setLink (hc : (w.clients c).link = none) (hs : (w.servers s).link = none) :
    (w.setLink c s).unlink c s = w := by
  have hclient : { w.clients c with link := none } = w.clients c := by rw [← hc]
  have hserver : { w.servers s with link := none } = w.servers s := by rw [← hs]
  simp only [World.setLink, World.unlink, World.modifyClient, World.modifyServer,
    Function.update_self, Function.update_idem, hclient, hserver, Function.update_eq_self]

/-- A request that is not sent is closed, and the connection with it. -/
theorem Ok.cancelNotSent (h : Ok none none w) (hwaits : (w.clients r).state = .waitingCancel)
    (hlink : (w.clients r).link = none)
    (hslink : (w.servers s).link = none) (hlogin : (w.servers s).state = .login)
    (hno : .closeClient r ∉ w.todo) (hsno : .closeServer s ∉ w.todo) :
    Settled ((w.setLink r s).disconnectClient cfg r env) := by
  have hready : Ok none none (w.modifyServer s fun sv => { sv with ready := true }) :=
    h.modifyServer rfl
  have hdrop : (w.setLink r s).dropConnection cfg r =
      (w.modifyServer s fun sv => { sv with ready := true }).closeServer cfg s := by
    unfold World.dropConnection
    rw [clients_setLink, if_pos rfl]
    dsimp only
    rw [unlink_setLink hlink hslink, disconnectServer_of_link_none (by simpa using hslink)
      (by simp [hlogin]) (by simp [hlogin])]
  have hclosed : Ok none none
      ((w.modifyServer s fun sv => { sv with ready := true }).closeServer cfg s) :=
    hready.closeServer (by simpa using hslink) hsno (.inl rfl)
  unfold World.disconnectClient
  simp only [clients_setLink, hwaits]
  rw [hdrop]
  refine hclosed.finishCancel ?_ hno ?_
  · simpa [World.closeServer] using hlink
  · simp [World.closeServer, hwaits]

theorem Ok.forwardCancelRequest (h : Ok none none w) (hwaits : (w.clients r).state = .waitingCancel)
    (hlogin : (w.servers s).state = .login)
    (hnew : (w.servers s).startupSent = false)
    (hpool : (w.clients r).pool = (w.servers s).pool) :
    Settled (w.forwardCancelRequest cfg s r env) := by
  have hlink : (w.clients r).link = none := h.linked.client_eq_none (by grind)
  have hslink : (w.servers s).link = none := h.linked.server_eq_none (by grind)
  have hno : .closeClient r ∉ w.todo := h.stack.closeClient_notMem (by grind)
  have hsno : .closeServer s ∉ w.todo := h.stack.closeServer_notMem (by grind)
  have hclose : Settled ((w.setLink r s).disconnectClient cfg r env) :=
    h.cancelNotSent hwaits hlink hslink hlogin hno hsno
  have hsend : Ok none none (((w.setLink r s).changeClientState r .activeCancel).changeServerState
      cfg s .activeCancel) := h.sendCancel hwaits hlink hslink hlogin hnew hpool
  unfold World.forwardCancelRequest
  dsimp only
  split
  · exact hclose
  split
  · exact hclose
  split
  · exact .inl (hsend.congr rfl)
  · exact .inl hsend

/-! ### Servers -/

theorem Ok.handleConnect (h : Ok none none w) (hlogin : (w.servers s).state = .login)
    (hnew : (w.servers s).startupSent = false) :
    Settled (w.handleConnect cfg s env) := by
  have hconnected : Ok none none (w.modifyServer s fun sv => { sv with connected := true }) :=
    h.modifyNew rfl rfl rfl rfl id id fun _ => rfl
  unfold World.handleConnect
  dsimp only
  split
  · rename_i r hfirst
    obtain ⟨hwaits, hpool⟩ := hconnected.files.first_waitingCancel hfirst
    exact hconnected.forwardCancelRequest hwaits (by simpa using hlogin)
      (by simpa using hnew) hpool
  split
  · exact .inl (hconnected.disconnectServer (h.stack.closeServer_notMem (by grind)))
  · exact .inl hconnected

theorem Ok.sendStartupMessage (h : Ok none none w) (hlogin : (w.servers s).state = .login)
    (hconnected : (w.servers s).connected = true)
    (hnew : (w.servers s).startupSent = false) :
    Ok none none (w.sendStartupMessage cfg s env) := by
  have hsent : Ok none none (w.modifyServer s fun sv => { sv with startupSent := true }) :=
    h.modifyNew rfl rfl rfl rfl id (fun _ => rfl) fun _ => hconnected
  have hsno : .closeServer s ∉ w.todo := h.stack.closeServer_notMem (by grind)
  unfold World.sendStartupMessage
  dsimp only
  split
  · split
    · exact hsent
    · exact hsent.disconnectServer hsno
  rename_i c hfirst
  split
  · rename_i hwants
    obtain ⟨hwaits, hpool⟩ := hsent.files.first_waiting hfirst
    simp only [clients_modifyServer, servers_modifyServer, if_pos] at hwants hwaits hpool
    have hrepl : Ok none none ((w.modifyServer s fun sv =>
        { sv with startupSent := true }).modifyServer s fun sv =>
          { sv with replication := true }) :=
      hsent.modifyNew rfl rfl rfl rfl (fun _ => rfl) id (by simp [hconnected])
    split
    · -- a client that is linked already has the one server of its pool that logs in
      have hasking := h.linked.asking c
      have hlink : (w.clients c).link = none := by
        refine h.linked.client_eq_none fun x hfits => ?_
        have hsingle := h.early.single x s
        grind
      have hslink : (w.servers s).link = none := h.linked.server_eq_none (by grind)
      have hwaiting : (w.clients c).state = .waiting := by grind
      refine hrepl.linkStartup ?_ ?_ ?_ ?_ ?_ ?_ ?_ ?_ hsno
      · simpa using hwaiting
      · simpa using hlink
      · simpa [Client.wantsReplication] using hwants
      · simpa using hpool
      · simpa using hlogin
      · simpa using hslink
      · simp
      · simp
    · exact hrepl.disconnectServer hsno
  split
  · exact hsent
  · exact hsent.disconnectServer hsno

theorem Ok.flush (h : Ok none none w) (htodo : w.todo = []) :
    Ok none none (w.flush cfg s env) := by
  unfold World.flush
  dsimp only
  generalize hw₁ : (w.modifyServer s fun sv => { sv with resetting := false }) = w₁
  have hreset : Ok none none w₁ := hw₁ ▸ h.modifyServer rfl
  have hrelease : Ok none none (w₁.releaseServer cfg s env) :=
    hreset.releaseServer (.inl rfl) (by simp [← hw₁, htodo])
  split
  · exact h
  split
  · split
    · exact h.die _
    · exact Ok.push_reading (Ok.modifyClient (h.modifyServer rfl) rfl) (by simp [htodo])
  split
  · split
    case h_4 => exact hreset
    all_goals
      split
      · exact hrelease
      split
      · exact hreset
      · exact hrelease
  · exact h

theorem Ok.traffic (h : Ok none none w) (ready sbufIsEmpty copyMode : Bool) (outstanding : Nat) :
    Ok none none (w.traffic s ready sbufIsEmpty copyMode outstanding) := by
  have hflags : Ok none none (w.modifyServer s fun sv =>
      { sv with ready, sbufIsEmpty, outstanding }) :=
    h.modifyServer rfl
  unfold World.traffic
  dsimp only
  split
  · exact hflags
  · exact hflags.modifyClient rfl

theorem Ok.authQueryDone (h : Ok none none w) (htodo : w.todo = [])
    (ready sbufIsEmpty userFound : Bool) (outstanding : Nat) :
    Settled (w.authQueryDone cfg s ready sbufIsEmpty userFound outstanding env) := by
  have hflags : Ok none none (w.modifyServer s fun sv =>
      { sv with ready, sbufIsEmpty, outstanding }) :=
    h.modifyServer rfl
  unfold World.authQueryDone
  dsimp only
  split
  · exact .inl (hflags.die _)
  split
  · exact .inl (Ok.push_reading (Ok.modifyClient (hflags.modifyServer rfl) rfl) (by simp [htodo]))
  · exact hflags.disconnectClient (by simp [htodo])

/-! ### Upkeep -/

theorem Ok.launchRecheck (h : Ok none none w) {items : List Nat} (hnodup : items.Nodup)
    (hused : ∀ s ∈ items, (w.servers s).state = .used) :
    Ok none none (w.launchRecheck cfg env items) := by
  induction items generalizing w with
  | nil => exact h
  | cons s rest ih =>
    have hs := hused s List.mem_cons_self
    have hno : .closeServer s ∉ w.todo := h.stack.closeServer_notMem (by grind)
    have hlink : (w.servers s).link = none := h.linked.server_eq_none (by grind)
    unfold World.launchRecheck
    split
    · refine ih (h.disconnectServer hno) (List.nodup_cons.1 hnodup).2 fun x hx => ?_
      have hne : x ≠ s := fun heq => (List.nodup_cons.1 hnodup).1 (heq ▸ hx)
      rw [disconnectServer_of_link_none hlink (by simp [hs]) (by simp [hs])]
      simp [World.closeServer, hne, hused x (List.mem_cons_of_mem s hx)]
    split
    · have htested : Ok none none (w.changeServerState cfg s .tested) :=
        h.park (.inl rfl) hlink hno (by simp) (by simp)
      dsimp only
      split
      · exact htested
      · exact htested.disconnectServer hno
    · exact h.releaseServer (.inl rfl) hno

variable {rest : List Task}

theorem stacked_of_closes {tasks : List Task} (hclient : ∀ t ∈ tasks, t.closes = false)
    (hno : ∀ t ∈ rest, t.closes = false) (hrest : Stacked rest) : Stacked (tasks ++ rest) := by
  induction tasks with
  | nil => exact hrest
  | cons t tasks ih =>
    have htasks := ih fun x hx => hclient x (List.mem_cons_of_mem t hx)
    have hall : ∀ x ∈ tasks ++ rest, x.closes = false := by
      intro x hx
      rcases List.mem_append.1 hx with hx | hx
      · exact hclient x (List.mem_cons_of_mem t hx)
      · exact hno x hx
    have hc (c : Nat) : .closeClient c ∉ tasks ++ rest := fun hmem => by cases hall _ hmem
    have hs (s : Nat) : .closeServer s ∉ tasks ++ rest := fun hmem => by cases hall _ hmem
    cases t
    case disconnectClient c | closeClient c | reading c => exact ⟨hc c, htasks⟩
    case disconnectServer s | closeServer s => exact ⟨hs s, htasks⟩
    all_goals exact ⟨hall, htasks⟩

/-- Calls are put on an empty stack, or one on which nothing is being closed. -/
theorem Ok.push_calls (h : Ok none none w) {tasks : List Task}
    (hcloses : ∀ t ∈ tasks, t.closes = false) (hwalks : ∀ t ∈ tasks, t.Walks)
    (hno : ∀ t ∈ w.todo, t.closes = false) : Ok none none (w.push tasks) :=
  h.push hcloses hwalks (stacked_of_closes hcloses hno h.stack.stacked)

theorem Ok.tagPoolDirty (h : Ok none none w) (htodo : w.todo = []) :
    Ok none none (w.tagPoolDirty cfg p) := by
  unfold World.tagPoolDirty
  split
  · exact h
  · refine Ok.push_calls ?_ ?_ ?_ ?_
    · refine h.congr ?_
      simp only [World.core, apply_ite Server.core]
      simp only [Server.core, ite_self]
    · simp [Task.closes]
    · simp [Task.Walks]
    · simp [htodo]

theorem Ok.maintServer (h : Ok none none w) (htodo : w.todo = []) :
    Ok none none (w.maintServer cfg s) := by
  unfold World.maintServer
  have hall {first second : Prop} [Decidable first] [Decidable second] :
      ∀ t ∈ (if first then [Task.disconnectServer s] else []) ++
        (if second then [Task.disconnectServer s] else []), t = .disconnectServer s := by
    intro t ht
    split_ifs at ht <;> simp at ht
    all_goals exact ht
  refine h.push_calls (fun t ht => ?_) (fun t ht => ?_) (by simp [htodo])
  · rw [hall t ht]
    rfl
  · rw [hall t ht]
    trivial

/-! ### The stack -/

theorem Stacked.tail {task : Task} (h : Stacked (task :: rest)) :
    Stacked rest := by
  cases task <;> exact h.2

/-- A call begins; a server that is closed at last is taken care of now. -/
theorem Ok.pop (h : Ok none none w) {task : Task} (htodo : w.todo = task :: rest)
    (hserver : ∀ s, exS ≠ some s → task ≠ .closeServer s) :
    Ok exS none { w with todo := rest } := by
  have hmem : ∀ t ∈ rest, t ∈ w.todo := fun t ht => htodo ▸ List.mem_cons_of_mem task ht
  have hstacked := h.stack.stacked
  rw [htodo] at hstacked
  refine h.restack (fun s hex hactive hlink => ?_)
    ⟨fun c hex hc => h.stack.client c hex (hmem _ hc),
    fun s hs => h.stack.server s (hmem _ hs), fun t ht => h.stack.walks t (hmem t ht),
    hstacked.tail⟩
  have hclose := h.working s (by simp) hactive hlink
  rw [htodo] at hclose
  rcases List.mem_cons.1 hclose with heq | hclose
  · exact absurd heq.symm (hserver s hex)
  · exact hclose

theorem Ok.visit (h : Ok none none w) (hno : .closeClient c ∉ w.todo) {walk : Walk}
    (hwaits : ∀ p, walk = .activate p →
      (w.clients c).state = .waiting ∨ (w.clients c).state = .waitingLogin) :
    Settled (w.visit cfg c env walk) := by
  unfold World.visit
  split
  · exact h.disconnectClient hno
  · split
    · exact h.disconnectClient hno
    · exact .inl h
  rename_i p
  split
  · exact .inl h
  rename_i hrepl
  split
  · split
    · exact .inl h
    · have hwaits := hwaits p rfl
      have hasking := h.linked.asking c
      exact .inl (h.activateClient hwaits (h.linked.client_eq_none (by grind)))
  split
  · exact .inl (h.launchRecheck (h.files.servers.sound _).nodup fun s hs => h.files.used hs)
  · exact .inl h

/-- The socket a loop has come to is still in the list that the loop goes over. -/
def Task.inList (w : World) : Task → Prop
  | .nextClient _ list (.socket c) => c ∈ (w.clientLists list).items
  | .nextClient _ list (.head l) => l = list
  | .nextServer list (.socket s) => s ∈ (w.serverLists list).items
  | .nextServer list (.head l) => l = list
  | _ => True

instance (w : World) (task : Task) : Decidable (task.inList w) := by
  unfold Task.inList
  split <;> infer_instance

theorem Ok.perform (h : Ok none none w) {task : Task} (htodo : w.todo = task :: rest)
    (hin : task.inList w) :
    Settled ({ w with todo := rest }.perform cfg env task) := by
  have hstacked := h.stack.stacked
  rw [htodo] at hstacked
  have hwalks := h.stack.walks task (by simp [htodo])
  have hnone (hcalm : ∀ t ∈ rest, t.closes = false) (c : Nat) : .closeClient c ∉ rest :=
    fun hmem => by cases hcalm _ hmem
  unfold World.perform
  split
  · rename_i c
    exact (h.pop htodo (by simp)).disconnectClient hstacked.1
  · rename_i c
    have hclosing := h.stack.client c (by simp) (by simp [htodo])
    exact .inl ((h.pop htodo (by simp)).closeClient hclosing.1 hclosing.2.1 hstacked.1)
  · rename_i s
    exact .inl ((h.pop htodo (by simp)).disconnectServer hstacked.1)
  · rename_i s
    have hclosing := h.stack.server s (by simp [htodo])
    exact .inl ((h.pop htodo (by simp)).closeServer hclosing.1 hstacked.1 (.inr rfl))
  · exact .inl (h.pop htodo (by simp))
  · rename_i a
    split
    · exact .inl (h.pop htodo (by simp))
    · exact (h.pop htodo (by simp)).disconnectClient (hnone hstacked.1 a)
  · rename_i walk list
    refine .inl ((h.pop htodo (by simp)).push_calls ?_ ?_ hstacked.1)
    · simp [Task.closes]
    · intro t ht
      rw [List.mem_singleton.1 ht]
      cases walk <;> exact hwalks
  · split
    · exact .inl (h.pop htodo (by simp))
    · exact .inl ((h.pop htodo (by simp)).die _)
  · rename_i walk list c
    split
    · exact .inl (h.pop htodo (by simp))
    · refine Ok.visit ((h.pop htodo (by simp)).push_calls ?_ ?_ hstacked.1) ?_ ?_
      · simp [Task.closes]
      · intro t ht
        rw [List.mem_singleton.1 ht]
        cases walk <;> exact hwalks
      · simpa using hnone hstacked.1 c
      · rintro p rfl
        have hlist : list = .waiting p := hwalks
        subst hlist
        have hmem := h.files.mem_client.1 hin
        revert hmem
        simp only [clients_push]
        unfold Client.list
        cases (w.clients c).state <;> simp
  · rename_i list
    exact .inl ((h.pop htodo (by simp)).push_calls (by simp [Task.closes]) (by simp [Task.Walks])
      hstacked.1)
  · split
    · exact .inl (h.pop htodo (by simp))
    · exact .inl ((h.pop htodo (by simp)).die _)
  · rename_i list s
    refine .inl (((h.pop htodo (by simp)).push_calls ?_ ?_ hstacked.1).disconnectServer ?_)
    · simp [Task.closes]
    · simp [Task.Walks]
    · simp only [todo_push, List.singleton_append, List.mem_cons]
      rintro (hmem | hmem)
      · cases hmem
      · cases hstacked.1 _ hmem
  · exact .inl ((h.pop htodo (by simp)).congr rfl)
  · exact .inl ((h.pop htodo (by simp)).congr rfl)

end PgBouncer.Sockets
