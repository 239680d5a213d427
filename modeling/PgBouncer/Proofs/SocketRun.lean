/-
Every run keeps the sockets consistent, as long as two things do not happen.

A client whose name was looked up by an auth_query goes on with its login while it is still
linked to the server that ran the query.  If its login is over and its pool has no welcome
message yet, it is put among the clients that wait without being unlinked.  And a loop over
a list remembers the socket it goes to next: when the one it is at is closed or woken, that
socket may end up in another list, which the loop then follows to its head.  `Tidy` leaves
these two out.
-/
import PgBouncer.Proofs.SocketOps

namespace PgBouncer.Sockets

variable {cfg : Config} {w w' : World} {c s r p t : Nat} {env : Env}

/-! ### One event -/

/-- What a client sends is looked at while nothing is going on or this client is read from. -/
theorem packet_eq_some {startup : Bool} {allowed : Client → Bool} {f : World → World}
    (h : w.packet c startup allowed f = some w') :
    w.reads c = true ∧ (w' = w.die .clientProto ∨
      World.inConnectionStartupPhase (w.clients c) = some startup ∧
        allowed (w.clients c) = true ∧ w' = f w) := by
  unfold World.packet at h
  split at h
  · rename_i hreads
    refine ⟨hreads, ?_⟩
    split at h
    · exact .inl (Option.some.inj h).symm
    · rename_i b hphase
      split at h
      · rename_i hboth
        rw [hphase, hboth.1]
        exact .inr ⟨rfl, hboth.2, (Option.some.inj h).symm⟩
      · cases h
  · cases h

theorem state_of_startup (h : World.inConnectionStartupPhase (w.clients c) = some true) :
    (w.clients c).state = .login ∨
      (w.clients c).state = .active ∧ (w.clients c).waitForWelcome = true := by
  unfold World.inConnectionStartupPhase at h
  split at h
  · rename_i hstate
    exact .inl hstate
  · rename_i hstate
    exact .inr ⟨hstate, Option.some.inj h⟩
  · cases h

theorem login_of_startup (h : World.inConnectionStartupPhase (w.clients c) = some true)
    (hwelcome : (w.clients c).waitForWelcome = false) : (w.clients c).state = .login := by
  rcases state_of_startup h with hlogin | ⟨-, hwait⟩
  · exact hlogin
  · rw [hwelcome] at hwait
    cases hwait

theorem active_of_work (h : World.inConnectionStartupPhase (w.clients c) = some false) :
    (w.clients c).state = .active := by
  unfold World.inConnectionStartupPhase at h
  split at h
  · cases h
  · rename_i hstate
    exact hstate
  · cases h

theorem console_todo {a : Nat} (h : w.isConsole cfg a = true) :
    w.todo = [] ∨ w.todo = [.reading a] := by
  simp only [World.isConsole, Bool.and_eq_true, Bool.or_eq_true, decide_eq_true_eq] at h
  exact h.2

/-- An event with a test in front of it. -/
theorem of_ite_some {α : Type*} {b : Prop} [Decidable b] {x y : α}
    (h : (if b then some x else none) = some y) : b ∧ x = y := by
  split at h
  · rename_i hb
    exact ⟨hb, Option.some.inj h⟩
  · cases h

theorem Ok.no_closeClient_of_reads (h : Ok none none w) (hreads : w.reads c = true) :
    .closeClient c ∉ w.todo := by
  have hstacked := h.stack.stacked
  simp only [World.reads, Bool.and_eq_true, Bool.or_eq_true, decide_eq_true_eq] at hreads
  rcases hreads.1 with hnil | hhead
  · simp [hnil]
  · obtain ⟨rest, heq⟩ := List.head?_eq_some_iff.1 hhead
    rw [heq] at hstacked ⊢
    simp only [List.mem_cons, reduceCtorEq, false_or]
    exact hstacked.1

/-- What keeps the sockets consistent. -/
def Tidy (cfg : Config) (w : World) : Event → Prop
  | .finishClientLogin c _ env =>
    w.welcomeMsgReady (w.clients c).pool = true ∨ cfg.admin (w.clients c).pool = true ∨
      env.shutdown = true ∨ (w.clients c).link = none
  | .tick _ => ∀ task ∈ w.todo.head?, task.inList w
  | _ => True

instance (cfg : Config) (w : World) (e : Event) : Decidable (Tidy cfg w e) := by
  unfold Tidy
  split <;> infer_instance

theorem Settled.initial : Settled {} :=
  .inl {
    files := .initial
    linked := ⟨by simp, by simp, by simp⟩
    working := fun s _ hactive => by simp at hactive
    canceling := ⟨by simp, fun _ => .empty, by simp, by simp, by simp⟩
    early := ⟨by simp, by simp, by simp⟩
    stack := ⟨by simp, by simp, by simp, trivial⟩ }

/-- A client that is on its way out does nothing but that. -/
theorem step_of_closing {rest : List Task} {e : Event} (hstep : w.step cfg e = some w')
    (htodo : w.todo = .closeClient c :: rest) :
    w' = { w with todo := rest }.closeClient c ∨
      w'.clients = w.clients ∧ w'.servers = w.servers ∧ w'.todo = w.todo ∧
        w'.clientLists = w.clientLists ∧ w'.serverLists = w.serverLists := by
  unfold World.step at hstep
  split at hstep
  · cases hstep
  cases e <;> dsimp only at hstep
  case tick env =>
    rw [htodo] at hstep
    exact .inl (Option.some.inj hstep).symm
  case addDatabase | backendCloses =>
    obtain rfl := Option.some.inj hstep
    exact .inr ⟨rfl, rfl, rfl, rfl, rfl⟩
  case newPool =>
    obtain ⟨-, rfl⟩ := of_ite_some hstep
    exact .inr ⟨rfl, rfl, rfl, rfl, rfl⟩
  case serverSendFailed => split at hstep <;> simp_all
  all_goals simp_all [World.reads, World.isOpen, World.logsIn, World.works, World.packet]

/-! ### What holds between the sockets -/

theorem killPoolLogins_closes {t : Task} (ht : t ∈ w.killPoolLogins p) :
    t.closes = false ∧ t.Walks := by
  unfold World.killPoolLogins at ht
  split at ht
  · cases ht
  · obtain ⟨c, -, rfl⟩ := List.mem_map.1 ht
    exact ⟨rfl, trivial⟩

theorem killPool_closes {pools : List Nat} {t : Task} (ht : t ∈ pools.flatMap World.killPool) :
    t.closes = false ∧ t.Walks := by
  obtain ⟨p, -, hmem⟩ := List.mem_flatMap.1 ht
  simp only [World.killPool, List.mem_cons, List.not_mem_nil, or_false] at hmem
  rcases hmem with rfl | rfl | rfl | rfl | rfl | rfl | rfl | rfl | rfl | rfl | rfl | rfl | rfl <;>
    exact ⟨rfl, trivial⟩

theorem calls_concat {tasks : List Task} {t : Task} (h : ∀ t ∈ tasks, t.closes = false ∧ t.Walks)
    (hlast : t.closes = false ∧ t.Walks) :
    ∀ t' ∈ tasks ++ [t], t'.closes = false ∧ t'.Walks :=
  List.forall_mem_append.2 ⟨h, List.forall_mem_singleton.2 hlast⟩

theorem Ok.step {e : Event} (h : Ok none none w) (htidy : Tidy cfg w e)
    (hstep : w.step cfg e = some w') : Settled w' := by
  have hcalls {tasks : List Task} (htodo : ∀ t ∈ w.todo, t.closes = false)
      (htasks : ∀ t ∈ tasks, t.closes = false ∧ t.Walks) : Settled (w.push tasks) :=
    .inl (h.push_calls (fun t ht => (htasks t ht).1) (fun t ht => (htasks t ht).2) htodo)
  have hconsole {a : Nat} (hallowed : w.isConsole cfg a = true) :
      ∀ t ∈ w.todo, t.closes = false := by
    rcases console_todo hallowed with htodo | htodo <;> simp [htodo, Task.closes]
  unfold World.step at hstep
  split at hstep
  · cases hstep
  cases e <;> dsimp only at hstep
  case tick env =>
    split at hstep
    · cases hstep
    · cases hstep
    · rename_i task rest _ htodo
      exact Option.some.inj hstep ▸ h.perform htodo (htidy task (by simp [htodo]))
  case readDone =>
    split at hstep
    · rename_i htodo
      exact Option.some.inj hstep ▸ .inl (h.pop htodo (by simp))
    · cases hstep
  case addDatabase | backendCloses =>
    obtain rfl := Option.some.inj hstep
    exact .inl (h.congr rfl)
  case choosePool c pool db =>
    obtain ⟨-, hstep⟩ := Option.ite_none_right_eq_some.mp hstep
    obtain ⟨-, rfl | ⟨hphase, hallowed, rfl⟩⟩ := packet_eq_some hstep
    · exact .inl (h.die _)
    · simp only [Bool.and_eq_true, Bool.not_eq_true'] at hallowed
      have hlogin := login_of_startup hphase hallowed.2
      exact .inl (h.modifyLogin hlogin hlogin rfl rfl (by simp [Client.asked]))
  case startAuthQuery c pool db env =>
    obtain ⟨-, hstep⟩ := Option.ite_none_right_eq_some.mp hstep
    obtain ⟨hreads, rfl | ⟨hphase, hallowed, rfl⟩⟩ := packet_eq_some hstep
    · exact .inl (h.die _)
    · simp only [Bool.and_eq_true, Bool.not_eq_true'] at hallowed
      exact h.startAuthQuery (login_of_startup hphase hallowed.2)
        (h.no_closeClient_of_reads hreads) _ _
  case askAuth c =>
    obtain ⟨-, rfl | ⟨-, -, rfl⟩⟩ := packet_eq_some hstep
    · exact .inl (h.die _)
    · exact .inl (h.modifyClient rfl)
  case finishClientLogin c key env =>
    obtain ⟨hreads, rfl | ⟨hphase, -, rfl⟩⟩ := packet_eq_some hstep
    · exact .inl (h.die _)
    · refine h.finishClientLogin ((state_of_startup hphase).imp_right And.left)
        (h.no_closeClient_of_reads hreads) (fun hready hadmin hshutdown => ?_) _
      simpa [Tidy, hready, hadmin, hshutdown] using htidy
  case cancelRequest r key found env =>
    obtain ⟨hreads, rfl | ⟨hphase, hallowed, rfl⟩⟩ := packet_eq_some hstep
    · exact .inl (h.die _)
    · simp only [Bool.and_eq_true, Bool.not_eq_true'] at hallowed
      obtain ⟨⟨⟨⟨hmessage, hquery⟩, -⟩, hwelcome⟩, hfound⟩ := hallowed
      have hlogin := login_of_startup hphase hwelcome
      have hasked : (w.clients r).asked = false := by simp [Client.asked, hquery, hmessage]
      have hno := h.no_closeClient_of_reads hreads
      split
      · exact h.acceptCancelRequestForPeer hlogin hasked hno _
      · rename_i hlocal
        rw [if_neg (by simpa using hlocal)] at hfound
        refine h.acceptCancelRequest hlogin hasked hno _ fun t ht => ?_
        simp only [ht, Option.elim_some, World.hasKey, Bool.and_eq_true, Bool.or_eq_true,
          decide_eq_true_eq] at hfound
        exact or_assoc.1 hfound.1
  case forward c tracked env =>
    obtain ⟨hreads, rfl | ⟨hphase, -, rfl⟩⟩ := packet_eq_some hstep
    · exact .inl (h.die _)
    · exact h.forward (active_of_work hphase) (h.no_closeClient_of_reads hreads) _
  case killClient a c =>
    obtain ⟨-, rfl | ⟨-, hallowed, rfl⟩⟩ := packet_eq_some hstep
    · exact .inl (h.die _)
    · simp only [Bool.and_eq_true] at hallowed
      exact hcalls (hconsole hallowed.1.1) (by simp [Task.closes, Task.Walks])
  case kill a pools =>
    obtain ⟨-, rfl | ⟨-, hallowed, rfl⟩⟩ := packet_eq_some hstep
    · exact .inl (h.die _)
    · simp only [Bool.and_eq_true] at hallowed
      exact hcalls (hconsole hallowed.1) (calls_concat (fun _ => killPool_closes) ⟨rfl, trivial⟩)
  case authDone c ok env =>
    obtain ⟨⟨htodo, -⟩, hstep⟩ := Option.ite_none_right_eq_some.mp hstep
    split at hstep <;> obtain rfl := Option.some.inj hstep
    · exact .inl (Ok.push_reading (h.modifyClient rfl) (by simp [htodo]))
    · exact h.disconnectClient (by simp [htodo])
  case serverSendFailed s env =>
    split at hstep
    · obtain ⟨hcond, rfl⟩ := of_ite_some hstep
      simp only [Bool.and_eq_true, decide_eq_true_eq] at hcond
      exact h.disconnectClient (by simp [hcond.1])
    · cases hstep
  all_goals
    obtain ⟨hcond, rfl⟩ := of_ite_some hstep
    try simp only [Bool.and_eq_true, Bool.or_eq_true, decide_eq_true_eq, Bool.not_eq_true',
      List.isEmpty_iff, World.logsIn, World.works] at hcond
  case newPool =>
    exact .inl (h.congr rfl)
  case accept c replication => exact .inl (h.acceptClient hcond.2 replication)
  case clientLost => exact h.disconnectClient (h.no_closeClient_of_reads hcond.1)
  case dropClient => exact h.disconnectClient (by simp [hcond.1])
  case serverLost | dropServer => exact .inl (h.disconnectServer (by simp [hcond.1]))
  case evict s =>
    have hstate := hcond.2
    exact .inl (h.disconnectServer (h.stack.closeServer_notMem (by grind)))
  case clientSendFailed c =>
    cases hlink : (w.clients c).link with
    | none => exact .inl h
    | some s =>
      have hback := (h.linked.sym c s).1 hlink
      exact .inl (h.disconnectServer (h.stack.closeServer_notMem (by grind)))
  case connected =>
    refine h.handleConnect hcond.1.2 ?_
    have := h.early.connected
    grind
  case sendStartupMessage => exact .inl (h.sendStartupMessage hcond.1.1.2 hcond.1.2 hcond.2)
  case backendKeyData => exact .inl (h.modifyServer rfl)
  case loginError =>
    refine hcalls (by simp [hcond.1]) (calls_concat (fun t ht => ?_) ⟨rfl, trivial⟩)
    split at ht
    · cases ht
    · exact killPoolLogins_closes ht
  case authFailed =>
    refine hcalls (by simp [hcond.1]) (calls_concat (fun t ht => ?_) ⟨rfl, trivial⟩)
    split at ht
    · exact killPoolLogins_closes ht
    · cases ht
  case loginDone s env =>
    have hready : Ok none none (w.modifyServer s fun sv => { sv with ready := true }) :=
      h.modifyServer rfl
    refine .inl (Ok.releaseServer (hready.congr rfl) (.inl rfl) ?_)
    simp [hcond.1]
  case serverPacket => exact .inl (h.traffic _ _ _ _)
  case authQueryDone => exact h.authQueryDone hcond.1.1 _ _ _ _
  case flush => exact .inl (h.flush hcond.1)
  case launch =>
    exact .inl (h.launchNewConnection hcond.2 fun x hlogin => h.files.single hcond.1.2 hlogin)
  case unused s =>
    obtain ⟨htodo, hidle⟩ := hcond
    exact .inl (h.park (.inl rfl)
      (h.linked.server_eq_none (by grind))
      (by simp [htodo]) (by simp) (by simp))
  case maintServer => exact .inl (h.maintServer hcond.1)
  case perLoopActivate =>
    exact hcalls (by simp [hcond.1.1]) (by simp [Task.closes, Task.Walks])
  case tagPoolDirty => exact .inl (h.tagPoolDirty hcond)
  case killPool pool =>
    refine hcalls (by simp [hcond.1.1.1.1.1]) fun t ht => @killPool_closes [pool] t ?_
    simpa using ht
  case killDatabase =>
    exact hcalls (by simp [hcond.1.1]) (calls_concat (fun _ => killPool_closes) ⟨rfl, trivial⟩)
  case freeClient c =>
    obtain ⟨htodo, hfree⟩ := hcond
    have hlink : (w.clients c).link = none := h.linked.client_eq_none (by grind)
    exact .inl (h.retireClient hlink (h.canceling.canceledServer_eq_none (by simp [hfree])
      (by simp [hfree])) (by simp [htodo]) (.inr rfl))
  case freeServer s =>
    obtain ⟨htodo, hfree⟩ := hcond
    exact .inl (h.retireServer (h.linked.server_eq_none (by grind))
      (h.canceling.closed s (.inr hfree)) (by simp [htodo]) (.inl rfl)
      (.inr rfl))

theorem Settled.step {e : Event} (h : Settled w) (htidy : Tidy cfg w e)
    (hstep : w.step cfg e = some w') : Settled w' := by
  rcases h with hok | ⟨w₀, c, rfl, hok, hlink, hcanceled, hno⟩
  · exact hok.step htidy hstep
  · rcases step_of_closing hstep rfl with rfl | ⟨hclients, hservers, htodo, hlists⟩
    · exact .inl (hok.closeClient hlink hcanceled hno)
    · refine .inr ⟨{ w' with todo := w₀.todo }, c, ?_, ?_, ?_, ?_, hno⟩
      · simp only [World.push] at htodo ⊢
        rw [← htodo]
      · refine hok.congr ?_
        simp only [World.core, hclients, hservers, hlists]
        rfl
      · rw [show w'.clients c = w₀.clients c from congrFun hclients c]
        exact hlink
      · rw [show w'.clients c = w₀.clients c from congrFun hclients c]
        exact hcanceled

/-! ### Every run -/

end PgBouncer.Sockets
