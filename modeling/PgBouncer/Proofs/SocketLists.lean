/-
Every socket is in the list of its state.

Sockets change lists in two functions only, and these take a socket off the list its old
state says and put it on the list the new one says.  The list also depends on the pool;
the pool of a client is changed while it logs in, when its list is a global one.  So every
change keeps the lists right, whatever the links are.
-/
import PgBouncer.Sockets

namespace PgBouncer.Sockets

/-- All sockets are where they belong, and the counters are right. -/
structure Files (w : World) : Prop where
  clients : StatList.Filed w.clientLists fun c => (w.clients c).list
  servers : StatList.Filed w.serverLists fun s => (w.servers s).list

variable {cfg : Config} {w : World} {c s r p : Nat} {env : Env}

theorem Files.initial : Files {} := ⟨.empty, .empty⟩

/-! ### Changes -/

theorem list_update_client (w : World) (c : Nat) (cl : Client) :
    (fun x => (Function.update w.clients c cl x).list) =
      Function.update (fun x => (w.clients x).list) c cl.list := by
  funext x
  by_cases hx : x = c
  · simp [hx]
  · simp [hx]

theorem list_update_server (w : World) (s : Nat) (sv : Server) :
    (fun x => (Function.update w.servers s sv x).list) =
      Function.update (fun x => (w.servers x).list) s sv.list := by
  funext x
  by_cases hx : x = s
  · simp [hx]
  · simp [hx]

theorem Files.modifyClient (h : Files w) {f : Client → Client}
    (hf : (f (w.clients c)).list = (w.clients c).list) : Files (w.modifyClient c f) := by
  refine ⟨?_, h.servers⟩
  simp only [World.modifyClient, list_update_client, hf]
  rw [Function.update_eq_self c fun x => (w.clients x).list]
  exact h.clients

theorem Files.modifyServer (h : Files w) {f : Server → Server}
    (hf : (f (w.servers s)).list = (w.servers s).list) : Files (w.modifyServer s f) := by
  refine ⟨h.clients, ?_⟩
  simp only [World.modifyServer, list_update_server, hf]
  rw [Function.update_eq_self s fun x => (w.servers x).list]
  exact h.servers

theorem Files.changeClientState (h : Files w) (c : Nat) (newstate : ClientState) :
    Files (w.changeClientState c newstate) := by
  refine ⟨?_, h.servers⟩
  simp only [World.changeClientState, list_update_client]
  exact h.clients.move c false _

theorem Files.changeServerState (h : Files w) (s : Nat) (newstate : ServerState) :
    Files (w.changeServerState cfg s newstate) := by
  refine ⟨h.clients, ?_⟩
  simp only [World.changeServerState, list_update_server]
  exact h.servers.move s _ _

theorem Files.push (h : Files w) (tasks : List Task) : Files (w.push tasks) :=
  ⟨h.clients, h.servers⟩

theorem Files.setLink (h : Files w) (c s : Nat) : Files (w.setLink c s) :=
  (h.modifyClient rfl).modifyServer rfl

theorem Files.unlink (h : Files w) (c s : Nat) : Files (w.unlink c s) :=
  (h.modifyClient rfl).modifyServer rfl

theorem Files.takeOffCancels (h : Files w) (s : Nat) (which : Nat → Bool) :
    Files (w.takeOffCancels s which) := by
  have hservers : Files (w.modifyServer s fun sv =>
      { sv with cancelingClients := sv.cancelingClients.removeWhere which }) :=
    h.modifyServer rfl
  refine ⟨h.clients.congr fun c => ?_, hservers.servers⟩
  simp only [World.takeOffCancels]
  split <;> rfl

/-- The pool of a client is changed while it logs in. -/
theorem list_of_login {cl cl' : Client} (h : cl.state = .login) (h' : cl'.state = .login) :
    cl'.list = cl.list := by
  simp [Client.list, h, h']

end PgBouncer.Sockets
