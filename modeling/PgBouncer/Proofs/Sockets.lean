/-
What holds between the sockets.

A link has two ends, and the states of the two sockets fit; a server that works has a
client; a request knows the server it is for and that server knows the request.  Operations
that call each other break this for a moment, for the sockets they are about to close: these
are the ones with a `closeClient` or `closeServer` on the stack, and nothing that happens in
between touches them.  `Ok` says both.
-/
import PgBouncer.Proofs.SocketLists

namespace PgBouncer.Sockets

variable {cfg : Config} {w w' : World} {c s r p t : Nat} {env : Env}

attribute [local grind] Client.sendingAuthQuery

/-! ### What the changes change -/

@[simp, grind =] theorem newClientState_waiting (old : ClientState) :
    World.newClientState old .waiting = if old = .login then .waitingLogin else .waiting := by
  cases old <;> rfl

@[simp, grind =] theorem newClientState_active (old : ClientState) :
    World.newClientState old .active = if old = .waitingLogin then .login else .active := by
  cases old <;> rfl

@[simp, grind =] theorem newClientState_other {old newstate : ClientState}
    (hwaiting : newstate ≠ .waiting) (hactive : newstate ≠ .active) :
    World.newClientState old newstate = newstate := by
  cases old <;> cases newstate <;> first | rfl | contradiction

section Projections

variable (w : World) (c s x : Nat)

@[simp, grind =] theorem clients_modifyClient (f : Client → Client) :
    (w.modifyClient c f).clients x = if x = c then f (w.clients c) else w.clients x := by
  simp [World.modifyClient, Function.update_apply]

@[simp, grind =] theorem servers_modifyClient (f : Client → Client) :
    (w.modifyClient c f).servers x = w.servers x := rfl

@[simp, grind =] theorem todo_modifyClient (f : Client → Client) :
    (w.modifyClient c f).todo = w.todo := rfl

@[simp, grind =] theorem clients_modifyServer (f : Server → Server) :
    (w.modifyServer s f).clients x = w.clients x := rfl

@[simp, grind =] theorem servers_modifyServer (f : Server → Server) :
    (w.modifyServer s f).servers x = if x = s then f (w.servers s) else w.servers x := by
  simp [World.modifyServer, Function.update_apply]

@[simp, grind =] theorem todo_modifyServer (f : Server → Server) :
    (w.modifyServer s f).todo = w.todo := rfl

@[simp, grind =] theorem clients_push (tasks : List Task) :
    (w.push tasks).clients x = w.clients x := rfl

@[simp, grind =] theorem servers_push (tasks : List Task) :
    (w.push tasks).servers x = w.servers x := rfl

@[simp, grind =] theorem todo_push (tasks : List Task) :
    (w.push tasks).todo = tasks ++ w.todo := rfl

@[simp, grind =] theorem clients_changeClientState (newstate : ClientState) :
    (w.changeClientState c newstate).clients x =
      { w.clients x with
        state := if x = c then World.newClientState (w.clients c).state newstate
          else (w.clients x).state } := by
  simp only [World.changeClientState, Function.update_apply]
  split
  · rename_i hx
    rw [hx]
  · rfl

@[simp, grind =] theorem servers_changeClientState (newstate : ClientState) :
    (w.changeClientState c newstate).servers x = w.servers x := rfl

@[simp, grind =] theorem todo_changeClientState (newstate : ClientState) :
    (w.changeClientState c newstate).todo = w.todo := rfl

@[simp, grind =] theorem clients_changeServerState (newstate : ServerState) :
    (w.changeServerState cfg s newstate).clients x = w.clients x := rfl

@[simp, grind =] theorem servers_changeServerState (newstate : ServerState) :
    (w.changeServerState cfg s newstate).servers x =
      { w.servers x with state := if x = s then newstate else (w.servers x).state } := by
  simp only [World.changeServerState, Function.update_apply]
  split
  · rename_i hx
    rw [hx]
  · rfl

@[simp, grind =] theorem todo_changeServerState (newstate : ServerState) :
    (w.changeServerState cfg s newstate).todo = w.todo := rfl

@[simp, grind =] theorem clients_takeOffCancels (which : Nat → Bool) :
    (w.takeOffCancels s which).clients x =
      { w.clients x with
        canceledServer :=
          if x ∈ (w.servers s).cancelingClients.items ∧ which x then none
          else (w.clients x).canceledServer } := by
  simp only [World.takeOffCancels]
  split <;> rfl

@[simp, grind =] theorem servers_takeOffCancels (which : Nat → Bool) :
    (w.takeOffCancels s which).servers x =
      { w.servers x with
        cancelingClients :=
          if x = s then (w.servers s).cancelingClients.removeWhere which
          else (w.servers x).cancelingClients } := by
  simp only [World.takeOffCancels, Function.update_apply]
  split
  · rename_i hx
    rw [hx]
  · rfl

@[simp, grind =] theorem todo_takeOffCancels (which : Nat → Bool) :
    (w.takeOffCancels s which).todo = w.todo := rfl

@[simp, grind =] theorem clients_setLink :
    (w.setLink c s).clients x =
      { w.clients x with link := if x = c then some s else (w.clients x).link } := by
  simp only [World.setLink, clients_modifyServer, clients_modifyClient]
  split
  · rename_i hx
    rw [hx]
  · rfl

@[simp, grind =] theorem servers_setLink :
    (w.setLink c s).servers x =
      { w.servers x with link := if x = s then some c else (w.servers x).link } := by
  simp only [World.setLink, servers_modifyServer, servers_modifyClient]
  split
  · rename_i hx
    rw [hx]
  · rfl

@[simp, grind =] theorem todo_setLink : (w.setLink c s).todo = w.todo := rfl

@[simp, grind =] theorem clients_unlink :
    (w.unlink c s).clients x =
      { w.clients x with link := if x = c then none else (w.clients x).link } := by
  simp only [World.unlink, clients_modifyServer, clients_modifyClient]
  split
  · rename_i hx
    rw [hx]
  · rfl

@[simp, grind =] theorem servers_unlink :
    (w.unlink c s).servers x =
      { w.servers x with link := if x = s then none else (w.servers x).link } := by
  simp only [World.unlink, servers_modifyServer, servers_modifyClient]
  split
  · rename_i hx
    rw [hx]
  · rfl

@[simp, grind =] theorem todo_unlink : (w.unlink c s).todo = w.todo := rfl

end Projections

/-! ### The invariant -/

/-- A client that waits for a server of its own. -/
@[grind] def Client.wantsReplication (cl : Client) : Bool := cl.replication && !cl.sendingAuthQuery

/-- A client whose startup message has been looked at. -/
@[grind] def Client.asked (cl : Client) : Bool := cl.sendingAuthQuery || cl.startupMessageReceived

/-- A client and the server it is linked to; a server that logs in for a replication client
is linked to it already. -/
@[grind] def Fits (cl : Client) (sv : Server) : Prop :=
  cl.state = .active ∧ sv.state = .active ∨
    cl.state = .login ∧ cl.asked = true ∧ sv.state = .active ∨
    cl.state = .activeCancel ∧ sv.state = .activeCancel ∨
    cl.state = .waiting ∧ sv.state = .login ∧ cl.wantsReplication = true ∧ cl.pool = sv.pool ∧
      sv.replication = true ∧ sv.startupSent = true

/-- Links have two ends; a client that waits in its login does so for an auth_query. -/
@[grind cases] structure Linked (w : World) : Prop where
  sym : ∀ c s, (w.clients c).link = some s ↔ (w.servers s).link = some c
  fits : ∀ c s, (w.clients c).link = some s → Fits (w.clients c) (w.servers s)
  asking : ∀ c, (w.clients c).state = .waitingLogin → (w.clients c).sendingAuthQuery = true

/-- A server at work has a client, but for the one that has just lost it. -/
@[grind] def Working (exServer : Option Nat) (w : World) : Prop :=
  ∀ s, exServer ≠ some s → (w.servers s).state = .active → (w.servers s).link = none →
    .closeServer s ∈ w.todo

/-- Requests and the servers they are for know each other. -/
@[grind cases] structure Canceling (w : World) : Prop where
  mem : ∀ r s, r ∈ (w.servers s).cancelingClients.items ↔ (w.clients r).canceledServer = some s
  sound : ∀ s, (w.servers s).cancelingClients.Sound
  request : ∀ r s, (w.clients r).canceledServer = some s →
    (w.clients r).state = .waitingCancel ∨ (w.clients r).state = .activeCancel
  sent : ∀ r s, (w.clients r).canceledServer = some s → (w.servers s).state = .beingCanceled →
    (w.clients r).state = .activeCancel
  closed : ∀ s, (w.servers s).state = .free ∨ (w.servers s).state = .justFree →
    (w.servers s).cancelingClients.items = []

/-- No request is sent before the login of the server it is for is over: that would need a
second server that logs in to the same pool. -/
@[grind cases] structure Early (w : World) : Prop where
  waits : ∀ r s, (w.clients r).canceledServer = some s → (w.servers s).state = .login →
    (w.clients r).state = .waitingCancel ∧ (w.clients r).pool = (w.servers s).pool ∧
      (w.servers s).startupSent = true
  single : ∀ s s', (w.servers s).state = .login → (w.servers s').state = .login →
    (w.servers s).pool = (w.servers s').pool → s = s'
  connected : ∀ s, (w.servers s).startupSent = true → (w.servers s).connected = true

/-- The end of closing a socket. -/
def Task.closes : Task → Bool
  | .closeClient _ | .closeServer _ => true
  | _ => false

/-- Nothing is closed twice, or read from while it is being closed. -/
def Stacked : List Task → Prop
  | [] => True
  | .disconnectClient c :: rest | .closeClient c :: rest | .reading c :: rest =>
    .closeClient c ∉ rest ∧ Stacked rest
  | .disconnectServer s :: rest | .closeServer s :: rest => .closeServer s ∉ rest ∧ Stacked rest
  | _ :: rest => (∀ t ∈ rest, t.closes = false) ∧ Stacked rest

/-- A client that is being closed. -/
@[grind] def Closing (cl : Client) : Prop :=
  cl.link = none ∧ cl.canceledServer = none ∧
    (cl.state = .active ∨ cl.state = .login ∨ cl.state = .activeCancel)

/-- A server that is being closed. -/
@[grind] def ClosingServer (sv : Server) : Prop :=
  sv.link = none ∧ (sv.state = .active ∨ sv.state = .activeCancel ∨
    sv.state = .login ∧ sv.startupSent = true)

/-- A loop that wakes clients goes over those that wait. -/
@[grind] def Task.Walks : Task → Prop
  | .forClients (.activate p) list | .nextClient (.activate p) list _ => list = .waiting p
  | _ => True

/-- What is on the stack can be carried out, but for a client that is just about to be
closed. -/
@[grind cases] structure Stack (exClient : Option Nat) (w : World) : Prop where
  client : ∀ c, exClient ≠ some c → .closeClient c ∈ w.todo → Closing (w.clients c)
  server : ∀ s, .closeServer s ∈ w.todo → ClosingServer (w.servers s)
  walks : ∀ t ∈ w.todo, t.Walks
  stacked : Stacked w.todo

/-- What holds between the sockets. -/
structure Ok (exServer exClient : Option Nat) (w : World) : Prop where
  files : Files w
  linked : Linked w
  working : Working exServer w
  canceling : Canceling w
  early : Early w
  stack : Stack exClient w

theorem Canceling.canceledServer_eq_none (h : Canceling w)
    (hwaiting : (w.clients c).state ≠ .waitingCancel)
    (hactive : (w.clients c).state ≠ .activeCancel) : (w.clients c).canceledServer = none := by
  rw [Option.eq_none_iff_forall_ne_some]
  intro s hs
  exact (h.request c s hs).elim hwaiting hactive

theorem Linked.client_eq_none (h : Linked w) (hno : ∀ s, ¬ Fits (w.clients c) (w.servers s)) :
    (w.clients c).link = none :=
  Option.eq_none_iff_forall_ne_some.2 fun s hs => hno s (h.fits c s hs)

theorem Linked.server_eq_none (h : Linked w) (hno : ∀ c, ¬ Fits (w.clients c) (w.servers s)) :
    (w.servers s).link = none :=
  Option.eq_none_iff_forall_ne_some.2 fun c hc => hno c (h.fits c s ((h.sym c s).2 hc))

theorem Stack.closeClient_notMem (h : Stack none w) (hno : ¬ Closing (w.clients c)) :
    .closeClient c ∉ w.todo :=
  fun hmem => hno (h.client c (by simp) hmem)

theorem Stack.closeServer_notMem {exC : Option Nat} (h : Stack exC w)
    (hno : ¬ ClosingServer (w.servers s)) : .closeServer s ∉ w.todo :=
  fun hmem => hno (h.server s hmem)

/-! ### Flags -/

variable {exS exC : Option Nat}

/-- The fields of a client that matter here. -/
def Client.core (cl : Client) : Client where
  state := cl.state
  pool := cl.pool
  link := cl.link
  canceledServer := cl.canceledServer
  replication := cl.replication
  waitForUser := cl.sendingAuthQuery
  startupMessageReceived := cl.startupMessageReceived

/-- The fields of a server that matter here. -/
def Server.core (sv : Server) : Server where
  state := sv.state
  pool := sv.pool
  link := sv.link
  replication := sv.replication
  connected := sv.connected
  startupSent := sv.startupSent
  cancelingClients := sv.cancelingClients

def World.core (w : World) : World where
  clients c := (w.clients c).core
  servers s := (w.servers s).core
  clientLists := w.clientLists
  serverLists := w.serverLists
  todo := w.todo

theorem ok_core : Ok exS exC w.core ↔ Ok exS exC w := by
  constructor <;>
    rintro ⟨⟨clients, servers⟩, ⟨sym, fits, asking⟩, working, ⟨mem, sound, request, sent, closed⟩,
      ⟨waits, single, connected⟩, ⟨client, server, walks, stacked⟩⟩ <;>
    exact ⟨⟨clients, servers⟩, ⟨sym, fits, asking⟩, working, ⟨mem, sound, request, sent, closed⟩,
      ⟨waits, single, connected⟩, ⟨client, server, walks, stacked⟩⟩

/-- Other fields may change at will. -/
theorem Ok.congr (h : Ok exS exC w) (hcore : w'.core = w.core) : Ok exS exC w' :=
  ok_core.1 (hcore ▸ ok_core.2 h)

variable {f : Client → Client}

theorem Ok.modifyClient (h : Ok exS exC w) (hf : (f (w.clients c)).core = (w.clients c).core) :
    Ok exS exC (w.modifyClient c f) := by
  have hclients : ∀ x, ((w.modifyClient c f).clients x).core = (w.clients x).core := by
    intro x
    rw [clients_modifyClient]
    split
    · rename_i hx
      rw [hx, hf]
    · rfl
  exact h.congr (by simp only [World.core, hclients]; rfl)

theorem Ok.modifyServer (h : Ok exS exC w) {f : Server → Server}
    (hf : (f (w.servers s)).core = (w.servers s).core) : Ok exS exC (w.modifyServer s f) := by
  have hservers : ∀ x, ((w.modifyServer s f).servers x).core = (w.servers x).core := by
    intro x
    rw [servers_modifyServer]
    split
    · rename_i hx
      rw [hx, hf]
    · rfl
  exact h.congr (by simp only [World.core, hservers]; rfl)

theorem Ok.die (h : Ok exS exC w) (f : Fatal) : Ok exS exC (w.die f) :=
  h.congr rfl

/-! ### The stack -/

/-- Nothing but the stack changes. -/
theorem Ok.restack (h : Ok exS exC w) {exS' exC' : Option Nat} {todo : List Task}
    (hworking : Working exS' { w with todo }) (hstack : Stack exC' { w with todo }) :
    Ok exS' exC' { w with todo } where
  files := ⟨h.files.clients, h.files.servers⟩
  linked := ⟨h.linked.sym, h.linked.fits, h.linked.asking⟩
  working := hworking
  canceling := ⟨h.canceling.mem, h.canceling.sound, h.canceling.request, h.canceling.sent,
    h.canceling.closed⟩
  early := ⟨h.early.waits, h.early.single, h.early.connected⟩
  stack := hstack

theorem Working.push (h : Working exS w) (tasks : List Task) : Working exS (w.push tasks) :=
  fun s hex hactive hlink => List.mem_append_right _ (h s hex hactive hlink)

/-- Calls are put on the stack that are not the end of closing something. -/
theorem Ok.push (h : Ok exS exC w) {tasks : List Task} (hcloses : ∀ t ∈ tasks, t.closes = false)
    (hwalks : ∀ t ∈ tasks, t.Walks) (hstacked : Stacked (tasks ++ w.todo)) :
    Ok exS exC (w.push tasks) := by
  have hbelow : ∀ t ∈ tasks ++ w.todo, t.closes = true → t ∈ w.todo := by
    intro t hmem ht
    rcases List.mem_append.1 hmem with hmem | hmem
    · rw [hcloses t hmem] at ht
      cases ht
    · exact hmem
  exact h.restack (h.working.push tasks) {
    client := fun c hex hmem => h.stack.client c hex (hbelow _ hmem rfl)
    server := fun s hmem => h.stack.server s (hbelow _ hmem rfl)
    walks := fun t hmem => (List.mem_append.1 hmem).elim (hwalks t) (h.stack.walks t)
    stacked := hstacked }

/-- A client is read from. -/
theorem Ok.push_reading (h : Ok exS exC w) (hno : .closeClient c ∉ w.todo) :
    Ok exS exC (w.push [.reading c]) :=
  h.push (by simp [Task.closes]) (by simp [Task.Walks]) ⟨hno, h.stack.stacked⟩

/-- A client is to be closed. -/
theorem Ok.push_closeClient (h : Ok exS none w) (hno : .closeClient c ∉ w.todo) :
    Ok exS (some c) (w.push [.closeClient c]) := by
  refine h.restack (h.working.push _) ⟨fun x hex hmem => ?_, fun s hmem => ?_, fun t hmem => ?_,
    hno, h.stack.stacked⟩
  · rcases List.mem_cons.1 hmem with hmem | hmem
    · cases hmem
      exact absurd rfl hex
    · exact h.stack.client x (by simp) hmem
  · rcases List.mem_cons.1 hmem with hmem | hmem
    · cases hmem
    · exact h.stack.server s hmem
  · rcases List.mem_cons.1 hmem with hmem | hmem
    · rw [hmem]
      trivial
    · exact h.stack.walks t hmem

/-! ### Requests leave a server -/

/-- Each part of the invariant is kept by itself. -/
theorem Ok.each (h : Ok exS exC w) {exS' exC' : Option Nat} (hfiles : Files w')
    (hworking : Working exS w → Working exS' w') (hlinked : Linked w → Linked w')
    (hcanceling : Canceling w → Canceling w') (hearly : Early w → Early w')
    (hstack : Stack exC w → Stack exC' w') : Ok exS' exC' w' :=
  ⟨hfiles, hlinked h.linked, hworking h.working, hcanceling h.canceling, hearly h.early,
    hstack h.stack⟩

theorem Ok.takeOffCancels (h : Ok exS exC w) (which : Nat → Bool) :
    Ok exS exC (w.takeOffCancels s which) := by
  refine ⟨h.files.takeOffCancels s _, ?_, ?_, ?_, ?_, ?_⟩
  · have linked := h.linked
    constructor <;> grind
  · have working := h.working
    grind
  · obtain ⟨mem, sound, request, sent, closed⟩ := h.canceling
    have hsound := (sound s).removeWhere which
    constructor <;> grind [StatList.removeWhere]
  · have early := h.early
    constructor <;> grind
  · have stack := h.stack
    constructor <;> grind

theorem removeCancel_eq (h : Canceling w) (hr : (w.clients r).canceledServer = some s) :
    (w.modifyServer s fun sv =>
      { sv with cancelingClients := sv.cancelingClients.remove r }).modifyClient r
        (fun cl => { cl with canceledServer := none }) = w.takeOffCancels s fun x => x = r := by
  have hmem := (h.mem r s).2 hr
  simp only [World.modifyServer, World.modifyClient, World.takeOffCancels,
    StatList.remove_eq_removeWhere (h.sound s) hmem]
  congr 1
  funext x
  by_cases hx : x = r
  · subst hx
    simp [hmem]
  · simp [hx]

/-! ### Closing -/

/-- A server is of no more use. -/
theorem Ok.retireServer (h : Ok exS exC w) (hlink : (w.servers s).link = none)
    (hnil : (w.servers s).cancelingClients.items = []) (hno : .closeServer s ∉ w.todo)
    (hex : exS = none ∨ exS = some s) {newstate : ServerState}
    (hnew : newstate = .justFree ∨ newstate = .free) :
    Ok none exC (w.changeServerState cfg s newstate) := by
  refine h.each (h.files.changeServerState s _) (by grind) ?_ ?_ ?_ ?_
  all_goals
    intro part
    constructor <;> grind

/-- A client is of no more use. -/
theorem Ok.retireClient (h : Ok exS exC w) (hlink : (w.clients c).link = none)
    (hcanceled : (w.clients c).canceledServer = none) (hno : .closeClient c ∉ w.todo)
    {newstate : ClientState} (hnew : newstate = .justFree ∨ newstate = .free) :
    Ok exS exC (w.changeClientState c newstate) := by
  have hstate : World.newClientState (w.clients c).state newstate = newstate :=
    newClientState_other (by grind) (by grind)
  refine h.each (h.files.changeClientState c _) (by grind) ?_ ?_ ?_ ?_
  all_goals
    intro part
    constructor <;> grind

/-- The end of `disconnect_client`. -/
theorem Ok.closeClient (h : Ok exS exC w) (hlink : (w.clients c).link = none)
    (hcanceled : (w.clients c).canceledServer = none) (hno : .closeClient c ∉ w.todo) :
    Ok exS exC (w.closeClient c) :=
  (h.retireClient hlink hcanceled hno (.inl rfl)).modifyClient rfl

/-- The end of `disconnect_server`. -/
theorem Ok.closeServer (h : Ok exS exC w) (hlink : (w.servers s).link = none)
    (hno : .closeServer s ∉ w.todo) (hex : exS = none ∨ exS = some s) :
    Ok none exC (w.closeServer cfg s) := by
  have hclosed : Ok none exC
      ((w.takeOffCancels s fun _ => true).changeServerState cfg s .justFree) := by
    refine (h.takeOffCancels _).retireServer ?_ ?_ hno hex (.inl rfl)
    · simpa using hlink
    · simp [StatList.removeWhere]
  exact hclosed.congr rfl

/-- A server is unlinked, and both are to be closed. -/
theorem Ok.unlinkServer (h : Ok none none w) (hlink : (w.servers s).link = some c) :
    Ok none none ((w.unlink c s).push [.disconnectClient c, .closeServer s]) := by
  have hback := (h.linked.sym c s).2 hlink
  refine ⟨(h.files.unlink c s).push _, ?_, ?_, ?_, ?_, ?_⟩
  · obtain ⟨sym, fits, asking⟩ := h.linked
    constructor <;> grind
  · have working := h.working
    grind
  · have canceling := h.canceling
    constructor <;> grind
  · have early := h.early
    constructor <;> grind
  · have hfits := h.linked.fits c s hback
    obtain ⟨client, server, walks, stacked⟩ := h.stack
    have hclient : .closeClient c ∉ w.todo := by grind
    have hserver : .closeServer s ∉ w.todo := by grind
    constructor
    · grind
    · grind
    · grind
    · simp only [todo_push, todo_unlink, List.cons_append, List.nil_append, Stacked]
      grind

/-- A client has just lost its server, which is still to be taken care of. -/
theorem Ok.unlink (h : Ok none exC w) (hlink : (w.servers s).link = some c)
    (hactive : exC = some c → (w.clients c).state = .active ∨ (w.clients c).state = .login)
    (hex : exC = none ∨ exC = some c) : Ok (some s) none (w.unlink c s) := by
  have hback := (h.linked.sym c s).2 hlink
  have hnone := @Canceling.canceledServer_eq_none w c h.canceling
  refine h.each (h.files.unlink c s) (by grind) ?_ ?_ ?_ ?_
  all_goals
    intro part
    constructor <;> grind

/-- A client is unlinked from the server that is closed with it. -/
theorem Ok.unlink_closeServer (h : Ok none none w) (hlink : (w.servers s).link = some c) :
    Ok none none ((w.unlink c s).closeServer cfg s) := by
  exact (h.unlink hlink (by simp) (.inl rfl)).closeServer (by simp)
    (h.stack.closeServer_notMem (by grind)) (.inr rfl)

/-- A server without a client goes back to its pool. -/
theorem Ok.park (h : Ok exS exC w) (hex : exS = none ∨ exS = some s)
    (hlink : (w.servers s).link = none) (hno : .closeServer s ∉ w.todo) {newstate : ServerState}
    (hnew : newstate = .idle ∨ newstate = .used ∨ newstate = .tested ∨ newstate = .beingCanceled)
    (hsent : newstate = .beingCanceled →
      ∀ r, (w.clients r).canceledServer = some s → (w.clients r).state = .activeCancel) :
    Ok none exC (w.changeServerState cfg s newstate) := by
  refine h.each (h.files.changeServerState s _) (by grind) ?_ ?_ ?_ ?_
  all_goals
    intro part
    constructor <;> grind

/-! ### Clients are woken -/

/-- A client that waits is woken. -/
theorem Ok.activateClient (h : Ok none none w)
    (hwaits : (w.clients c).state = .waiting ∨ (w.clients c).state = .waitingLogin)
    (hlink : (w.clients c).link = none) : Ok none none (w.activateClient c) := by
  have hno : .closeClient c ∉ w.todo := h.stack.closeClient_notMem (by grind)
  suffices Ok none none (w.changeClientState c .active) from
    (this.modifyClient rfl).push_reading hno
  have hnone := @Canceling.canceledServer_eq_none w c h.canceling
  refine h.each (h.files.changeClientState c _) (by grind) ?_ ?_ ?_ ?_
  all_goals
    intro part
    constructor <;> grind

/-- The server of a replication client is ready for it. -/
theorem Ok.activateLinked (h : Ok none none w) (hlink : (w.servers s).link = some c)
    (hlogin : (w.servers s).state = .login) :
    Ok none none ((w.changeServerState cfg s .active).activateClient c) := by
  have hback := (h.linked.sym c s).2 hlink
  have hfits := h.linked.fits c s hback
  have hno : .closeClient c ∉ w.todo := h.stack.closeClient_notMem (by grind)
  suffices Ok none none ((w.changeServerState cfg s .active).changeClientState c .active) from
    (this.modifyClient rfl).push_reading hno
  refine ⟨(h.files.changeServerState s _).changeClientState c _, ?_, ?_, ?_, ?_, ?_⟩
  · obtain ⟨sym, fits, asking⟩ := h.linked
    refine ⟨by grind, fun x y hxy => ?_, by grind⟩
    have hxy : (w.clients x).link = some y := by simpa using hxy
    have hyx := (sym x y).1 hxy
    have hfitsxy := fits x y hxy
    clear sym fits asking
    grind
  · have working := h.working
    grind
  · have canceling := h.canceling
    constructor <;> grind
  · have hnone := @Canceling.canceledServer_eq_none w c h.canceling
    have early := h.early
    constructor <;> grind
  · have stack := h.stack
    constructor <;> grind

/-! ### Clients wait, and get a server -/

theorem Ok.wait (h : Ok none none w)
    (hstate : (w.clients c).state = .active ∨
      (w.clients c).state = .login ∧ (w.clients c).sendingAuthQuery = true)
    (hlink : (w.clients c).link = none) (hno : .closeClient c ∉ w.todo) :
    Ok none none (w.changeClientState c .waiting) := by
  have hnone := @Canceling.canceledServer_eq_none w c h.canceling
  refine h.each (h.files.changeClientState c _) (by grind) ?_ ?_ ?_ ?_
  all_goals
    intro part
    constructor <;> grind

/-- A client and a server are linked, and the others stay as they are. -/
theorem Linked.link (h : Linked w) (hc : (w.clients c).link = none) (hs : (w.servers s).link = none)
    (hfits : Fits (w'.clients c) (w'.servers s))
    (hclients : ∀ x, x ≠ c → w'.clients x = w.clients x)
    (hservers : ∀ x, x ≠ s → w'.servers x = w.servers x)
    (hlinked : (w'.clients c).link = some s ∧ (w'.servers s).link = some c) : Linked w' := by
  obtain ⟨hc', hs'⟩ := hlinked
  have hother : ∀ x y, x ≠ c → (w'.clients x).link = some y → y ≠ s := by
    rintro x y hx hxy rfl
    rw [hclients x hx, h.sym, hs] at hxy
    cases hxy
  refine ⟨fun x y => ?_, fun x y hxy => ?_, fun x hx => ?_⟩
  · by_cases hx : x = c
    · subst hx
      by_cases hy : y = s
      · subst hy
        simp [hc', hs']
      · rw [hc', hservers y hy, ← h.sym, hc]
        simp [Ne.symm hy]
    · by_cases hy : y = s
      · subst hy
        rw [hclients x hx, hs', h.sym, hs]
        simp [Ne.symm hx]
      · rw [hclients x hx, hservers y hy, h.sym]
  · by_cases hx : x = c
    · subst hx
      rw [hc'] at hxy
      cases hxy
      exact hfits
    · have hy := hother x y hx hxy
      rw [hclients x hx] at hxy ⊢
      rw [hservers y hy]
      exact h.fits x y hxy
  · by_cases hxc : x = c
    · subst hxc
      grind
    · rw [hclients x hxc] at hx ⊢
      exact h.asking x hx

/-- A client gets a server that was idle. -/
theorem Ok.setLink (h : Ok none none w)
    (hstate : (w.clients c).state = .active ∨
      (w.clients c).state = .login ∧ (w.clients c).asked = true)
    (hlink : (w.clients c).link = none) (hno : .closeClient c ∉ w.todo)
    (hidle : (w.servers s).state = .idle) :
    Ok none none ((w.setLink c s).changeServerState cfg s .active) := by
  have hfree : (w.servers s).link = none := h.linked.server_eq_none (by grind)
  refine h.each ((h.files.setLink c s).changeServerState s _) (by grind)
    (fun linked => linked.link hlink hfree (by grind) (by simp +contextual) (by simp +contextual)
      (by simp)) ?_ ?_ ?_
  all_goals
    intro part
    constructor <;> grind

/-- The login of a client is over. -/
theorem Ok.loggedIn (h : Ok exS exC w) (hlogin : (w.clients c).state = .login) :
    Ok exS exC (w.changeClientState c .active) := by
  have hnone := @Canceling.canceledServer_eq_none w c h.canceling
  refine h.each (h.files.changeClientState c _) (by grind) ?_ ?_ ?_ ?_
  all_goals
    intro part
    constructor <;> grind

/-- The login of a client goes on. -/
theorem Ok.modifyLogin (h : Ok exS exC w) (hlogin : (w.clients c).state = .login)
    (hstate : (f (w.clients c)).state = .login)
    (hlink : (f (w.clients c)).link = (w.clients c).link)
    (hcanceled : (f (w.clients c)).canceledServer = (w.clients c).canceledServer)
    (hasked : (f (w.clients c)).asked = true) : Ok exS exC (w.modifyClient c f) := by
  have hnone := @Canceling.canceledServer_eq_none w c h.canceling
  refine h.each (h.files.modifyClient (list_of_login hlogin hstate)) (by grind) ?_ ?_ ?_ ?_
  all_goals
    intro part
    constructor <;> grind

/-! ### Requests -/

theorem Linked.link_eq_none_of_not_asked (h : Linked w) (hlogin : (w.clients c).state = .login)
    (hasked : (w.clients c).asked = false) : (w.clients c).link = none :=
  h.client_eq_none (by grind)

/-- A request is taken up. -/
theorem Ok.acceptCancel (h : Ok none none w) (hlogin : (w.clients r).state = .login)
    (hasked : (w.clients r).asked = false) (hno : .closeClient r ∉ w.todo)
    (hlink : (w.clients t).link = some s)
    (ht : (w.clients t).state = .active ∨ (w.clients t).state = .waiting ∨
      (w.clients t).state = .waitingLogin) (hfstate : (f (w.clients r)).state = .login)
    (hflink : (f (w.clients r)).link = (w.clients r).link)
    (hcanceled : (f (w.clients r)).canceledServer = some s)
    (hpool : (f (w.clients r)).pool = (w.clients t).pool) :
    Ok none none (((w.modifyClient r f).modifyServer s fun sv =>
      { sv with cancelingClients := sv.cancelingClients.append r }).changeClientState r
        .waitingCancel) := by
  have hrlink := h.linked.link_eq_none_of_not_asked hlogin hasked
  have hfits := h.linked.fits t s hlink
  have hnone := @Canceling.canceledServer_eq_none w r h.canceling
  have hservers : ∀ x, (((w.modifyClient r f).modifyServer s fun sv =>
      { sv with cancelingClients := sv.cancelingClients.append r }).changeClientState r
        .waitingCancel).servers x = { w.servers x with
          cancelingClients := if x = s then (w.servers s).cancelingClients.append r
            else (w.servers x).cancelingClients } := by
    intro x
    by_cases hx : x = s
    · subst hx
      simp
    · simp [hx]
  have hfiles : Files (w.modifyClient r f) := h.files.modifyClient (list_of_login hlogin hfstate)
  refine ⟨(hfiles.modifyServer rfl).changeClientState r _, ?_, ?_, ?_, ?_, ?_⟩
  · have linked := h.linked
    constructor <;> grind
  · have working := h.working
    grind
  · obtain ⟨mem, sound, request, sent, closed⟩ := h.canceling
    have hsound : ((w.servers s).cancelingClients.append r).Sound := (sound s).append (by grind)
    constructor <;> grind [StatList.append]
  · have early := h.early
    constructor <;> grind
  · have stack := h.stack
    constructor <;> grind

/-- A request for a peer is taken up. -/
theorem Ok.acceptCancelForPeer (h : Ok none none w) (hlogin : (w.clients r).state = .login)
    (hasked : (w.clients r).asked = false) (hno : .closeClient r ∉ w.todo)
    (hfstate : (f (w.clients r)).state = .login)
    (hflink : (f (w.clients r)).link = (w.clients r).link)
    (hcanceled : (f (w.clients r)).canceledServer = (w.clients r).canceledServer) :
    Ok none none ((w.modifyClient r f).changeClientState r .waitingCancel) := by
  have hrlink := h.linked.link_eq_none_of_not_asked hlogin hasked
  have hnone := @Canceling.canceledServer_eq_none w r h.canceling
  have hfiles : Files (w.modifyClient r f) := h.files.modifyClient (list_of_login hlogin hfstate)
  refine h.each (hfiles.changeClientState r _) (by grind) ?_ ?_ ?_ ?_
  all_goals
    intro part
    constructor <;> grind

/-- A request is sent on a new connection. -/
theorem Ok.sendCancel (h : Ok none none w) (hwaits : (w.clients r).state = .waitingCancel)
    (hrlink : (w.clients r).link = none) (hslink : (w.servers s).link = none)
    (hlogin : (w.servers s).state = .login) (hnew : (w.servers s).startupSent = false)
    (hpool : (w.clients r).pool = (w.servers s).pool) :
    Ok none none (((w.setLink r s).changeClientState r .activeCancel).changeServerState cfg s
      .activeCancel) := by
  refine h.each (((h.files.setLink r s).changeClientState r _).changeServerState s _) (by grind)
    (fun linked => linked.link hrlink hslink (by grind) (by simp +contextual) (by simp +contextual)
      (by simp)) ?_ ?_ ?_
  all_goals
    intro part
    constructor <;> grind

/-! ### New sockets -/

/-- A connection has come about, or its login has begun. -/
theorem Ok.modifyNew (h : Ok none none w) {f : Server → Server}
    (hstate : (f (w.servers s)).state = (w.servers s).state)
    (hpool : (f (w.servers s)).pool = (w.servers s).pool)
    (hlink : (f (w.servers s)).link = (w.servers s).link)
    (hcanceling : (f (w.servers s)).cancelingClients = (w.servers s).cancelingClients)
    (hreplication : (w.servers s).replication = true → (f (w.servers s)).replication = true)
    (hstartup : (w.servers s).startupSent = true → (f (w.servers s)).startupSent = true)
    (hconnected : (f (w.servers s)).startupSent = true → (f (w.servers s)).connected = true) :
    Ok none none (w.modifyServer s f) := by
  refine h.each (h.files.modifyServer (by simp only [Server.list, hstate, hpool])) (by grind)
    ?_ ?_ ?_ ?_
  all_goals
    intro part
    constructor <;> grind

/-- A replication client gets the server that logs in. -/
theorem Ok.linkStartup (h : Ok none none w) (hwaits : (w.clients c).state = .waiting)
    (hlink : (w.clients c).link = none) (hwants : (w.clients c).wantsReplication = true)
    (hpool : (w.clients c).pool = (w.servers s).pool)
    (hlogin : (w.servers s).state = .login) (hslink : (w.servers s).link = none)
    (hstartup : (w.servers s).startupSent = true) (hrepl : (w.servers s).replication = true)
    (hno : .closeServer s ∉ w.todo) : Ok none none (w.setLink c s) := by
  refine h.each (h.files.setLink c s) (by grind)
    (fun linked => linked.link hlink hslink (by grind) (by simp +contextual) (by simp +contextual)
      (by simp)) ?_ ?_ ?_
  all_goals
    intro part
    constructor <;> grind

theorem Ok.launchNewConnection (h : Ok none none w) (hnew : w.servers s = {})
    (hsingle : ∀ x, (w.servers x).state = .login → (w.servers x).pool ≠ p) :
    Ok none none (w.launchNewConnection cfg p s) := by
  have hnone : ∀ r, (w.clients r).canceledServer ≠ some s := by
    intro r hr
    rw [← h.canceling.mem, hnew] at hr
    cases hr
  have hfiles : Files (w.modifyServer s fun sv => { sv with pool := p }) :=
    h.files.modifyServer (by rw [hnew]; rfl)
  unfold World.launchNewConnection
  refine h.each (hfiles.changeServerState s _) (by grind) ?_ ?_ ?_ ?_
  all_goals
    intro part
    constructor <;> grind

theorem Ok.acceptClient (h : Ok none none w) (hnew : w.clients c = {}) (b : Bool) :
    Ok none none (w.acceptClient c b) := by
  unfold World.acceptClient
  refine h.each (Files.changeClientState (h.files.modifyClient rfl) c _) (by grind) ?_ ?_ ?_ ?_
  all_goals
    intro part
    constructor <;> grind

end PgBouncer.Sockets
