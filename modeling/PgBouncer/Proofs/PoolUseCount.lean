/-
Reference counting in a whole pool.

`Proofs/UseCount.lean` follows the references of one client and one server through
the packet handlers, with the references held elsewhere as a parameter.  Here that
parameter becomes the rest of the pool, and the events of the pool are added that
never look at a statement: linking, releasing, closing.  What is left of a
connection when it is freed gives its references up.
-/
import Mathlib.Algebra.BigOperators.Group.List.Basic
import Mathlib.Algebra.GroupWithZero.Nat
import PgBouncer.Lib.Modify
import PgBouncer.Lib.Run
import PgBouncer.Pool
import PgBouncer.Proofs.UseCount

namespace PgBouncer

namespace Pool

/-- Everything in a pool that points at a shared statement: the entries of the
clients' maps, those of the servers' caches, and the outstanding Close requests. -/
def refs (P : Pool) : List QueryId :=
  P.clients.flatMap (·.client.refs) ++ P.servers.flatMap (·.server.refs)

/-- The table accounts for the whole pool. -/
structure Sound (P : Pool) : Prop where
  counted : Counted P.stmts P.refs
  closes : ∀ (s : Nat) (sv : ServerSock), P.servers[s]? = some sv →
    ClosesOnly sv.server.outstandingRequests

end Pool

/-! ### Events that touch no statement -/

/-- The `PGBOUNCER_n` statement a packet prepares or uses. -/
def Pkt.statement : Pkt StmtRef → Option QueryId
  | .parse (.pgbouncer id) _ | .bind _ (.pgbouncer id) | .describe _ (.pgbouncer id) => some id
  | _ => none

variable {sv sv' : ServerSock}

namespace ServerSock

/-- The statements prepared and used on a server, in order. -/
def log (sv : ServerSock) : List QueryId := sv.sent.filterMap (·.pkt.statement)

/-- All that has to do with the statements of a server. -/
def statements (sv : ServerSock) :=
  (sv.server.outstandingRequests, sv.server.serverPreparedStatements, sv.server.queryFailed,
    sv.server.copyMode, sv.log)

/-- A server whose statements have been left alone. -/
def Alike (sv sv' : ServerSock) : Prop := sv'.statements = sv.statements

theorem Alike.requests (h : Alike sv sv') :
    sv'.server.outstandingRequests = sv.server.outstandingRequests := congrArg (·.1) h

theorem Alike.cache (h : Alike sv sv') :
    sv'.server.serverPreparedStatements = sv.server.serverPreparedStatements :=
  congrArg (·.2.1) h

theorem Alike.queryFailed (h : Alike sv sv') :
    sv'.server.queryFailed = sv.server.queryFailed := congrArg (·.2.2.1) h

theorem Alike.copyMode (h : Alike sv sv') :
    sv'.server.copyMode = sv.server.copyMode := congrArg (·.2.2.2.1) h

theorem Alike.log (h : Alike sv sv') : sv'.log = sv.log :=
  congrArg (·.2.2.2.2) h

theorem Alike.refs (h : Alike sv sv') : sv'.server.refs = sv.server.refs := by
  rw [Server.refs, h.requests, h.cache, Server.refs]

theorem Alike.sendOwnQuery (h : Alike sv sv') :
    Alike sv (Pool.sendOwnQuery sv') := by
  refine Eq.trans ?_ h
  simp [statements, ServerSock.log, Pool.sendOwnQuery, Pkt.statement]

theorem alike_settleServer (cfg : Config) (sv : ServerSock) (expired : Bool) :
    Alike sv (Pool.settleServer cfg sv expired) := by
  unfold Pool.settleServer
  simp only
  split_ifs
  · exact rfl
  · exact rfl
  · exact Alike.sendOwnQuery rfl
  · exact rfl

end ServerSock

namespace Pool

open ServerSock (Alike)

variable {cfg : Config} {P P' : Pool}

/-- A pool with the same statements and the same references. -/
structure Keeps (P Q : Pool) : Prop where
  stmts : Q.stmts = P.stmts
  refs : Q.refs = P.refs
  servers : ∀ (s : Nat) (sv' : ServerSock), Q.servers[s]? = some sv' →
    ∃ sv, P.servers[s]? = some sv ∧ Alike sv sv'

theorem Keeps.refl (P : Pool) : Keeps P P := ⟨rfl, rfl, fun _ sv h => ⟨sv, h, rfl⟩⟩

theorem Keeps.trans {Q R : Pool} (h : Keeps P Q) (h' : Keeps Q R) : Keeps P R := by
  refine ⟨h'.stmts.trans h.stmts, h'.refs.trans h.refs, fun s sv'' hs => ?_⟩
  obtain ⟨sv', hs', halike'⟩ := h'.servers s sv'' hs
  obtain ⟨sv, hs, halike⟩ := h.servers s sv' hs'
  exact ⟨sv, hs, Eq.trans halike' halike⟩

theorem Sound.of_keeps {Q : Pool} (h : P.Sound) (hk : Keeps P Q) : Q.Sound := by
  refine ⟨?_, fun s sv' hs => ?_⟩
  · rw [hk.stmts, hk.refs]
    exact h.counted
  · obtain ⟨sv, hs, halike⟩ := hk.servers s sv' hs
    rw [halike.requests]
    exact h.closes s sv hs

theorem keeps_modifyClient (P : Pool) (c : Nat) {f : ClientSock → ClientSock}
    (hf : ∀ cs, (f cs).client.clientPreparedStatements = cs.client.clientPreparedStatements) :
    Keeps P (P.modifyClient c f) := by
  refine ⟨rfl, ?_, (Keeps.refl P).servers⟩
  rw [refs, refs, modifyClient, Modify.flatMap_modify _ f fun cs _ => ?_]
  rw [Client.refs, hf, Client.refs]

theorem keeps_modifyServer (P : Pool) (s : Nat) {f : ServerSock → ServerSock}
    (hf : ∀ sv, P.servers[s]? = some sv → Alike sv (f sv)) : Keeps P (P.modifyServer s f) := by
  refine ⟨rfl, ?_, ?_⟩
  · rw [refs, refs, modifyServer, Modify.flatMap_modify _ f fun sv hsv => (hf sv hsv).refs]
  · exact Modify.forall_modify (Keeps.refl P).servers fun sv hsv => ⟨sv, hsv, hf sv hsv⟩

theorem keeps_unlink (P : Pool) (c s : Nat) : Keeps P (P.unlink c s) := by
  unfold Pool.unlink
  refine (keeps_modifyClient P c ?_).trans (keeps_modifyServer _ s ?_)
  · exact fun _ => rfl
  · exact fun _ _ => rfl

theorem keeps_closeClient (P : Pool) (c : Nat) : Keeps P (P.closeClient c) :=
  keeps_modifyClient P c fun _ => rfl

theorem keeps_closeServer (P : Pool) (s : Nat) : Keeps P (P.closeServer s) :=
  keeps_modifyServer P s fun _ _ => rfl

theorem keeps_releaseServer (cfg : Config) (P : Pool) (s : Nat) (expired : Bool) :
    Keeps P (P.releaseServer cfg s expired) := by
  have hsettle : ∀ Q : Pool, Keeps Q (Q.modifyServer s fun sv => settleServer cfg sv expired) :=
    fun Q => keeps_modifyServer Q s fun sv _ => ServerSock.alike_settleServer cfg sv expired
  unfold Pool.releaseServer
  dsimp only
  split
  · refine ((keeps_modifyClient P _ ?_).trans (keeps_unlink _ _ s)).trans (hsettle _)
    exact fun _ => rfl
  · exact hsettle P

theorem keeps_disconnectServer (P : Pool) (s : Nat) : Keeps P (P.disconnectServer s) := by
  unfold Pool.disconnectServer
  split
  · exact ((keeps_unlink P _ s).trans (keeps_closeServer _ s)).trans (keeps_closeClient _ _)
  · exact keeps_closeServer P s

theorem keeps_disconnectClient (cfg : Config) (P : Pool) (c : Nat) (expired : Bool) :
    Keeps P (P.disconnectClient cfg c expired) := by
  unfold Pool.disconnectClient
  dsimp only
  refine Keeps.trans ?_ (keeps_closeClient _ c)
  split
  · exact Keeps.refl P
  · split
    · exact Keeps.refl P
    · split
      · exact (keeps_unlink P c _).trans (keeps_closeServer _ _)
      · exact keeps_releaseServer cfg P _ expired

theorem keeps_obey (cfg : Config) (P : Pool) (c s : Nat) (expired : Bool)
    (d : Option Disconnect) : Keeps P (P.obey cfg c s expired d) := by
  match d with
  | none => exact Keeps.refl P
  | some (.client _) => exact keeps_disconnectClient cfg P c expired
  | some (.server _) => exact keeps_disconnectServer P s

/-! ### What an event can do -/

/-- **What an event does to the statements of a pool**: nothing, or what the handler of a
packet does to a client and a server, or what becomes of those who come and go. -/
inductive Does (cfg : Config) (P : Pool) : PoolEvent → Pool → Prop
  | quiet {e P'} (keeps : Keeps P P') : Does cfg P e P'
  | accept : Does cfg P .accept { P with clients := P.clients ++ [{}] }
  | connect : Does cfg P .connect { P with servers := P.servers ++ [{}] }
  | client {c s cs sv p body expired l d P'} (hc : P.clients[c]? = some cs)
      (hs : P.servers[s]? = some sv) (work : handleClientWork cfg (P.linkOf cs sv) p = (l, d))
      (keeps : Keeps (P.putLink c s l body) P') (accepted : d = none → P' = P.putLink c s l body) :
      Does cfg P (.clientPacket c p body expired) P'
  | unlinkedClient {c cs p body expired r} (hc : P.clients[c]? = some cs)
      (work : handleUnlinkedClientWork cfg cs.client P.stmts p = some r) :
      Does cfg P (.clientPacket c p body expired)
        { P.modifyClient c fun cs =>
            { cs with client := r.1, received := cs.received ++ r.2.2 } with stmts := r.2.1 }
  | server {c s cs sv m P₁ P'} (before : Keeps P P₁) (hc : P₁.clients[c]? = some cs)
      (hs : P₁.servers[s]? = some sv)
      (keeps : Keeps (P₁.putLink c s (processServerPacket cfg (P₁.linkOf cs sv) m).1 0) P') :
      Does cfg P (.serverPacket s m) P'
  | unlinkedServer {s sv m h P₁ P'} (before : Keeps P P₁) (hs : P₁.servers[s]? = some sv)
      (switch : serverSwitch cfg sv.server none P₁.stmts m = h)
      (keeps : Keeps
        { P₁.modifyServer s fun sv => { sv with server := h.server } with stmts := h.stmts } P') :
      Does cfg P (.serverPacket s m) P'
  | freeClient {c cs} (hc : P.clients[c]? = some cs) :
      Does cfg P (.freeClient c) { P.modifyClient c fun cs =>
          { cs with state := .free, client := { cs.client with clientPreparedStatements := [] } }
        with stmts := freeClientPreparedStatements cs.client.clientPreparedStatements P.stmts }
  | freeServer {s sv} (hs : P.servers[s]? = some sv) :
      Does cfg P (.freeServer s) { P.modifyServer s fun sv =>
          { sv with state := .free, server := { sv.server with
            outstandingRequests := [], serverPreparedStatements := [] } } with
        stmts := freeServerPreparedStatements sv.server.serverPreparedStatements
          (freeServerPreparedStatements (requestRefs sv.server.outstandingRequests) P.stmts) }

variable {c s : Nat} {cs : ClientSock}

theorem keeps_findServer {varchange : Bool} (hstep : P.findServer c s varchange = some P') :
    Keeps P P' := by
  unfold Pool.findServer at hstep
  split at hstep
  · rw [Option.ite_none_right_eq_some] at hstep
    obtain ⟨-, ⟨⟩⟩ := hstep
    refine (keeps_modifyClient P c ?_).trans (keeps_modifyServer _ s fun sv _ => ?_)
    · exact fun _ => rfl
    · cases varchange with
      | false => exact rfl
      | true => exact Alike.sendOwnQuery rfl
  · exact nomatch hstep

variable {p : Pkt Bytes}

theorem does_clientPacket {body : Nat} {expired : Bool}
    (hstep : P.clientPacket cfg c p body expired = some P') :
    Does cfg P (.clientPacket c p body expired) P' := by
  unfold Pool.clientPacket at hstep
  split at hstep
  · exact nomatch hstep
  · rename_i cs hc
    rw [Option.ite_none_left_eq_some] at hstep
    obtain ⟨-, hstep⟩ := hstep
    split at hstep
    · unfold Pool.unlinkedPacket at hstep
      split at hstep
      · cases hstep
        exact .quiet (keeps_disconnectClient cfg P c expired)
      · obtain ⟨r, hr, rfl⟩ := Option.map_eq_some_iff.mp hstep
        exact .unlinkedClient hc hr
    · split at hstep
      · exact nomatch hstep
      · rename_i sv hs
        rw [Option.ite_none_left_eq_some] at hstep
        obtain ⟨-, hstep⟩ := hstep
        rcases hwork : handleClientWork cfg (P.linkOf cs sv) p with ⟨l, d⟩
        rw [hwork] at hstep
        cases hstep
        refine .client hc hs hwork (keeps_obey cfg _ c _ expired d) ?_
        rintro rfl
        rfl

theorem keeps_send (hstep : P.send c = some P') : Keeps P P' := by
  unfold Pool.send at hstep
  split at hstep
  · exact nomatch hstep
  · split at hstep
    · split at hstep
      · exact nomatch hstep
      · rw [Option.ite_none_right_eq_some] at hstep
        obtain ⟨-, ⟨⟩⟩ := hstep
        refine (keeps_modifyClient P c ?_).trans (keeps_modifyServer _ _ ?_)
        · exact fun _ => rfl
        · exact fun _ _ => rfl
    · exact nomatch hstep

theorem does_serverPacket {m : ServerMsg} (hstep : P.serverPacket cfg s m = some P') :
    Does cfg P (.serverPacket s m) P' := by
  unfold Pool.serverPacket at hstep
  split at hstep
  · exact nomatch hstep
  · rename_i sv hs
    rw [Option.ite_none_left_eq_some] at hstep
    obtain ⟨-, hstep⟩ := hstep
    dsimp only at hstep
    set sv₁ : ServerSock :=
      { sv with server := { sv.server with sbufIsEmpty := true }, flushDue := true }
    have hbefore : Keeps P (P.modifyServer s fun _ => sv₁) := by
      refine keeps_modifyServer P s fun sv' hsv' => ?_
      cases hs.symm.trans hsv'
      exact rfl
    have hs₁ : (P.modifyServer s fun _ => sv₁).servers[s]? = some sv₁ := by
      simp [Pool.modifyServer, hs]
    split at hstep
    · cases hstep
      refine .unlinkedServer hbefore hs₁ rfl ?_
      unfold Pool.unlinkedServerPacket
      dsimp only
      split
      · exact keeps_disconnectServer _ s
      · exact Keeps.refl _
    · split at hstep
      · exact nomatch hstep
      · rename_i cs hc
        cases hstep
        exact .server hbefore hc hs₁ (keeps_obey cfg _ _ s false _)

theorem keeps_flush {expired : Bool} (hstep : P.flush cfg s expired = some P') :
    Keeps P P' := by
  unfold Pool.flush at hstep
  split at hstep
  · exact nomatch hstep
  · rw [Option.ite_none_left_eq_some] at hstep
    obtain ⟨-, hstep⟩ := hstep
    have hflag : Keeps P (P.modifyServer s fun sv => { sv with flushDue := false }) :=
      keeps_modifyServer P s fun _ _ => rfl
    have hrelease := hflag.trans (keeps_releaseServer cfg _ s expired)
    dsimp only at hstep
    split at hstep
    · exact Option.some.inj hstep ▸ hflag
    split at hstep
    · cases hstep
      exact hflag.trans (keeps_modifyServer _ s fun _ _ => rfl)
    split at hstep
    · exact Option.some.inj hstep ▸ hflag
    split at hstep
    · exact Option.some.inj hstep ▸ hflag
    split at hstep
    · exact Option.some.inj hstep ▸ hrelease
    · split_ifs at hstep
      · exact Option.some.inj hstep ▸ hflag
      · exact Option.some.inj hstep ▸ hflag
      · exact Option.some.inj hstep ▸ hrelease

theorem does_of_step {e : PoolEvent} (hstep : P.step cfg e = some P') : Does cfg P e P' := by
  cases e with
  | accept => exact Option.some.inj hstep ▸ .accept
  | connect => exact Option.some.inj hstep ▸ .connect
  | link c s varchange => exact .quiet (keeps_findServer hstep)
  | clientPacket c p body expired => exact does_clientPacket hstep
  | send c => exact .quiet (keeps_send hstep)
  | serverPacket s m => exact does_serverPacket hstep
  | partialPacket s =>
    simp only [Pool.step] at hstep
    split at hstep
    · rw [Option.ite_none_right_eq_some] at hstep
      obtain ⟨-, ⟨⟩⟩ := hstep
      exact .quiet (keeps_modifyServer P s fun _ _ => rfl)
    · exact nomatch hstep
  | flush s expired => exact .quiet (keeps_flush hstep)
  | check s =>
    simp only [Pool.step, Pool.check] at hstep
    split at hstep
    · rw [Option.ite_none_right_eq_some] at hstep
      obtain ⟨-, ⟨⟩⟩ := hstep
      exact .quiet (keeps_modifyServer P s fun _ _ => Alike.sendOwnQuery rfl)
    · exact nomatch hstep
  | disconnectClient c expired =>
    simp only [Pool.step] at hstep
    split at hstep
    · rw [Option.ite_none_right_eq_some] at hstep
      obtain ⟨-, ⟨⟩⟩ := hstep
      exact .quiet (keeps_disconnectClient cfg P c expired)
    · exact nomatch hstep
  | disconnectServer s =>
    simp only [Pool.step] at hstep
    split at hstep
    · rw [Option.ite_none_right_eq_some] at hstep
      obtain ⟨-, ⟨⟩⟩ := hstep
      exact .quiet (keeps_disconnectServer P s)
    · exact nomatch hstep
  | freeClient c =>
    simp only [Pool.step, Pool.freeClient] at hstep
    split at hstep
    · rename_i cs hc
      rw [Option.ite_none_right_eq_some] at hstep
      obtain ⟨-, ⟨⟩⟩ := hstep
      exact .freeClient hc
    · exact nomatch hstep
  | freeServer s =>
    simp only [Pool.step, Pool.freeServer] at hstep
    split at hstep
    · rename_i sv hs
      rw [Option.ite_none_right_eq_some] at hstep
      obtain ⟨-, ⟨⟩⟩ := hstep
      exact .freeServer hs
    · exact nomatch hstep

/-! ### Packets -/

/-- The references of everybody but one client and one server. -/
def refsBut (P : Pool) (c s : Nat) : List QueryId :=
  (P.clients.eraseIdx c).flatMap (·.client.refs) ++ (P.servers.eraseIdx s).flatMap (·.server.refs)

theorem Sound.linkOf (h : P.Sound) (hc : P.clients[c]? = some cs) (hs : P.servers[s]? = some sv) :
    (P.linkOf cs sv).Sound (P.refsBut c s) := by
  refine ⟨h.counted.congr fun x => ?_, h.closes s sv hs⟩
  simp only [refs, refsBut, List.count_append, optRefs, Pool.linkOf,
    Modify.count_flatMap (fun cs : ClientSock => cs.client.refs) hc x,
    Modify.count_flatMap (fun sv : ServerSock => sv.server.refs) hs x]
  omega

/-- What a pool refers to once the two ends of a link are stored. -/
theorem count_refs_putLink (l : Link) (hc : P.clients[c]? = some cs) (hs : P.servers[s]? = some sv)
    (body : Nat) (x : QueryId) :
    (P.putLink c s l body).refs.count x =
      (optRefs (some l.client) ++ l.server.refs ++ P.refsBut c s).count x := by
  simp only [refs, refsBut, List.count_append, optRefs, Pool.putLink,
    Modify.count_flatMap_modify (fun cs : ClientSock => cs.client.refs) _ hc x,
    Modify.count_flatMap_modify (fun sv : ServerSock => sv.server.refs) _ hs x]
  omega

theorem Sound.putLink (h : P.Sound) {l : Link} (hc : P.clients[c]? = some cs)
    (hs : P.servers[s]? = some sv) (body : Nat) (hl : l.Sound (P.refsBut c s)) :
    (P.putLink c s l body).Sound :=
  ⟨hl.counted.congr (count_refs_putLink l hc hs body),
    Modify.forall_modify h.closes fun _ _ => hl.closes⟩

theorem Sound.clientWork (h : P.Sound) {l : Link} {d : Option Disconnect}
    (hc : P.clients[c]? = some cs) (hs : P.servers[s]? = some sv)
    (hwork : handleClientWork cfg (P.linkOf cs sv) p = (l, d)) :
    l.Sound (P.refsBut c s) := by
  have hl := h.linkOf hc hs
  cases d with
  | none => exact sound_accepts (handleClientWork_accepts hwork) hl
  | some d =>
    rcases (handleClientWork_refuses hwork).2 with rfl | rfl
    · exact hl
    · exact hl.tagDirty

/-- The references of everybody but one client. -/
theorem Sound.countedClient (h : P.Sound) (hc : P.clients[c]? = some cs) :
    Counted P.stmts (cs.client.refs ++
      ((P.clients.eraseIdx c).flatMap (·.client.refs) ++ P.servers.flatMap (·.server.refs))) := by
  refine h.counted.congr fun x => ?_
  simp only [refs, List.count_append,
    Modify.count_flatMap (fun cs : ClientSock => cs.client.refs) hc x]
  omega

theorem Sound.unlinkedClient (h : P.Sound) {r : Client × Statements × List ToClient}
    (hc : P.clients[c]? = some cs)
    (hwork : handleUnlinkedClientWork cfg cs.client P.stmts p = some r) :
    Pool.Sound { P.modifyClient c fun cs =>
      { cs with client := r.1, received := cs.received ++ r.2.2 } with stmts := r.2.1 } := by
  have hself := h.countedClient hc
  have hcount : Counted r.2.1 (r.1.refs ++
      ((P.clients.eraseIdx c).flatMap (·.client.refs) ++ P.servers.flatMap (·.server.refs))) := by
    unfold handleUnlinkedClientWork at hwork
    split at hwork
    · exact Option.some.inj hwork ▸ hself
    · exact Option.some.inj hwork ▸ hself
    · exact Option.some.inj hwork ▸ hself
    · rw [Option.ite_none_right_eq_some] at hwork
      obtain ⟨-, ⟨⟩⟩ := hwork
      exact counted_forgetStatement _ _ hself
    · exact nomatch hwork
  refine ⟨hcount.congr fun x => ?_, h.closes⟩
  simp only [refs, Pool.modifyClient, List.count_append,
    Modify.count_flatMap_modify (fun cs : ClientSock => cs.client.refs) _ hc x]
  omega

theorem Sound.unlinkedServer (h : P.Sound) {s : Nat} {sv : ServerSock} {m : ServerMsg}
    (hs : P.servers[s]? = some sv) : Pool.Sound { P.modifyServer s fun sv' =>
      { sv' with server := (serverSwitch cfg sv.server none P.stmts m).server } with
      stmts := (serverSwitch cfg sv.server none P.stmts m).stmts } := by
  have hself : PgBouncer.Sound none sv.server P.stmts (P.clients.flatMap (·.client.refs) ++
      (P.servers.eraseIdx s).flatMap (·.server.refs)) := by
    refine ⟨h.counted.congr fun x => ?_, h.closes s sv hs⟩
    simp only [refs, optRefs, List.count_append, List.nil_append,
      Modify.count_flatMap (fun sv : ServerSock => sv.server.refs) hs x]
    omega
  have hswitch := sound_serverSwitch cfg m hself
  have hclient := serverSwitch_client cfg sv.server none P.stmts m
  refine ⟨hswitch.counted.congr fun x => ?_,
    Modify.forall_modify h.closes fun _ _ => hswitch.closes⟩
  simp only [refs, hclient, Option.map_none, optRefs, List.count_append, List.nil_append,
    Pool.modifyServer, Modify.count_flatMap_modify (fun sv : ServerSock => sv.server.refs) _ hs x]
  omega

/-! ### The whole pool -/

theorem Sound.freeClient (h : P.Sound) (hc : P.clients[c]? = some cs) :
    Pool.Sound { P.modifyClient c fun cs =>
        { cs with state := .free, client := { cs.client with clientPreparedStatements := [] } }
      with stmts := freeClientPreparedStatements cs.client.clientPreparedStatements P.stmts } := by
  refine ⟨(h.countedClient hc).freeClientPreparedStatements.congr fun x => ?_, h.closes⟩
  simp only [refs, Pool.modifyClient, List.count_append,
    Modify.count_flatMap_modify (fun cs : ClientSock => cs.client.refs) _ hc x]
  simp [Client.refs]

theorem Sound.freeServer (h : P.Sound) (hs : P.servers[s]? = some sv) :
    Pool.Sound { P.modifyServer s fun sv =>
        { sv with state := .free, server := { sv.server with
          outstandingRequests := [], serverPreparedStatements := [] } } with
      stmts := freeServerPreparedStatements sv.server.serverPreparedStatements
        (freeServerPreparedStatements (requestRefs sv.server.outstandingRequests) P.stmts) } := by
  have hself : Counted P.stmts (requestRefs sv.server.outstandingRequests ++
      (sv.server.serverPreparedStatements ++ (P.clients.flatMap (·.client.refs) ++
        (P.servers.eraseIdx s).flatMap (·.server.refs)))) := by
    refine h.counted.congr fun x => ?_
    have hsv : sv.server.refs.count x = sv.server.serverPreparedStatements.count x +
        (requestRefs sv.server.outstandingRequests).count x := List.count_append
    simp only [refs, List.count_append,
      Modify.count_flatMap (fun sv : ServerSock => sv.server.refs) hs x]
    omega
  refine ⟨hself.freeServerPreparedStatements.freeServerPreparedStatements.congr fun x => ?_,
    Modify.forall_modify h.closes fun _ _ => by simp [ClosesOnly]⟩
  simp only [refs, Pool.modifyServer, List.count_append,
    Modify.count_flatMap_modify (fun sv : ServerSock => sv.server.refs) _ hs x]
  simp [Server.refs]

theorem Sound.step (h : P.Sound) {e : PoolEvent} (hstep : P.step cfg e = some P') : P'.Sound := by
  cases does_of_step hstep with
  | quiet hkeeps => exact h.of_keeps hkeeps
  | accept =>
    refine ⟨?_, h.closes⟩
    have hc := h.counted
    simpa [refs, Client.refs] using hc
  | connect =>
    refine ⟨?_, Modify.forall_concat h.closes (by simp [ClosesOnly])⟩
    have hc := h.counted
    simpa [refs, Server.refs] using hc
  | client hc hs hwork hkeeps =>
    exact (h.putLink hc hs _ (h.clientWork hc hs hwork)).of_keeps hkeeps
  | unlinkedClient hc hwork => exact h.unlinkedClient hc hwork
  | server hbefore hc hs hkeeps =>
    have h₁ := h.of_keeps hbefore
    exact (h₁.putLink hc hs 0 (sound_processServerPacket cfg _ (h₁.linkOf hc hs))).of_keeps hkeeps
  | unlinkedServer hbefore hs hswitch hkeeps =>
    cases hswitch
    exact ((h.of_keeps hbefore).unlinkedServer hs).of_keeps hkeeps
  | freeClient hc => exact h.freeClient hc
  | freeServer hs => exact h.freeServer hs

theorem sound_of_exec {es : List (Config × PoolEvent)} (hrun : Run.exec stepWith {} es = some P) :
    P.Sound :=
  Run.invariant (fun h _ hstep => h.step hstep) (Run.meets_of_forall (fun _ _ => trivial) _ es) hrun
    ⟨Counted.nil, by simp⟩

/-! ### The counts by where they come from -/

/-- The entries of the clients' maps that point at a statement. -/
def clientEntries (P : Pool) (id : QueryId) : Nat :=
  (P.clients.map fun cs => cs.client.clientPreparedStatements.countP (·.ps = id)).sum

/-- The entries of the servers' caches that point at it. -/
def cacheEntries (P : Pool) (id : QueryId) : Nat :=
  (P.servers.map fun sv => sv.server.serverPreparedStatements.countP (· = id)).sum

/-- The outstanding Close requests that point at it. -/
def closeRequests (P : Pool) (id : QueryId) : Nat :=
  (P.servers.map fun sv => sv.server.outstandingRequests.countP fun r =>
    r.type = .close ∧ r.serverPs = some id).sum

theorem count_requestRefs {q : List OutstandingRequest} (h : ClosesOnly q) (id : QueryId) :
    (requestRefs q).count id = q.countP fun r => r.type = .close ∧ r.serverPs = some id := by
  induction q with
  | nil => rfl
  | cons r rest ih =>
    have hrest := ih (h.of_suffix (List.suffix_cons r rest))
    rw [requestRefs_cons, List.count_append, List.countP_cons, hrest, Nat.add_comm]
    congr 1
    cases hps : r.serverPs with
    | none => simp
    | some x =>
      have htype := (h r List.mem_cons_self (by simp [hps])).1
      by_cases hx : x = id <;> simp [htype, hx]

theorem Sound.count_refs (h : P.Sound) (id : QueryId) :
    P.refs.count id = P.clientEntries id + P.cacheEntries id + P.closeRequests id := by
  have hserver : ∀ sv ∈ P.servers, sv.server.refs.count id =
      sv.server.serverPreparedStatements.countP (· = id) +
        sv.server.outstandingRequests.countP fun r => r.type = .close ∧ r.serverPs = some id := by
    intro sv hsv
    obtain ⟨s, hs⟩ := List.mem_iff_getElem?.mp hsv
    rw [Server.refs, List.count_append, count_requestRefs (h.closes s sv hs)]
    rfl
  have hclient : ∀ cs ∈ P.clients, cs.client.refs.count id =
      cs.client.clientPreparedStatements.countP (·.ps = id) := by
    intro cs _
    rw [Client.refs, List.count, List.countP_map]
    rfl
  rw [refs, List.count_append, List.count_flatMap, List.count_flatMap, clientEntries,
    cacheEntries, closeRequests, Nat.add_assoc, ← List.sum_map_add]
  exact congrArg₂ (·.sum + ·.sum) (List.map_congr_left hclient) (List.map_congr_left hserver)

/-- **Reference counting.**  In every state a pool can get into, each shared statement
counts the client entries, cache entries and outstanding Close requests that point at
it, it is in the table exactly while there are any, and no id and no query text is in
the table twice. -/
theorem useCount_eq_entries {es : List (Config × PoolEvent)}
    (hrun : Run.exec stepWith {} es = some P) :
    (∀ ps ∈ P.stmts.preparedStatements, ps.useCount =
      P.clientEntries ps.queryId + P.cacheEntries ps.queryId + P.closeRequests ps.queryId) ∧
    (∀ id, (∃ ps ∈ P.stmts.preparedStatements, ps.queryId = id) ↔
      0 < P.clientEntries id + P.cacheEntries id + P.closeRequests id) ∧
    (P.stmts.preparedStatements.map (·.queryAndParameters)).Nodup ∧
    (P.stmts.preparedStatements.map (·.queryId)).Nodup := by
  have hs := sound_of_exec hrun
  refine ⟨?_, ?_, hs.counted.text_nodup, hs.counted.queryId_nodup⟩
  · intro ps hps
    rw [hs.counted.useCount ps hps, hs.count_refs]
  · intro id
    rw [hs.counted.mem_iff id, hs.count_refs]

/-- Two clients prepare one query over one server, and the first one goes. -/
theorem useCount_eq_entries_shared :
    ∃ P, Run.exec stepWith {}
      ([.accept, .accept, .connect, .link 0 0 false, .clientPacket 0 (.parse [1] [2]) 0 false,
        .serverPacket 0 .parseComplete, .clientPacket 0 .sync 0 false,
        .serverPacket 0 (.readyForQuery .idle), .flush 0 false, .link 1 0 false,
        .clientPacket 1 (.parse [3] [2]) 0 false, .disconnectClient 0 false, .freeClient 0].map
          fun e => ({ maxPreparedStatements := 1 }, e)) = some P ∧
      P.stmts.preparedStatements = [⟨1, 2, [2]⟩] ∧
      P.clientEntries 1 + P.cacheEntries 1 + P.closeRequests 1 = 2 := by
  refine Run.exists_of_any (P := fun P => P.stmts.preparedStatements = [⟨1, 2, [2]⟩])
    (by decide) fun P hrun hstmts => ⟨hstmts, ?_⟩
  exact ((useCount_eq_entries hrun).1 ⟨1, 2, [2]⟩ (hstmts ▸ List.mem_cons_self)).symm

/-- **The table shares every query**, in every run.  For a query that is in the table, its
statement is taken; for another one a statement is added whose id nobody has. -/
theorem queries_shared {es : List (Config × PoolEvent)} (hrun : Run.exec stepWith {} es = some P)
    (query : Bytes) :
    (∀ ps ∈ P.stmts.preparedStatements,
      0 < ps.queryId ∧ ps.queryId ≤ P.stmts.nextUniqueQueryId) ∧
    (∀ ps ∈ P.stmts.preparedStatements, ps.queryAndParameters = query →
      getPreparedStatement P.stmts query = (ps, true, P.stmts)) ∧
    ((∀ ps ∈ P.stmts.preparedStatements, ps.queryAndParameters ≠ query) →
      ∃ ps g, getPreparedStatement P.stmts query = (ps, false, g) ∧
        ps.queryAndParameters = query ∧
        g.preparedStatements = P.stmts.preparedStatements ++ [ps] ∧
        P.clientEntries ps.queryId + P.cacheEntries ps.queryId + P.closeRequests ps.queryId =
          0) := by
  have hs := sound_of_exec hrun
  refine ⟨fun ps hps => ⟨hs.counted.queryId_pos ps hps, hs.counted.queryId_le ps hps⟩, ?_, ?_⟩
  · intro ps hps htext
    cases hfind : P.stmts.find? query with
    | none => exact absurd htext (by simpa using List.find?_eq_none.mp hfind ps hps)
    | some found =>
      have hfound : found.queryAndParameters = query := by simpa using List.find?_some hfind
      have heq := List.inj_on_of_nodup_map hs.counted.text_nodup
        (List.mem_of_find?_eq_some hfind) hps (hfound.trans htext.symm)
      rw [getPreparedStatement, hfind, heq]
  · intro hnew
    have hfind : P.stmts.find? query = none := List.find?_eq_none.mpr (by simpa using hnew)
    refine ⟨_, _, by rw [getPreparedStatement, hfind], rfl, rfl, ?_⟩
    by_contra hheld
    obtain ⟨ps, hps, hid⟩ := (hs.counted.mem_iff _).mpr
      (hs.count_refs _ ▸ Nat.pos_of_ne_zero hheld)
    have hle := hs.counted.queryId_le ps hps
    rw [hid] at hle
    exact absurd hle (Nat.not_succ_le_self _)

/-- A client has a query prepared twice. -/
def sharedRun : List (Config × PoolEvent) :=
  [.accept, .connect, .connect, .link 0 0 false, .clientPacket 0 (.parse [1] [7]) 0 false,
    .clientPacket 0 (.parse [2] [7]) 0 false].map fun e => ({ maxPreparedStatements := 1 }, e)

theorem queries_shared_once :
    ∃ P, Run.exec stepWith {} sharedRun = some P ∧
      getPreparedStatement P.stmts [7] = (⟨1, 3, [7]⟩, true, P.stmts) :=
  ⟨_, rfl, (queries_shared (rfl : Run.exec stepWith {} sharedRun = _) [7]).2.1 _
    List.mem_cons_self rfl⟩

end Pool

end PgBouncer
