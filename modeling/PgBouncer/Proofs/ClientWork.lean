/-
What `handle_client_work` can do.

`Accepts` lists the outcomes of a packet that keeps the connection open, one
constructor for each path through the handler, with the state it leaves in closed
form.  Invariants are proved by cases on it and never unfold the handlers.
-/
import PgBouncer.Proofs.Prepare

namespace PgBouncer

/-- The packets that use a statement, with the request type they are remembered
under and the packet they become. -/
inductive Uses : Pkt Bytes → Bytes → ReqType → (StmtRef → Pkt StmtRef) → Prop
  | bind (portal name : Bytes) : Uses (.bind portal name) name .bind (.bind portal)
  | describe (name : Bytes) : Uses (.describe .statement name) name .describe (.describe .statement)

/-- A link after a client's statement name was mapped to a shared statement. -/
abbrev Link.named (l : Link) (name : Bytes) (id : QueryId) (g : Statements) : Link :=
  createClientPreparedStatement { l with stmts := g } name id

/-- The outcomes of a packet that keeps the connection open. -/
inductive Accepts (cfg : Config) (l : Link) : Pkt Bytes → Link → Prop
  /-- Forwarded as it is. -/
  | forward {p : Pkt Bytes} (hps : psAction cfg p = false) (hterm : p.type ≠ .terminate)
      (hunknown : p.type ≠ .unknown) : Accepts cfg l p (forwardPacket (tagDirty l) p)
  /-- A Close of a statement is answered by pgbouncer. -/
  | close {name : Bytes} (hps : psAction cfg (.close .statement name) = true) :
      Accepts cfg l (.close .statement name) (handleCloseStatementCommand l name)
  /-- A Parse of a statement the server has is answered by pgbouncer. -/
  | parseKnown {name query : Bytes} {ps : PgPreparedStatement} {g : Statements}
      (hps : psAction cfg (.parse name query) = true) (hname : l.client.find? name = none)
      (hget : getPreparedStatement l.stmts query = (ps, true, g))
      (hmem : ps.queryId ∈ l.server.serverPreparedStatements) :
      Accepts cfg l (.parse name query)
        { (tagDirty l).named name ps.queryId g with
          server := addOutstandingRequest (tagDirty l).server .parse .fake }
  /-- Any other Parse is sent under the shared name. -/
  | parse {name query : Bytes} {ps : PgPreparedStatement} {found : Bool} {g : Statements}
      (hps : psAction cfg (.parse name query) = true) (hname : l.client.find? name = none)
      (hget : getPreparedStatement l.stmts query = (ps, found, g))
      (hmem : found = true → ps.queryId ∉ l.server.serverPreparedStatements) :
      Accepts cfg l (.parse name query)
        (((tagDirty l).named name ps.queryId g).parsed cfg ps .forward)
  /-- A statement the server has is used. -/
  | useKnown {p : Pkt Bytes} {name : Bytes} {type : ReqType} {pkt : StmtRef → Pkt StmtRef}
      {e : PgClientPreparedStatement} (hps : psAction cfg p = true) (huses : Uses p name type pkt)
      (hname : l.client.find? name = some e) (hmem : e.ps ∈ l.server.serverPreparedStatements) :
      Accepts cfg l p (((tagDirty l).touched e.ps).forwarded type (pkt (.pgbouncer e.ps)))
  /-- A statement the server does not have is prepared and used. -/
  | use {p : Pkt Bytes} {name : Bytes} {type : ReqType} {pkt : StmtRef → Pkt StmtRef}
      {e : PgClientPreparedStatement} (hps : psAction cfg p = true) (huses : Uses p name type pkt)
      (hname : l.client.find? name = some e) (hmem : e.ps ∉ l.server.serverPreparedStatements) :
      Accepts cfg l p
        (((tagDirty l).parsed cfg (l.deref e) .skip).forwarded type (pkt (.pgbouncer e.ps)))

variable {cfg : Config} {l l' : Link} {p : Pkt Bytes}

private theorem accepts_forward {d : Option Disconnect}
    (h : (forwardPacket (tagDirty l) p, d) = (l', none)) (hps : psAction cfg p = false)
    (hsent : decide (p.type = .terminate ∨ p.type = .unknown) = false) : Accepts cfg l p l' := by
  obtain rfl := (Prod.mk.inj h).1
  simp only [decide_eq_false_iff_not, not_or] at hsent
  exact .forward hps hsent.1 hsent.2

private theorem accepts_use {name : Bytes} {type : ReqType} {pkt : StmtRef → Pkt StmtRef}
    (hps : psAction cfg p = true) (huses : Uses p name type pkt)
    (h : useStatement cfg (tagDirty l) name type pkt = (l', none)) : Accepts cfg l p l' := by
  rcases useStatement_cases h with ⟨_, _, hd⟩ | ⟨e, hfind, _, rfl⟩
  · exact absurd hd (by simp)
  · by_cases hmem : e.ps ∈ (tagDirty l).server.serverPreparedStatements
    · rw [if_pos hmem]
      exact .useKnown hps huses hfind hmem
    · rw [if_neg hmem]
      exact .use hps huses hfind hmem

private theorem accepts_parse {name query : Bytes} (hps : psAction cfg (.parse name query) = true)
    (h : handleParseCommand cfg (tagDirty l) name query = (l', none)) :
    Accepts cfg l (.parse name query) l' := by
  rcases handleParseCommand_cases h with
    ⟨_, _, hd⟩ | ⟨ps, found, g, _, hname, _, hget, rfl, ⟨rfl, hmem, rfl⟩ | ⟨hmem, rfl⟩⟩
  · exact absurd hd (by simp)
  · exact .parseKnown hps hname hget hmem
  · exact .parse hps hname hget hmem

/-- **Every packet that keeps the connection open has one of the listed outcomes.** -/
theorem handleClientWork_accepts (h : handleClientWork cfg l p = (l', none)) :
    Accepts cfg l p l' := by
  cases p with
  | parse name query =>
    simp only [handleClientWork] at h
    split at h
    · exact accepts_parse ‹_› h
    · exact accepts_forward h (Bool.eq_false_iff.mpr ‹_›) rfl
  | bind portal name =>
    simp only [handleClientWork] at h
    split at h
    · exact accepts_use ‹_› (.bind portal name) h
    · exact accepts_forward h (Bool.eq_false_iff.mpr ‹_›) rfl
  | describe t name =>
    cases t with
    | statement =>
      simp only [handleClientWork] at h
      split at h
      · exact accepts_use ‹_› (.describe name) h
      · exact accepts_forward h (Bool.eq_false_iff.mpr ‹_›) rfl
    | portal =>
      exact accepts_forward h rfl rfl
  | close t name =>
    cases t with
    | statement =>
      simp only [handleClientWork] at h
      split at h
      · obtain rfl := (Prod.mk.inj h).1
        exact .close ‹_›
      · exact accepts_forward h (Bool.eq_false_iff.mpr ‹_›) rfl
    | portal =>
      exact accepts_forward h rfl rfl
  | query =>
    simp only [handleClientWork] at h
    split at h
    · exact absurd (Prod.mk.inj h).2 (by simp)
    · exact accepts_forward h rfl rfl
  | terminate => exact absurd (Prod.mk.inj h).2 (by simp)
  | unknown => exact absurd (Prod.mk.inj h).2 (by simp)
  | execute | sync | flush | functionCall | copyData | copyDone | copyFail =>
    exact accepts_forward h rfl rfl

/-- A packet that ends the connection ends the client's, and has changed nothing but
the server's readiness. -/
theorem handleClientWork_refuses {d : Disconnect} (h : handleClientWork cfg l p = (l', some d)) :
    (∃ reason, d = .client reason) ∧ (l' = l ∨ l' = tagDirty l) := by
  have hforward : ∀ l₁ : Link, (l₁, (none : Option Disconnect)) ≠ (l', some d) := by
    intro l₁ heq
    exact absurd (Prod.mk.inj heq).2 (by simp)
  have huse : ∀ {name type pkt}, useStatement cfg (tagDirty l) name type pkt = (l', some d) →
      (∃ reason, d = .client reason) ∧ (l' = l ∨ l' = tagDirty l) := by
    intro name type pkt huse
    rcases useStatement_cases huse with ⟨_, rfl, hd⟩ | ⟨e, _, hd, _⟩
    · exact ⟨⟨_, Option.some.inj hd⟩, .inr rfl⟩
    · exact absurd hd (by simp)
  have hself : ∀ {reason : String}, (l, some (Disconnect.client reason)) = (l', some d) →
      (∃ reason, d = .client reason) ∧ (l' = l ∨ l' = tagDirty l) := by
    intro reason heq
    obtain ⟨rfl, hd⟩ := Prod.mk.inj heq
    exact ⟨⟨_, (Option.some.inj hd).symm⟩, .inl rfl⟩
  cases p with
  | parse name query =>
    simp only [handleClientWork] at h
    split at h
    · rcases handleParseCommand_cases h with ⟨_, rfl, hd⟩ | ⟨_, _, _, _, _, hd, _⟩
      · exact ⟨⟨_, Option.some.inj hd⟩, .inr rfl⟩
      · exact absurd hd (by simp)
    · exact absurd h (hforward _)
  | bind portal name =>
    simp only [handleClientWork] at h
    split at h
    · exact huse h
    · exact absurd h (hforward _)
  | describe t name =>
    cases t with
    | statement =>
      simp only [handleClientWork] at h
      split at h
      · exact huse h
      · exact absurd h (hforward _)
    | portal => exact absurd h (hforward _)
  | close t name =>
    cases t with
    | statement =>
      simp only [handleClientWork] at h
      split at h
      · exact absurd h (hforward _)
      · exact absurd h (hforward _)
    | portal => exact absurd h (hforward _)
  | query =>
    simp only [handleClientWork] at h
    split at h
    · exact hself h
    · exact absurd h (hforward _)
  | terminate => exact hself h
  | unknown => exact hself h
  | execute | sync | flush | functionCall | copyData | copyDone | copyFail =>
    exact absurd h (hforward _)

end PgBouncer
