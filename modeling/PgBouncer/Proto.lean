/-
The message vocabulary of the frontend/backend protocol.

`handle_client_work` and `handle_server_work` decide everything on a packet's
type byte and, for a few types, on one field of its body.  This file names those
types and fields.  Client packets carry the statement name the client wrote;
packets on their way to a server carry either that name or the `PGBOUNCER_n` name
pgbouncer put in its place, so the packet type is generic in the name.
-/
import Mathlib.Data.List.Basic

namespace PgBouncer

/-- Names and query texts are byte strings. -/
abbrev Bytes := List UInt8

/-- The unique number of a shared statement: `PgPreparedStatement.query_id`. -/
abbrev QueryId := Nat

/-- The type byte of a packet a client sends. -/
inductive ReqType
  | parse | bind | describe | execute | close | sync | flush | query | functionCall
  | copyData | copyDone | copyFail | terminate | unknown
  deriving DecidableEq

/-- What a Describe or Close packet is about: `'S'` or `'P'`. -/
inductive Target
  | statement | portal
  deriving DecidableEq

/-- A packet travelling towards the server, with statement names of type `ν`. -/
inductive Pkt (ν : Type)
  | parse (stmt : ν) (queryAndParameters : Bytes)
  | bind (portal : Bytes) (stmt : ν)
  | describe (target : Target) (name : ν)
  | close (target : Target) (name : ν)
  | execute
  | sync
  | flush
  | query
  | functionCall
  | copyData
  | copyDone
  | copyFail
  | terminate
  | unknown
  deriving DecidableEq

/-- The type byte of a packet. -/
def Pkt.type {ν : Type} : Pkt ν → ReqType
  | .parse _ _ => .parse
  | .bind _ _ => .bind
  | .describe _ _ => .describe
  | .close _ _ => .close
  | .execute => .execute
  | .sync => .sync
  | .flush => .flush
  | .query => .query
  | .functionCall => .functionCall
  | .copyData => .copyData
  | .copyDone => .copyDone
  | .copyFail => .copyFail
  | .terminate => .terminate
  | .unknown => .unknown

@[simp] theorem Pkt.type_parse {ν : Type} (stmt : ν) (q : Bytes) :
    (Pkt.parse stmt q).type = .parse := rfl

@[simp] theorem Pkt.type_close {ν : Type} (t : Target) (name : ν) :
    (Pkt.close t name).type = .close := rfl

@[simp] theorem Pkt.type_execute {ν : Type} : (Pkt.execute : Pkt ν).type = .execute := rfl

@[simp] theorem Pkt.type_sync {ν : Type} : (Pkt.sync : Pkt ν).type = .sync := rfl

@[simp] theorem Pkt.type_query {ν : Type} : (Pkt.query : Pkt ν).type = .query := rfl

/-- A statement or portal name on the server side. -/
inductive StmtRef
  /-- The name as the client wrote it; empty for the unnamed statement. -/
  | own (name : Bytes)
  /-- `PREPARED_STMT_NAME_FORMAT` applied to a query id. -/
  | pgbouncer (id : QueryId)
  deriving DecidableEq

/-- A client packet forwarded as it is. -/
def Pkt.forwarded : Pkt Bytes → Pkt StmtRef
  | .parse stmt q => .parse (.own stmt) q
  | .bind portal stmt => .bind portal (.own stmt)
  | .describe t name => .describe t (.own name)
  | .close t name => .close t (.own name)
  | .execute => .execute
  | .sync => .sync
  | .flush => .flush
  | .query => .query
  | .functionCall => .functionCall
  | .copyData => .copyData
  | .copyDone => .copyDone
  | .copyFail => .copyFail
  | .terminate => .terminate
  | .unknown => .unknown

@[simp] theorem Pkt.forwarded_type (p : Pkt Bytes) : p.forwarded.type = p.type := by
  cases p <;> rfl

/-- The transaction status byte of a ReadyForQuery: `'I'`, `'T'`, `'E'`. -/
inductive TxStatus
  | idle | inTransaction | failed
  deriving DecidableEq

/-- The command tags `handle_server_work` compares with. -/
inductive Tag
  | deallocateAll | discardAll | other
  deriving DecidableEq

/-- A message a backend sends on a logged-in connection. -/
inductive ServerMsg
  | readyForQuery (state : TxStatus)
  | parameterStatus
  | errorResponse
  | commandComplete (tag : Tag)
  | noticeResponse
  | notificationResponse
  | copyInResponse
  | copyBothResponse
  | copyOutResponse
  | parseComplete
  | bindComplete
  | closeComplete
  | noData
  | rowDescription
  | parameterDescription
  | copyDone
  | copyFail
  | functionCallResponse
  | emptyQueryResponse
  | portalSuspended
  | copyData
  | dataRow
  | unknown
  deriving DecidableEq

/-- Messages a backend may send at any moment, in answer to nothing. -/
def ServerMsg.async : ServerMsg → Bool
  | .parameterStatus | .noticeResponse | .notificationResponse => true
  | _ => false

end PgBouncer
