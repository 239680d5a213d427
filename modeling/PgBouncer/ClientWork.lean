/-
`handle_client_work`: what becomes of a packet from a logged-in client.

Packets that name a prepared statement go to `prepare.c`; the others are forwarded
as they are, and remembered as outstanding if the server is going to answer them.
-/
import PgBouncer.Server

namespace PgBouncer

/-- `ps_action != PS_IGNORE`: the packet names a prepared statement, and statement
support is on. -/
def psAction (cfg : Config) : Pkt Bytes → Bool
  | .parse name _ => cfg.isPreparedStatementsEnabled && !name.isEmpty
  | .bind _ name => cfg.isPreparedStatementsEnabled && !name.isEmpty
  | .describe .statement name => cfg.isPreparedStatementsEnabled && !name.isEmpty
  | .close .statement name => cfg.isPreparedStatementsEnabled && !name.isEmpty
  | _ => false

/-- Whether a packet is remembered as outstanding, given the copy mode of the server. -/
def trackOutstanding (copyMode : Bool) : ReqType → Bool
  | .parse | .bind | .describe | .execute | .close | .sync | .query | .functionCall => true
  | .copyDone | .copyFail => copyMode
  | .flush | .copyData | .terminate | .unknown => false

/-- Forward a packet as it is. -/
def forwardPacket (l : Link) (p : Pkt Bytes) : Link :=
  { l with
    client := if p.type = .copyDone ∨ p.type = .copyFail then { l.client with copyMode := false }
      else l.client
    server := if trackOutstanding l.server.copyMode p.type then
        addOutstandingRequest l.server p.type .forward
      else l.server
    toServer := l.toServer ++ [p.forwarded] }

/-- Tag the server as dirty. -/
def tagDirty (l : Link) : Link :=
  { l with server := { l.server with ready := false, idleTx := false } }

/-- `handle_client_work` of a client that is linked to a server. -/
def handleClientWork (cfg : Config) (l : Link) (p : Pkt Bytes) : Link × Option Disconnect :=
  match p with
  | .unknown => (l, some (.client "unknown pkt"))
  | .terminate => (l, some (.client "client close request"))
  | .query =>
    if cfg.disablePqexec then (l, some (.client "PQexec disallowed"))
    else (forwardPacket (tagDirty l) p, none)
  | .close .statement name =>
    if psAction cfg p then (handleCloseStatementCommand l name, none)
    else (forwardPacket (tagDirty l) p, none)
  | .parse name query =>
    if psAction cfg p then handleParseCommand cfg (tagDirty l) name query
    else (forwardPacket (tagDirty l) p, none)
  | .bind portal name =>
    if psAction cfg p then handleBindCommand cfg (tagDirty l) portal name
    else (forwardPacket (tagDirty l) p, none)
  | .describe .statement name =>
    if psAction cfg p then handleDescribeCommand cfg (tagDirty l) name
    else (forwardPacket (tagDirty l) p, none)
  | _ => (forwardPacket (tagDirty l) p, none)

/-- `handle_client_work` of a client without a server, for the packets that do not
wait for one: late copy packets are dropped, a named Close is answered directly. -/
def handleUnlinkedClientWork (cfg : Config) (c : Client) (g : Statements) (p : Pkt Bytes) :
    Option (Client × Statements × List ToClient) :=
  match p with
  | .copyData | .copyDone | .copyFail => some (c, g, [])
  | .close .statement name =>
    if psAction cfg p then
      let (c, g) := forgetStatement c g name
      some (c, g, [.generated .closeComplete])
    else none
  | _ => none

end PgBouncer
