/-
What a client is meant to receive.

A client that pipelines requests through pgbouncer is to see what it would see of a
backend that answered every one of them itself: the replies to its requests in the
order it made them, up to the first error of a batch, then that error, then nothing
until the ReadyForQuery of the Sync that ends the batch.  Requests pgbouncer held back
have a made-up reply in that order; packets of pgbouncer's own making have none,
unless they fail.

`deliver` says this as a function of the requests and of what the backend has sent, and
`Carries` that the requests are those the client made by its packets.
Messages a backend may send at any moment are left out of it.
-/
import PgBouncer.Session

namespace PgBouncer

/-- A request, by its type and by what became of it. -/
abbrev Request := ReqType × ResponseAction

/-- The last message of the answer to a request that does not fail. -/
def isFinal : ReqType → ServerMsg → Bool
  | .parse, .parseComplete => true
  | .bind, .bindComplete => true
  | .close, .closeComplete => true
  | .describe, .rowDescription | .describe, .noData => true
  | .execute, .commandComplete _ | .execute, .emptyQueryResponse | .execute, .portalSuspended =>
    true
  | .sync, .readyForQuery _ | .query, .readyForQuery _ | .functionCall, .readyForQuery _ => true
  | _, _ => false

/-- The reply pgbouncer makes up for a request it held back. -/
def madeUp : ReqType → List ToClient
  | .parse => [.generated .parseComplete]
  | .close => [.generated .closeComplete]
  | _ => []

/-- What the client sees of a message in answer to a request: of packets of pgbouncer's
own making, only an error. -/
def shown (action : ResponseAction) (m : ServerMsg) : List ToClient :=
  if action = .skip ∧ m ≠ .errorResponse then [] else [.forwarded m]

/-- The answer to one request, and what comes behind it: `next true` behind an error that
makes the backend skip the rest of the batch. -/
def answerWith (request : Request) (next : Bool → List ServerMsg → List ToClient) :
    List ServerMsg → List ToClient
  | [] => []
  | m :: msgs =>
    if isFinal request.1 m then shown request.2 m ++ next false msgs
    else if m = .errorResponse ∧ request.1.isReady = false then
      shown request.2 m ++ next true msgs
    else shown request.2 m ++ answerWith request next msgs

/-- What a client is meant to receive, given its requests and the messages of the backend;
`skipping` while the backend is skipping the rest of a batch. -/
def deliver : Bool → List Request → List ServerMsg → List ToClient
  | _, [], _ => []
  | skipping, request :: rest, msgs =>
    if request.2 = .fake then
      (if skipping then [] else madeUp request.1) ++ deliver skipping rest msgs
    else if skipping = true ∧ request.1 ≠ .sync then deliver true rest msgs
    else answerWith request (fun failed => deliver failed rest) msgs

/-- The packets a backend answers, outside of a copy. -/
def ReqType.answered : ReqType → Bool
  | .parse | .bind | .describe | .execute | .close | .sync | .query | .functionCall => true
  | _ => false

/-- `requests` are what the client asked for by `packets`, each packet once and in order,
with packets of pgbouncer's own making between them. -/
structure Carries (packets : List (Pkt Bytes)) (requests : List Request) : Prop where
  asked : (requests.filter (·.2 ≠ .skip)).map Prod.fst =
    (packets.map Pkt.type).filter ReqType.answered
  /-- Held back and added are only Parse and Close packets. -/
  ours : ∀ r ∈ requests, r.2 ≠ .forward → r.1 = .parse ∨ r.1 = .close

/-- A message that came in answer to nothing. -/
def ToClient.async : ToClient → Bool
  | .forwarded m => m.async
  | .generated _ => false

namespace Session

/-- What the client has received in answer to its requests. -/
def received (s : Session) : List ToClient :=
  s.link.toClient.filter (!·.async)

/-- The made-up replies that wait in the stream buffer of the server. -/
def pending (s : Session) : List ToClient :=
  s.link.server.extraPackets.map .generated

/-- What it has been asked to do, in order. -/
def requests (s : Session) : List Request :=
  s.log.map Slot.sig

end Session

end PgBouncer
