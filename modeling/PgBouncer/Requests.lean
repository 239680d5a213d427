/-
The queue of outstanding requests of a server connection, from `objects.c`.

The queue is how pgbouncer knows which responses a client still expects, which of
them it has to drop or to make up, and when a server may go back to the pool.
Registrations and evictions of statements hang off its entries, so dropping an
entry whose request failed undoes them.
-/
import PgBouncer.Statements

namespace PgBouncer

/-- `queue_fake_response`: queue the reply pgbouncer makes up for the client.  Any
other request type is a fatal error in the source and is never passed. -/
def queueFakeResponse (sv : Server) (requestType : ReqType) : Server :=
  match requestType with
  | .parse => { sv with extraPackets := sv.extraPackets ++ [.parseComplete] }
  | .close => { sv with extraPackets := sv.extraPackets ++ [.closeComplete] }
  | _ => sv

/-- `add_outstanding_request`.  A fake response that nothing is waiting in front of
is queued right away. -/
def addOutstandingRequest (sv : Server) (type : ReqType) (action : ResponseAction) : Server :=
  if action = .fake ∧ sv.outstandingRequests = [] then queueFakeResponse sv type
  else
    { sv with
      outstandingRequests := sv.outstandingRequests ++ [{ type := type, action := action }] }

/-- `pop_outstanding_request`: if the next request is of one of `types`, take it off
the queue and say whether its response is to be skipped. -/
def popOutstandingRequest (sv : Server) (g : Statements) (types : List ReqType) :
    Option (Server × Statements × Bool) :=
  match sv.outstandingRequests with
  | [] => none
  | request :: rest =>
    if request.action = .fake then none
    else if request.type ∈ types then
      some ({ sv with outstandingRequests := rest },
        freeServerPreparedStatement g request.serverPs, request.action = .skip)
    else none

/-- What clearing one request does to the statement cache: a Parse that never ran
registered nothing, a Close that never ran removed nothing. -/
def undoRequest (request : OutstandingRequest) (cache : List QueryId) (g : Statements) :
    List QueryId × Statements :=
  if request.type = .parse ∧ request.serverPsQueryId > 0 then
    unregisterPreparedStatement cache g request.serverPsQueryId
  else if request.type = .close then
    match request.serverPs with
    | some ps => (addPreparedStatement cache ps, g)
    | none => (cache, g)
  else (cache, g)

/-- The loop of `clear_outstanding_requests_until`. -/
def clearRequestsUntil (types : List ReqType) :
    List OutstandingRequest → List QueryId → Statements →
      List OutstandingRequest × List QueryId × Statements
  | [], cache, g => ([], cache, g)
  | request :: rest, cache, g =>
    if request.type ∈ types then (rest, undoRequest request cache g)
    else
      clearRequestsUntil types rest (undoRequest request cache g).1
        (undoRequest request cache g).2

/-- `clear_outstanding_requests_until`: drop requests up to and including the first
of one of `types`, all of them if there is none. -/
def clearOutstandingRequestsUntil (sv : Server) (g : Statements) (types : List ReqType) :
    Server × Statements :=
  let r := clearRequestsUntil types sv.outstandingRequests sv.serverPreparedStatements g
  ({ sv with outstandingRequests := r.1, serverPreparedStatements := r.2.1 }, r.2.2)

/-- The cache entries outstanding Close requests carry. -/
def requestRefs (requests : List OutstandingRequest) : List QueryId :=
  requests.filterMap (·.serverPs)

/-- The loop of `send_pending_fake_responses`. -/
def sendFakes : List OutstandingRequest → Server → Server
  | [], sv => { sv with outstandingRequests := [] }
  | request :: rest, sv =>
    if request.action = .fake then sendFakes rest (queueFakeResponse sv request.type)
    else { sv with outstandingRequests := request :: rest }

/-- `send_pending_fake_responses`: make up the responses at the head of the queue. -/
def sendPendingFakeResponses (sv : Server) : Server :=
  sendFakes sv.outstandingRequests sv

end PgBouncer
