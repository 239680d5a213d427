/-
The bookkeeping half of `prepare.c`: the global statement table with its use
counts, the client maps, and the server caches.

Allocation never fails here.  `HASH_FIND` on a cache that holds a query id twice
returns the entry added last, so that is the one `unregisterPreparedStatement`
takes out.
-/
import Mathlib.Data.List.ModifyLast
import PgBouncer.Bouncer

namespace PgBouncer

namespace Statements

variable (g : Statements)

/-- `++ps->use_count`. -/
def incUseCount (id : QueryId) : Statements :=
  { g with preparedStatements := g.preparedStatements.map fun ps =>
      if ps.queryId = id then { ps with useCount := ps.useCount + 1 } else ps }

/-- `--ps->use_count`, dropping the statement from the table when it reaches zero. -/
def decUseCount (id : QueryId) : Statements :=
  { g with preparedStatements := g.preparedStatements.filterMap fun ps =>
      if ps.queryId = id then
        if ps.useCount - 1 = 0 then none else some { ps with useCount := ps.useCount - 1 }
      else some ps }

/-- `HASH_FIND` in the global table, by query text and parameter types. -/
def find? (query : Bytes) : Option PgPreparedStatement :=
  g.preparedStatements.find? (·.queryAndParameters = query)

/-- `create_prepared_statement`: a fresh id, not used by anyone yet. -/
def create (query : Bytes) : PgPreparedStatement :=
  { queryId := g.nextUniqueQueryId + 1, useCount := 0, queryAndParameters := query }

end Statements

/-- `get_prepared_statement`: the shared statement of a query text, whether it was
there before, and the table with it in. -/
def getPreparedStatement (g : Statements) (query : Bytes) :
    PgPreparedStatement × Bool × Statements :=
  match g.find? query with
  | some ps => (ps, true, g)
  | none =>
    (g.create query, false,
      { preparedStatements := g.preparedStatements ++ [g.create query]
        nextUniqueQueryId := g.nextUniqueQueryId + 1 })

/-- `free_server_prepared_statement`. -/
def freeServerPreparedStatement (g : Statements) (serverPs : Option QueryId) : Statements :=
  match serverPs with
  | none => g
  | some id => g.decUseCount id

/-- Take the entry added last out of a cache. -/
def eraseLast (cache : List QueryId) (id : QueryId) : List QueryId :=
  (cache.reverse.erase id).reverse

/-- `unregister_prepared_statement`: remove from the server's cache and free. -/
def unregisterPreparedStatement (cache : List QueryId) (g : Statements) (id : QueryId) :
    List QueryId × Statements :=
  if id ∈ cache then (eraseLast cache id, freeServerPreparedStatement g (some id))
  else (cache, g)

/-- `add_prepared_statement`: append to the server's cache. -/
def addPreparedStatement (cache : List QueryId) (id : QueryId) : List QueryId :=
  cache ++ [id]

/-- `free_server_prepared_statements`: empty the cache. -/
def freeServerPreparedStatements (cache : List QueryId) (g : Statements) : Statements :=
  cache.foldl (fun g id => freeServerPreparedStatement g (some id)) g

/-- `free_client_prepared_statements`: empty the client's map. -/
def freeClientPreparedStatements (names : List PgClientPreparedStatement) (g : Statements) :
    Statements :=
  names.foldl (fun g e => g.decUseCount e.ps) g

/-- `HASH_FIND_STR` in a client's map. -/
def Client.find? (c : Client) (name : Bytes) : Option PgClientPreparedStatement :=
  c.clientPreparedStatements.find? (·.stmtName = name)

/-- `create_client_prepared_statement` followed by `HASH_ADD_STR`. -/
def createClientPreparedStatement (l : Link) (name : Bytes) (id : QueryId) : Link :=
  { l with
    client := { l.client with
      clientPreparedStatements := l.client.clientPreparedStatements ++ [⟨name, id⟩] }
    stmts := l.stmts.incUseCount id }

end PgBouncer
