/-
Which host of a list a new connection goes to: `dns_connect`.

The hosts of a database stand between commas.  They are counted by the commas and
enumerated by `strtok`, and the counter of the pool, an `uint16_t`, says which one is taken.
It moves on with every connection, or, if the load is not balanced, with every connection
after one that failed.  `disconnect_server` and `release_server` remember whether the last
one did; a connection that is used for a cancel request never gets there, because it is in
another state by then.
-/
import PgBouncer.Proto

namespace PgBouncer.Hosts

inductive LoadBalanceHosts
  | disable
  | roundRobin
  deriving DecidableEq

/-- What is used here of a `PgPool`. -/
structure Pool where
  rrcounter : UInt16 := 0
  lastConnectFailed : Bool := false
  deriving DecidableEq

/-- What becomes of a connection. -/
inductive Outcome
  | failed
  | loggedIn
  /-- It is used for a cancel request. -/
  | canceling
  deriving DecidableEq

def comma : UInt8 := 44

/-- `strtok`: the next token, and what is behind it. -/
def strtok (str : Bytes) : Option (Bytes × Bytes) :=
  match str.dropWhile (· = comma) with
  | [] => none
  | c :: rest =>
    some ((c :: rest).takeWhile (· ≠ comma), ((c :: rest).dropWhile (· ≠ comma)).tail)

/-- The loop over the tokens, up to a number. -/
def token : Nat → Bytes → Option Bytes
  | 0, str => (strtok str).map Prod.fst
  | n + 1, str => (strtok str).bind fun (_, rest) => token n rest

/-- The number of hosts, as it is counted. -/
def count (host : Bytes) : Nat := 1 + List.count comma host

/-- `dns_connect`: the number of the host that is taken, and the host.  There is none if the
assertion fails. -/
def dnsConnect (mode : LoadBalanceHosts) (host : Bytes) (pool : Pool) :
    Option (Nat × Bytes) × Pool :=
  if comma ∈ host then
    let pool : Pool :=
      if mode = .disable ∧ pool.lastConnectFailed then
        { pool with rrcounter := pool.rrcounter + 1 }
      else pool
    let n := pool.rrcounter.toNat % count host
    ((token n host).map fun host => (n, host),
      if mode = .roundRobin then { pool with rrcounter := pool.rrcounter + 1 } else pool)
  else (some (0, host), pool)

/-- What the pool remembers of a connection. -/
def Outcome.remember (outcome : Outcome) (pool : Pool) : Pool :=
  match outcome with
  | .failed => { pool with lastConnectFailed := true }
  | .loggedIn => { pool with lastConnectFailed := false }
  | .canceling => pool

/-- The hosts of one connection after the other. -/
def connects (mode : LoadBalanceHosts) (host : Bytes) :
    Pool → List Outcome → List (Option (Nat × Bytes))
  | _, [] => []
  | pool, outcome :: outcomes =>
    let (chosen, pool) := dnsConnect mode host pool
    chosen :: connects mode host (outcome.remember pool) outcomes

end PgBouncer.Hosts
