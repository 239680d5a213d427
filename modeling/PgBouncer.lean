import PgBouncer.Proofs.AccessFiles
import PgBouncer.Proofs.AuthFile
import PgBouncer.Proofs.AuthQuery
import PgBouncer.Proofs.CacheRun
import PgBouncer.Proofs.ClientFinal
import PgBouncer.Proofs.ClientLimits
import PgBouncer.Proofs.Console
import PgBouncer.Proofs.Delivery
import PgBouncer.Proofs.Effect
import PgBouncer.Proofs.Eviction
import PgBouncer.Proofs.Flushed
import PgBouncer.Proofs.HbaAddress
import PgBouncer.Proofs.Hosts
import PgBouncer.Proofs.LoadConfig
import PgBouncer.Proofs.Lru
import PgBouncer.Proofs.MadeUp
import PgBouncer.Proofs.Mirror
import PgBouncer.Proofs.OutOfMemory
import PgBouncer.Proofs.Output
import PgBouncer.Proofs.PassThrough
import PgBouncer.Proofs.PauseAnswers
import PgBouncer.Proofs.Peering
import PgBouncer.Proofs.PoolList
import PgBouncer.Proofs.PoolUseCount
import PgBouncer.Proofs.Reload
import PgBouncer.Proofs.Retry
import PgBouncer.Proofs.ScramRoles
import PgBouncer.Proofs.ServerLimits
import PgBouncer.Proofs.ServerLogin
import PgBouncer.Proofs.SocketRun
import PgBouncer.Proofs.Stats
import PgBouncer.Proofs.StrList
import PgBouncer.Proofs.Timeouts
import PgBouncer.Proofs.Tls
import PgBouncer.Proofs.VarCache
import PgBouncer.Proofs.Wire
