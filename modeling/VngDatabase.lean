import VngDatabase.Access.Audit
import VngDatabase.Access.UserReplay
import VngDatabase.Cache.Commands
import VngDatabase.Daemon.Availability
import VngDatabase.Daemon.Calls
import VngDatabase.Daemon.DropDatabase
import VngDatabase.Daemon.DropTable
import VngDatabase.Daemon.EntryPoints
import VngDatabase.Daemon.Escalation
import VngDatabase.Daemon.Forwarding
import VngDatabase.Daemon.Incremental
import VngDatabase.Daemon.Interference
import VngDatabase.Daemon.PgWire
import VngDatabase.Daemon.ReadSets
import VngDatabase.Daemon.RepeatableRead
import VngDatabase.Daemon.Sharding
import VngDatabase.Dml.BatchCommand
import VngDatabase.Dml.DeleteFrame
import VngDatabase.Dml.Replay
import VngDatabase.Ingest.EventReplication
import VngDatabase.Query.Distributed
import VngDatabase.Query.Sources
import VngDatabase.Query.Truth
import VngDatabase.Raft.Apply
import VngDatabase.Raft.Durability
import VngDatabase.Raft.Install
import VngDatabase.Raft.Linearisable
import VngDatabase.Raft.Monotone
import VngDatabase.Raft.Positions
import VngDatabase.Sql.Batch
import VngDatabase.Sql.Reread
import VngDatabase.Store.Calls
import VngDatabase.Store.Isolation
import VngDatabase.Store.RocksRows
import VngDatabase.Store.SqlStream
import VngDatabase.Store.Triggers
import VngDatabase.Tx.Convergence
import VngDatabase.Tx.Handoff
import VngDatabase.Access.Refresh
import VngDatabase.Access.Tenants
import VngDatabase.Dml.UpdateFrame
import VngDatabase.Query.Comparing
import VngDatabase.Query.Indexes
import VngDatabase.Sql.Comments
import VngDatabase.Sql.KeyAgreement
import VngDatabase.Sql.KeywordSearch
import VngDatabase.Sql.Savepoints
import VngDatabase.Sql.Views
import VngDatabase.Tx.Deadlocks
