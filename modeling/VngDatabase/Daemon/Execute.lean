import VngDatabase.Access.Matviews
import VngDatabase.Access.Procedures
import VngDatabase.Dml.Replica
import VngDatabase.Daemon.Pool
import VngDatabase.Tx.Commit

/-!
# The handler for batches

The state of a node as the handlers for SQL see it, and the handler `sql_execute` of
`services/voltnuerongridd/src/handlers/sql.rs`:
-/

namespace VngDatabase.Daemon

open Text Sql Store Dml Tx Query DurabilityEngine Access
open Access (AuthState AuthError DatabaseCatalog DbDdlStatement DbGrants HeaderMap MatviewCommand
  ProcedureRegistry RuntimeAccessPrincipal SessionSigner)

/-! ### The state of a node -/

variable (parsed : List String) (sel : SelectStatement)

structure Cluster where
  raftPeers : List String := []
  isLeader : Bool := true
  currentLeaderUrl : Option String := none

structure Node (E C : Type) [BootEngine E] extends TxServer E where
  catalog : C
  databases : DatabaseCatalog
  procedures : ProcedureRegistry
  auth : AuthState
  dbGrants : DbGrants
  pool : ConnectionPoolManager
  connectionTxActive : (connectionId : String) → Option String
  cluster : Cluster

inductive PlannerPath
  | oltp
  | olap
  | hybrid
  deriving DecidableEq

class SqlRuntime where
  udfError : (sqlBatch : String) → Option String
  plannerPath : IndexManager → (queries : List String) → Option PlannerPath
  declareConstraints : (stmt : String) → ConstraintManager → ConstraintManager

class SchemaCatalog (C : Type) where
  expandSelect : C → (query : String) → String
  rewriteDmlForView : C → (stmt : String) → String
  validateRowAgainstDdl : C → (table : String) → RowData → Except String Unit
  materializedView : C → (view : String) → Option String
  indexManager : C → IndexManager
  recordDdl : C → (db : String) → PagedRowStore → List String → C × Option String
  recordDrop : C → (view : String) → C
  purgeDatabase : C → (database : String) → C

/-! ### Requests -/

structure ExecuteRequest where
  headers : HeaderMap
  sqlBatch : String
  maxRows : Option ℕ := none
  isolationLevel : Option String := none

inductive Phase
  | statements
  | analytics
  | beforeSelect
  | afterSelect

/-- **What a request meets with** outside of the node. -/
structure Circumstances where
  nowMs : ℕ
  releaseMs : ℕ
  txCounter : ℕ
  permit : Bool
  timedOut : Phase → Bool
  quorum : Bool
  requireLeaderReads : Bool
  queryEngine : QueryEngine

def Circumstances.nowSecs (w : Circumstances) : ℕ := w.nowMs / 1000

inductive ExecuteAnswer
  | denied (e : AuthError)
  | accessDenied (db : String)
  | unavailable (reason : String)
  | badRequest (reason : String)
  | notFound (reason : String)
  | conflict (reason : String)
  | timedOut
  | forwarded (leaderUrl : String) (req : ExecuteRequest)
  | ok (oltpRows : List ResultRow) (rows : List (String × RowData))

def databaseHeader (headers : HeaderMap) : String :=
  match (headers "x-vng-database").or (headers "x-vng-db") with
  | some (.text s) => toAsciiLowercase (String.ofList (trim s.toList))
  | _ => ""

def forwardedHeaders : List String :=
  ["x-vng-admin-key", "x-vng-operator-id", "authorization", "x-vng-session-id", "x-request-id"]

def ExecuteRequest.forward (req : ExecuteRequest) (sqlBatch : String) : ExecuteRequest where
  headers name := if name ∈ forwardedHeaders then (req.headers.text name).map .text else none
  sqlBatch := sqlBatch
  maxRows := req.maxRows

def ExecuteRequest.limit (req : ExecuteRequest) : ℕ := min (req.maxRows.getD 10000) 100000

def isVirtualCatalogQuery (sqlBatch : String) : Bool :=
  contains (toAsciiLowercase sqlBatch) "information_schema." ||
    contains (toAsciiLowercase sqlBatch) "pg_catalog."

/-- **A batch is not routed.** -/
def routesNowhere : Bool :=
  parsed = [] || parsed.any fun stmt => classifyStatement stmt = .unknown

def touchesCatalog (stmt : String) : Bool :=
  match classifyStatement stmt with
  | .select | .insert | .update | .delete | .begin | .commit | .rollback | .savepoint
  | .releaseSavepoint | .rollbackToSavepoint | .unknown => false
  | _ => true

def readsRows (stmt : String) : Bool :=
  startsWith (toAsciiUppercase (String.ofList (trimStart stmt.toList))) "SELECT"

def selectsOf : List String :=
  parsed.filter fun stmt => classifyStatement stmt = .select

def othersOf : List String :=
  parsed.filter fun stmt => classifyStatement stmt ≠ .select

def shownTable : Option String :=
  sel.table.map fun t =>
    toAsciiLowercase (afterLast '.' ((splitAsciiWhitespace t).head?.getD t))

def keyFilterValue : Option String :=
  sel.whereClause.bind fun w => (splitAtText ['='] w.toList).bind fun (_, rhs) =>
    let value := trim (trimMatches (· = '"') (trimMatches (· = '\'') (trim rhs)))
    if value = [] then none else some (String.ofList value)

/-- Only the first value of the condition is looked at, in the key. -/
def isShown (row : String × RowData) : Bool :=
  ((shownTable sel).all fun t => (row.2.lookup "__table").map toAsciiLowercase = some t) &&
    (keyFilterValue sel).all (contains row.1)

def clientRows [QueryParser] (limit : ℕ) (queries : List String)
    (rows : List (String × RowData)) : List (String × RowData) :=
  queries.foldl (fun shown query =>
    match QueryParser.parseOne query with
    | .ok (some sel) => shown ++ (rows.filter (isShown sel)).take (limit - shown.length)
    | _ => shown) []

/-! ### Rows of a node -/

section

variable {E : Type}

theorem foldl_appendSql [DurabilityEngine E] {β : Type*} {f : E → β}
    (h : ∀ e sql, f (appendSql e sql) = f e) (sqls : List String) (e : E) :
    f (sqls.foldl appendSql e) = f e := by
  induction sqls generalizing e with
  | nil => rfl
  | cons sql sqls ih => rw [List.foldl_cons, ih, h]

def logStatements [BootEngine E] (s : Server E) (sqls : List String) : Server E :=
  { s with
    walEngine := sqls.foldl appendSql s.walEngine
    durable := by
      rw [foldl_appendSql BootEngine.maxRowXid_appendSql]
      exact s.durable }

def applyCommitted [BootEngine E] [Unicode] (s : Server E) (db : String) (stmts : List String) :
    Server E :=
  { s with
    rowStore := (s.state.transact (stmts.flatMap (replicaActions db))).rowStore
    walEngine := (s.state.transact (stmts.flatMap (replicaActions db))).walEngine
    stamped := ((⟨s.stamped, s.durable⟩ : s.state.Sound).transact _).stamped
    durable := ((⟨s.stamped, s.durable⟩ : s.state.Sound).transact _).durable }

def loggedFor [Unicode] (stmt : String) : List String :=
  match dmlKind stmt with
  | some .insert => (extractAllInsertRows stmt).map InsertRow.singleSql
  | some _ => [stmt]
  | none => []

def purgeActions (db : String) (rs : PagedRowStore) : List Action :=
  (rowsWhere rs (startsWith · (db ++ "."))).map fun row => .remove row.1

def purgeDatabaseRows [DatabaseEngine E] (s : Server E) (db : String) : Server E :=
  let s := s.perform (purgeActions db s.rowStore)
  { s with
    walEngine := DatabaseEngine.dropDbColumnFamily s.walEngine db
    durable := (DatabaseEngine.maxRowXid_dropDbColumnFamily s.walEngine db).trans_lt s.durable }

end

namespace Node

section

variable {E C : Type} [DatabaseEngine E]

def withServer (n : Node E C) (s : Server E) : Node E C :=
  { n with toTxServer := { n.toTxServer with toServer := s } }

def release (w : Circumstances) (conn : String) (n : Node E C) : Node E C :=
  { n with pool := n.pool.release conn w.releaseMs }

def rocksdbRows (n : Node E C) (db : String) (xid : Xid) : Option (List (String × RowData)) :=
  if persistsRows n.walEngine then some (scanRowsForDb n.walEngine db xid) else none

def rrSnapshotXid (n : Node E C) (conn : String) : Option Xid :=
  (n.connectionTxActive conn).bind n.acid.rrReadSnapshotXid

section

variable [SchemaCatalog C] [F64] [QueryParser]

def oltpRows (w : Circumstances) (req : ExecuteRequest) (db conn : String)
    (queries : List String) (n : Node E C) : List ResultRow :=
  let snapshotXid := n.rrSnapshotXid conn
  executeOltpSelect w.queryEngine queries n.rowStore req.limit db snapshotXid
    (n.rocksdbRows db (snapshotXid.getD n.rowStore.currentXid))
    (some (SchemaCatalog.indexManager n.catalog))

def recordReads (db conn : String) (rows : List ResultRow) (n : Node E C) : Node E C :=
  match n.connectionTxActive conn with
  | some txId =>
    { n with acid := n.acid.recordReadRowKeys txId (rows.map fun row => dbPrefixKey db row.key) }
  | none => n

def shownRows (req : ExecuteRequest) (db : String) (queries : List String) (n : Node E C) :
    List (String × RowData) :=
  clientRows req.limit queries
    (databaseRows n.rowStore db none (n.rocksdbRows db n.rowStore.currentXid))

variable [SqlRuntime]

def runQueries (w : Circumstances) (req : ExecuteRequest) (db conn : String)
    (queries : List String) (n : Node E C) : Node E C × ExecuteAnswer :=
  if queries = [] then (n.release w conn, .ok [] [])
  else if w.requireLeaderReads ∧ n.cluster.raftPeers ≠ [] ∧ ¬n.cluster.isLeader then
    (n.release w conn, .unavailable "not_leader_reads_rejected")
  else if w.timedOut .analytics then (n.release w conn, .timedOut)
  else if SqlRuntime.plannerPath (SchemaCatalog.indexManager n.catalog) queries = some .oltp then
    if w.timedOut .beforeSelect then (n.release w conn, .timedOut)
    else
      let rows := n.oltpRows w req db conn queries
      if w.timedOut .afterSelect then (n.release w conn, .timedOut)
      else
        let n := n.recordReads db conn rows
        (n.release w conn, .ok rows (n.shownRows req db queries))
  else (n.release w conn, .ok [] (n.shownRows req db queries))

end

section

def implicitTxId (w : Circumstances) (req : ExecuteRequest) (conn : String)
    (stmts : List String) : Option String :=
  if (stmts.any fun stmt => classifyStatement stmt = .begin) &&
      req.isolationLevel.getD "read_committed" ≠ "read_committed" then
    some ("implicit-tx-" ++ conn ++ "-" ++ toString w.nowMs)
  else none

def beginImplicit (req : ExecuteRequest) (conn : String) (txId : Option String)
    (n : Node E C) : Node E C :=
  match txId with
  | some txId =>
    let level := req.isolationLevel.getD "read_committed"
    { n with
      acid := n.acid.begin txId level
        (if level = "repeatable_read" then some n.rowStore.nextXid else none)
      connectionTxActive := Function.update n.connectionTxActive conn (some txId) }
  | none => n

def endImplicit (conn : String) (txId : Option String) (hasRollback : Bool) (n : Node E C) :
    Node E C :=
  match txId with
  | some txId =>
    { n with
      acid := if hasRollback then n.acid.rollback txId else n.acid.commit txId
      connectionTxActive := Function.update n.connectionTxActive conn none }
  | none => n

variable [SchemaCatalog C] [CheckPredicate] [ColumnOrder] [Unicode] [F64] [QueryParser]
  [SqlRuntime]

def runDirect (w : Circumstances) (req : ExecuteRequest) (db conn : String)
    (stmts queries : List String) (n : Node E C) : Node E C × ExecuteAnswer :=
  let dml : Request := ⟨conn, db, stmts⟩
  let txId := if dml.hasDml then implicitTxId w req conn stmts else none
  let n := n.beginImplicit req conn txId
  match n.toServer.sqlExecute (SchemaCatalog.validateRowAgainstDdl n.catalog) dml with
  | (s, .done) =>
    ((n.withServer s).endImplicit conn txId dml.hasRollback).runQueries w req db conn queries
  | (s, .refused reason) => ((n.withServer s).release w conn, .conflict reason)
  | (s, .unknownStatement) => ((n.withServer s).release w conn, .badRequest "unknown")

/-- Logged before they are confirmed. -/
def runReplicated (w : Circumstances) (req : ExecuteRequest) (db conn : String)
    (stmts queries : List String) (n : Node E C) : Node E C × ExecuteAnswer :=
  let dml : Request := ⟨conn, db, stmts⟩
  let s := logStatements n.toServer (stmts.flatMap loggedFor)
  if w.quorum then
    let s := applyCommitted s db stmts
    let st := (s.session conn).finish dml
    (n.withServer (s.resume conn st (finish_sound (s.sound conn)))).runQueries w req db conn queries
  else ((n.withServer s).release w conn, .unavailable "raft_quorum_timeout")

def runRowStatements (w : Circumstances) (req : ExecuteRequest) (sqlBatch db conn : String)
    (stmts queries : List String) (n : Node E C) : Node E C × ExecuteAnswer :=
  if (stmts.any fun stmt => (dmlKind stmt).isSome) ∧ n.cluster.raftPeers ≠ [] then
    if n.cluster.isLeader then n.runReplicated w req db conn stmts queries
    else (n.release w conn,
      match n.cluster.currentLeaderUrl with
      | some url => .forwarded url (req.forward sqlBatch)
      | none => .unavailable "not_leader: no known leader yet; retry later")
  else n.runDirect w req db conn stmts queries

/-! ### Batches -/

def updateCatalog (w : Circumstances) (db : String) (stmts : List String) (n : Node E C) :
    Node E C × Option String :=
  if stmts.any touchesCatalog then
    let recorded := SchemaCatalog.recordDdl n.catalog db n.rowStore stmts
    let s := { n.toServer with
      constraints := stmts.foldl (fun mgr stmt => SqlRuntime.declareConstraints stmt mgr)
        n.constraints }
    let s := stmts.foldl
      (populate w.queryEngine (SchemaCatalog.indexManager recorded.1) db) s
    ({ n.withServer s with
      catalog := recorded.1
      dbGrants := stmts.foldl applyPrivilege n.dbGrants }, recorded.2)
  else (n, none)

def runStatements (w : Circumstances) (req : ExecuteRequest) (sqlBatch db conn : String)
    (n : Node E C) : Node E C × ExecuteAnswer :=
  let parsed := parseBatch req.sqlBatch
  let queries := (selectsOf parsed).map (SchemaCatalog.expandSelect n.catalog)
  let stmts := (othersOf parsed).map (SchemaCatalog.rewriteDmlForView n.catalog)
  if w.timedOut .statements then (n.release w conn, .timedOut)
  else if stmts.any fun stmt => classifyStatement stmt = .unknown then
    (n.release w conn, .badRequest "unclassified statement")
  else
    let (n, warning) := n.updateCatalog w db stmts
    match warning with
    | some reason =>
      if stmts.any fun stmt => (dmlKind stmt).isSome ∨ readsRows stmt then
        n.runRowStatements w req sqlBatch db conn stmts queries
      else (n.release w conn, .conflict reason)
    | none => n.runRowStatements w req sqlBatch db conn stmts queries

def runMatviewCommand (w : Circumstances) (db conn : String) (cmd : MatviewCommand)
    (n : Node E C) : Node E C × ExecuteAnswer :=
  let perform := fun originalStatement : String => n.withServer (n.toServer.perform
    (cmd.actions w.queryEngine (SchemaCatalog.indexManager n.catalog) db originalStatement
      n.toServer))
  let refreshed := fun view : String =>
    match SchemaCatalog.materializedView n.catalog view with
    | some originalStatement => ((perform originalStatement).release w conn, .ok [] [])
    | none => (n.release w conn,
        ExecuteAnswer.notFound ("materialized_view_not_found: '" ++ view ++ "'"))
  match cmd with
  | .drop view =>
    ({ perform "" with catalog := SchemaCatalog.recordDrop n.catalog view }.release w conn,
      .ok [] [])
  | .refresh view => refreshed view
  | .refreshIncrementally view => refreshed view

def runDatabaseDdl (ddl : DbDdlStatement) (n : Node E C) : Node E C × ExecuteAnswer :=
  match ddl with
  | .createDatabase name ifNotExists =>
    match n.databases.create name with
    | .ok databases => ({ n with databases := databases }, .ok [] [])
    | .error (.alreadyExists _) =>
      (n, if ifNotExists then .ok [] [] else .badRequest "Failed to create database")
    | .error _ => (n, .badRequest "Failed to create database")
  | .dropDatabase name ifExists =>
    match n.databases.dropDatabase name ifExists with
    | .ok (databases, some _) =>
      ({ n.withServer (purgeDatabaseRows n.toServer name) with
        databases := databases
        catalog := SchemaCatalog.purgeDatabase n.catalog name }, .ok [] [])
    | .ok (databases, none) => ({ n with databases := databases }, .ok [] [])
    | .error _ => (n, .badRequest "Failed to drop database")

def runBatch (w : Circumstances) (req : ExecuteRequest) (sqlBatch db conn : String)
    (n : Node E C) : Node E C × ExecuteAnswer :=
  match parseDbDdlStatement sqlBatch with
  | some ddl => (n.release w conn).runDatabaseDdl ddl
  | none =>
    if isVirtualCatalogQuery sqlBatch then (n.release w conn, .ok [] [])
    else match SqlRuntime.udfError sqlBatch with
      | some reason => (n.release w conn, .badRequest reason)
      | none =>
        match earlyMatviewCommand sqlBatch (parseBatch req.sqlBatch) with
        | some cmd => n.runMatviewCommand w db conn cmd
        | none =>
          if routesNowhere (parseBatch req.sqlBatch) then
            (n.release w conn, .badRequest "one or more statements are unclassified")
          else n.runStatements w req sqlBatch db conn

/-- The procedures are asked first. -/
def onConnection (w : Circumstances) (req : ExecuteRequest) (db conn : String) (n : Node E C) :
    Node E C × ExecuteAnswer :=
  if db ≠ "" ∧ ¬w.permit then
    (n.release w conn, .unavailable ("database '" ++ db ++ "' is at max_connections limit"))
  else match n.procedures.dispatch req.sqlBatch with
    | .answered procedures _ => ({ n with procedures := procedures }.release w conn, .ok [] [])
    | .refused reason => (n.release w conn, .badRequest reason)
    | .carryOut sqlBatch => n.runBatch w req sqlBatch db conn

def mayUse (n : Node E C) (principal : RuntimeAccessPrincipal) (db : String) : Bool :=
  db = "" || principalHasDatabaseAccess principal db n.auth.rbacPrivilegeMatrix n.dbGrants

variable [SessionSigner]

def sqlExecute (w : Circumstances) (req : ExecuteRequest) (n : Node E C) :
    Node E C × ExecuteAnswer :=
  let db := databaseHeader req.headers
  match requireSqlRuntimePrincipal n.auth req.headers w.nowSecs .execute "sql/execute" with
  | .error e => (n, .denied e)
  | .ok principal =>
    if n.mayUse principal db then
      match n.pool.acquire w.nowMs with
      | (pool, .ok conn) => { n with pool := pool }.onConnection w req db conn
      | (pool, .error _) => ({ n with pool := pool }, .unavailable "driver_pool_unavailable")
    else (n, .accessDenied db)

section

variable (w : Circumstances) (req : ExecuteRequest) (db conn : String) (stmts : List String)
  (n : Node E C)

def directTxId : Option String :=
  if (Request.mk conn db stmts).hasDml then implicitTxId w req conn stmts else none

def replicatedServer : Server E :=
  let s := logStatements n.toServer (stmts.flatMap loggedFor)
  if w.quorum then
    let s := applyCommitted s db stmts
    s.resume conn ((s.session conn).finish ⟨conn, db, stmts⟩) (finish_sound (s.sound conn))
  else s

def queriesOf : List String :=
  (selectsOf (parseBatch req.sqlBatch)).map (SchemaCatalog.expandSelect n.catalog)

def statementsOf : List String :=
  (othersOf (parseBatch req.sqlBatch)).map (SchemaCatalog.rewriteDmlForView n.catalog)

def executed : Server E × Answer :=
  n.toServer.sqlExecute (SchemaCatalog.validateRowAgainstDdl n.catalog) ⟨conn, db, stmts⟩

def standing (n : Node E C) : AuthState × DbGrants × Cluster := (n.auth, n.dbGrants, n.cluster)

end

end

end

/-! ### What a batch can come to -/

section

variable {E C : Type} [DatabaseEngine E] [SchemaCatalog C] {w : Circumstances}
  {req : ExecuteRequest} {sqlBatch db conn : String} {stmts : List String} {n m : Node E C}

theorem exists_eq_runDatabaseDdl (n : Node E C) (ddl : DbDdlStatement) :
    ∃ s catalog databases, (n.runDatabaseDdl ddl).1 =
      { n.withServer s with catalog := catalog, databases := databases } := by
  unfold runDatabaseDdl
  split <;> split <;> exact ⟨_, _, _, rfl⟩

theorem runDatabaseDdl_release (ddl : DbDdlStatement) :
    ((n.release w conn).runDatabaseDdl ddl).1 = (n.runDatabaseDdl ddl).1.release w conn := by
  have hdat : (n.release w conn).databases = n.databases := rfl
  unfold runDatabaseDdl
  rw [hdat]
  split <;> split <;> rfl

variable [CheckPredicate] [ColumnOrder] [Unicode]

variable (w req db conn stmts n) in
/-- **What row statements come to.** -/
inductive RowOutcome : Node E C → Prop
  | forwarded : RowOutcome n
  | done (h : (n.executed db conn stmts).2 = .done) :
    RowOutcome (((n.beginImplicit req conn (directTxId w req db conn stmts)).withServer
      (n.executed db conn stmts).1).endImplicit conn (directTxId w req db conn stmts)
        (Request.mk conn db stmts).hasRollback)
  | refused (h : (n.executed db conn stmts).2 ≠ .done) :
    RowOutcome ((n.beginImplicit req conn (directTxId w req db conn stmts)).withServer
      (n.executed db conn stmts).1)
  | replicated (hpeers : n.cluster.raftPeers ≠ []) :
    RowOutcome (n.withServer (n.replicatedServer w db conn stmts))
  | reads {m : Node E C} (h : RowOutcome m) (rows : List ResultRow) :
    RowOutcome (m.recordReads db conn rows)

theorem RowOutcome.exists_eq (h : RowOutcome w req db conn stmts n m) :
    ∃ s acid active, m = { n.withServer s with acid := acid, connectionTxActive := active } := by
  induction h with
  | forwarded => exact ⟨_, _, _, rfl⟩
  | done _ | refused _ => cases directTxId w req db conn stmts <;> exact ⟨_, _, _, rfl⟩
  | replicated _ => exact ⟨_, _, _, rfl⟩
  | reads _ rows ih =>
    obtain ⟨s, acid, active, rfl⟩ := ih
    unfold recordReads
    split <;> exact ⟨_, _, _, rfl⟩

variable [F64] [QueryParser] [SqlRuntime] (queries : List String)

theorem RowOutcome.runQueries (h : RowOutcome w req db conn stmts n m) :
    ∃ m', RowOutcome w req db conn stmts n m' ∧
      (m.runQueries w req db conn queries).1 = m'.release w conn := by
  unfold Node.runQueries
  split_ifs <;> first | exact ⟨m, h, rfl⟩ | exact ⟨_, h.reads _, rfl⟩

theorem outcome_runDirect :
    ∃ m, RowOutcome w req db conn stmts n m ∧
      (n.runDirect w req db conn stmts queries).1 = m.release w conn := by
  have hbeg : (n.beginImplicit req conn (directTxId w req db conn stmts)).toServer.sqlExecute
      (SchemaCatalog.validateRowAgainstDdl
        (n.beginImplicit req conn (directTxId w req db conn stmts)).catalog) ⟨conn, db, stmts⟩ =
      n.executed db conn stmts := by
    cases directTxId w req db conn stmts <;> rfl
  unfold runDirect
  dsimp only
  rw [← directTxId, hbeg]
  split <;> rename_i hres <;> obtain rfl := congrArg Prod.fst hres
  · exact (RowOutcome.done (congrArg Prod.snd hres)).runQueries queries
  · exact ⟨_, .refused (by rw [hres]; exact nofun), rfl⟩
  · exact ⟨_, .refused (by rw [hres]; exact nofun), rfl⟩

theorem outcome_runRowStatements :
    ∃ m, RowOutcome w req db conn stmts n m ∧
      (n.runRowStatements w req sqlBatch db conn stmts queries).1 = m.release w conn := by
  unfold runRowStatements
  split
  · rename_i hdml
    split
    · have hrpl : RowOutcome w req db conn stmts n
        (n.withServer (n.replicatedServer w db conn stmts)) := .replicated hdml.2
      unfold replicatedServer at hrpl
      unfold runReplicated
      by_cases hquo : w.quorum
      · simp only [if_pos hquo] at hrpl ⊢
        exact hrpl.runQueries queries
      · simp only [if_neg hquo] at hrpl ⊢
        exact ⟨_, hrpl, rfl⟩
    · exact ⟨n, .forwarded, rfl⟩
  · exact outcome_runDirect queries

variable (w req db conn n) in
inductive Outcome : Node E C → Prop
  | unchanged : Outcome n
  | procedures (procedures : ProcedureRegistry) : Outcome { n with procedures := procedures }
  | database {sqlBatch : String} {ddl : DbDdlStatement}
    (hbatch : n.procedures.dispatch req.sqlBatch = .carryOut sqlBatch)
    (hddl : parseDbDdlStatement sqlBatch = some ddl) : Outcome (n.runDatabaseDdl ddl).1
  | matview (cmd : MatviewCommand) (originalStatement : String) (catalog : C) :
    Outcome { n.withServer (n.toServer.perform (cmd.actions w.queryEngine
      (SchemaCatalog.indexManager n.catalog) db originalStatement n.toServer)) with
        catalog := catalog }
  | rows {m : Node E C} (h : RowOutcome w req db conn (n.statementsOf req)
      (n.updateCatalog w db (n.statementsOf req)).1 m) : Outcome m

theorem outcome_runStatements :
    ∃ m, Outcome w req db conn n m ∧
      (n.runStatements w req sqlBatch db conn).1 = m.release w conn := by
  have hunc : Outcome w req db conn n n := .unchanged
  obtain ⟨m, hm, hrows⟩ : ∃ m, RowOutcome w req db conn (n.statementsOf req)
      (n.updateCatalog w db (n.statementsOf req)).1 m ∧
      ((n.updateCatalog w db (n.statementsOf req)).1.runRowStatements w req sqlBatch db conn
        (n.statementsOf req) (n.queriesOf req)).1 = m.release w conn := outcome_runRowStatements _
  unfold runStatements
  dsimp only
  rw [← statementsOf, ← queriesOf]
  split
  · exact ⟨n, hunc, rfl⟩
  · split
    · exact ⟨n, hunc, rfl⟩
    · cases (n.updateCatalog w db (n.statementsOf req)).2 with
      | none => exact ⟨m, .rows hm, hrows⟩
      | some reason =>
        dsimp only
        split
        · exact ⟨m, .rows hm, hrows⟩
        · exact ⟨_, .rows .forwarded, rfl⟩

theorem outcome_runMatviewCommand (cmd : MatviewCommand) :
    ∃ m, Outcome w req db conn n m ∧
      (n.runMatviewCommand w db conn cmd).1 = m.release w conn := by
  cases cmd with
  | drop view => exact ⟨_, .matview (.drop view) "" _, rfl⟩
  | refresh view | refreshIncrementally view =>
    unfold runMatviewCommand
    dsimp only
    split
    · exact ⟨_, .matview _ _ n.catalog, rfl⟩
    · exact ⟨n, .unchanged, rfl⟩

theorem outcome_runBatch (hbat : n.procedures.dispatch req.sqlBatch = .carryOut sqlBatch) :
    ∃ m, Outcome w req db conn n m ∧ (n.runBatch w req sqlBatch db conn).1 = m.release w conn := by
  have hunc : Outcome w req db conn n n := .unchanged
  unfold runBatch
  cases hddl : parseDbDdlStatement sqlBatch with
  | some ddl => exact ⟨_, .database hbat hddl, runDatabaseDdl_release ddl⟩
  | none =>
    dsimp only
    split
    · exact ⟨n, hunc, rfl⟩
    · cases SqlRuntime.udfError sqlBatch with
      | some reason => exact ⟨n, hunc, rfl⟩
      | none =>
        dsimp only
        cases earlyMatviewCommand sqlBatch (parseBatch req.sqlBatch) with
        | some cmd => exact outcome_runMatviewCommand cmd
        | none =>
          dsimp only
          split
          · exact ⟨n, hunc, rfl⟩
          · exact outcome_runStatements

theorem outcome_onConnection (w : Circumstances) (req : ExecuteRequest) (db conn : String)
    (n : Node E C) :
    ∃ m, Outcome w req db conn n m ∧ (n.onConnection w req db conn).1 = m.release w conn := by
  unfold onConnection
  split
  · exact ⟨n, .unchanged, rfl⟩
  · cases hbat : n.procedures.dispatch req.sqlBatch with
    | answered procedures reason => exact ⟨_, .procedures procedures, rfl⟩
    | refused reason => exact ⟨n, .unchanged, rfl⟩
    | carryOut sqlBatch => exact outcome_runBatch hbat

section

omit [CheckPredicate] [ColumnOrder]

theorem exists_eq_updateCatalog (w : Circumstances) (db : String) (stmts : List String)
    (n : Node E C) : ∃ s catalog, (n.updateCatalog w db stmts).1 =
      { n.withServer s with
        catalog := catalog
        dbGrants := if stmts.any touchesCatalog then stmts.foldl applyPrivilege n.dbGrants
          else n.dbGrants } := by
  unfold updateCatalog
  split_ifs <;> exact ⟨_, _, rfl⟩

theorem updateCatalog_pool (w : Circumstances) (db : String) (stmts : List String) (n : Node E C)
    (pool : ConnectionPoolManager) : ({ n with pool := pool }.updateCatalog w db stmts).1 =
      { (n.updateCatalog w db stmts).1 with pool := pool } := by
  unfold updateCatalog
  split_ifs <;> rfl

end

theorem Outcome.pool_eq (h : Outcome w req db conn n m) : m.pool = n.pool := by
  cases h with
  | unchanged | procedures _ | matview _ _ _ => rfl
  | @database _ ddl _ _ =>
    obtain ⟨s, catalog, databases, h⟩ := n.exists_eq_runDatabaseDdl ddl
    rw [h]
    rfl
  | rows h =>
    obtain ⟨s, acid, active, rfl⟩ := h.exists_eq
    obtain ⟨s', catalog, h⟩ := n.exists_eq_updateCatalog w db (n.statementsOf req)
    rw [h]
    rfl

theorem Outcome.standing_eq (h : Outcome w req db conn n m) :
    m.standing = n.standing ∨
      m.standing = (n.auth, (n.statementsOf req).foldl applyPrivilege n.dbGrants, n.cluster) := by
  cases h with
  | unchanged | procedures _ | matview _ _ _ => exact Or.inl rfl
  | @database _ ddl _ _ =>
    obtain ⟨s, catalog, databases, h⟩ := n.exists_eq_runDatabaseDdl ddl
    rw [h]
    exact Or.inl rfl
  | rows h =>
    obtain ⟨s, acid, active, rfl⟩ := h.exists_eq
    obtain ⟨s', catalog, h⟩ := n.exists_eq_updateCatalog w db (n.statementsOf req)
    rw [h]
    split_ifs
    · exact Or.inr rfl
    · exact Or.inl rfl

variable [SessionSigner] (w req n)

theorem sqlExecute_cases :
    (∃ answer, n.sqlExecute w req = (n, answer)) ∨
    (∃ pool e answer, n.pool.acquire w.nowMs = (pool, .error e) ∧
      n.sqlExecute w req = ({ n with pool := pool }, answer)) ∨
    ∃ principal pool conn,
      requireSqlRuntimePrincipal n.auth req.headers w.nowSecs .execute "sql/execute" =
        .ok principal ∧
      n.mayUse principal (databaseHeader req.headers) ∧
      n.pool.acquire w.nowMs = (pool, .ok conn) ∧
      n.sqlExecute w req =
        { n with pool := pool }.onConnection w req (databaseHeader req.headers) conn := by
  unfold sqlExecute
  dsimp only
  cases requireSqlRuntimePrincipal n.auth req.headers w.nowSecs .execute "sql/execute" with
  | error e => exact Or.inl ⟨_, rfl⟩
  | ok principal =>
    dsimp only
    by_cases huse : n.mayUse principal (databaseHeader req.headers)
    · rw [if_pos huse]
      refine Or.inr ?_
      generalize n.pool.acquire w.nowMs = acquired
      obtain ⟨pool, _ | conn⟩ := acquired
      · exact Or.inl ⟨pool, _, _, rfl, rfl⟩
      · exact Or.inr ⟨principal, pool, conn, rfl, huse, rfl, rfl⟩
    · rw [if_neg huse]
      exact Or.inl ⟨_, rfl⟩

theorem standing_sqlExecute :
    (n.sqlExecute w req).1.standing = n.standing ∨
      (n.sqlExecute w req).1.standing =
        (n.auth, (n.statementsOf req).foldl applyPrivilege n.dbGrants, n.cluster) := by
  rcases n.sqlExecute_cases w req with
    ⟨answer, h⟩ | ⟨pool, e, answer, -, h⟩ | ⟨principal, pool, conn, -, -, -, h⟩ <;> rw [h]
  · exact Or.inl rfl
  · exact Or.inl rfl
  · obtain ⟨m, hm, h⟩ :=
      { n with pool := pool }.outcome_onConnection w req (databaseHeader req.headers) conn
    rw [h]
    exact hm.standing_eq

end

end Node

end VngDatabase.Daemon
