import VngDatabase.Daemon.Execute

/-!
# The handlers for SQL

The other handlers of `services/voltnuerongridd/src/handlers/sql.rs` that take a connection from the
pool: `sql_transaction`, around `Tx.TxServer.sqlTransaction`, `sql_route` and `sql_explain`.
-/

namespace VngDatabase.Daemon

open Text Sql Store Dml Tx Query
open Access (AuthError HeaderMap RuntimeAccessPrincipal SessionSigner)

structure TransactionRequest where
  headers : HeaderMap
  statements : List String
  isolationLevel : Option String := none

inductive TransactionAnswer
  | denied (e : AuthError)
  | unavailable (reason : String)
  | answered (answer : TxAnswer)
  deriving DecidableEq

inductive InfoAnswer
  | denied (e : AuthError)
  | unavailable (reason : String)
  | badRequest (reason : String)
  | ok

def identity : RuntimeAccessPrincipal → String
  | .operator op => op.operatorId
  | .tenantUser user => user.userId

def freshTxId (w : Circumstances) (principal : RuntimeAccessPrincipal) : String :=
  "tx-" ++ identity principal ++ "-" ++ toString w.nowMs ++ "-" ++ toString w.txCounter

def TransactionRequest.onConnection (req : TransactionRequest) (txId conn : String) :
    TxRequest where
  txId := txId
  connectionId := conn
  db := databaseHeader req.headers
  isolationLevel := req.isolationLevel
  statements := req.statements

namespace Node

section

variable {E C : Type} [DatabaseEngine E]

section

variable [CheckPredicate] [ColumnOrder] [Unicode]

/-- **What speaks against a `COMMIT`.** -/
def refusal (tx : TxRequest) (n : Node E C) : Option String :=
  commitConflict (tx.registered n.acid (tx.beginSnapshotXid n.rowStore)) n.rowStore tx.txId
    tx.isoLevel tx.writeKeys

def connectionTxAfter (tx : TxRequest) (n : Node E C) : String → Option String :=
  let began :=
    if tx.hasBegin ∧ tx.isoLevel = "repeatable_read" then
      Function.update n.connectionTxActive tx.connectionId (some tx.txId)
    else n.connectionTxActive
  if tx.hasCommit then
    if (n.refusal tx).isSome then began else Function.update began tx.connectionId none
  else if tx.hasRollback then Function.update began tx.connectionId none
  else began

/-- A refused one does not hand the connection back. -/
def runTransactionOn (w : Circumstances) (tx : TxRequest) (n : Node E C) :
    Node E C × TransactionAnswer :=
  let connectionTxActive := n.connectionTxAfter tx
  let result := n.toTxServer.sqlTransaction tx
  let n := { n with toTxServer := result.1, connectionTxActive := connectionTxActive }
  match result.2 with
  | .conflict reason => (n, .answered (.conflict reason))
  | .ok => (n.release w tx.connectionId, .answered .ok)
  | .badRequest => (n.release w tx.connectionId, .answered .badRequest)

end

variable [SessionSigner]

section

variable [CheckPredicate] [ColumnOrder] [Unicode]

/-- Access to the database is not checked. -/
def sqlTransaction (w : Circumstances) (req : TransactionRequest) (n : Node E C) :
    Node E C × TransactionAnswer :=
  match Access.requireSqlRuntimePrincipal n.auth req.headers w.nowSecs .execute
      "sql/transaction" with
  | .error e => (n, .denied e)
  | .ok principal =>
    match n.pool.acquire w.nowMs with
    | (pool, .error _) => ({ n with pool := pool }, .unavailable "driver_pool_unavailable")
    | (pool, .ok conn) =>
      { n with pool := pool }.runTransactionOn w (req.onConnection (freshTxId w principal) conn)

end

def sqlRoute (w : Circumstances) (headers : HeaderMap) (n : Node E C) : Node E C × InfoAnswer :=
  match Access.requireSqlRuntimePrincipal n.auth headers w.nowSecs .read "sql/route" with
  | .error e => (n, .denied e)
  | .ok _ =>
    match n.pool.acquire w.nowMs with
    | (pool, .error _) => ({ n with pool := pool }, .unavailable "driver_pool_unavailable")
    | (pool, .ok conn) => ({ n with pool := pool }.release w conn, .ok)

def explainTarget (sqlBatch : String) : String :=
  let raw := trim sqlBatch.toList
  if startsWith (toAsciiUppercase (String.ofList raw)) "EXPLAIN " then
    String.ofList (trim (raw.drop 8))
  else String.ofList raw

def sqlExplain [QueryParser] (w : Circumstances) (headers : HeaderMap) (sqlBatch : String)
    (n : Node E C) : Node E C × InfoAnswer :=
  match Access.requireSqlRuntimePrincipal n.auth headers w.nowSecs .read "sql/explain" with
  | .error e => (n, .denied e)
  | .ok _ =>
    match n.pool.acquire w.nowMs with
    | (pool, .error _) => ({ n with pool := pool }, .unavailable "driver_pool_unavailable")
    | (pool, .ok conn) =>
      match QueryParser.parseOne (explainTarget sqlBatch) with
      | .error why => ({ n with pool := pool }, .badRequest ("invalid SQL for explain: " ++ why))
      | .ok _ => ({ n with pool := pool }.release w conn, .ok)

section

variable (w : Circumstances) (n : Node E C)

theorem sqlTransaction_cases [CheckPredicate] [ColumnOrder] [Unicode] (req : TransactionRequest) :
    (∃ answer, n.sqlTransaction w req = (n, answer)) ∨
    (∃ pool e answer, n.pool.acquire w.nowMs = (pool, .error e) ∧
      n.sqlTransaction w req = ({ n with pool := pool }, answer)) ∨
    ∃ principal pool conn,
      Access.requireSqlRuntimePrincipal n.auth req.headers w.nowSecs .execute "sql/transaction" =
        .ok principal ∧
      n.pool.acquire w.nowMs = (pool, .ok conn) ∧
      n.sqlTransaction w req = { n with pool := pool }.runTransactionOn w
        (req.onConnection (freshTxId w principal) conn) := by
  unfold sqlTransaction
  cases Access.requireSqlRuntimePrincipal n.auth req.headers w.nowSecs .execute
      "sql/transaction" with
  | error e => exact Or.inl ⟨_, rfl⟩
  | ok principal =>
    refine Or.inr ?_
    dsimp only
    generalize n.pool.acquire w.nowMs = acquired
    obtain ⟨pool, _ | conn⟩ := acquired
    · exact Or.inl ⟨pool, _, _, rfl, rfl⟩
    · exact Or.inr ⟨principal, pool, conn, rfl, rfl, rfl⟩

section

variable [CheckPredicate] [ColumnOrder] [Unicode] (tx : TxRequest)

section

omit [SessionSigner]

theorem runTransactionOn_snd :
    (n.runTransactionOn w tx).2 = .answered (n.toTxServer.sqlTransaction tx).2 := by
  unfold runTransactionOn
  dsimp only
  split <;> rename_i hans <;> rw [hans]

theorem toTxServer_runTransactionOn :
    (n.runTransactionOn w tx).1.toTxServer = (n.toTxServer.sqlTransaction tx).1 := by
  unfold runTransactionOn
  dsimp only
  split <;> rfl

theorem connectionTxActive_runTransactionOn :
    (n.runTransactionOn w tx).1.connectionTxActive = n.connectionTxAfter tx := by
  unfold runTransactionOn
  dsimp only
  split <;> rfl

end

end

theorem exists_pool_sqlRoute (hs : HeaderMap) :
    ∃ pool, (n.sqlRoute w hs).1 = { n with pool := pool } := by
  unfold sqlRoute
  cases Access.requireSqlRuntimePrincipal n.auth hs w.nowSecs .read "sql/route" with
  | error e => exact ⟨n.pool, rfl⟩
  | ok principal =>
    dsimp only
    generalize n.pool.acquire w.nowMs = acquired
    obtain ⟨pool, _ | conn⟩ := acquired
    · exact ⟨pool, rfl⟩
    · exact ⟨pool.release conn w.releaseMs, rfl⟩

theorem exists_pool_sqlExplain [QueryParser] (hs : HeaderMap) (sql : String) :
    ∃ pool, (n.sqlExplain w hs sql).1 = { n with pool := pool } := by
  unfold sqlExplain
  cases Access.requireSqlRuntimePrincipal n.auth hs w.nowSecs .read "sql/explain" with
  | error e => exact ⟨n.pool, rfl⟩
  | ok principal =>
    dsimp only
    generalize n.pool.acquire w.nowMs = acquired
    obtain ⟨pool, _ | conn⟩ := acquired
    · exact ⟨pool, rfl⟩
    · dsimp only
      split
      · exact ⟨pool, rfl⟩
      · exact ⟨pool.release conn w.releaseMs, rfl⟩

end

end

end Node

inductive SqlRequest
  | execute (req : ExecuteRequest)
  | transaction (req : TransactionRequest)
  | route (headers : HeaderMap)
  | explain (headers : HeaderMap) (sqlBatch : String)

section

variable {E C : Type} [DatabaseEngine E] [SchemaCatalog C] [CheckPredicate] [ColumnOrder]
  [Unicode] [F64] [QueryParser] [SqlRuntime] [SessionSigner]

def Node.handle (n : Node E C) (r : Circumstances × SqlRequest) : Node E C :=
  match r.2 with
  | .execute req => (n.sqlExecute r.1 req).1
  | .transaction req => (n.sqlTransaction r.1 req).1
  | .route headers => (n.sqlRoute r.1 headers).1
  | .explain headers sqlBatch => (n.sqlExplain r.1 headers sqlBatch).1

variable (n : Node E C) (w : Circumstances)

@[simp]
theorem Node.handle_execute (req : ExecuteRequest) :
    n.handle (w, .execute req) = (n.sqlExecute w req).1 := rfl

@[simp]
theorem Node.handle_transaction (req : TransactionRequest) :
    n.handle (w, .transaction req) = (n.sqlTransaction w req).1 := rfl

@[simp]
theorem Node.handle_route (hs : HeaderMap) :
    n.handle (w, .route hs) = (n.sqlRoute w hs).1 := rfl

@[simp]
theorem Node.handle_explain (hs : HeaderMap) (sql : String) :
    n.handle (w, .explain hs sql) = (n.sqlExplain w hs sql).1 := rfl

/-- **A request is a batch or a transaction**, or leaves all but the pool. -/
theorem Node.handle_rule {P : Node E C → Prop} (r : Circumstances × SqlRequest)
    (hpool : ∀ pool, P { n with pool := pool })
    (hexe : ∀ req, r.2 = .execute req → P (n.sqlExecute r.1 req).1)
    (htra : ∀ req principal pool conn, r.2 = .transaction req →
      Access.requireSqlRuntimePrincipal n.auth req.headers r.1.nowSecs .execute
        "sql/transaction" = .ok principal → n.pool.acquire r.1.nowMs = (pool, .ok conn) →
      P ({ n with pool := pool }.runTransactionOn r.1
        (req.onConnection (freshTxId r.1 principal) conn)).1) : P (n.handle r) := by
  obtain ⟨w, req⟩ := r
  cases req with
  | execute req => exact hexe req rfl
  | transaction req =>
    rw [handle_transaction]
    rcases n.sqlTransaction_cases w req with ⟨answer, h⟩ | ⟨pool, e, answer, -, h⟩ |
      ⟨principal, pool, conn, hpr, hconn, h⟩ <;> rw [h]
    · exact hpool n.pool
    · exact hpool pool
    · exact htra req principal pool conn rfl hpr hconn
  | route headers =>
    obtain ⟨pool, h⟩ := n.exists_pool_sqlRoute w headers
    rw [handle_route, h]
    exact hpool pool
  | explain headers sqlBatch =>
    obtain ⟨pool, h⟩ := n.exists_pool_sqlExplain w headers sqlBatch
    rw [handle_explain, h]
    exact hpool pool

theorem Node.auth_handle (r : Circumstances × SqlRequest) : (n.handle r).auth = n.auth := by
  refine n.handle_rule (P := fun m => m.auth = n.auth) r (fun _ => rfl) ?_ ?_
  · intro req _
    rcases standing_sqlExecute r.1 req n with h | h <;> exact congrArg Prod.fst h
  · intro req principal pool conn _ _ _
    unfold runTransactionOn
    dsimp only
    split <;> rfl

end

namespace Sample

scoped instance : SessionSigner := ⟨id⟩

scoped instance : SchemaCatalog Unit where
  expandSelect _ query := query
  rewriteDmlForView _ stmt := stmt
  validateRowAgainstDdl _ _ _ := .ok ()
  materializedView _ _ := none
  indexManager _ := ⟨[], List.nodup_nil⟩
  recordDdl c _ _ _ := (c, none)
  recordDrop c _ := c
  purgeDatabase c _ := c

open scoped Query.Sample in
scoped instance : F64 := inferInstance

scoped instance : QueryParser where
  parseOne sql :=
    if sql = "SELECT * FROM t" then .ok (some { columns := ["*"], table := some "t" })
    else .error "no such statement"
  parsePredicate _ := .error "no condition"
  collectQueryTableNames _ := ["t"]

scoped instance : SqlRuntime where
  udfError _ := none
  plannerPath _ _ := some .oltp
  declareConstraints _ mgr := mgr

def sessionOf (user : String) : Access.SessionEntry := ⟨user, "analyst", some "acme", 100⟩

def auth : Access.AuthState where
  adminApiKey := none
  allowedOperatorRoles := ∅
  operatorRoleBindings _ := none
  tenantUserBindings _ := none
  rbacPrivilegeMatrix := ⟨fun _ => []⟩
  sessionStore := ⟨fun token =>
    if token = "t" then some (sessionOf "ann")
    else if token = "u" then some (sessionOf "bob")
    else none⟩

def principalOf (user : String) : RuntimeAccessPrincipal := .tenantUser ⟨user, "acme", "analyst"⟩

def headers (database : Option String) : HeaderMap
  | "authorization" => some (.text "Bearer t")
  | "x-vng-database" => database.map .text
  | _ => none

def bobHeaders : HeaderMap
  | "authorization" => some (.text "Bearer u")
  | _ => none

def calm : Circumstances where
  nowMs := 0
  releaseMs := 0
  txCounter := 1
  permit := true
  timedOut _ := false
  quorum := true
  requireLeaderReads := false
  queryEngine _ _ _ := none

def node {E : Type} [DatabaseEngine E] (s : Server E) : Node E Unit where
  toServer := s
  acid := .empty
  mutations := []
  catalog := ()
  databases := ∅
  procedures := Access.ProcedureRegistry.registerBuiltins
  auth := auth
  dbGrants _ := ∅
  pool := .withDefaultPolicy
  connectionTxActive _ := none
  cluster := {}

def noRows : Server InMemoryEngine := Server.empty {} maxRowXid_memory

def row : RowData := Finmap.insert "id" "1" (Finmap.insert "__table" "t" ∅)

def oneRow : Server InMemoryEngine := noRows.perform [.put "t:1" row]

theorem principal_eq {hs : HeaderMap} {user : String} (hno : ¬Access.hasOperatorHeaders hs)
    (hent : Access.sessionEntryFromHeaders auth hs calm.nowSecs = some (sessionOf user))
    (action : Access.PrivilegeAction) (scope : String) :
    Access.requireSqlRuntimePrincipal auth hs calm.nowSecs action scope =
      .ok (principalOf user) := by
  have hrole : Access.OperatorRole.parse "analyst" = none := by decide +kernel
  rw [Access.requireSqlRuntimePrincipal, Access.requireRuntimePrincipal_of_session hno hent,
    Access.SessionEntry.principal, sessionOf, hrole]
  rfl

theorem principal_ann (d : Option String) (action : Access.PrivilegeAction)
    (scope : String) :
    Access.requireSqlRuntimePrincipal auth (headers d) calm.nowSecs action scope =
      .ok (principalOf "ann") := by
  refine principal_eq (Bool.not_eq_true _ ▸ rfl) ?_ action scope
  have htext : (headers d).text "authorization" = some "Bearer t" := rfl
  rw [Access.sessionEntryFromHeaders, Access.bearerToken, htext]
  decide +kernel

theorem principal_bob (action : Access.PrivilegeAction) (scope : String) :
    Access.requireSqlRuntimePrincipal auth bobHeaders calm.nowSecs action scope =
      .ok (principalOf "bob") := by
  refine principal_eq (Bool.not_eq_true _ ▸ rfl) ?_ action scope
  have htext : bobHeaders.text "authorization" = some "Bearer u" := rfl
  rw [Access.sessionEntryFromHeaders, Access.bearerToken, htext]
  decide +kernel

theorem acquire_eq : ConnectionPoolManager.withDefaultPolicy.acquire 0 =
    ((ConnectionPoolManager.withDefaultPolicy.acquire 0).1, .ok "conn-1") := by
  refine Prod.ext rfl ?_
  decide +kernel

end Sample

end VngDatabase.Daemon
