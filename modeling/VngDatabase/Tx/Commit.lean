import VngDatabase.Dml.Session
import VngDatabase.Tx.Registry

/-!
# Transactions in one request

The handler `sql_transaction` of `services/voltnuerongridd/src/handlers/sql.rs`: a `COMMIT` works
out the keys that will be written (`commitWriteKeys`), compares them with what others have written
(`commitConflict`) and carries out the statements (`flush`).
-/

namespace VngDatabase.Tx

open Store Sql Text Overlay Dml

/-! ### The checks before a commit -/

variable (acid : AcidTransactionRegistry)

section

variable [Unicode]

def declaredKeys (db stmt : String) : List String :=
  match dmlKind stmt with
  | some .insert => (extractAllInsertRows stmt).map fun row => dbPrefixKey db row.rowKey
  | some .update => (extractUpdateRowFromSql stmt).toList.map fun u => dbPrefixKey db u.1
  | some .delete => (extractDeleteKeyFromSql stmt).toList.map (dbPrefixKey db)
  | none => []

def commitWriteKeys (db : String) (stmts : List String) : List String :=
  stmts.flatMap (declaredKeys db)

def optimisticVersionConflict (rs : PagedRowStore) (writtenKeys : List String)
    (beginSnapshotXid : Xid) : Option String :=
  writtenKeys.find? (rs.wasModifiedAfter · beginSnapshotXid)

def commitConflict (rs : PagedRowStore)
    (txId isoLevel : String) (keys : List String) : Option String :=
  let snapshotXid := (acid.rowStoreSnapshotXid txId).getD 0
  let readKeys := ((acid.entryOf txId).map AcidTxEntry.readRowKeys).getD []
  let optimistic :=
    if isoLevel = "optimistic" then
      (optimisticVersionConflict rs keys snapshotXid).or (acid.checkOptimisticConflict txId keys)
    else none
  (optimistic.map ("optimistic_version_conflict:" ++ ·)).or <|
    ((acid.checkSerializableConflictRowLevel txId keys).map
      ("serializable_write_conflict:" ++ ·)).or <|
    ((acid.checkSerializableRwConflict txId keys readKeys).map
      ("serializable_phantom_conflict:" ++ ·)).or <|
    (optimisticVersionConflict rs keys snapshotXid).map ("write_write_conflict:" ++ ·)

end

section

variable {E : Type} [DurabilityEngine E] [CheckPredicate] [ColumnOrder] (mgr : ConstraintManager)

def flushRefusal (data : RowData) : Option String :=
  if tableOf data = "" then none
  else (rowViolation mgr (tableOf data) none data).map violationReason

def flushInsertRow (db : String) (xid : Xid) (st : State E) (row : InsertRow) : State E :=
  let k := dbPrefixKey db row.rowKey
  let before := st.readLatestWithRocksdbFallback db k row.rowKey
  let st := (st.recordUndo k before).beginWriteIntent xid k
  let st := (st.storeRow db row.rowKey xid (some row.data)).insert xid k row.data
  st.persistSqlStatement row.singleSql

def flushDelete (stmt db : String) (xid : Xid) (rawKey : String) (st : State E) : State E :=
  let k := dbPrefixKey db rawKey
  let before := st.readLatestWithRocksdbFallback db k rawKey
  let st := ((st.recordUndo k before).beginWriteIntent xid k).delete xid k
  (st.storeRow db rawKey xid none).persistSqlStatement stmt

variable [Unicode] (db : String) (xid : Xid) (stmts : List String) (st : Guarded E)

def flushStatement (db : String) (xid : Xid) (stmt : String) (st : Guarded E) :
    Guarded E × Option String :=
  match dmlKind stmt with
  | some .insert => insertLoop flushRefusal (flushInsertRow db xid) (extractAllInsertRows stmt) st
  | some .delete =>
    match extractDeleteKeyFromSql stmt with
    | some rawKey => st.with (flushDelete stmt db xid rawKey st.toState, none)
    | none => (st, none)
  | some .update =>
    match extractUpdateRowFromSql stmt with
    | none => (st, none)
    | some (rawKey, columns) =>
      match scanUpdateTarget stmt with
      | some t => st.with (directScanUpdate stmt t db xid st.toState, none)
      | none => st.with (directKeyedUpdate stmt db xid rawKey columns st.toState, none)
  | none => (st, none)

def flushStatements (db : String) (xid : Xid) : List String → Guarded E → Guarded E × Option String
  | [], st => (st, none)
  | stmt :: stmts, st =>
    let result := flushStatement db xid stmt st
    if result.2.isSome then result else flushStatements db xid stmts result.1

def flush (db : String) (stmts : List String) (st : Guarded E) : Guarded E × Option String :=
  let xid := st.rowStore.nextXid
  let result := flushStatements db xid stmts st.begin
  ({ result.1 with toState := result.1.toState.releaseWriteIntents xid }, result.2)

def mutation (db stmt : String) : Option (String × Option RowData) :=
  match dmlKind stmt with
  | some .insert => (extractInsertRowFromSql stmt).map fun r => (dbPrefixKey db r.1, some r.2)
  | some .delete => (extractDeleteKeyFromSql stmt).map fun rawKey => (dbPrefixKey db rawKey, none)
  | some .update => (extractUpdateRowFromSql stmt).map fun u => (dbPrefixKey db u.1, some u.2)
  | none => none

/-! ### What a transaction does -/

def flushInsertActions (db : String) (row : InsertRow) : List Action :=
  let k := dbPrefixKey db row.rowKey
  [.undo k (some (db, row.rowKey)), .intent k, .store db row.rowKey (some row.data),
    .put k row.data, .log row.singleSql]

def flushDeleteActions (stmt db rawKey : String) : List Action :=
  let k := dbPrefixKey db rawKey
  [.undo k (some (db, rawKey)), .intent k, .remove k, .store db rawKey none, .log stmt]

def flushRows (stmt : String) : List InsertRow :=
  match dmlKind stmt with
  | some .insert => acceptedRows flushRefusal mgr (extractAllInsertRows stmt)
  | _ => []

def flushRefused (stmt : String) : Bool :=
  match dmlKind stmt with
  | some .insert => (flushRows mgr stmt).length < (extractAllInsertRows stmt).length
  | _ => false

def flushStatementActions (db stmt : String) (st : Guarded E) : List Action :=
  match dmlKind stmt with
  | some .insert => (flushRows st.constraints stmt).flatMap (flushInsertActions db)
  | some .delete => (extractDeleteKeyFromSql stmt).toList.flatMap (flushDeleteActions stmt db)
  | some .update =>
    match extractUpdateRowFromSql stmt with
    | none => []
    | some (rawKey, columns) =>
      match scanUpdateTarget stmt with
      | some t =>
        ((st.scanRows db).filter (matchesUpdate t db)).flatMap (scanUpdateActions t db) ++
          [.log stmt]
      | none => keyedUpdateActions stmt db rawKey (mergedRow db rawKey columns st.toState)
  | none => []

omit [CheckPredicate] [ColumnOrder] [Unicode] in
theorem flushInsertRow_performs (st : State E) (row : InsertRow) :
    flushInsertRow db xid st row = performAll xid (flushInsertActions db row) st := rfl

theorem flushStatement_isSome (stmt : String) (st : Guarded E) :
    (flushStatement db xid stmt st).2.isSome = flushRefused st.constraints stmt := by
  unfold flushStatement flushRefused flushRows
  cases dmlKind stmt with
  | none => rfl
  | some kind =>
    cases kind with
    | insert =>
      rw [Bool.eq_iff_iff, decide_eq_true_iff]
      exact insertLoop_isSome_iff _ _ _ st
    | update =>
      cases extractUpdateRowFromSql stmt with
      | none => rfl
      | some row => cases scanUpdateTarget stmt <;> rfl
    | delete => cases extractDeleteKeyFromSql stmt <;> rfl

theorem flushStatement_performs (stmt : String) (st : Guarded E) :
    (flushStatement db xid stmt st).1 =
      { toState := performAll xid (flushStatementActions db stmt st) st.toState
        constraints :=
          recordRows st.constraints ((flushRows st.constraints stmt).map InsertRow.data) } := by
  unfold flushStatement flushStatementActions flushRows
  cases dmlKind stmt with
  | none => rfl
  | some kind =>
    cases kind with
    | insert => exact insertLoop_performs (flushInsertRow_performs db xid) _ st
    | update =>
      cases extractUpdateRowFromSql stmt with
      | none => rfl
      | some row =>
        cases scanUpdateTarget stmt with
        | none => rfl
        | some t =>
          simp only [Guarded.with, directScanUpdate_performs]
          rfl
    | delete => cases extractDeleteKeyFromSql stmt <;> rfl

def flushActions (db : String) (xid : Xid) : List String → Guarded E → List Action
  | [], _ => []
  | stmt :: stmts, st =>
    flushStatementActions db stmt st ++
      if flushRefused st.constraints stmt then []
      else flushActions db xid stmts (flushStatement db xid stmt st).1

def flushedRows : ConstraintManager → List String → List RowData
  | _, [] => []
  | mgr, stmt :: stmts =>
    let rows := (flushRows mgr stmt).map InsertRow.data
    rows ++ if flushRefused mgr stmt then [] else flushedRows (recordRows mgr rows) stmts

/-- **No row that is inserted is refused.** -/
def insertsPass : ConstraintManager → List String → Bool
  | _, [] => true
  | mgr, stmt :: stmts => !flushRefused mgr stmt &&
      insertsPass (recordRows mgr ((flushRows mgr stmt).map InsertRow.data)) stmts

theorem flushStatements_performs : (flushStatements db xid stmts st).1 =
      { toState := performAll xid (flushActions db xid stmts st) st.toState
        constraints := recordRows st.constraints (flushedRows st.constraints stmts) } := by
  induction stmts generalizing st with
  | nil => rfl
  | cons stmt stmts ih =>
    have hstmt := flushStatement_performs db xid stmt st
    simp only [flushStatements, flushActions, flushedRows, performAll_append, recordRows_append,
      flushStatement_isSome]
    split_ifs with href
    · rw [hstmt, performAll_nil, recordRows_nil]
    · rw [ih, hstmt]

theorem flushStatements_isSome :
    (flushStatements db xid stmts st).2.isSome = !insertsPass st.constraints stmts := by
  induction stmts generalizing st with
  | nil => rfl
  | cons stmt stmts ih =>
    have hstmt := flushStatement_isSome db xid stmt st
    rw [flushStatements, insertsPass]
    simp only [hstmt]
    cases href : flushRefused st.constraints stmt with
    | true => simpa [href] using hstmt
    | false => simp [ih, flushStatement_performs]

theorem flush_fst : (flush db stmts st).1 =
      { toState := st.transact (flushActions db st.rowStore.nextXid stmts st.begin)
        constraints := recordRows st.constraints (flushedRows st.constraints stmts) } := by
  rw [flush, flushStatements_performs]
  rfl

theorem flush_snd_isSome : (flush db stmts st).2.isSome = !insertsPass st.constraints stmts :=
  flushStatements_isSome db st.rowStore.nextXid stmts st.begin

end

/-! ### The handler -/

structure TxRequest where
  txId : String
  connectionId : String
  db : String
  isolationLevel : Option String
  statements : List String

inductive TxAnswer
  | ok
  | badRequest
  | conflict (reason : String)
  deriving DecidableEq

namespace TxRequest

variable (req : TxRequest)

def hasBegin : Bool := req.statements.any fun stmt => classifyStatement stmt = .begin

def hasCommit : Bool := req.statements.any fun stmt => classifyStatement stmt = .commit

def hasRollback : Bool := req.statements.any fun stmt => classifyStatement stmt = .rollback

def isoLevel : String := req.isolationLevel.getD "read_committed"

def effectiveStatements : List String := effectiveStatementsAfterSavepoints req.statements

def writeKeys [Unicode] : List String := commitWriteKeys req.db req.effectiveStatements

def beginSnapshotXid (rs : PagedRowStore) : Option Xid :=
  if req.hasBegin && takesSnapshot req.isoLevel then some rs.currentXid else none

def allKnown : Bool := req.statements.all fun stmt => classifyStatement stmt ≠ .unknown

def registered (snapshotXid : Option Xid) :
    AcidTransactionRegistry :=
  if req.hasBegin then acid.begin req.txId req.isoLevel snapshotXid else acid

end TxRequest

def executeTransactionStatements (statements : List String) : TxAnswer :=
  if statements = [] then .badRequest
  else if statements.any fun stmt => classifyStatement stmt = .unknown then .badRequest
  else .ok

theorem entryOf_registered {req : TxRequest} (hbeg : req.hasBegin)
    (acid : AcidTransactionRegistry) (x : Option Xid) :
    (req.registered acid x).entryOf req.txId = some
      { state := .active
        isolationLevel := req.isoLevel
        rowStoreSnapshotXid := if takesSnapshot req.isoLevel then x else none
        writtenRowKeys := []
        readRowKeys := [] } := by
  rw [TxRequest.registered, if_pos hbeg, AcidTransactionRegistry.entryOf_begin]

theorem executeTransactionStatements_eq_ok_iff {req : TxRequest} (hcom : req.hasCommit) :
    executeTransactionStatements req.statements = .ok ↔ req.allKnown := by
  have hne : req.statements ≠ [] := by
    intro hnil
    simp [TxRequest.hasCommit, hnil] at hcom
  rw [executeTransactionStatements, if_neg hne, TxRequest.allKnown]
  split_ifs with hany
  · simpa using hany
  · simpa using hany

structure TxServer (E : Type) [BootEngine E] extends Server E where
  acid : AcidTransactionRegistry
  mutations : List (String × Option RowData)

section

variable {E : Type} [BootEngine E] [CheckPredicate] [ColumnOrder] [Unicode] (req : TxRequest)

def TxServer.commit (acid : AcidTransactionRegistry) (s : TxServer E) :
    TxServer E × TxAnswer :=
  let acid := ((acid.recordWrittenRowKeys req.txId req.writeKeys).commit
    req.txId).setRowStoreSnapshot req.txId s.rowStore.currentXid
  let result := flush req.db req.effectiveStatements (s.session req.connectionId)
  have hsound : result.1.Sound := by
    rw [flush_fst]
    exact (s.sound req.connectionId).transact _
  match result.2 with
  | some reason =>
    ({ toServer := s.resume req.connectionId result.1 hsound
       acid := acid
       mutations := s.mutations }, .conflict reason)
  | none =>
    ({ toServer := s.resume req.connectionId { result.1 with txUndoLog := [] }
         ⟨hsound.stamped, hsound.durable⟩
       acid := acid
       mutations := s.mutations ++ req.effectiveStatements.filterMap (mutation req.db) },
      executeTransactionStatements req.statements)

def TxServer.runTransaction (snapshotXid : Option Xid) (s : TxServer E) :
    TxServer E × TxAnswer :=
  let acid := req.registered s.acid snapshotXid
  let st := s.session req.connectionId
  if req.hasCommit then
    match commitConflict acid s.rowStore req.txId req.isoLevel req.writeKeys with
    | some reason => ({ s with acid := acid.rollback req.txId }, .conflict reason)
    | none => s.commit req acid
  else if req.hasRollback then
    ({ toServer := s.resume req.connectionId { st with toState := st.rollback }
         (s.sound req.connectionId).rollback
       acid := acid.rollback req.txId
       mutations := s.mutations }, executeTransactionStatements req.statements)
  else ({ s with acid := acid }, executeTransactionStatements req.statements)

/-- Its snapshot is taken from the state it runs in. -/
def TxServer.sqlTransaction (s : TxServer E) : TxServer E × TxAnswer :=
  s.runTransaction req (req.beginSnapshotXid s.rowStore)

end

end VngDatabase.Tx
