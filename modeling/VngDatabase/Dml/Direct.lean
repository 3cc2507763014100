import VngDatabase.Dml.Journal

/-!
# The direct path

The branch of `sql_execute` (`services/voltnuerongridd/src/handlers/sql.rs`) that writes rows at
once, for a database without constraints; the check of a row against the types of its columns is a
parameter.
-/

namespace VngDatabase.Dml

open Store Sql Text Overlay List

inductive DmlKind
  | insert
  | update
  | delete
  deriving DecidableEq

@[irreducible]
def dmlKind (stmt : String) : Option DmlKind :=
  let upper := toAsciiUppercase (String.ofList (trimStart stmt.toList))
  if startsWith upper "INSERT" then some .insert
  else if startsWith upper "UPDATE" then some .update
  else if startsWith upper "DELETE" then some .delete
  else none

variable {E : Type} [DurabilityEngine E]
  (validate : String → RowData → Except String Unit)

/-! ### INSERT -/

def tableOf (data : RowData) : String := (data.lookup "__table").getD ""

def recordDelta (st : State E) (xid : Xid) (table rawKey : String) (data : RowData) : State E :=
  if table ≠ "" ∧ ¬startsWith rawKey "__" then st.insert xid (deltaKey table rawKey) data else st

def insertDelta (row : InsertRow) : RowData :=
  (row.data.insert "__delta_op" "INSERT").insert "__delta_row_key" row.rowKey

def directInsertRow (db : String) (xid : Xid) (st : State E) (row : InsertRow) : State E :=
  let k := dbPrefixKey db row.rowKey
  let before := st.readLatestWithRocksdbFallback db k row.rowKey
  let st := (st.recordUndo k before).beginWriteIntent xid k
  let st := (st.storeRow db row.rowKey xid (some row.data)).insert xid k row.data
  let st := recordDelta st xid (tableOf row.data) row.rowKey (insertDelta row)
  st.persistSqlStatement row.singleSql

def anyRow : String → RowData → Except String Unit := fun _ _ => .ok ()

def checkRow (data : RowData) : Except String Unit :=
  if tableOf data = "" then .ok () else validate (tableOf data) data

def directInsert (validate : String → RowData → Except String Unit) (db : String)
    (xid : Xid) : List InsertRow → State E → State E × Option String
  | [], st => (st, none)
  | row :: rows, st =>
    match checkRow validate row.data with
    | .error msg => (st, some ("type_validation_error: " ++ msg))
    | .ok () => directInsert validate db xid rows (directInsertRow db xid st row)

def scanUpdateTarget [Unicode] (stmt : String) : Option UpdateTarget :=
  (extractBulkUpdateTarget stmt).filter fun t =>
    !eqIgnoreAsciiCase t.whereCol "id" && t.whereCol ≠ ""

def localKey (db key : String) : String :=
  if db = "" then key else (stripPrefix key (db ++ ".")).getD key

theorem localKey_dbPrefixKey (db rawKey : String) :
    localKey db (dbPrefixKey db rawKey) = rawKey := by
  rw [localKey, dbPrefixKey]
  split_ifs
  · rfl
  · rw [stripPrefix_append, Option.getD_some]

def matchesUpdate (t : UpdateTarget) (db : String) (row : String × RowData) : Bool :=
  startsWith (localKey db row.1) (t.table ++ ":") && row.2.lookup t.whereCol = some t.whereVal

def directScanUpdateRow (t : UpdateTarget) (db : String) (xid : Xid) (st : State E)
    (row : String × RowData) : State E :=
  let before := st.rowStore.readLatest row.1
  let updated := row.2.insert t.setCol t.setVal
  let st := (st.recordUndo row.1 before).beginWriteIntent xid row.1
  (st.storeRow db (localKey db row.1) xid (some updated)).insert xid row.1 updated

def directScanUpdate (stmt : String) (t : UpdateTarget) (db : String) (xid : Xid)
    (st : State E) : State E :=
  let rows := (st.scanRows db).filter (matchesUpdate t db)
  (rows.foldl (directScanUpdateRow t db xid) st).persistSqlStatement stmt

def directKeyedUpdate (stmt db : String) (xid : Xid) (rawKey : String) (columns : RowData)
    (st : State E) : State E :=
  let k := dbPrefixKey db rawKey
  let before := st.readLatestWithRocksdbFallback db k rawKey
  let merged := columns ∪ before.getD ∅
  let st := (st.recordUndo k before).beginWriteIntent xid k
  ((st.storeRow db rawKey xid (some merged)).insert xid k merged).persistSqlStatement stmt

def scanDeleteTarget [Unicode] (stmt : String) : Option DeleteTarget :=
  (extractBulkDeleteTarget stmt).filter fun t =>
    !eqIgnoreAsciiCase t.whereCol "id" && t.whereCol ≠ ""

def matchesDelete (t : DeleteTarget) (db : String) (row : String × RowData) : Bool :=
  contains row.1 (dbPrefixKey db (t.table ++ ":")) && row.2.lookup t.whereCol = some t.whereVal

def directScanDeleteRow (db : String) (xid : Xid) (st : State E) (row : String × RowData) :
    State E :=
  let before := st.rowStore.readLatest row.1
  let st := ((st.recordUndo row.1 before).beginWriteIntent xid row.1).delete xid row.1
  let rawKey := trimStartMatches (dbPrefixKey db "").toList row.1.toList.length row.1.toList
  st.storeRow db (String.ofList rawKey) xid none

def directScanDelete (stmt : String) (t : DeleteTarget) (db : String) (xid : Xid)
    (st : State E) : State E :=
  let rows := (st.scanRows db).filter (matchesDelete t db)
  (rows.foldl (directScanDeleteRow db xid) st).persistSqlStatement stmt

def deleteDelta (rawKey : String) : RowData :=
  (Finmap.insert "__delta_op" "DELETE" ∅).insert "__delta_row_key" rawKey

def directKeyedDelete (stmt db : String) (xid : Xid) (rawKey : String) (st : State E) :
    State E :=
  let k := dbPrefixKey db rawKey
  let before := st.readLatestWithRocksdbFallback db k rawKey
  let st := ((st.recordUndo k before).beginWriteIntent xid k).delete xid k
  let st := recordDelta (st.storeRow db rawKey xid none) xid (beforeFirst ':' rawKey) rawKey
    (deleteDelta rawKey)
  st.persistSqlStatement stmt

def deltaActions (table rawKey : String) (data : RowData) : List Action :=
  if table ≠ "" ∧ ¬startsWith rawKey "__" then [.put (deltaKey table rawKey) data] else []

def insertActions (db : String) (row : InsertRow) : List Action :=
  let k := dbPrefixKey db row.rowKey
  [.undo k (some (db, row.rowKey)), .intent k, .store db row.rowKey (some row.data),
    .put k row.data] ++ deltaActions (tableOf row.data) row.rowKey (insertDelta row) ++
    [.log row.singleSql]

def scanUpdateActions (t : UpdateTarget) (db : String) (row : String × RowData) : List Action :=
  let updated := row.2.insert t.setCol t.setVal
  [.undo row.1 none, .intent row.1, .store db (localKey db row.1) (some updated),
    .put row.1 updated]

def keyedUpdateActions (stmt db rawKey : String) (merged : RowData) : List Action :=
  let k := dbPrefixKey db rawKey
  [.undo k (some (db, rawKey)), .intent k, .store db rawKey (some merged), .put k merged,
    .log stmt]

def scanDeleteActions (db : String) (row : String × RowData) : List Action :=
  let rawKey := trimStartMatches (dbPrefixKey db "").toList row.1.toList.length row.1.toList
  [.undo row.1 none, .intent row.1, .remove row.1, .store db (String.ofList rawKey) none]

def keyedDeleteActions (stmt db rawKey : String) : List Action :=
  let k := dbPrefixKey db rawKey
  [.undo k (some (db, rawKey)), .intent k, .remove k, .store db rawKey none] ++
    deltaActions (beforeFirst ':' rawKey) rawKey (deleteDelta rawKey) ++ [.log stmt]

variable [Unicode]

def directStatement (db : String)
    (xid : Xid) (stmt : String) (st : State E) : State E × Option String :=
  match dmlKind stmt with
  | some .insert => directInsert validate db xid (extractAllInsertRows stmt) st
  | some .update =>
    match extractUpdateRowFromSql stmt with
    | none => (st, none)
    | some (rawKey, columns) =>
      match scanUpdateTarget stmt with
      | some t => (directScanUpdate stmt t db xid st, none)
      | none => (directKeyedUpdate stmt db xid rawKey columns st, none)
  | some .delete =>
    match scanDeleteTarget stmt with
    | some t => (directScanDelete stmt t db xid st, none)
    | none =>
      match extractDeleteKeyFromSql stmt with
      | some rawKey => (directKeyedDelete stmt db xid rawKey st, none)
      | none => (st, none)
  | none => (st, none)

def directStatements (validate : String → RowData → Except String Unit)
    (db : String) (xid : Xid) : List String → State E → State E × Option String
  | [], st => (st, none)
  | stmt :: stmts, st =>
    let result := directStatement validate db xid stmt st
    if result.2.isSome then result
    else directStatements validate db xid stmts result.1

def sqlExecuteDirect (db : String) (stmts : List String) (st : State E) : State E × Option String :=
  let xid := st.rowStore.nextXid
  let (st, rejected) := directStatements validate db xid stmts st.started
  (st.releaseWriteIntents xid, rejected)

theorem directStatements_singleton (db : String) (xid : Xid) (stmt : String) (st : State E) :
    directStatements validate db xid [stmt] st =
      directStatement validate db xid stmt st := by
  rw [directStatements, directStatements]
  generalize directStatement validate db xid stmt st = result
  obtain ⟨st', _ | reason⟩ := result <;> rfl

theorem sqlExecuteDirect_singleton (db stmt : String) (st : State E) :
    sqlExecuteDirect validate db [stmt] st =
      ((directStatement validate db st.rowStore.nextXid stmt
          st.started).1.releaseWriteIntents st.rowStore.nextXid,
        (directStatement validate db st.rowStore.nextXid stmt st.started).2) := by
  rw [sqlExecuteDirect, directStatements_singleton]

def scanUpdateWrites (t : UpdateTarget) (db : String) (st : State E) :
    List (String × Option RowData) :=
  ((st.scanRows db).filter (matchesUpdate t db)).map fun r =>
    (r.1, some (r.2.insert t.setCol t.setVal))

def scanDeleteWrites (t : DeleteTarget) (db : String) (st : State E) :
    List (String × Option RowData) :=
  ((st.scanRows db).filter (matchesDelete t db)).map fun r => (r.1, none)

def mergedRow (db rawKey : String) (columns : RowData) (st : State E) : RowData :=
  columns ∪ (st.readLatestWithRocksdbFallback db (dbPrefixKey db rawKey) rawKey).getD ∅

def userWrites (db stmt : String) (st : State E) : List (String × Option RowData) :=
  match dmlKind stmt with
  | some .insert =>
    (extractAllInsertRows stmt).map fun r => (dbPrefixKey db r.rowKey, some r.data)
  | some .update =>
    match extractUpdateRowFromSql stmt with
    | none => []
    | some (rawKey, columns) =>
      match scanUpdateTarget stmt with
      | some t => scanUpdateWrites t db st
      | none => [(dbPrefixKey db rawKey, some (mergedRow db rawKey columns st))]
  | some .delete =>
    match scanDeleteTarget stmt with
    | some t => scanDeleteWrites t db st
    | none =>
      match extractDeleteKeyFromSql stmt with
      | some rawKey => [(dbPrefixKey db rawKey, none)]
      | none => []
  | none => []

def deltaWrites (table rawKey : String) (data : RowData) : List (String × Option RowData) :=
  if table ≠ "" ∧ ¬startsWith rawKey "__" then [(deltaKey table rawKey, some data)] else []

def insertRowWrites (db : String) (row : InsertRow) : List (String × Option RowData) :=
  (dbPrefixKey db row.rowKey, some row.data) ::
    deltaWrites (tableOf row.data) row.rowKey (insertDelta row)

def keyedDeleteWrites (db rawKey : String) : List (String × Option RowData) :=
  (dbPrefixKey db rawKey, none) ::
    deltaWrites (beforeFirst ':' rawKey) rawKey (deleteDelta rawKey)

def directWrites (db stmt : String) (st : State E) : List (String × Option RowData) :=
  match dmlKind stmt with
  | some .insert => (extractAllInsertRows stmt).flatMap (insertRowWrites db)
  | some .delete =>
    match scanDeleteTarget stmt with
    | some t => scanDeleteWrites t db st
    | none => (extractDeleteKeyFromSql stmt).toList.flatMap (keyedDeleteWrites db)
  | _ => userWrites db stmt st

/-! ### What a statement does -/

/-- **What a statement asks for.** -/
inductive Plan
  | nothing
  | insert (rows : List InsertRow)
  | scanUpdate (t : UpdateTarget)
  | keyedUpdate (rawKey : String) (columns : RowData)
  | scanDelete (t : DeleteTarget)
  | keyedDelete (rawKey : String)

@[irreducible]
def plan (stmt : String) : Plan :=
  match dmlKind stmt with
  | some .insert => .insert (extractAllInsertRows stmt)
  | some .update =>
    match extractUpdateRowFromSql stmt with
    | none => .nothing
    | some (rawKey, columns) =>
      match scanUpdateTarget stmt with
      | some t => .scanUpdate t
      | none => .keyedUpdate rawKey columns
  | some .delete =>
    match scanDeleteTarget stmt with
    | some t => .scanDelete t
    | none =>
      match extractDeleteKeyFromSql stmt with
      | some rawKey => .keyedDelete rawKey
      | none => .nothing
  | none => .nothing

theorem directStatement_eq (val : String → RowData → Except String Unit) (db : String)
    (xid : Xid) (stmt : String) (st : State E) :
    directStatement val db xid stmt st =
      match plan stmt with
      | .nothing => (st, none)
      | .insert rows => directInsert val db xid rows st
      | .scanUpdate t => (directScanUpdate stmt t db xid st, none)
      | .keyedUpdate rawKey columns => (directKeyedUpdate stmt db xid rawKey columns st, none)
      | .scanDelete t => (directScanDelete stmt t db xid st, none)
      | .keyedDelete rawKey => (directKeyedDelete stmt db xid rawKey st, none) := by
  unfold directStatement plan
  cases dmlKind stmt with
  | none => rfl
  | some kind =>
    cases kind with
    | insert => rfl
    | update =>
      cases extractUpdateRowFromSql stmt with
      | none => rfl
      | some row => cases scanUpdateTarget stmt <;> rfl
    | delete =>
      cases scanDeleteTarget stmt with
      | some t => rfl
      | none => cases extractDeleteKeyFromSql stmt <;> rfl

theorem userWrites_eq (db stmt : String) (st : State E) :
    userWrites db stmt st =
      match plan stmt with
      | .nothing => []
      | .insert rows => rows.map fun r => (dbPrefixKey db r.rowKey, some r.data)
      | .scanUpdate t => scanUpdateWrites t db st
      | .keyedUpdate rawKey columns =>
        [(dbPrefixKey db rawKey, some (mergedRow db rawKey columns st))]
      | .scanDelete t => scanDeleteWrites t db st
      | .keyedDelete rawKey => [(dbPrefixKey db rawKey, none)] := by
  unfold userWrites plan
  cases dmlKind stmt with
  | none => rfl
  | some kind =>
    cases kind with
    | insert => rfl
    | update =>
      cases extractUpdateRowFromSql stmt with
      | none => rfl
      | some row => cases scanUpdateTarget stmt <;> rfl
    | delete =>
      cases scanDeleteTarget stmt with
      | some t => rfl
      | none => cases extractDeleteKeyFromSql stmt <;> rfl

theorem directWrites_eq (db stmt : String) (st : State E) :
    directWrites db stmt st =
      match plan stmt with
      | .nothing => []
      | .insert rows => rows.flatMap (insertRowWrites db)
      | .scanUpdate t => scanUpdateWrites t db st
      | .keyedUpdate rawKey columns =>
        [(dbPrefixKey db rawKey, some (mergedRow db rawKey columns st))]
      | .scanDelete t => scanDeleteWrites t db st
      | .keyedDelete rawKey => keyedDeleteWrites db rawKey := by
  unfold directWrites userWrites plan
  cases dmlKind stmt with
  | none => rfl
  | some kind =>
    cases kind with
    | insert => rfl
    | update =>
      cases extractUpdateRowFromSql stmt with
      | none => rfl
      | some row => cases scanUpdateTarget stmt <;> rfl
    | delete =>
      cases scanDeleteTarget stmt with
      | some t => rfl
      | none => cases extractDeleteKeyFromSql stmt <;> simp

def directActions (db stmt : String) (st : State E) : List Action :=
  match plan stmt with
  | .nothing => []
  | .insert rows => rows.flatMap (insertActions db)
  | .scanUpdate t =>
    ((st.scanRows db).filter (matchesUpdate t db)).flatMap (scanUpdateActions t db) ++ [.log stmt]
  | .keyedUpdate rawKey columns =>
    keyedUpdateActions stmt db rawKey (mergedRow db rawKey columns st)
  | .scanDelete t =>
    ((st.scanRows db).filter (matchesDelete t db)).flatMap (scanDeleteActions db) ++ [.log stmt]
  | .keyedDelete rawKey => keyedDeleteActions stmt db rawKey

variable {validate}

section

omit [Unicode]

variable (xid : Xid) (st : State E) (stmt : String)

theorem recordDelta_performs (table raw : String) (data : RowData) :
    recordDelta st xid table raw data =
      performAll xid (deltaActions table raw data) st := by
  rw [recordDelta, deltaActions]
  split_ifs <;> rfl

theorem directInsertRow_performs (db : String) (row : InsertRow) :
    directInsertRow db xid st row = performAll xid (insertActions db row) st := by
  rw [insertActions, performAll_append, performAll_append, ← recordDelta_performs]
  rfl

theorem directInsert_performs {db : String}
    {rows : List InsertRow} (hok : (directInsert validate db xid rows st).2 = none) :
    (directInsert validate db xid rows st).1 =
      performAll xid (rows.flatMap (insertActions db)) st := by
  induction rows generalizing st with
  | nil => rfl
  | cons row rows ih =>
    rw [directInsert] at hok ⊢
    split at hok
    · contradiction
    · rw [ih _ hok, flatMap_cons, performAll_append, directInsertRow_performs]

theorem directScanUpdate_performs (t : UpdateTarget) (db : String) :
    directScanUpdate stmt t db xid st = performAll xid
      (((st.scanRows db).filter (matchesUpdate t db)).flatMap (scanUpdateActions t db) ++
        [.log stmt]) st := by
  rw [performAll_append, ← performAll_flatMap (f := directScanUpdateRow t db xid) fun _ _ => rfl]
  rfl

theorem directScanDelete_performs (t : DeleteTarget) (db : String) :
    directScanDelete stmt t db xid st = performAll xid
      (((st.scanRows db).filter (matchesDelete t db)).flatMap (scanDeleteActions db) ++
        [.log stmt]) st := by
  rw [performAll_append, ← performAll_flatMap (f := directScanDeleteRow db xid) fun _ _ => rfl]
  rfl

theorem directKeyedDelete_performs (db raw : String) :
    directKeyedDelete stmt db xid raw st =
      performAll xid (keyedDeleteActions stmt db raw) st := by
  rw [keyedDeleteActions, performAll_append, performAll_append, ← recordDelta_performs]
  rfl

end

theorem directStatement_performs {db stmt : String} {xid : Xid} {st : State E}
    (hok : (directStatement validate db xid stmt st).2 = none) :
    (directStatement validate db xid stmt st).1 =
      performAll xid (directActions db stmt st) st := by
  rw [directStatement_eq] at hok ⊢
  rw [directActions]
  cases hplan : plan stmt with
  | nothing => rfl
  | insert rows =>
    rw [hplan] at hok
    exact directInsert_performs xid st hok
  | scanUpdate t => exact directScanUpdate_performs xid st stmt t db
  | keyedUpdate rawKey columns => rfl
  | scanDelete t => exact directScanDelete_performs xid st stmt t db
  | keyedDelete rawKey => exact directKeyedDelete_performs xid st stmt db rawKey

section

omit [DurabilityEngine E] [Unicode]

theorem rowWrites_deltaActions (table raw : String) (data : RowData) :
    rowWrites (deltaActions table raw data) = deltaWrites table raw data := by
  rw [deltaActions, deltaWrites]
  split_ifs <;> rfl

theorem rowWrites_insertActions (db : String) (row : InsertRow) :
    rowWrites (insertActions db row) = insertRowWrites db row := by
  rw [insertActions, rowWrites_append, rowWrites_append, rowWrites_deltaActions]
  exact append_nil _

theorem rowWrites_keyedDeleteActions (stmt db rawKey : String) :
    rowWrites (keyedDeleteActions stmt db rawKey) = keyedDeleteWrites db rawKey := by
  rw [keyedDeleteActions, rowWrites_append, rowWrites_append, rowWrites_deltaActions]
  exact append_nil _

theorem rowWrites_flatMap_scanUpdateActions (t : UpdateTarget) (db : String)
    (rows : List (String × RowData)) :
    rowWrites (rows.flatMap (scanUpdateActions t db)) =
      rows.map fun r => (r.1, some (r.2.insert t.setCol t.setVal)) := by
  rw [rowWrites_flatMap, map_eq_flatMap]
  rfl

theorem rowWrites_flatMap_scanDeleteActions (db : String) (rows : List (String × RowData)) :
    rowWrites (rows.flatMap (scanDeleteActions db)) = rows.map fun r => (r.1, none) := by
  rw [rowWrites_flatMap, map_eq_flatMap]
  rfl

end

/-! ### What is stored and logged -/

section

variable (db : String) (t : UpdateTarget)

omit [DurabilityEngine E] [Unicode]

theorem storedRows_deltaActions (table raw : String) (data : RowData) :
    storedRows (deltaActions table raw data) = [] := by
  rw [deltaActions]
  split_ifs <;> rfl

theorem loggedSql_deltaActions (table raw : String) (data : RowData) :
    loggedSql (deltaActions table raw data) = [] := by
  rw [deltaActions]
  split_ifs <;> rfl

theorem storedRows_insertActions (row : InsertRow) :
    storedRows (insertActions db row) = [((db, row.rowKey), some row.data)] := by
  rw [insertActions, storedRows_append, storedRows_append, storedRows_deltaActions]
  rfl

theorem loggedSql_insertActions (row : InsertRow) :
    loggedSql (insertActions db row) = [row.singleSql] := by
  rw [insertActions, loggedSql_append, loggedSql_append, loggedSql_deltaActions]
  rfl

theorem loggedSql_flatMap_insertActions (rows : List InsertRow) :
    loggedSql (rows.flatMap (insertActions db)) = rows.map InsertRow.singleSql := by
  rw [loggedSql_flatMap, map_eq_flatMap]
  simp only [loggedSql_insertActions]

theorem storedRows_keyedDeleteActions (stmt db raw : String) :
    storedRows (keyedDeleteActions stmt db raw) = [((db, raw), none)] := by
  rw [keyedDeleteActions, storedRows_append, storedRows_append, storedRows_deltaActions]
  rfl

theorem loggedSql_keyedDeleteActions (stmt db raw : String) :
    loggedSql (keyedDeleteActions stmt db raw) = [stmt] := by
  rw [keyedDeleteActions, loggedSql_append, loggedSql_append, loggedSql_deltaActions]
  rfl

theorem storedRows_flatMap_scanUpdateActions (db : String) (rows : List (String × RowData)) :
    storedRows (rows.flatMap (scanUpdateActions t db)) =
      rows.map fun r => ((db, localKey db r.1), some (r.2.insert t.setCol t.setVal)) := by
  rw [storedRows_flatMap, map_eq_flatMap]
  rfl

theorem loggedSql_flatMap_scanUpdateActions (db : String)
    (rows : List (String × RowData)) : loggedSql (rows.flatMap (scanUpdateActions t db)) = [] := by
  rw [loggedSql_flatMap, flatMap_eq_nil_iff]
  exact fun _ _ => rfl

theorem loggedSql_flatMap_scanDeleteActions (rows : List (String × RowData)) :
    loggedSql (rows.flatMap (scanDeleteActions db)) = [] := by
  rw [loggedSql_flatMap, flatMap_eq_nil_iff]
  exact fun _ _ => rfl

end

theorem rowWrites_directActions (db stmt : String) (st : State E) :
    rowWrites (directActions db stmt st) = directWrites db stmt st := by
  rw [directActions, directWrites_eq]
  cases plan stmt with
  | nothing => rfl
  | insert rows => simp only [rowWrites_flatMap, rowWrites_insertActions]
  | scanUpdate t =>
    dsimp only
    rw [rowWrites_append, rowWrites_flatMap_scanUpdateActions]
    exact append_nil _
  | keyedUpdate rawKey columns => rfl
  | scanDelete t =>
    dsimp only
    rw [rowWrites_append, rowWrites_flatMap_scanDeleteActions]
    exact append_nil _
  | keyedDelete rawKey => exact rowWrites_keyedDeleteActions stmt db rawKey

theorem directStatement_shows {db stmt : String} {xid : Xid} {st : State E}
    (h : st.rowStore.Newest xid) (hok : (directStatement validate db xid stmt st).2 = none) :
    Shows xid st (directStatement validate db xid stmt st).1 (directWrites db stmt st) := by
  rw [directStatement_performs hok, ← rowWrites_directActions]
  exact performAll_shows h _

section

omit [Unicode]

variable {k : String}

theorem lastWrite_deltaWrites (hk : isUserKey k) (table raw : String) (data : RowData) :
    lastWrite (deltaWrites table raw data) k = none := by
  refine lastWrite_eq_none ?_
  intro w hw
  rw [deltaWrites] at hw
  split_ifs at hw
  · rintro rfl
    rw [mem_singleton.mp hw, isUserKey_deltaKey] at hk
    contradiction
  · simp at hw

theorem lastWrite_insertRowWrites (hk : isUserKey k) (db : String) (row : InsertRow) :
    lastWrite (insertRowWrites db row) k =
      lastWrite [(dbPrefixKey db row.rowKey, some row.data)] k := by
  rw [insertRowWrites, lastWrite, lastWrite_deltaWrites hk]
  rfl

theorem lastWrite_keyedDeleteWrites (hk : isUserKey k) (db raw : String) :
    lastWrite (keyedDeleteWrites db raw) k = lastWrite [(dbPrefixKey db raw, none)] k := by
  rw [keyedDeleteWrites, lastWrite, lastWrite_deltaWrites hk]
  rfl

end

theorem lastWrite_directWrites {k : String} (hk : isUserKey k) (db stmt : String) (st : State E) :
    lastWrite (directWrites db stmt st) k = lastWrite (userWrites db stmt st) k := by
  rw [directWrites_eq, userWrites_eq]
  cases plan stmt with
  | insert rows =>
    refine (lastWrite_flatMap_congr (lastWrite_insertRowWrites hk db) _).trans ?_
    rw [← map_eq_flatMap]
  | keyedDelete rawKey => exact lastWrite_keyedDeleteWrites hk db rawKey
  | _ => rfl

end VngDatabase.Dml
