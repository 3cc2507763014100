import VngDatabase.Dml.Direct
import VngDatabase.Store.Constraints

/-!
# The direct path with constraints

The branch of `Dml.Direct` for tables with constraints: each row is checked just before it is
written, and the first one that does not pass ends the request.
-/

namespace VngDatabase.Dml

open Store Sql Text Overlay List

structure Guarded (E : Type) extends State E where
  constraints : ConstraintManager

variable {E : Type} [DurabilityEngine E] [CheckPredicate] [ColumnOrder]

/-! ### The checks -/

def userColumns (row : RowData) : List (String × String) :=
  (ColumnOrder.columns row).filter fun c => !startsWith c.1 "__"

def rowViolation (mgr : ConstraintManager) (table : String) (before : Option RowData)
    (row : RowData) : Option ConstraintViolation :=
  (userColumns row).findSome? fun c =>
    if before.bind (·.lookup c.1) = some c.2 then none else mgr.validate table c.1 (some c.2)

def violationReason (violation : ConstraintViolation) : String :=
  "constraint_violation: " ++ violation.text

def missingColumn (mgr : ConstraintManager) (table : String) (data : RowData) : Option String :=
  (mgr.notNullColumns table).find? fun column => (data.lookup column).getD "" = ""

def insertRefusal (validate : String → RowData → Except String Unit)
    (mgr : ConstraintManager) (data : RowData) : Option String :=
  if tableOf data = "" then none
  else
    match validate (tableOf data) data with
    | .error msg => some ("type_validation_error: " ++ msg)
    | .ok () =>
      match missingColumn mgr (tableOf data) data with
      | some column => some ("constraint_violation: not-null column '" ++ column ++ "' missing")
      | none => (rowViolation mgr (tableOf data) none data).map violationReason

section

variable (mgr : ConstraintManager)

omit [CheckPredicate]

def recordRow (data : RowData) : ConstraintManager :=
  if tableOf data = "" then mgr
  else (userColumns data).foldl
    (fun mgr c => mgr.recordCommittedValue (tableOf data) c.1 c.2) mgr

def recordRows (rows : List RowData) : ConstraintManager :=
  rows.foldl recordRow mgr

@[simp]
theorem recordRows_nil : recordRows mgr [] = mgr := rfl

theorem recordRows_append (rows rows' : List RowData) :
    recordRows mgr (rows ++ rows') = recordRows (recordRows mgr rows) rows' := foldl_append

end

def insertLoop (refusal : ConstraintManager → RowData → Option String)
    (write : State E → InsertRow → State E) :
    List InsertRow → Guarded E → Guarded E × Option String
  | [], st => (st, none)
  | row :: rows, st =>
    match refusal st.constraints row.data with
    | some reason => (st, some reason)
    | none => insertLoop refusal write rows
        { toState := write st.toState row
          constraints := recordRow st.constraints row.data }

def checkedInsert (validate : String → RowData → Except String Unit) (db : String)
    (xid : Xid) : List InsertRow → Guarded E → Guarded E × Option String :=
  insertLoop (insertRefusal validate) (directInsertRow db xid)

def scanUpdateRefusal (mgr : ConstraintManager) (t : UpdateTarget) (st : State E)
    (row : String × RowData) : Option ConstraintViolation :=
  rowViolation mgr t.table (st.rowStore.readLatest row.1) (row.2.insert t.setCol t.setVal)

def checkedScanUpdateRows (mgr : ConstraintManager) (t : UpdateTarget) (db : String) (xid : Xid) :
    List (String × RowData) → State E → State E × Option String
  | [], st => (st, none)
  | row :: rows, st =>
    match scanUpdateRefusal mgr t st row with
    | some violation => (st, some (violationReason violation))
    | none => checkedScanUpdateRows mgr t db xid rows (directScanUpdateRow t db xid st row)

def checkedScanUpdate (mgr : ConstraintManager) (stmt : String) (t : UpdateTarget) (db : String)
    (xid : Xid) (st : State E) : State E × Option String :=
  let result :=
    checkedScanUpdateRows mgr t db xid ((st.scanRows db).filter (matchesUpdate t db)) st
  if result.2.isSome then result else (result.1.persistSqlStatement stmt, none)

def keyedUpdateRefusal (mgr : ConstraintManager) (db rawKey : String) (columns : RowData)
    (st : State E) : Option ConstraintViolation :=
  if tableOf columns = "" then none
  else rowViolation mgr (tableOf columns)
    (st.readLatestWithRocksdbFallback db (dbPrefixKey db rawKey) rawKey)
    (mergedRow db rawKey columns st)

def checkedKeyedUpdate (mgr : ConstraintManager) (stmt db : String) (xid : Xid) (rawKey : String)
    (columns : RowData) (st : State E) : State E × Option String :=
  match keyedUpdateRefusal mgr db rawKey columns st with
  | some violation => (st, some (violationReason violation))
  | none => (directKeyedUpdate stmt db xid rawKey columns st, none)

def Guarded.with (st : Guarded E) (result : State E × Option String) :
    Guarded E × Option String := ({ st with toState := result.1 }, result.2)

variable [Unicode] (validate : String → RowData → Except String Unit)

def checkedStatement (validate : String → RowData → Except String Unit) (db : String)
    (xid : Xid) (stmt : String) (st : Guarded E) : Guarded E × Option String :=
  match plan stmt with
  | .nothing => (st, none)
  | .insert rows => checkedInsert validate db xid rows st
  | .scanUpdate t => st.with (checkedScanUpdate st.constraints stmt t db xid st.toState)
  | .keyedUpdate rawKey columns =>
    st.with (checkedKeyedUpdate st.constraints stmt db xid rawKey columns st.toState)
  | .scanDelete t => st.with (directScanDelete stmt t db xid st.toState, none)
  | .keyedDelete rawKey => st.with (directKeyedDelete stmt db xid rawKey st.toState, none)

def checkedStatements (validate : String → RowData → Except String Unit)
    (db : String) (xid : Xid) : List String → Guarded E → Guarded E × Option String
  | [], st => (st, none)
  | stmt :: stmts, st =>
    let result := checkedStatement validate db xid stmt st
    if result.2.isSome then result
    else checkedStatements validate db xid stmts result.1

/-! ### How far a request gets -/

section

variable (mgr : ConstraintManager)

omit [Unicode]

def acceptedRows (refusal : ConstraintManager → RowData → Option String) :
    ConstraintManager → List InsertRow → List InsertRow
  | _, [] => []
  | mgr, row :: rows =>
    if (refusal mgr row.data).isSome then []
    else row :: acceptedRows refusal (recordRow mgr row.data) rows

def acceptedUpdates (mgr : ConstraintManager) (t : UpdateTarget) (db : String) (xid : Xid) :
    List (String × RowData) → State E → List (String × RowData)
  | [], _ => []
  | row :: rows, st =>
    if (scanUpdateRefusal mgr t st row).isSome then []
    else row :: acceptedUpdates mgr t db xid rows (directScanUpdateRow t db xid st row)

theorem acceptedUpdates_subset (t : UpdateTarget) (db : String)
    (xid : Xid) (rows : List (String × RowData)) (st : State E) :
    acceptedUpdates mgr t db xid rows st ⊆ rows := by
  induction rows generalizing st with
  | nil => exact List.Subset.refl _
  | cons row rows ih =>
    rw [acceptedUpdates]
    split_ifs
    · exact nil_subset _
    · exact cons_subset_cons row (ih _)

omit [CheckPredicate] in
theorem insertLoop_performs {refusal : ConstraintManager → RowData → Option String}
    {write : State E → InsertRow → State E} {as : InsertRow → List Action} {xid : Xid}
    (hwri : ∀ st row, write st row = performAll xid (as row) st) (rows : List InsertRow)
    (st : Guarded E) :
    (insertLoop refusal write rows st).1 =
      { toState := performAll xid ((acceptedRows refusal st.constraints rows).flatMap as)
          st.toState
        constraints := recordRows st.constraints
          ((acceptedRows refusal st.constraints rows).map InsertRow.data) } := by
  induction rows generalizing st with
  | nil => rfl
  | cons row rows ih =>
    rw [insertLoop, acceptedRows]
    cases refusal st.constraints row.data with
    | some reason => rfl
    | none =>
      rw [ih, hwri, ← performAll_append]
      rfl

theorem checkedScanUpdateRows_performs (t : UpdateTarget) (db : String)
    (xid : Xid) (rows : List (String × RowData)) (st : State E) :
    (checkedScanUpdateRows mgr t db xid rows st).1 =
      performAll xid ((acceptedUpdates mgr t db xid rows st).flatMap (scanUpdateActions t db))
        st := by
  induction rows generalizing st with
  | nil => rfl
  | cons row rows ih =>
    rw [checkedScanUpdateRows, acceptedUpdates]
    cases scanUpdateRefusal mgr t st row with
    | some violation => rfl
    | none =>
      rw [ih]
      rfl

omit [DurabilityEngine E] [CheckPredicate] in
theorem insertLoop_isSome_iff (refusal : ConstraintManager → RowData → Option String)
    (write : State E → InsertRow → State E) (rows : List InsertRow) (st : Guarded E) :
    (insertLoop refusal write rows st).2.isSome ↔
      (acceptedRows refusal st.constraints rows).length < rows.length := by
  induction rows generalizing st with
  | nil => simp [insertLoop, acceptedRows]
  | cons row rows ih =>
    rw [insertLoop, acceptedRows]
    cases refusal st.constraints row.data with
    | some reason => simp
    | none => simpa using ih _

theorem checkedScanUpdateRows_isSome_iff (t : UpdateTarget) (db : String)
    (xid : Xid) (rows : List (String × RowData)) (st : State E) :
    (checkedScanUpdateRows mgr t db xid rows st).2.isSome ↔
      (acceptedUpdates mgr t db xid rows st).length < rows.length := by
  induction rows generalizing st with
  | nil => simp [checkedScanUpdateRows, acceptedUpdates]
  | cons row rows ih =>
    rw [checkedScanUpdateRows, acceptedUpdates]
    cases scanUpdateRefusal mgr t st row with
    | some violation => simp
    | none => simpa using ih _

omit [CheckPredicate] in
theorem acceptedRows_eq_self {refusal : ConstraintManager → RowData → Option String}
    {mgr : ConstraintManager} {rows : List InsertRow}
    (h : ¬(acceptedRows refusal mgr rows).length < rows.length) :
    acceptedRows refusal mgr rows = rows := by
  induction rows generalizing mgr with
  | nil => rfl
  | cons row rows ih =>
    rw [acceptedRows] at h ⊢
    split_ifs at h ⊢ with href
    · simp at h
    · rw [ih (by simpa using h)]

theorem acceptedUpdates_eq_self {mgr : ConstraintManager} {t : UpdateTarget} {db : String}
    {xid : Xid} {rows : List (String × RowData)} {st : State E}
    (h : ¬(acceptedUpdates mgr t db xid rows st).length < rows.length) :
    acceptedUpdates mgr t db xid rows st = rows := by
  induction rows generalizing st with
  | nil => rfl
  | cons row rows ih =>
    rw [acceptedUpdates] at h ⊢
    split_ifs at h ⊢ with href
    · simp at h
    · rw [ih (by simpa using h)]

end

def isRefused (validate : String → RowData → Except String Unit) (db : String)
    (xid : Xid) (stmt : String) (st : Guarded E) : Bool :=
  match plan stmt with
  | .insert rows =>
    (acceptedRows (insertRefusal validate) st.constraints rows).length < rows.length
  | .scanUpdate t =>
    let rows := (st.scanRows db).filter (matchesUpdate t db)
    (acceptedUpdates st.constraints t db xid rows st.toState).length < rows.length
  | .keyedUpdate rawKey columns =>
    (keyedUpdateRefusal st.constraints db rawKey columns st.toState).isSome
  | _ => false

def checkedActions (validate : String → RowData → Except String Unit) (db : String)
    (xid : Xid) (stmt : String) (st : Guarded E) : List Action :=
  match plan stmt with
  | .insert rows =>
    (acceptedRows (insertRefusal validate) st.constraints rows).flatMap
      (insertActions db)
  | .scanUpdate t =>
    let rows := (st.scanRows db).filter (matchesUpdate t db)
    (acceptedUpdates st.constraints t db xid rows st.toState).flatMap (scanUpdateActions t db) ++
      if isRefused validate db xid stmt st then [] else [.log stmt]
  | .keyedUpdate rawKey columns =>
    if isRefused validate db xid stmt st then []
    else keyedUpdateActions stmt db rawKey (mergedRow db rawKey columns st.toState)
  | _ => directActions db stmt st.toState

def recordedRows (validate : String → RowData → Except String Unit) (stmt : String)
    (mgr : ConstraintManager) : List RowData :=
  match plan stmt with
  | .insert rows =>
    (acceptedRows (insertRefusal validate) mgr rows).map InsertRow.data
  | _ => []

theorem checkedStatement_isSome (db : String) (xid : Xid) (stmt : String) (st : Guarded E) :
    (checkedStatement validate db xid stmt st).2.isSome =
      isRefused validate db xid stmt st := by
  unfold checkedStatement isRefused
  cases plan stmt with
  | insert rows =>
    rw [Bool.eq_iff_iff, decide_eq_true_iff]
    exact insertLoop_isSome_iff _ _ rows st
  | scanUpdate t =>
    dsimp only [Guarded.with, checkedScanUpdate]
    rw [Bool.eq_iff_iff, decide_eq_true_iff, ← checkedScanUpdateRows_isSome_iff]
    split_ifs with href <;> simp [href]
  | keyedUpdate rawKey columns =>
    dsimp only [Guarded.with, checkedKeyedUpdate]
    cases keyedUpdateRefusal st.constraints db rawKey columns st.toState <;> rfl
  | _ => rfl

theorem checkedStatement_performs (db : String) (xid : Xid) (stmt : String) (st : Guarded E) :
    (checkedStatement validate db xid stmt st).1 =
      { toState := performAll xid (checkedActions validate db xid stmt st) st.toState
        constraints := recordRows st.constraints (recordedRows validate stmt st.constraints) } := by
  unfold checkedStatement checkedActions recordedRows directActions
  cases hplan : plan stmt with
  | nothing => rfl
  | insert rows => exact insertLoop_performs (directInsertRow_performs xid · db) rows st
  | scanUpdate t =>
    simp only [Guarded.with, checkedScanUpdate, isRefused, hplan, performAll_append,
      ← checkedScanUpdateRows_performs, checkedScanUpdateRows_isSome_iff, decide_eq_true_iff]
    split_ifs <;> rfl
  | keyedUpdate rawKey columns =>
    simp only [Guarded.with, checkedKeyedUpdate, isRefused, hplan]
    cases keyedUpdateRefusal st.constraints db rawKey columns st.toState <;> rfl
  | scanDelete t =>
    simp only [Guarded.with, directScanDelete_performs]
    rfl
  | keyedDelete rawKey =>
    simp only [Guarded.with, directKeyedDelete_performs]
    rfl

theorem checkedActions_eq_directActions {val : String → RowData → Except String Unit}
    {db : String} {xid : Xid} {stmt : String} {st : Guarded E}
    (h : isRefused val db xid stmt st = false) :
    checkedActions val db xid stmt st = directActions db stmt st.toState := by
  unfold checkedActions directActions
  simp only [h]
  unfold isRefused at h
  cases hplan : plan stmt with
  | insert rows =>
    simp only [hplan, decide_eq_false_iff_not] at h
    simp only [acceptedRows_eq_self h]
  | scanUpdate t =>
    simp only [hplan, decide_eq_false_iff_not] at h
    simp only [acceptedUpdates_eq_self h]
    rfl
  | _ => rfl

def batchActions (validate : String → RowData → Except String Unit) (db : String)
    (xid : Xid) : List String → Guarded E → List Action
  | [], _ => []
  | stmt :: stmts, st =>
    checkedActions validate db xid stmt st ++
      if isRefused validate db xid stmt st then []
      else batchActions validate db xid stmts
        (checkedStatement validate db xid stmt st).1

def batchRows (validate : String → RowData → Except String Unit) (db : String)
    (xid : Xid) : List String → Guarded E → List RowData
  | [], _ => []
  | stmt :: stmts, st =>
    recordedRows validate stmt st.constraints ++
      if isRefused validate db xid stmt st then []
      else batchRows validate db xid stmts
        (checkedStatement validate db xid stmt st).1

theorem checkedStatements_performs
    (db : String) (xid : Xid) (stmts : List String) (st : Guarded E) :
    (checkedStatements validate db xid stmts st).1 =
      { toState := performAll xid (batchActions validate db xid stmts st) st.toState
        constraints := recordRows st.constraints (batchRows validate db xid stmts st) } := by
  induction stmts generalizing st with
  | nil => rfl
  | cons stmt stmts ih =>
    have hstmt := checkedStatement_performs validate db xid stmt st
    simp only [checkedStatements, batchActions, batchRows, performAll_append, recordRows_append,
      checkedStatement_isSome]
    split_ifs with href
    · rw [hstmt, performAll_nil, recordRows_nil]
    · rw [ih, hstmt]

def Passes (validate : String → RowData → Except String Unit) (db : String)
    (xid : Xid) : List String → Guarded E → Prop
  | [], _ => True
  | stmt :: stmts, st => isRefused validate db xid stmt st = false ∧
      Passes validate db xid stmts
        (checkedStatement validate db xid stmt st).1

theorem checkedStatements_eq_none_iff {val : String → RowData → Except String Unit}
    {db : String} {xid : Xid} {stmts : List String} {st : Guarded E} :
    (checkedStatements val db xid stmts st).2 = none ↔
      Passes val db xid stmts st := by
  induction stmts generalizing st with
  | nil => simp [checkedStatements, Passes]
  | cons stmt stmts ih =>
    have hstmt := checkedStatement_isSome val db xid stmt st
    rw [checkedStatements, Passes, ← ih]
    cases href : isRefused val db xid stmt st with
    | true =>
      rw [href, Option.isSome_iff_ne_none] at hstmt
      simp [hstmt, Option.isSome_iff_ne_none]
    | false => simp [hstmt, href]

section

variable {mgr : ConstraintManager}

omit [Unicode] [CheckPredicate] in
theorem recordRow_eq_self (h : mgr.constraints = []) (data : RowData) :
    recordRow mgr data = mgr := by
  rw [recordRow]
  split_ifs
  · rfl
  · generalize userColumns data = columns
    induction columns with
    | nil => rfl
    | cons c columns ih =>
      rw [foldl_cons, ConstraintManager.recordCommittedValue_eq_self h, ih]

end

namespace Sample

scoped instance : Unicode := .ascii

scoped instance : ColumnOrder := .byName

scoped instance : CheckPredicate := ⟨fun _ _ _ => true⟩

end Sample

end VngDatabase.Dml
