import VngDatabase.Query.Predicate

/-!
# Queries on the row store

`execute_oltp_select` of `services/voltnuerongridd/src/helpers/execution.rs` answers a query by one
of three executors: a library (`QueryEngine`), `executeSelect`, which is not told the database, and
`executeOltpSelectLegacy`, which compares columns with texts.
-/

namespace VngDatabase.Query

open Text Store Option
open Sql (isUnder)

/-! ### Statements -/

variable (engine : QueryEngine) (columns : List String)

structure OrderByClause where
  column : String
  descending : Bool := false
  deriving DecidableEq

structure JoinClause where
  joinTable : String
  onCondition : Option String := none
  deriving DecidableEq

structure SelectStatement where
  columns : List String := []
  table : Option String := none
  whereClause : Option String := none
  orderBy : List OrderByClause := []
  join : Option JoinClause := none
  hasSubquery : Bool := false
  hasWindowFn : Bool := false
  limit : Option ℕ := none
  offset : Option ℕ := none
  hasGroupBy : Bool := false
  hasHaving : Bool := false
  deriving DecidableEq

class QueryParser where
  parseOne : (sql : String) → Except String (Option SelectStatement)
  parsePredicate : String → Except String Expr
  collectQueryTableNames : (sql : String) → List String

structure ResultRow where
  key : String
  data : RowData
  deriving DecidableEq

inductive SelectOutput
  | rows (rows : List ResultRow)
  | aggregate

abbrev QueryEngine :=
  (sql : String) → (tables : List (String × List (String × RowData))) → (maxRows : ℕ) →
    Option (List ResultRow)

def splitAlias (col : String) : String × Option String :=
  let trimmed := trim col.toList
  match splitAtText " AS ".toList (trimmed.map Char.toUpper) with
  | some (before, _) =>
    (String.ofList (trim (trimmed.take before.length)),
      some (String.ofList (trim (trimmed.drop (before.length + 4)))))
  | none => (String.ofList trimmed, none)

def projectColumns (row : RowData) : RowData :=
  if columns = [] ∨ columns.any fun c => trim c.toList = ['*'] then row
  else columns.foldl (fun out col =>
    let (source, aliasName) := splitAlias col
    let found := match row.lookup source with
      | some v => some v
      | none => if '.' ∈ source.toList then row.lookup (afterLast '.' source) else none
    match found with
    | some v => out.insert (aliasName.getD source) v
    | none => out) ∅

def tryExtractAggregates : Bool :=
  columns ≠ [] && columns.all fun col =>
    ["COUNT(", "SUM(", "AVG(", "MIN(", "MAX("].any fun call =>
      startsWith (toAsciiUppercase (splitAlias col).1) call

def applyProjection (row : ResultRow) : ResultRow :=
  if columns = [] ∨ "*" ∈ columns then row
  else { row with data := columns.foldl (fun out col =>
    match row.data.lookup col with
    | some v => out.insert col v
    | none => out) ∅ }

/-! ### The executor that walks the syntax tree -/

def keyFilter (table : Option String) (key : String) : Bool :=
  match table with
  | some t => key = t || startsWith key (t ++ ":")
  | none => true

section

variable [F64]

def passes (whereExpr : Option Expr) (row : String × RowData) : Bool :=
  match whereExpr with
  | some e =>
    match evalPredicate ⟨row.1, row.2⟩ e with
    | .ok b => b
    | .error _ => false
  | none => true

/-- As numbers, if both are numbers. -/
def compareColumn (a b : String) : Ordering :=
  match F64.parse a, F64.parse b with
  | some x, some y => (F64.partialCmp x y).getD .eq
  | _, _ => compare a b

def sortRows (orderBy : List OrderByClause) (rows : List (String × RowData)) :
    List (String × RowData) :=
  match orderBy with
  | [] => rows
  | ob :: _ => rows.mergeSort fun a b =>
    let cmp := compareColumn ((a.2.lookup ob.column).getD "") ((b.2.lookup ob.column).getD "")
    (if ob.descending then cmp.swap else cmp) ≠ .gt

namespace SelectStatement

variable (sel : SelectStatement)

def rowMatches (whereExpr : Option Expr) (row : String × RowData) : Bool :=
  keyFilter sel.table row.1 && passes whereExpr row

def pageLimit (maxRows : ℕ) : ℕ := min (sel.limit.getD maxRows) maxRows

def page (maxRows : ℕ) (matched : List (String × RowData)) : List ResultRow :=
  (((sortRows sel.orderBy matched).drop (sel.offset.getD 0)).take (sel.pageLimit maxRows)).map
    fun row => ⟨row.1, projectColumns sel.columns row.2⟩

end SelectStatement

variable [QueryParser] (sel : SelectStatement)

def parseWhere : Except ExecError (Option Expr) :=
  match sel.whereClause with
  | none => .ok none
  | some w =>
    match QueryParser.parsePredicate w with
    | .ok e => .ok (some e)
    | .error why => .error (.badPredicate why)

def unsupportedFeature : Option String :=
  if sel.hasGroupBy || sel.hasHaving then some "GROUP BY / HAVING"
  else if sel.join.isSome then some "JOIN"
  else if sel.hasSubquery then some "subquery"
  else none

def executeParsedSelect (rs : PagedRowStore) (maxRows : ℕ) : Except ExecError SelectOutput :=
  match unsupportedFeature sel with
  | some what => .error (.unsupported what)
  | none =>
    match parseWhere sel with
    | .error e => .error e
    | .ok whereExpr =>
      let matched := (rs.scanAtSnapshot rs.currentXid).filter (sel.rowMatches whereExpr)
      if tryExtractAggregates sel.columns then .ok .aggregate
      else .ok (.rows (sel.page maxRows matched))

def executeSelect (sql : String) (rs : PagedRowStore) (maxRows : ℕ) :
    Except ExecError SelectOutput :=
  match QueryParser.parseOne sql with
  | .error why => .error (.badPredicate why)
  | .ok none => .error .notASelect
  | .ok (some sel) => executeParsedSelect sel rs maxRows

end

/-- `crates/voltnuerongrid-store/src/index.rs` -/
structure BTreeIndex where
  name : String
  table : String
  column : String
  tree : Finmap fun _ : String => List String

def BTreeIndex.lookup (index : BTreeIndex) (columnValue : String) : List String :=
  (index.tree.lookup columnValue).getD []

structure IndexManager where
  indexes : List BTreeIndex
  nodup : (indexes.map BTreeIndex.name).Nodup

def IndexManager.get (mgr : IndexManager) (name : String) : Option BTreeIndex :=
  mgr.indexes.find? fun index => index.name = name

def indexedKeys (indexManager : Option IndexManager) (table : Option String)
    (whereFilters : List (String × String)) : Option (List String) :=
  match indexManager, table, whereFilters with
  | some mgr, some t, [(col, val)] =>
    (mgr.indexes.find? fun index => index.table = t ∧ index.column = col).bind fun desc =>
      (mgr.get desc.name).map (·.lookup val)
  | _, _, _ => none

def whereFilter (piece : List Char) : Option (String × String) :=
  (splitAtText ['='] piece).bind fun (lhs, rhs) =>
    let col := toAsciiLowercase (String.ofList (trim lhs))
    let val := String.ofList (trim (trimMatches (· = '"') (trimMatches (· = '\'') (trim rhs))))
    if col = "" ∨ val = "" then none else some (col, val)

/-- What is no equation is left out. -/
def whereFilters (whereClause : Option String) : List (String × String) :=
  match whereClause with
  | some w => (splitIgnoreCase " AND ".toList w.toList).filterMap whereFilter
  | none => []

def stripDatabase (db key : String) : String :=
  if db = "" then key else (stripPrefix key (db ++ ".")).getD key

def databaseRows (rs : PagedRowStore) (db : String) (snapshotXid : Option Xid)
    (rocksdbRows : Option (List (String × RowData))) : List (String × RowData) :=
  match rocksdbRows with
  | some rows => rows
  | none => ((rs.scanAtSnapshot (snapshotXid.getD rs.currentXid)).filter fun row =>
      isUnder db row.1).map fun row => (stripDatabase db row.1, row.2)

/-- The table is not looked at without an index. -/
def legacyMatches (indexManager : Option IndexManager) (sel : SelectStatement)
    (row : String × RowData) : Bool :=
  let filters := whereFilters sel.whereClause
  match indexedKeys indexManager sel.table filters with
  | some keys => row.1 ∈ keys
  | none => filters.all fun (col, val) => (row.2.lookup col).any (eqIgnoreAsciiCase · val)

def executeOltpSelectLegacy [QueryParser] (stmt : String) (rs : PagedRowStore) (limit : ℕ)
    (results : List ResultRow) (db : String) (snapshotXid : Option Xid)
    (rocksdbRows : Option (List (String × RowData))) (indexManager : Option IndexManager) :
    List ResultRow :=
  match QueryParser.parseOne stmt with
  | .ok (some sel) =>
    let matched := (databaseRows rs db snapshotXid rocksdbRows).filter
      (legacyMatches indexManager sel)
    results ++ (matched.take (sel.pageLimit limit - results.length)).map fun row =>
      applyProjection sel.columns ⟨row.1, row.2⟩
  | _ => results

def isComplex [QueryParser] (stmt : String) : Bool :=
  match QueryParser.parseOne stmt with
  | .ok (some sel) =>
    sel.hasGroupBy || sel.hasHaving || sel.join.isSome || sel.hasSubquery || sel.hasWindowFn
  | _ => false

def makeTableScanPrefix (db table : String) : String := Sql.dbPrefixKey db (table ++ ":")

def tableRows (db : String) (allRows : List (String × RowData)) (name : String) :
    List (String × RowData) :=
  (allRows.filter fun row =>
      row.1 = name || startsWith row.1 (makeTableScanPrefix db name)).map
    fun row => (stripDatabase db row.1, row.2)

def askEngine [QueryParser] (stmt : String) (rs : PagedRowStore)
    (maxRows : ℕ) (db : String) (snapshotXid : Option Xid)
    (rocksdbRows : Option (List (String × RowData))) : Option (List ResultRow) :=
  let allRows := rocksdbRows.getD (rs.scanAtSnapshot (snapshotXid.getD rs.currentXid))
  engine stmt ((QueryParser.collectQueryTableNames stmt).map fun name =>
    (name, tableRows db allRows name)) maxRows

section

variable [F64] [QueryParser]

def answer (rs : PagedRowStore) (limit : ℕ) (db : String)
    (snapshotXid : Option Xid) (rocksdbRows : Option (List (String × RowData)))
    (indexManager : Option IndexManager) (results : List ResultRow) (stmt : String) :
    List ResultRow :=
  let remaining := limit - results.length
  let legacy :=
    executeOltpSelectLegacy stmt rs limit results db snapshotXid rocksdbRows indexManager
  let fromEngine :=
    if isComplex stmt then askEngine engine stmt rs remaining db snapshotXid rocksdbRows else none
  match fromEngine with
  | some rows => results ++ rows.take remaining
  | none =>
    if rocksdbRows.isSome then legacy
    else match executeSelect stmt rs remaining with
      | .ok (.rows rows) => results ++ rows.take remaining
      | .ok .aggregate | .error (.unsupported _) => legacy
      -- no query, or a condition that cannot be parsed
      | .error _ => results

def executeOltpSelect (statements : List String) (rs : PagedRowStore)
    (limit : ℕ) (db : String) (snapshotXid : Option Xid)
    (rocksdbRows : Option (List (String × RowData))) (indexManager : Option IndexManager) :
    List ResultRow :=
  statements.foldl (fun results stmt =>
    if limit - results.length = 0 then results
    else answer engine rs limit db snapshotXid rocksdbRows indexManager results stmt) []

theorem executeOltpSelect_congr_of_scan {rs rs' : PagedRowStore}
    (h : rs'.scanAtSnapshot rs'.currentXid = rs.scanAtSnapshot rs.currentXid)
    (eng : QueryEngine) (qs : List String) (limit : ℕ) (db : String)
    (rocksdbRows : Option (List (String × RowData))) (indexManager : Option IndexManager) :
    executeOltpSelect eng qs rs' limit db none rocksdbRows indexManager =
      executeOltpSelect eng qs rs limit db none rocksdbRows indexManager := by
  have hrows : databaseRows rs' db none rocksdbRows = databaseRows rs db none rocksdbRows := by
    cases rocksdbRows with
    | some rows => rfl
    | none => rw [databaseRows, databaseRows, getD_none, getD_none, h]
  have hsel (query : String) (maxRows : ℕ) :
      executeSelect query rs' maxRows = executeSelect query rs maxRows := by
    unfold executeSelect executeParsedSelect
    rw [h]
  unfold executeOltpSelect
  refine List.foldl_ext _ _ [] fun results query _ => ?_
  simp only [answer, hsel, executeOltpSelectLegacy, hrows, askEngine, getD_none, h]

end

end VngDatabase.Query
