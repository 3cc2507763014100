import VngDatabase.Query.Isolation

/-!
# Indexes and scans

`handle_create_index_ddl` of `services/voltnuerongridd/src/handlers/sql.rs` fills an index with the
rows of its table, and nothing changes it afterwards.
-/

namespace VngDatabase.Query

open Text Store Option

structure CreateIndex where
  name : String
  table : String
  columns : List String
  unique : Bool
  deriving DecidableEq

def parseCreateIndexSql (sql : String) : Option CreateIndex :=
  let lower := toAsciiLowercase (String.ofList (trim sql.toList))
  let start := match stripPrefix lower "create unique index " with
    | some rest => some (rest, true)
    | none => (stripPrefix lower "create index ").map (·, false)
  start.bind fun (rest, unique) =>
    let rest := (stripPrefix rest "if not exists ").getD rest
    (splitAtText " on ".toList rest.toList).bind fun (idxName, afterOn) =>
      (splitAtText ['('] (trim afterOn)).bind fun (tableName, colList) =>
        let columns := (split [','] (trim (trimEndMatches (· = ')') colList))).filterMap fun c =>
          (wordsFrom isWhitespace [] c).head?.map String.ofList
        if trim idxName = [] ∨ trim tableName = [] ∨ columns = [] then none
        else some ⟨String.ofList (trim idxName), String.ofList (trim tableName), columns, unique⟩

namespace BTreeIndex

def insert (unique : Bool) (index : BTreeIndex) (columnValue rowKey : String) : BTreeIndex :=
  let keys := index.lookup columnValue
  if (unique && keys ≠ []) || rowKey ∈ keys then index
  else { index with tree := index.tree.insert columnValue (keys ++ [rowKey]) }

def backfill (unique : Bool) (index : BTreeIndex) (rows : List (String × RowData)) : BTreeIndex :=
  rows.foldl (fun index row =>
    match row.2.lookup index.column with
    | some colVal => index.insert unique colVal row.1
    | none => index) index

end BTreeIndex

def IndexManager.createIndex (mgr : IndexManager) (index : BTreeIndex) : IndexManager :=
  if h : index.name ∈ mgr.indexes.map BTreeIndex.name then mgr
  else ⟨mgr.indexes ++ [index], by
    rw [List.map_append, List.nodup_append]
    exact ⟨mgr.nodup, List.nodup_singleton _, by simpa using fun i hi heq => h (by grind)⟩⟩

def rowsOfTable (rs : PagedRowStore) (db table : String) : List (String × RowData) :=
  ((rs.scanAtSnapshot rs.currentXid).filter fun row =>
    startsWith row.1 (makeTableScanPrefix db table)).map fun row => (stripDatabase db row.1, row.2)

def handleCreateIndexDdl (sql db : String) (rs : PagedRowStore) (mgr : IndexManager) :
    IndexManager :=
  match parseCreateIndexSql sql with
  | none => mgr
  | some stmt =>
    stmt.columns.foldl (fun mgr col =>
      let entryName := if stmt.columns.length = 1 then stmt.name else stmt.name ++ "_" ++ col
      mgr.createIndex (BTreeIndex.backfill stmt.unique ⟨entryName, stmt.table, col, ∅⟩
        (rowsOfTable rs db stmt.table))) mgr

namespace BTreeIndex

variable {unique : Bool} {index : BTreeIndex} {val : String}

/-- A unique index has only the first. -/
def found (unique : Bool) (column val : String) (rows : List (String × RowData)) : List String :=
  let keys := (rows.filter fun row => row.2.lookup column = some val).map Prod.fst
  if unique then keys.take 1 else keys

theorem insert_fields (colVal key : String) :
    (index.insert unique colVal key).name = index.name ∧
      (index.insert unique colVal key).table = index.table ∧
      (index.insert unique colVal key).column = index.column := by
  unfold insert
  dsimp only
  split_ifs <;> exact ⟨rfl, rfl, rfl⟩

theorem lookup_insert (colVal key : String) :
    (index.insert unique colVal key).lookup val =
      if val ≠ colVal ∨ (unique ∧ index.lookup val ≠ []) ∨ key ∈ index.lookup val then
        index.lookup val
      else index.lookup val ++ [key] := by
  unfold insert
  by_cases hval : val = colVal
  · subst hval
    by_cases hkeep : (unique ∧ index.lookup val ≠ []) ∨ key ∈ index.lookup val
    · simp [hkeep]
    · simp [hkeep]
      simp [lookup, Finmap.lookup_insert]
  · rw [if_pos (c := val ≠ colVal ∨ _) (.inl hval)]
    dsimp only
    split_ifs
    · rfl
    · rw [lookup, Finmap.lookup_insert_of_ne _ hval, lookup]

theorem mem_lookup_backfill (rows : List (String × RowData)) (key : String) :
    ∀ index : BTreeIndex, key ∈ (index.backfill unique rows).lookup val ↔ key ∈ index.lookup val ∨
      (unique → index.lookup val = []) ∧ key ∈ found unique index.column val rows := by
  induction rows with
  | nil => simp [backfill, found]
  | cons row rows ih =>
    intro index
    rw [backfill, List.foldl_cons, ← backfill, ih]
    cases hrow : row.2.lookup index.column with
    | none => simp [found, hrow]
    | some colVal =>
      dsimp only
      rw [(insert_fields colVal row.1).2.2, lookup_insert]
      by_cases hval : val = colVal
      · subst hval
        have hcons : found unique index.column val (row :: rows) =
            if unique then [row.1] else row.1 :: found unique index.column val rows := by
          cases unique <;> simp [found, hrow]
        rw [hcons]
        cases unique with
        | true => by_cases hkeep : index.lookup val = [] <;> simp [hkeep]
        | false => by_cases hkeep : row.1 ∈ index.lookup val <;> grind
      · rw [if_pos (.inl hval)]
        simp [found, hrow, Ne.symm hval]

theorem backfill_fields (unique : Bool) (index : BTreeIndex) (rows : List (String × RowData)) :
    (index.backfill unique rows).name = index.name ∧
      (index.backfill unique rows).table = index.table ∧
      (index.backfill unique rows).column = index.column := by
  induction rows generalizing index with
  | nil => exact ⟨rfl, rfl, rfl⟩
  | cons row rows ih =>
    rw [backfill, List.foldl_cons, ← backfill]
    cases row.2.lookup index.column with
    | none => exact ih index
    | some colVal =>
      dsimp only
      rw [(ih _).1, (ih _).2.1, (ih _).2.2]
      exact insert_fields colVal row.1

end BTreeIndex

section

variable {stmt sql₀ db db₀ name t col val : String} {unique : Bool}
  {rs rs₀ : PagedRowStore} {sel : SelectStatement} {mgr : IndexManager} {snapshotXid : Option Xid}
  {rocksdbRows : Option (List (String × RowData))}

theorem indexedKeys_handleCreateIndexDdl
    (hprs : parseCreateIndexSql sql₀ = some ⟨name, t, [col], unique⟩)
    (hnew : ∀ index ∈ mgr.indexes, index.name ≠ name ∧ ¬(index.table = t ∧ index.column = col)) :
    indexedKeys (some (handleCreateIndexDdl sql₀ db₀ rs₀ mgr)) (some t) [(col, val)] =
      some ((BTreeIndex.backfill unique ⟨name, t, col, ∅⟩ (rowsOfTable rs₀ db₀ t)).lookup val) := by
  obtain ⟨hname, htab, hcol⟩ := BTreeIndex.backfill_fields unique ⟨name, t, col, ∅⟩
    (rowsOfTable rs₀ db₀ t)
  have hfr : name ∉ mgr.indexes.map BTreeIndex.name := by
    simpa using fun index hidx => (hnew index hidx).1
  have hmgr : (handleCreateIndexDdl sql₀ db₀ rs₀ mgr).indexes = mgr.indexes ++
      [BTreeIndex.backfill unique ⟨name, t, col, ∅⟩ (rowsOfTable rs₀ db₀ t)] := by
    delta handleCreateIndexDdl
    simp only [hprs, List.foldl_cons, List.foldl_nil, List.length_singleton, if_true,
      IndexManager.createIndex]
    rw [dif_neg (by rwa [hname])]
  have hfind {p : BTreeIndex → Bool} (hp : ∀ index ∈ mgr.indexes, ¬p index)
      (hlast : p (BTreeIndex.backfill unique ⟨name, t, col, ∅⟩ (rowsOfTable rs₀ db₀ t))) :
      (handleCreateIndexDdl sql₀ db₀ rs₀ mgr).indexes.find? p =
        some (BTreeIndex.backfill unique ⟨name, t, col, ∅⟩ (rowsOfTable rs₀ db₀ t)) := by
    rw [hmgr, List.find?_append, List.find?_eq_none.mpr hp, none_or, List.find?_singleton,
      if_pos hlast]
  dsimp only [indexedKeys]
  rw [hfind (by simpa using fun index hidx => (hnew index hidx).2) (by simp [htab, hcol]),
    bind_some, IndexManager.get,
    hfind (by simpa [hname] using fun index hidx => (hnew index hidx).1) (by simp), map_some]

variable [QueryParser]

/-- **The index path finds what a scan finds** iff the rows that match had this value from the
start. -/
theorem index_path_eq_scan_iff
    (hparse : parseCreateIndexSql sql₀ = some ⟨name, t, [col], unique⟩)
    (hnew : ∀ index ∈ mgr.indexes, index.name ≠ name ∧ ¬(index.table = t ∧ index.column = col))
    (hstmt : QueryParser.parseOne stmt = .ok (some sel)) (hlimit : sel.limit = none)
    (htable : sel.table = some t) (hwhere : whereFilters sel.whereClause = [(col, val)])
    (hrows : ((databaseRows rs db snapshotXid rocksdbRows).map Prod.fst).Nodup) :
    (∀ limit row, row ∈ executeOltpSelectLegacy stmt rs limit [] db snapshotXid rocksdbRows
        (some (handleCreateIndexDdl sql₀ db₀ rs₀ mgr)) ↔
      row ∈ executeOltpSelectLegacy stmt rs limit [] db snapshotXid rocksdbRows none) ↔
    ∀ row ∈ databaseRows rs db snapshotXid rocksdbRows,
      (row.1 ∈ BTreeIndex.found unique col val (rowsOfTable rs₀ db₀ t) ↔
        (row.2.lookup col).any (eqIgnoreAsciiCase · val)) := by
  have hidx (row : String × RowData) :
      legacyMatches (some (handleCreateIndexDdl sql₀ db₀ rs₀ mgr)) sel row ↔
        row.1 ∈ BTreeIndex.found unique col val (rowsOfTable rs₀ db₀ t) := by
    dsimp only [legacyMatches]
    rw [hwhere, htable, indexedKeys_handleCreateIndexDdl hparse hnew, decide_eq_true_eq,
      BTreeIndex.mem_lookup_backfill]
    simp [BTreeIndex.lookup]
  have hscan (row : String × RowData) : legacyMatches none sel row ↔
      (row.2.lookup col).any (eqIgnoreAsciiCase · val) := by
    dsimp only [legacyMatches]
    rw [hwhere]
    simp [indexedKeys]
  have hrun (limit : ℕ) (m : Option IndexManager) :
      executeOltpSelectLegacy stmt rs limit [] db snapshotXid rocksdbRows m =
        (((databaseRows rs db snapshotXid rocksdbRows).filter (legacyMatches m sel)).take limit).map
          fun row => applyProjection sel.columns ⟨row.1, row.2⟩ := by
    simp [executeOltpSelectLegacy, hstmt, SelectStatement.pageLimit, hlimit]
  have hkey (row : ResultRow) : (applyProjection sel.columns row).key = row.key := by
    rw [applyProjection]
    split_ifs <;> rfl
  -- the key of an answer tells its row
  have hfnd (m : Option IndexManager) {row : String × RowData}
      (hrow : row ∈ databaseRows rs db snapshotXid rocksdbRows) :
      applyProjection sel.columns ⟨row.1, row.2⟩ ∈ executeOltpSelectLegacy stmt rs
        (databaseRows rs db snapshotXid rocksdbRows).length [] db snapshotXid rocksdbRows m ↔
          legacyMatches m sel row := by
    rw [hrun, List.take_of_length_le (List.length_filter_le _ _), List.mem_map]
    constructor
    · rintro ⟨r, hr, heq⟩
      have hk : r.1 = row.1 := by simpa only [hkey] using congrArg ResultRow.key heq
      obtain ⟨hr, hmt⟩ := List.mem_filter.mp hr
      rwa [← List.inj_on_of_nodup_map hrows hr hrow hk]
    · exact fun h => ⟨row, List.mem_filter.mpr ⟨hrow, h⟩, rfl⟩
  simp only [← hidx, ← hscan]
  constructor
  · intro hsame row hrow
    rw [← hfnd _ hrow, ← hfnd _ hrow]
    exact hsame _ _
  · intro hmt limit row
    rw [hrun, hrun, List.filter_congr fun r hr => Bool.eq_iff_iff.mpr (hmt r hr)]

end

section

local instance : QueryParser where
  parseOne _ := .ok (some { columns := ["*"], table := some "t", whereClause := some "c = 'x'" })
  parsePredicate _ := .error "no condition"
  collectQueryTableNames _ := ["t"]

def storeWithX : PagedRowStore := storeOf [("t:1", Finmap.insert "c" "x" ∅)] (by decide)

/-- **An index on an empty table does not find a later row.** -/
theorem stale_index_misses_row :
    executeOltpSelectLegacy "SELECT * FROM t WHERE c = 'x'" storeWithX 10 [] "" none none
        (some (handleCreateIndexDdl "CREATE INDEX i ON t (c)" "" (PagedRowStore.new 64)
          ⟨[], .nil⟩)) = [] ∧
      executeOltpSelectLegacy "SELECT * FROM t WHERE c = 'x'" storeWithX 10 [] "" none none none =
        [⟨"t:1", Finmap.insert "c" "x" ∅⟩] := by
  decide +kernel

theorem fresh_index_finds_row :
    ⟨"t:1", Finmap.insert "c" "x" ∅⟩ ∈
      executeOltpSelectLegacy "SELECT * FROM t WHERE c = 'x'" storeWithX 10 [] "" none none
        (some (handleCreateIndexDdl "CREATE INDEX i ON t (c)" "" storeWithX ⟨[], .nil⟩)) := by
  have hprs : parseCreateIndexSql "CREATE INDEX i ON t (c)" = some ⟨"i", "t", ["c"], false⟩ := by
    decide +kernel
  have hwhr : whereFilters (some "c = 'x'") = [("c", "x")] := by decide +kernel
  exact ((index_path_eq_scan_iff hprs (by simp) rfl rfl rfl hwhr (by decide +kernel)).mpr
    (by decide +kernel) 10 _).mpr (by decide +kernel)

end

end VngDatabase.Query
