import VngDatabase.Dml.Direct

/-!
# The replicated path

How a node applies a row statement of the replicated log
(`services/voltnuerongridd/src/helpers/raft_loop.rs`).
-/

namespace VngDatabase.Dml

open Store Sql Text Overlay List Option

/-! ### The name of a database -/

structure DatabaseName where
  name : String
  newline_notMem : '\n' ∉ name.toList

def isVisibleAscii (c : Char) : Bool := (32 ≤ c.toNat && c.toNat < 127) || c = '\t'

/-- The header in lower case. -/
def DatabaseName.ofHeader (header : Option String) : DatabaseName where
  name := String.ofList <|
    (trim ((header.filter fun h => h.toList.all isVisibleAscii).getD "").toList).map Char.toLower
  newline_notMem := by
    intro h
    obtain ⟨c, hc, hlow⟩ := List.mem_map.mp (by simpa using h)
    refine toLower_ne_newline ?_ hlow
    rintro rfl
    have hmem := mem_of_mem_trim hc
    cases hh : header.filter fun h => h.toList.all isVisibleAscii with
    | none => simp [hh] at hmem
    | some text =>
      rw [hh, Option.getD_some] at hmem
      have hall := (Option.filter_eq_some_iff.mp hh).2
      exact absurd (List.all_eq_true.mp hall _ hmem) (by decide)

section

variable {E : Type} [DurabilityEngine E]

/-! ### Applying a command -/

def applyInsertRow (db : String) (xid : Xid) (st : State E) (row : InsertRow) : State E :=
  ((st.beginWriteIntent xid row.rowKey).storeRow db row.rowKey xid (some row.data)).insert xid
    row.rowKey row.data

variable [Unicode]

def applySingleDml (db sql : String) (xid : Xid) (st : State E) : State E :=
  match dmlKind sql with
  | some .insert => (extractAllInsertRows sql).foldl (applyInsertRow db xid) st
  | some .update =>
    match extractUpdateRowFromSql sql with
    | some (k, d) => ((st.beginWriteIntent xid k).storeRow db k xid (some d)).insert xid k d
    | none => st
  | some .delete =>
    match extractDeleteKeyFromSql sql with
    | some k => ((st.beginWriteIntent xid k).delete xid k).storeRow db k xid none
    | none => st
  | none => st

def raftBatchPrefix : String := "__vng_batch:"

def raftBatchStmtSep : String := "\n__vng_stmt__\n"

def commandScope (command : String) : String × String :=
  match stripPrefix command "__vng_db:" with
  | some rest =>
    match splitAtText ['\n'] rest.toList with
    | some (db, sql) => (String.ofList db, String.ofList sql)
    | none => ("", command)
  | none => ("", command)

def batchScope (rest : String) : String × List Char :=
  match splitAtText ['\n'] rest.toList with
  | some (db, body) => (String.ofList db, body)
  | none => ("", [])

def applyDmlCommand (command : String) (xid : Xid) (st : State E) : State E :=
  match stripPrefix command raftBatchPrefix with
  | some rest =>
    let (db, body) := batchScope rest
    ((split raftBatchStmtSep.toList body).map trim).foldl
      (fun st stmt =>
        if stmt = [] then st else applySingleDml db (String.ofList stmt) xid st) st
  | none =>
    let (db, sql) := commandScope command
    applySingleDml db sql xid st

def applyEntries (commands : List String) (st : State E) : State E :=
  let (rowStore, xid) := st.rowStore.beginXid
  let st := commands.foldl (fun st command => applyDmlCommand command xid st)
    { st with rowStore := rowStore }
  st.releaseWriteIntents xid

theorem applyEntries_singleton (c : String) (st : State E) :
    applyEntries [c] st =
      (applyDmlCommand c st.rowStore.nextXid st.started).releaseWriteIntents
        st.rowStore.nextXid := rfl

def scopedCommand (db stmt : String) : String := "__vng_db:" ++ db ++ "\n" ++ stmt

omit [Unicode] in
theorem commandScope_scopedCommand (db : DatabaseName) (stmt : String) :
    commandScope (scopedCommand db.name stmt) = (db.name, stmt) := by
  have hlist : (db.name ++ ("\n" ++ stmt)).toList = db.name.toList ++ '\n' :: stmt.toList := by
    simp
  rw [commandScope, scopedCommand, String.append_assoc, String.append_assoc, stripPrefix_append]
  dsimp only
  rw [hlist, splitAtText_append_cons db.newline_notMem]
  simp

omit [Unicode] in
theorem stripPrefix_scopedCommand (db stmt : String) :
    stripPrefix (scopedCommand db stmt) raftBatchPrefix = none := by
  rw [stripPrefix, scopedCommand, raftBatchPrefix, String.append_assoc, String.append_assoc,
    String.toList_append]
  rfl

def insertWrites (stmt : String) : List (String × Option RowData) :=
  (extractAllInsertRows stmt).map fun r => (r.rowKey, some r.data)

def replicaWrites (stmt : String) : List (String × Option RowData) :=
  match dmlKind stmt with
  | some .insert => insertWrites stmt
  | some .update =>
    match extractUpdateRowFromSql stmt with
    | some (rawKey, columns) => [(rawKey, some columns)]
    | none => []
  | some .delete =>
    match extractDeleteKeyFromSql stmt with
    | some rawKey => [(rawKey, none)]
    | none => []
  | none => []

omit [Unicode] in
theorem applyInsertRow_shows {xid : Xid} {st : State E} (h : st.rowStore.Newest xid) (db : String)
    (row : InsertRow) : Shows xid st (applyInsertRow db xid st row) [(row.rowKey, some row.data)] :=
  (((Shows.refl h).beginWriteIntent _).storeRow _ _ _ _).insert _ _

theorem applySingleDml_shows {xid : Xid} {st : State E} (h : st.rowStore.Newest xid)
    (db stmt : String) : Shows xid st (applySingleDml db stmt xid st) (replicaWrites stmt) := by
  unfold applySingleDml replicaWrites
  cases dmlKind stmt with
  | none => exact .refl h
  | some kind =>
    cases kind with
    | insert => exact Shows.foldl_map (fun _ row h => applyInsertRow_shows h db row) h _
    | update =>
      cases extractUpdateRowFromSql stmt with
      | none => exact .refl h
      | some row => exact (((Shows.refl h).beginWriteIntent _).storeRow _ _ _ _).insert _ _
    | delete =>
      cases extractDeleteKeyFromSql stmt with
      | none => exact .refl h
      | some rawKey => exact (((Shows.refl h).beginWriteIntent _).delete _).storeRow _ _ _ _

def replicaActions (db stmt : String) : List Action :=
  match dmlKind stmt with
  | some .insert => (extractAllInsertRows stmt).flatMap fun row =>
      [.intent row.rowKey, .store db row.rowKey (some row.data), .put row.rowKey row.data]
  | some .update =>
    match extractUpdateRowFromSql stmt with
    | some (k, d) => [.intent k, .store db k (some d), .put k d]
    | none => []
  | some .delete =>
    match extractDeleteKeyFromSql stmt with
    | some k => [.intent k, .remove k, .store db k none]
    | none => []
  | none => []

omit [DurabilityEngine E] in
theorem rowWrites_replicaActions (db stmt : String) :
    rowWrites (replicaActions db stmt) = replicaWrites stmt := by
  unfold replicaActions replicaWrites insertWrites
  cases dmlKind stmt with
  | none => rfl
  | some kind =>
    cases kind with
    | insert =>
      rw [rowWrites_flatMap]
      exact map_eq_flatMap.symm
    | update => cases extractUpdateRowFromSql stmt <;> rfl
    | delete => cases extractDeleteKeyFromSql stmt <;> rfl

omit [DurabilityEngine E] in
theorem db_of_mem_replicaActions {db stmt : String} {w : (String × String) × Option RowData}
    (h : w ∈ storedRows (replicaActions db stmt)) : w.1.1 = db := by
  unfold replicaActions at h
  cases hkind : dmlKind stmt with
  | none => simp [hkind, storedRows] at h
  | some kind =>
    cases kind with
    | insert =>
      simp only [hkind, storedRows_flatMap, mem_flatMap] at h
      obtain ⟨row, -, h⟩ := h
      rw [mem_singleton.mp h]
    | update =>
      cases hrow : extractUpdateRowFromSql stmt with
      | none => simp [hkind, hrow, storedRows] at h
      | some row =>
        simp only [hkind, hrow] at h
        rw [mem_singleton.mp h]
    | delete =>
      cases hkey : extractDeleteKeyFromSql stmt with
      | none => simp [hkind, hkey, storedRows] at h
      | some k =>
        simp only [hkind, hkey] at h
        rw [mem_singleton.mp h]

/-! ### When the two paths concur -/

def SameRows (st st' : State E) : Prop :=
  ∀ k, isUserKey k → st.rowStore.readLatest k = st'.rowStore.readLatest k

section

-- the keys that are compared
variable (U : String → Prop)

def InsertConcurs (db : String) (rows : List (String × Option RowData))
    (visible : String → Option RowData) : Prop :=
  db = "" ∨ ∀ k v, lastWrite rows k = some v →
    (U (dbPrefixKey db k) → overlay rows visible (dbPrefixKey db k) = v) ∧
    (U k → overlay (rows.map fun w => (dbPrefixKey db w.1, w.2)) visible k = v)

def KeyedUpdateConcurs (db rawKey : String) (columns : RowData) (st : State E) : Prop :=
  if db = "" then
    U rawKey → ∀ c ∈ (st.readLatestWithRocksdbFallback "" rawKey rawKey).getD ∅, c ∈ columns
  else
    (U (dbPrefixKey db rawKey) →
      st.rowStore.readLatest (dbPrefixKey db rawKey) = some (mergedRow db rawKey columns st)) ∧
    (U rawKey → st.rowStore.readLatest rawKey = some columns)

def ScanUpdateConcurs (rows : List (String × Option RowData)) (rawKey : String)
    (columns : RowData) (visible : String → Option RowData) : Prop :=
  (∀ k v, U k → lastWrite rows k = some v →
    if k = rawKey then some columns = v else visible k = v) ∧
  (U rawKey → overlay rows visible rawKey = some columns)

def KeyedDeleteConcurs (db rawKey : String) (visible : String → Option RowData) : Prop :=
  db = "" ∨ (U (dbPrefixKey db rawKey) → visible (dbPrefixKey db rawKey) = none) ∧
    (U rawKey → visible rawKey = none)

def ScanDeleteConcurs (keys : List String) (rawKey : Option String)
    (visible : String → Option RowData) : Prop :=
  (∀ k ∈ keys, U k → rawKey = some k ∨ visible k = none) ∧
  ∀ k ∈ rawKey, U k → k ∈ keys ∨ visible k = none

def WritesConcur (db stmt : String) (st : State E) : Prop :=
  match dmlKind stmt with
  | some .insert => InsertConcurs U db (insertWrites stmt) st.rowStore.readLatest
  | some .update =>
    match extractUpdateRowFromSql stmt with
    | none => True
    | some (rawKey, columns) =>
      match scanUpdateTarget stmt with
      | some t =>
        ScanUpdateConcurs U (scanUpdateWrites t db st) rawKey columns st.rowStore.readLatest
      | none => KeyedUpdateConcurs U db rawKey columns st
  | some .delete =>
    match scanDeleteTarget stmt with
    | some t =>
      ScanDeleteConcurs U (((st.scanRows db).filter (matchesDelete t db)).map Prod.fst)
        (extractDeleteKeyFromSql stmt) st.rowStore.readLatest
    | none =>
      match extractDeleteKeyFromSql stmt with
      | some rawKey => KeyedDeleteConcurs U db rawKey st.rowStore.readLatest
      | none => True
  | none => True

section

omit [Unicode]

omit [DurabilityEngine E] in
theorem insertConcurs_iff (db : String) (rows : List (String × Option RowData))
    (visible : String → Option RowData) :
    (∀ k, U k → overlay rows visible k =
      overlay (rows.map fun w => (dbPrefixKey db w.1, w.2)) visible k) ↔
      InsertConcurs U db rows visible := by
  rcases eq_or_ne db "" with rfl | hdb
  · simp [InsertConcurs]
  · rw [eqOn_iff, InsertConcurs, or_iff_right hdb]
    have hinj := dbPrefixKey_injective db
    constructor
    · rintro ⟨hraw, hkey⟩ k v hv
      refine ⟨fun hk => ?_, fun hk => hraw k v hk hv⟩
      exact hkey _ v hk ((lastWrite_map_key hinj rows k).trans hv)
    · intro h
      refine ⟨fun k v hk hv => (h k v hv).2 hk, fun k v hk hv => ?_⟩
      obtain ⟨w, hw, rfl⟩ := exists_of_lastWrite hv
      obtain ⟨w, -, rfl⟩ := mem_map.mp hw
      rw [lastWrite_map_key hinj] at hv
      exact (h w.1 v hv).1 hk

omit [DurabilityEngine E] in
theorem union_eq_left_iff (columns row : RowData) :
    columns = columns ∪ row ↔ ∀ c ∈ row, c ∈ columns := by
  constructor
  · intro h c hc
    rw [h]
    exact Finmap.mem_union.mpr (Or.inr hc)
  · intro h
    refine Finmap.ext_lookup ?_
    intro c
    by_cases hc : c ∈ columns
    · rw [Finmap.lookup_union_left hc]
    · rw [Finmap.lookup_union_right hc, Finmap.lookup_eq_none.mpr hc,
        Finmap.lookup_eq_none.mpr fun hrow => hc (h c hrow)]

theorem keyedUpdateConcurs_iff (db raw : String) (cols : RowData) (st : State E) :
    (∀ k, U k → overlay [(raw, some cols)] st.rowStore.readLatest k =
      overlay [(dbPrefixKey db raw, some (mergedRow db raw cols st))] st.rowStore.readLatest k) ↔
      KeyedUpdateConcurs U db raw cols st := by
  rw [KeyedUpdateConcurs]
  split_ifs with hdb
  · subst hdb
    rw [dbPrefixKey_empty, eqOn_singleton_iff_eq, some_inj, mergedRow, union_eq_left_iff,
      dbPrefixKey_empty]
  · rw [eqOn_singleton_iff (dbPrefixKey_ne hdb raw).symm, and_comm]

omit [DurabilityEngine E] in
theorem scanDeleteConcurs_iff (rows : List (String × RowData)) (raw : Option String)
    (visible : String → Option RowData) :
    (∀ k, U k → overlay (raw.toList.map fun k => (k, none)) visible k =
      overlay (rows.map fun r => (r.1, none)) visible k) ↔
      ScanDeleteConcurs U (rows.map Prod.fst) raw visible := by
  have hmap : (rows.map fun r => (r.1, (none : Option RowData))) =
      (rows.map Prod.fst).map fun k => (k, none) := by
    rw [List.map_map]
    rfl
  rw [hmap, eqOn_const_iff, ScanDeleteConcurs]
  simp only [mem_toList, mem_def]

end

theorem overlay_eq_iff (db stmt : String) (st : State E) :
    (∀ k, U k → overlay (replicaWrites stmt) st.rowStore.readLatest k =
      overlay (userWrites db stmt st) st.rowStore.readLatest k) ↔ WritesConcur U db stmt st := by
  unfold replicaWrites userWrites WritesConcur
  cases dmlKind stmt with
  | none => simp
  | some kind =>
    cases kind with
    | insert =>
      have hmap :
          ((extractAllInsertRows stmt).map fun r => (dbPrefixKey db r.rowKey, some r.data)) =
            (insertWrites stmt).map fun w => (dbPrefixKey db w.1, w.2) := by
        rw [insertWrites, List.map_map]
        rfl
      dsimp only
      rw [hmap]
      exact insertConcurs_iff U db _ _
    | update =>
      cases extractUpdateRowFromSql stmt with
      | none => simp
      | some row =>
        cases scanUpdateTarget stmt with
        | some t => exact eqOn_singleton_left_iff _ _ _ _
        | none => exact keyedUpdateConcurs_iff U db row.1 row.2 st
    | delete =>
      cases scanDeleteTarget stmt with
      | some t =>
        refine Iff.trans ?_ (scanDeleteConcurs_iff U _ _ _)
        cases extractDeleteKeyFromSql stmt <;> rfl
      | none =>
        cases extractDeleteKeyFromSql stmt with
        | some rawKey =>
          dsimp only
          rw [KeyedDeleteConcurs]
          rcases eq_or_ne db "" with rfl | hdb
          · simp
          · rw [or_iff_right hdb, eqOn_singleton_iff (dbPrefixKey_ne hdb rawKey).symm, and_comm]
        | none => simp

end

def Concurs (db stmt : String) (st : State E) : Prop :=
  let replica := st.rowStore.held (replicaWrites stmt)
  let direct := st.rowStore.held (directWrites db stmt st)
  if st.rowStore.maxRowsCap = 0 then WritesConcur (isUserKey ·) db stmt st
  else WritesConcur (fun k => isUserKey k ∧ k ∈ replica ∧ k ∈ direct) db stmt st ∧
    ∀ k, isUserKey k →
      (k ∈ replica → k ∉ direct → overlay (replicaWrites stmt) st.rowStore.readLatest k = none) ∧
      (k ∈ direct → k ∉ replica → overlay (userWrites db stmt st) st.rowStore.readLatest k = none)

/-- **A replica leaves the same rows exactly when the two paths concur.** -/
theorem sameRows_iff (validate : String → RowData → Except String Unit) (db : DatabaseName)
    (stmt : String) (st : State E) (hok : (sqlExecuteDirect validate db.name [stmt] st).2 = none) :
    SameRows (applyEntries [scopedCommand db.name stmt] st)
        (sqlExecuteDirect validate db.name [stmt] st).1 ↔
      Concurs db.name stmt st.started := by
  have hnew : st.started.rowStore.Newest st.rowStore.nextXid := rfl
  rw [sqlExecuteDirect_singleton] at hok ⊢
  dsimp only at hok ⊢
  have hdir := directStatement_shows hnew hok
  have hrep := applySingleDml_shows hnew db.name stmt
  have huser : ∀ k, isUserKey k →
      overlay (directWrites db.name stmt st.started) st.started.rowStore.readLatest k =
        overlay (userWrites db.name stmt st.started) st.started.rowStore.readLatest k := by
    intro k hk
    rw [overlay, overlay, lastWrite_directWrites hk]
  rw [SameRows, applyEntries_singleton, applyDmlCommand, stripPrefix_scopedCommand,
    commandScope_scopedCommand, State.readLatest_releaseWriteIntents,
    State.readLatest_releaseWriteIntents, Concurs]
  split_ifs with hcap
  · rw [hdir.readLatest_eq_overlay hcap, hrep.readLatest_eq_overlay hcap, ← overlay_eq_iff]
    exact forall₂_congr fun k hk => by rw [huser k hk]
  · rw [← overlay_eq_iff, ← forall_and]
    refine forall_congr' ?_
    intro k
    rw [hdir.readLatest_eq_ite, hrep.readLatest_eq_ite, ite_eq_ite_none_iff,
      @and_imp (isUserKey k = true), ← imp_and]
    exact imp_congr_right fun hk => by rw [huser k hk]

end

section

local instance : Unicode := .ascii

def emptyNode : State InMemoryEngine := ⟨.new 256, {}, []⟩

def insertOne : String := "INSERT INTO t (id, name) VALUES (1, 'a')"

def oneRow : State InMemoryEngine := (sqlExecuteDirect anyRow "" [insertOne] emptyNode).1

theorem sameRows_insertOne :
    (sqlExecuteDirect anyRow "" [insertOne] emptyNode).2 = none ∧
      SameRows (applyEntries [scopedCommand "" insertOne] emptyNode)
        (sqlExecuteDirect anyRow "" [insertOne] emptyNode).1 := by
  have hok : (sqlExecuteDirect anyRow "" [insertOne] emptyNode).2 = none := by decide +kernel
  have hkind : dmlKind insertOne = some .insert := by decide +kernel
  refine ⟨hok, (sameRows_iff anyRow ⟨"", by simp⟩ _ emptyNode hok).mpr ?_⟩
  rw [Concurs, if_pos (by rfl)]
  unfold WritesConcur
  rw [hkind]
  exact Or.inl rfl

/-- **A replica leaves other rows.** -/
theorem replica_differs :
    ((sqlExecuteDirect anyRow "shop" [insertOne] emptyNode).2 = none ∧
      ¬SameRows (applyEntries [scopedCommand "shop" insertOne] emptyNode)
        (sqlExecuteDirect anyRow "shop" [insertOne] emptyNode).1) ∧
    ((sqlExecuteDirect anyRow "" ["UPDATE t SET name = 'b' WHERE id = 1"] oneRow).2 = none ∧
      ¬SameRows (applyEntries [scopedCommand "" "UPDATE t SET name = 'b' WHERE id = 1"] oneRow)
        (sqlExecuteDirect anyRow "" ["UPDATE t SET name = 'b' WHERE id = 1"] oneRow).1) ∧
    (sqlExecuteDirect anyRow "" ["DELETE FROM t WHERE name = 'a'"] oneRow).2 = none ∧
      ¬SameRows (applyEntries [scopedCommand "" "DELETE FROM t WHERE name = 'a'"] oneRow)
        (sqlExecuteDirect anyRow "" ["DELETE FROM t WHERE name = 'a'"] oneRow).1 := by
  refine And.imp (And.imp_right (mt fun h => h "shop.t:1" (by decide)))
    (And.imp (And.imp_right (mt fun h => h "t:1" (by decide)))
      (And.imp_right (mt fun h => h "t:1" (by decide)))) ?_
  decide +kernel

end

end VngDatabase.Dml
