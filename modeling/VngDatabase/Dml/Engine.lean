import VngDatabase.Dml.Storage

/-!
# What a restart finds

A durability engine is asked at boot for the rows it has kept and for the statements it has logged
(`BootEngine`). `InMemoryEngine` logs statements and keeps no rows, `VersionedEngine` keeps every
version of every row, as `crates/voltnuerongrid-store/src/rocksdb_engine.rs` does in files.
-/

namespace VngDatabase.Dml

open Store Overlay List

/-- The database, the key, and `none` for a deleted row. -/
abbrev PersistedRow := (String × String) × Option RowData

/-- The row that was stored last comes last. -/
class BootEngine (E : Type) extends DurabilityEngine E where
  iterSql : E → List String
  scanPersistedRows : E → List PersistedRow
  maxRowXid : E → Xid
  persistsRows_storeRow : ∀ e db k xid v, persistsRows (storeRow e db k xid v) = persistsRows e
  persistsRows_appendSql : ∀ e sql, persistsRows (appendSql e sql) = persistsRows e
  iterSql_storeRow : ∀ e db k xid v, iterSql (storeRow e db k xid v) = iterSql e
  iterSql_appendSql : ∀ e sql, iterSql (appendSql e sql) = iterSql e ++ [sql]
  scanPersistedRows_appendSql : ∀ e sql, scanPersistedRows (appendSql e sql) = scanPersistedRows e
  scanPersistedRows_storeRow : ∀ e db k xid v, persistsRows e → maxRowXid e ≤ xid →
    scanPersistedRows (storeRow e db k xid v) = supersede (scanPersistedRows e) ((db, k), v)
  getRow_eq : ∀ e db k, getRow e db k =
    if persistsRows e then (lastWrite (scanPersistedRows e) (db, k)).join else none
  maxRowXid_storeRow : ∀ e db k xid v, maxRowXid (storeRow e db k xid v) ≤ max (maxRowXid e) xid
  maxRowXid_appendSql : ∀ e sql, maxRowXid (appendSql e sql) = maxRowXid e

namespace BootEngine

open DurabilityEngine

variable {E : Type} [BootEngine E]

theorem getRow_appendSql (e : E) (sql db k : String) :
    getRow (appendSql e sql) db k = getRow e db k := by
  rw [getRow_eq, getRow_eq, persistsRows_appendSql, scanPersistedRows_appendSql]

theorem getRow_storeRow {e : E} {xid : Xid} (hp : persistsRows e) (h : maxRowXid e ≤ xid)
    (db k db' k' : String) (v : Option RowData) :
    getRow (storeRow e db k xid v) db' k' = if (db, k) = (db', k') then v else getRow e db' k' := by
  rw [getRow_eq, getRow_eq, persistsRows_storeRow, if_pos hp, if_pos hp,
    scanPersistedRows_storeRow e db k xid v hp h]
  have hlast := lastWrite_foldl_supersede (scanPersistedRows e) [((db, k), v)] (db', k')
  rw [foldl_cons, foldl_nil, lastWrite_append] at hlast
  rw [hlast, lastWrite, lastWrite, Option.none_or]
  split_ifs <;> rfl

theorem getRow_of_supersede {e e' : E} {rows : List PersistedRow} (hp : persistsRows e)
    (hp' : persistsRows e') (h : scanPersistedRows e' = rows.foldl supersede (scanPersistedRows e))
    (db k : String) : getRow e' db k = (lastWrite rows (db, k)).getD (getRow e db k) := by
  rw [getRow_eq, getRow_eq, if_pos hp, if_pos hp', h, lastWrite_foldl_supersede, lastWrite_append]
  cases lastWrite rows (db, k) <;> rfl

end BootEngine

class DatabaseEngine (E : Type) extends BootEngine E where
  dropDbColumnFamily : E → (db : String) → E
  persistsRows_dropDbColumnFamily : ∀ e db, persistsRows (dropDbColumnFamily e db) = persistsRows e
  scanPersistedRows_dropDbColumnFamily : ∀ e db, scanPersistedRows (dropDbColumnFamily e db) =
    (scanPersistedRows e).filter fun row => row.1.1 ≠ db
  maxRowXid_dropDbColumnFamily : ∀ e db, maxRowXid (dropDbColumnFamily e db) ≤ maxRowXid e

namespace DatabaseEngine

open DurabilityEngine BootEngine

theorem getRow_dropDbColumnFamily {E : Type} [DatabaseEngine E] (e : E) (db db' k : String) :
    getRow (dropDbColumnFamily e db) db' k = if db' = db then none else getRow e db' k := by
  rw [getRow_eq, getRow_eq, persistsRows_dropDbColumnFamily, scanPersistedRows_dropDbColumnFamily,
    lastWrite_filter fun key : String × String => decide (key.1 ≠ db)]
  simp only [decide_eq_true_eq, ne_eq, ite_not]
  split_ifs <;> rfl

end DatabaseEngine

/-! ### Statements only -/

instance : BootEngine InMemoryEngine where
  iterSql e := e.dmlStream
  scanPersistedRows _ := []
  maxRowXid _ := 0
  persistsRows_storeRow _ _ _ _ _ := rfl
  persistsRows_appendSql _ _ := rfl
  iterSql_storeRow _ _ _ _ _ := rfl
  iterSql_appendSql _ _ := rfl
  scanPersistedRows_appendSql _ _ := rfl
  scanPersistedRows_storeRow _ _ _ _ _ h := by cases h
  getRow_eq _ _ _ := rfl
  maxRowXid_storeRow _ _ _ _ _ := Nat.zero_le _
  maxRowXid_appendSql _ _ := rfl

instance : DatabaseEngine InMemoryEngine where
  dropDbColumnFamily e _ := e
  persistsRows_dropDbColumnFamily _ _ := rfl
  scanPersistedRows_dropDbColumnFamily _ _ := rfl
  maxRowXid_dropDbColumnFamily _ _ := le_rfl

/-! ### All versions of all rows -/

structure VersionedEngine where
  versions : List (Xid × PersistedRow) := []
  dmlStream : List String := []

namespace VersionedEngine

variable (e : VersionedEngine)

def latestAt (snapshotXid : Xid) : List PersistedRow :=
  ((e.versions.filter fun v => v.1 ≤ snapshotXid).map Prod.snd).foldl supersede []

def latest : List PersistedRow :=
  (e.versions.map Prod.snd).foldl supersede []

def storeRow (db rowKey : String) (xid : Xid) (data : Option RowData) : VersionedEngine :=
  { e with versions := e.versions.takeWhile (fun v => v.1 ≤ xid) ++
      (xid, (db, rowKey), data) :: e.versions.dropWhile fun v => v.1 ≤ xid }

def maxRowXid : Xid := (e.versions.map Prod.fst).foldr max 0

theorem le_maxRowXid {e : VersionedEngine} {v : Xid × PersistedRow} (h : v ∈ e.versions) :
    v.1 ≤ e.maxRowXid := le_max_of_le' 0 (mem_map_of_mem h) le_rfl

theorem versions_storeRow {e : VersionedEngine} {xid : Xid} (h : e.maxRowXid ≤ xid)
    (db rk : String) (data : Option RowData) :
    (e.storeRow db rk xid data).versions = e.versions ++ [(xid, (db, rk), data)] := by
  have hall : ∀ v ∈ e.versions, decide (v.1 ≤ xid) := fun v hv =>
    decide_eq_true ((le_maxRowXid hv).trans h)
  rw [storeRow, takeWhile_eq_self_iff.mpr hall, dropWhile_eq_nil_iff.mpr hall]

theorem maxRowXid_storeRow_le (db rk : String) (xid : Xid) (data : Option RowData) :
    (e.storeRow db rk xid data).maxRowXid ≤ max e.maxRowXid xid := by
  refine max_le_of_forall_le _ _ ?_
  intro x hx
  obtain ⟨v, hv, rfl⟩ := mem_map.mp hx
  rw [storeRow, mem_append, mem_cons] at hv
  rcases hv with hv | rfl | hv
  · exact le_max_of_le_left (le_maxRowXid ( takeWhile_prefix _ |>.subset hv))
  · exact le_max_right _ _
  · exact le_max_of_le_left (le_maxRowXid (dropWhile_suffix _ |>.subset hv))

def dropDbColumnFamily (db : String) : VersionedEngine :=
  { e with versions := e.versions.filter fun v => v.2.1.1 ≠ db }

theorem latest_dropDbColumnFamily (db : String) :
    (e.dropDbColumnFamily db).latest = e.latest.filter fun row => row.1.1 ≠ db := by
  have hmap : (e.versions.filter fun v => v.2.1.1 ≠ db).map Prod.snd =
      (e.versions.map Prod.snd).filter fun row => row.1.1 ≠ db := by
    rw [filter_map]
    rfl
  rw [latest, dropDbColumnFamily, hmap]
  exact foldl_supersede_filter (fun key : String × String => decide (key.1 ≠ db)) [] _

theorem maxRowXid_dropDbColumnFamily_le (db : String) :
    (e.dropDbColumnFamily db).maxRowXid ≤ e.maxRowXid := by
  refine max_le_of_forall_le _ _ ?_
  intro x hx
  obtain ⟨v, hv, rfl⟩ := mem_map.mp hx
  exact le_maxRowXid (mem_of_mem_filter hv)

end VersionedEngine

instance : BootEngine VersionedEngine where
  storeRow := VersionedEngine.storeRow
  appendSql e sql := { e with dmlStream := e.dmlStream ++ [sql] }
  persistsRows _ := true
  scanRowsForDb e db snapshotXid := (e.latestAt snapshotXid).filterMap fun row =>
    if row.1.1 = db then row.2.map fun data => (row.1.2, data) else none
  getRow e db rowKey := (lastWrite e.latest (db, rowKey)).join
  iterSql e := e.dmlStream
  scanPersistedRows := VersionedEngine.latest
  maxRowXid := VersionedEngine.maxRowXid
  persistsRows_storeRow _ _ _ _ _ := rfl
  persistsRows_appendSql _ _ := rfl
  iterSql_storeRow _ _ _ _ _ := rfl
  iterSql_appendSql _ _ := rfl
  scanPersistedRows_appendSql _ _ := rfl
  scanPersistedRows_storeRow e db k xid v _ h := by
    rw [VersionedEngine.latest, VersionedEngine.versions_storeRow h, map_append,
      foldl_append]
    rfl
  getRow_eq _ _ _ := rfl
  maxRowXid_storeRow := VersionedEngine.maxRowXid_storeRow_le
  maxRowXid_appendSql _ _ := rfl

instance : DatabaseEngine VersionedEngine where
  dropDbColumnFamily := VersionedEngine.dropDbColumnFamily
  persistsRows_dropDbColumnFamily _ _ := rfl
  scanPersistedRows_dropDbColumnFamily := VersionedEngine.latest_dropDbColumnFamily
  maxRowXid_dropDbColumnFamily := VersionedEngine.maxRowXid_dropDbColumnFamily_le

end VngDatabase.Dml
