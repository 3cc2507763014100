import VngDatabase.Dml.Engine

/-!
# Engines that are read at a snapshot

Queries and statements without a key read the rows of a database from the engine, as of a snapshot.
A row that is stored by a later transaction is not found, and all others stay where they are
(`SnapshotEngine`).
-/

namespace VngDatabase.Dml

open Store Overlay DurabilityEngine BootEngine List Option

class SnapshotEngine (E : Type) extends DatabaseEngine E where
  scanRowsForDb_appendSql : ∀ e sql db snapshotXid,
    scanRowsForDb (appendSql e sql) db snapshotXid = scanRowsForDb e db snapshotXid
  scanRowsForDb_storeRow_of_lt : ∀ e db k xid v db' snapshotXid, snapshotXid < xid →
    scanRowsForDb (storeRow e db k xid v) db' snapshotXid = scanRowsForDb e db' snapshotXid
  scanRowsForDb_storeRow_of_ne : ∀ e db k xid v db' snapshotXid, db' ≠ db →
    scanRowsForDb (storeRow e db k xid v) db' snapshotXid = scanRowsForDb e db' snapshotXid
  filter_scanRowsForDb_storeRow : ∀ e db k xid v snapshotXid,
    (scanRowsForDb (storeRow e db k xid v) db snapshotXid).filter (fun row => row.1 ≠ k) =
      (scanRowsForDb e db snapshotXid).filter fun row => row.1 ≠ k
  mem_scanRowsForDb_storeRow : ∀ e db k xid v snapshotXid data, persistsRows e →
    maxRowXid e ≤ xid → xid ≤ snapshotXid →
      ((k, data) ∈ scanRowsForDb (storeRow e db k xid v) db snapshotXid ↔ v = some data)
  scanRowsForDb_dropDbColumnFamily_of_ne : ∀ e db db' snapshotXid, db' ≠ db →
    scanRowsForDb (dropDbColumnFamily e db) db' snapshotXid = scanRowsForDb e db' snapshotXid

instance : SnapshotEngine InMemoryEngine where
  scanRowsForDb_appendSql _ _ _ _ := rfl
  scanRowsForDb_storeRow_of_lt _ _ _ _ _ _ _ _ := rfl
  scanRowsForDb_storeRow_of_ne _ _ _ _ _ _ _ _ := rfl
  filter_scanRowsForDb_storeRow _ _ _ _ _ _ := rfl
  mem_scanRowsForDb_storeRow _ _ _ _ _ _ _ hp := by cases hp
  scanRowsForDb_dropDbColumnFamily_of_ne _ _ _ _ _ := rfl

namespace VersionedEngine

def rowsOf (db : String) (rows : List PersistedRow) : List (String × RowData) :=
  rows.filterMap fun row => if row.1.1 = db then row.2.map fun data => (row.1.2, data) else none

variable (e : VersionedEngine) (db k : String) (xid : Xid) (v : Option RowData)
  (rows : List PersistedRow)

theorem filter_versions_storeRow {p : Xid × PersistedRow → Bool} (h : p (xid, (db, k), v) = false) :
    (e.storeRow db k xid v).versions.filter p = e.versions.filter p := by
  rw [storeRow, filter_append, filter_cons_of_neg (by simp [h]), ← filter_append,
    takeWhile_append_dropWhile]

theorem latestAt_storeRow_of_lt {snapshotXid : Xid} (h : snapshotXid < xid) :
    (e.storeRow db k xid v).latestAt snapshotXid = e.latestAt snapshotXid := by
  rw [latestAt, filter_versions_storeRow e db k xid v (by simpa using h), latestAt]

theorem filter_latestAt_storeRow (p : String × String → Bool) (h : p (db, k) = false)
    (x : Xid) :
    ((e.storeRow db k xid v).latestAt x).filter (fun row => p row.1) =
      (e.latestAt x).filter fun row => p row.1 := by
  have hlat : ∀ e' : VersionedEngine, (e'.latestAt x).filter (fun row => p row.1) =
      (((e'.versions.filter fun v => p v.2.1).filter fun v => v.1 ≤ x).map
        Prod.snd).foldl supersede [] := by
    intro e'
    rw [latestAt, ← foldl_supersede_filter, List.filter_map, List.filter_comm]
    rfl
  rw [hlat, hlat, filter_versions_storeRow e db k xid v h]

theorem rowsOf_filter_db :
    rowsOf db (rows.filter fun row => row.1.1 = db) = rowsOf db rows := by
  rw [rowsOf, rowsOf, filterMap_filter]
  refine filterMap_congr fun row _ => ?_
  by_cases hdb : row.1.1 = db <;> simp [hdb]

theorem filter_rowsOf :
    (rowsOf db rows).filter (fun row => row.1 ≠ k) =
      rowsOf db (rows.filter fun row => row.1 ≠ (db, k)) := by
  rw [rowsOf, rowsOf, filter_filterMap, filterMap_filter]
  refine filterMap_congr ?_
  rintro ⟨⟨db', k'⟩, v⟩ _
  by_cases hdb : db' = db
  · subst hdb
    by_cases hk : k' = k <;> cases v <;> simp [hk]
  · by_cases hk : k' = k <;> simp [hdb]

theorem latestAt_storeRow {x : Xid} (hmax : e.maxRowXid ≤ xid) (h : xid ≤ x) :
    (e.storeRow db k xid v).latestAt x = supersede e.latest ((db, k), v) := by
  have hall : ∀ w ∈ (e.storeRow db k xid v).versions, decide (w.1 ≤ x) := by
    intro w hw
    rw [versions_storeRow hmax, mem_append, mem_singleton] at hw
    rcases hw with hw | rfl
    · exact decide_eq_true (((le_maxRowXid hw).trans hmax).trans h)
    · exact decide_eq_true h
  rw [latestAt, filter_eq_self.mpr hall, versions_storeRow hmax, map_append, foldl_append, latest]
  rfl

theorem rowsOf_latestAt_dropDbColumnFamily {db' : String} (h : db' ≠ db) (x : Xid) :
    rowsOf db' ((e.dropDbColumnFamily db).latestAt x) =
      rowsOf db' (e.latestAt x) := by
  have hlat : (e.dropDbColumnFamily db).latestAt x =
      (e.latestAt x).filter fun row => row.1.1 ≠ db := by
    have hmap : (((e.versions.filter fun v => v.2.1.1 ≠ db).filter fun v => v.1 ≤ x).map Prod.snd) =
        ((e.versions.filter fun v => v.1 ≤ x).map Prod.snd).filter
          fun row => row.1.1 ≠ db := by
      rw [List.filter_map, List.filter_comm]
      rfl
    rw [latestAt, dropDbColumnFamily, hmap]
    exact foldl_supersede_filter (fun key : String × String => decide (key.1 ≠ db)) [] _
  rw [hlat, rowsOf, rowsOf, filterMap_filter]
  refine filterMap_congr fun row _ => ?_
  by_cases hrow : row.1.1 = db'
  · simp [hrow, h]
  · simp [hrow]

theorem mem_rowsOf_iff {db k : String} {rows : List PersistedRow} {data : RowData} :
    (k, data) ∈ rowsOf db rows ↔ ((db, k), some data) ∈ rows := by
  rw [rowsOf, mem_filterMap]
  constructor
  · rintro ⟨⟨⟨db', k'⟩, v⟩, hmem, heq⟩
    split_ifs at heq with hdb
    obtain ⟨data', rfl, hpair⟩ := map_eq_some_iff.mp heq
    obtain ⟨rfl, rfl⟩ := Prod.mk.inj hpair
    obtain rfl : db' = db := hdb
    exact hmem
  · intro hmem
    exact ⟨_, hmem, by simp⟩

theorem mem_rowsOf_supersede (data : RowData) :
    (k, data) ∈ rowsOf db (supersede rows ((db, k), v)) ↔ v = some data := by
  rw [mem_rowsOf_iff, supersede, mem_append, mem_filter, mem_singleton]
  constructor
  · rintro (⟨-, hne⟩ | hlast)
    · simp at hne
    · exact (congrArg Prod.snd hlast).symm
  · rintro rfl
    exact Or.inr rfl

end VersionedEngine

open VersionedEngine in
instance : SnapshotEngine VersionedEngine where
  scanRowsForDb_appendSql _ _ _ _ := rfl
  scanRowsForDb_storeRow_of_lt e db k xid v db' _ h :=
    congrArg (rowsOf db') (latestAt_storeRow_of_lt e db k xid v h)
  scanRowsForDb_storeRow_of_ne e db k xid v db' snapshotXid h := by
    have hsame := filter_latestAt_storeRow e db k xid v (fun key => decide (key.1 = db'))
      (by simpa using h.symm) snapshotXid
    have hrows := congrArg (rowsOf db') hsame
    rwa [rowsOf_filter_db, rowsOf_filter_db] at hrows
  filter_scanRowsForDb_storeRow e db k xid v snapshotXid := by
    have hsame := filter_latestAt_storeRow e db k xid v (fun key => decide (key ≠ (db, k)))
      (by simp) snapshotXid
    have hrows := congrArg (rowsOf db) hsame
    rwa [← filter_rowsOf, ← filter_rowsOf] at hrows
  mem_scanRowsForDb_storeRow e db k xid v snapshotXid data _ hmax h := by
    rw [← mem_rowsOf_supersede db k v e.latest, ← latestAt_storeRow e db k xid v hmax h]
    rfl
  scanRowsForDb_dropDbColumnFamily_of_ne e db _ snapshotXid h :=
    rowsOf_latestAt_dropDbColumnFamily e db h snapshotXid

/-! ### The rows that are listed now -/

/-- **An engine that lists every row once.** -/
class ListedEngine (E : Type) extends SnapshotEngine E where
  nodup_scanRowsForDb : ∀ e db snapshotXid, ((scanRowsForDb e db snapshotXid).map Prod.fst).Nodup
  mem_scanRowsForDb_iff : ∀ e db snapshotXid k data, persistsRows e → maxRowXid e ≤ snapshotXid →
    ((k, data) ∈ scanRowsForDb e db snapshotXid ↔ getRow e db k = some data)

theorem ListedEngine.perm_scanRowsForDb_iff {E : Type} [ListedEngine E] {e e' : E} {x x' : Xid}
    (hp : persistsRows e) (hp' : persistsRows e') (hx : maxRowXid e ≤ x) (hx' : maxRowXid e' ≤ x')
    (db : String) : (scanRowsForDb e' db x').Perm (scanRowsForDb e db x) ↔
      ∀ k, getRow e' db k = getRow e db k := by
  rw [perm_ext_iff_of_nodup (nodup_scanRowsForDb e' db x').of_map
    (nodup_scanRowsForDb e db x).of_map]
  simp only [Prod.forall, mem_scanRowsForDb_iff _ _ _ _ _ hp hx,
    mem_scanRowsForDb_iff _ _ _ _ _ hp' hx']
  exact forall_congr' fun k => ⟨ext, fun h data => by rw [h]⟩

instance : ListedEngine InMemoryEngine where
  nodup_scanRowsForDb _ _ _ := List.nodup_nil
  mem_scanRowsForDb_iff _ _ _ _ _ hp := by cases hp

namespace VersionedEngine

theorem nodup_latestAt (e : VersionedEngine) (x : Xid) :
    ((e.latestAt x).map Prod.fst).Nodup := nodup_foldl_supersede [] nodup_nil _

theorem latestAt_of_maxRowXid_le {e : VersionedEngine} {x : Xid}
    (h : e.maxRowXid ≤ x) : e.latestAt x = e.latest := by
  have hall : ∀ v ∈ e.versions, decide (v.1 ≤ x) := fun v hv =>
    decide_eq_true ((le_maxRowXid hv).trans h)
  rw [latestAt, filter_eq_self.mpr hall, latest]

theorem nodup_rowsOf {rows : List PersistedRow} (h : (rows.map Prod.fst).Nodup) (db : String) :
    ((rowsOf db rows).map Prod.fst).Nodup := by
  refine List.Nodup.of_map (fun k => (db, k)) (h.sublist ?_)
  induction rows with
  | nil => exact List.Sublist.refl _
  | cons row rows ih =>
    rw [rowsOf, filterMap_cons]
    split_ifs with hdb
    · cases hrow : row.2 with
      | none => exact (ih (nodup_cons.mp h).2).cons _
      | some data =>
        have hkey : (db, row.1.2) = row.1 := Prod.ext hdb.symm rfl
        rw [map_some, map_cons, map_cons, map_cons, hkey]
        exact (ih (nodup_cons.mp h).2).cons_cons _
    · exact (ih (nodup_cons.mp h).2).cons _

end VersionedEngine

open VersionedEngine in
instance : ListedEngine VersionedEngine where
  nodup_scanRowsForDb e db snapshotXid := nodup_rowsOf (nodup_latestAt e snapshotXid) db
  mem_scanRowsForDb_iff e db snapshotXid k data _ hmax := by
    have hlist : scanRowsForDb e db snapshotXid = rowsOf db e.latest := by
      rw [← latestAt_of_maxRowXid_le hmax]
      rfl
    have hget : getRow e db k = (lastWrite e.latest (db, k)).join := rfl
    have hnodup : (e.latest.map Prod.fst).Nodup := nodup_foldl_supersede [] nodup_nil _
    rw [hlist, hget, mem_rowsOf_iff, ← lastWrite_eq_some_iff hnodup]
    cases lastWrite e.latest (db, k) with
    | none => exact ⟨nofun, nofun⟩
    | some v => exact some_inj

end VngDatabase.Dml
