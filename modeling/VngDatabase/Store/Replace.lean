import VngDatabase.Store.Stamps

/-!
# Replacing all rows

`replace_all` of `crates/voltnuerongrid-store/src/mvcc.rs` throws all pages away and inserts the
given rows under an identifier of their own.
-/

namespace VngDatabase.Store.PagedRowStore

open Overlay List

theorem firstPage_ne_nil : [(⟨0, []⟩ : StorePage)] ≠ [] := by simp

theorem firstPage_distinct : ([(⟨0, []⟩ : StorePage)].map StorePage.keys).flatten.Nodup := by
  simp [StorePage.keys]

def cleared (store : PagedRowStore) : PagedRowStore :=
  { store with
    pages := [⟨0, []⟩]
    nextPageId := 1
    writeIntents := fun _ => none
    nonempty := firstPage_ne_nil
    distinct := firstPage_distinct }

def insertAll (xid : Xid) (rows : List (String × RowData)) (store : PagedRowStore) :
    PagedRowStore :=
  rows.foldl (fun store row => store.insert xid row.1 row.2) store

def replaceAll (store : PagedRowStore) (rows : List (String × RowData)) : PagedRowStore :=
  insertAll store.nextXid rows store.cleared.beginXid.1

variable {store : PagedRowStore} {xid : Xid} {rows : List (String × RowData)} {key : String}

theorem rows_insert_of_notMem (xid : Xid) (hcap : store.maxRowsCap = 0)
    (hkey : key ∉ store.shelf.flatten) (data : RowData) :
    (store.insert xid key data).rows = store.rows ++ [⟨key, [⟨xid, false, data⟩]⟩] := by
  unfold insert
  split
  · rename_i store' hp
    rcases store.pushVersion_cases xid false key data with
      ⟨store'', hp', -, -, hmem, -⟩ | ⟨hp', -⟩
    · exact absurd hmem hkey
    · cases hp.symm.trans hp'
  · have hcap' : (store.ensureTailCapacity.pushNew
        ((MvccRow.mk key []).pushVersion xid false data) (by
          rw [shelf_ensureTailCapacity, Paging.flatten_makeRoom]
          exact hkey)).maxRowsCap = 0 :=
      store.sameBut_ensureTailCapacity.maxRowsCap.trans hcap
    dsimp only
    rw [maybeEvict, if_pos hcap', PagedRowStore.rows, pushNew,
      flatMap_pushRow _ store.ensureTailCapacity.nonempty, ← PagedRowStore.rows,
      rows_ensureTailCapacity]
    rfl

theorem sameBut_insertAll (store : PagedRowStore) (xid : Xid) (rows : List (String × RowData)) :
    store.SameBut (insertAll xid rows store) := by
  induction rows generalizing store with
  | nil => exact .refl store
  | cons row rows ih =>
    have hrow := (store.insert_cases xid row.1 row.2).1
    have hrows := ih (store.insert xid row.1 row.2)
    exact ⟨hrows.nextXid.trans hrow.nextXid, hrows.writeIntents.trans hrow.writeIntents,
      hrows.pageSize.trans hrow.pageSize, hrows.maxRowsCap.trans hrow.maxRowsCap⟩

theorem rows_insertAll (hcap : store.maxRowsCap = 0) (hrows : (rows.map Prod.fst).Nodup)
    (hnew : ∀ row ∈ rows, row.1 ∉ store.shelf.flatten) :
    (insertAll xid rows store).rows =
      store.rows ++ rows.map fun row => ⟨row.1, [⟨xid, false, row.2⟩]⟩ := by
  induction rows generalizing store with
  | nil => simp [insertAll]
  | cons row rows ih =>
    rw [map_cons, nodup_cons] at hrows
    have hrow := rows_insert_of_notMem xid hcap (hnew row mem_cons_self) row.2
    have hcap' : (store.insert xid row.1 row.2).maxRowsCap = 0 :=
      (store.insert_cases xid row.1 row.2).1.maxRowsCap.trans hcap
    rw [insertAll, foldl_cons, ← insertAll, ih hcap' hrows.2 ?_, hrow, append_assoc]
    · rfl
    · intro other hoth
      rw [← map_key_rows, hrow, map_append, mem_append, not_or, map_key_rows]
      refine ⟨hnew other (mem_cons_of_mem _ hoth), ?_⟩
      rw [map_singleton, mem_singleton]
      intro (hkey : other.1 = row.1)
      exact hrows.1 (hkey ▸ mem_map_of_mem hoth)

theorem scanAtSnapshot_replaceAll (hcap : store.maxRowsCap = 0)
    (hrows : (rows.map Prod.fst).Nodup) :
    (store.replaceAll rows).scanAtSnapshot (store.replaceAll rows).currentXid = rows := by
  have hxid : (store.replaceAll rows).currentXid = store.nextXid := by
    rw [currentXid, replaceAll, (sameBut_insertAll _ _ _).nextXid]
    rfl
  have hall : (store.replaceAll rows).rows =
      rows.map fun row => ⟨row.1, [⟨store.nextXid, false, row.2⟩]⟩ := by
    refine rows_insertAll ?_ hrows fun _ _ => not_mem_nil
    exact hcap
  rw [scanAtSnapshot_eq, hxid, hall, filterMap_map]
  have hlis : ∀ row ∈ rows, (listed store.nextXid ∘ fun row : String × RowData =>
      (⟨row.1, [⟨store.nextXid, false, row.2⟩]⟩ : MvccRow)) row = some row := by
    intro row _
    simp [listed, MvccRow.visibleAt, Versions.lastAtMost, RowVersion.value]
  rw [filterMap_congr hlis, filterMap_some]

def heldOf (store : PagedRowStore) (keys : List String) : List String :=
  (Paging.placeAll store.pageSize store.maxRowsCap [[]] keys).flatten

def puts (rows : List (String × RowData)) : List (String × Option RowData) :=
  rows.map fun row => (row.1, some row.2)

theorem map_fst_puts (rows : List (String × RowData)) :
    (puts rows).map Prod.fst = rows.map Prod.fst := by
  rw [puts, map_map]
  rfl

theorem placed_puts (rows : List (String × RowData)) : placed (puts rows) = rows.map Prod.fst := by
  rw [placed, puts, filterMap_map, ← filterMap_eq_map]
  rfl

theorem writes_replaceAll (store : PagedRowStore) (rows : List (String × RowData)) :
    Writes store.nextXid store.cleared.beginXid.1 (store.replaceAll rows) (puts rows) := by
  have hnw : store.cleared.beginXid.1.Newest store.nextXid := rfl
  have hwr := Writes.foldl (g := fun row : String × RowData => [(row.1, some row.2)])
    (fun store row h => Writes.insert h row.1 row.2) hnw rows
  rwa [← map_eq_flatMap] at hwr

theorem readLatest_replaceAll (hrows : (rows.map Prod.fst).Nodup) {data : RowData} :
    (store.replaceAll rows).readLatest key = some data ↔
      (key, data) ∈ rows ∧ key ∈ store.heldOf (rows.map Prod.fst) := by
  have hheld : store.cleared.beginXid.1.held (puts rows) = store.heldOf (rows.map Prod.fst) := by
    rw [held, placed_puts]
    rfl
  have hbase : store.cleared.beginXid.1.readLatest key = none := readLatest_eq_none not_mem_nil
  rw [(store.writes_replaceAll rows).readLatest_eq_ite, hheld, overlay, hbase]
  split_ifs with hkey
  · have hlast : (lastWrite (puts rows) key).getD none = some data ↔
        lastWrite (puts rows) key = some (some data) := by
      cases lastWrite (puts rows) key <;> simp
    rw [and_iff_left hkey, hlast, lastWrite_eq_some_iff ((map_fst_puts rows).symm ▸ hrows), puts]
    simp
  · simp [hkey]

theorem stamped_insertAll (h : store.Stamped) (hxid : xid < store.nextXid)
    (rows : List (String × RowData)) : (insertAll xid rows store).Stamped := by
  induction rows generalizing store with
  | nil => exact h
  | cons row rows ih =>
    have hnext : (store.insert xid row.1 row.2).nextXid = store.nextXid :=
      (store.insert_cases xid row.1 row.2).1.nextXid
    exact ih (h.insert hxid row.1 row.2) (hnext ▸ hxid)

theorem stamped_replaceAll (store : PagedRowStore) (rows : List (String × RowData)) :
    (store.replaceAll rows).Stamped := by
  refine stamped_insertAll ?_ (Nat.lt_succ_self _) rows
  intro key v hv
  cases hv

theorem nextXid_replaceAll (store : PagedRowStore) (rows : List (String × RowData)) :
    (store.replaceAll rows).nextXid = store.nextXid + 1 :=
  (sameBut_insertAll _ _ rows).nextXid

end VngDatabase.Store.PagedRowStore
