import VngDatabase.Sql.Extract
import VngDatabase.Store.View

/-!
# What a row statement changes

The state behind the statements that change rows: the row store, the durability engine (a trait in
`crates/voltnuerongrid-store/src/lib.rs`, the class `DurabilityEngine` here) and the undo log.
-/

namespace VngDatabase.Dml

open Store Overlay List

class DurabilityEngine (E : Type) where
  storeRow : E → (db rowKey : String) → Xid → Option RowData → E
  appendSql : E → (sql : String) → E
  persistsRows : E → Bool
  scanRowsForDb : E → (db : String) → Xid → List (String × RowData)
  getRow : E → (db rowKey : String) → Option RowData

structure InMemoryEngine where
  dmlStream : List String := []

instance : DurabilityEngine InMemoryEngine where
  storeRow e _ _ _ _ := e
  appendSql e sql := ⟨e.dmlStream ++ [sql]⟩
  persistsRows _ := false
  scanRowsForDb _ _ _ := []
  getRow _ _ _ := none

structure State (E : Type) where
  rowStore : PagedRowStore
  walEngine : E
  txUndoLog : List (String × Option RowData)

namespace State

variable {E : Type} (st : State E) (xid : Xid) (key : String)

def started : State E := { st with rowStore := st.rowStore.beginXid.1 }

def beginWriteIntent : State E :=
  { st with rowStore := (st.rowStore.beginWriteIntent xid key).toOption.getD st.rowStore }

def releaseWriteIntents : State E :=
  { st with rowStore := st.rowStore.releaseWriteIntents xid }

theorem readLatest_releaseWriteIntents :
    (st.releaseWriteIntents xid).rowStore.readLatest = st.rowStore.readLatest := rfl

def insert (data : RowData) : State E :=
  { st with rowStore := st.rowStore.insert xid key data }

def delete : State E :=
  { st with rowStore := (st.rowStore.delete xid key).1 }

def recordUndo (before : Option RowData) : State E :=
  { st with txUndoLog := st.txUndoLog ++ [(key, before)] }

variable [DurabilityEngine E]

def storeRow (db rowKey : String) (xid : Xid) (data : Option RowData) : State E :=
  { st with walEngine := DurabilityEngine.storeRow st.walEngine db rowKey xid data }

def persistSqlStatement (sql : String) : State E :=
  { st with walEngine := DurabilityEngine.appendSql st.walEngine sql }

def readLatestWithRocksdbFallback (db key rawKey : String) : Option RowData :=
  match st.rowStore.readLatest key with
  | some row => some row
  | none =>
    if DurabilityEngine.persistsRows st.walEngine then
      DurabilityEngine.getRow st.walEngine db rawKey
    else none

def scanRows (db : String) : List (String × RowData) :=
  let snapshotXid := st.rowStore.currentXid
  if DurabilityEngine.persistsRows st.walEngine then
    (DurabilityEngine.scanRowsForDb st.walEngine db snapshotXid).map fun r =>
      (Sql.dbPrefixKey db r.1, r.2)
  else st.rowStore.scanAtSnapshot snapshotXid

theorem exists_of_mem_scanRows {st : State E} {db : String} {row : String × RowData}
    (hp : DurabilityEngine.persistsRows st.walEngine) (h : row ∈ st.scanRows db) :
    ∃ rawKey, row.1 = Sql.dbPrefixKey db rawKey := by
  rw [scanRows, if_pos hp] at h
  obtain ⟨r, -, rfl⟩ := mem_map.mp h
  exact ⟨r.1, rfl⟩

end State

def deltaKey (table rawKey : String) : String := "__delta:" ++ table ++ ":" ++ rawKey

def isUserKey (key : String) : Bool := !Text.startsWith key "__delta:"

theorem isUserKey_deltaKey (table raw : String) : isUserKey (deltaKey table raw) = false := by
  simp [isUserKey, deltaKey, Text.startsWith]

/-- **The transaction makes these writes** to the rows. -/
def Shows {E : Type} (xid : Xid) (st st' : State E) (ws : List (String × Option RowData)) : Prop :=
  PagedRowStore.Writes xid st.rowStore st'.rowStore ws

namespace Shows

variable {E : Type} {xid : Xid} {st st' st'' : State E} {ws ws' : List (String × Option RowData)}

theorem refl (h : st.rowStore.Newest xid) : Shows xid st st [] := PagedRowStore.Writes.refl h

theorem trans (h : Shows xid st st' ws) (h' : Shows xid st' st'' ws') :
    Shows xid st st'' (ws ++ ws') := PagedRowStore.Writes.trans h h'

theorem insert (h : Shows xid st st' ws) (key : String) (data : RowData) :
    Shows xid st (st'.insert xid key data) (ws ++ [(key, some data)]) :=
  h.trans (PagedRowStore.Writes.insert h.newest key data)

theorem delete (h : Shows xid st st' ws) (key : String) :
    Shows xid st (st'.delete xid key) (ws ++ [(key, none)]) :=
  h.trans (PagedRowStore.Writes.delete h.newest key)

theorem beginWriteIntent (h : Shows xid st st' ws) (key : String) :
    Shows xid st (st'.beginWriteIntent xid key) ws :=
  append_nil ws ▸ h.trans (PagedRowStore.Writes.beginWriteIntent h.newest key)

theorem storeRow [DurabilityEngine E] (h : Shows xid st st' ws) (db rk : String) (xid' : Xid)
    (data : Option RowData) : Shows xid st (st'.storeRow db rk xid' data) ws := h

theorem foldl {ι : Type*} {f : State E → ι → State E} {g : ι → List (String × Option RowData)}
    (hf : ∀ st i, st.rowStore.Newest xid → Shows xid st (f st i) (g i)) (h : st.rowStore.Newest xid)
    (is : List ι) : Shows xid st (is.foldl f st) (is.flatMap g) := by
  induction is generalizing st with
  | nil => exact refl h
  | cons i is ih =>
    have hi := hf st i h
    exact hi.trans (ih hi.newest)

theorem foldl_map {ι : Type*} {f : State E → ι → State E} {g : ι → String × Option RowData}
    (hf : ∀ st i, st.rowStore.Newest xid → Shows xid st (f st i) [g i]) (h : st.rowStore.Newest xid)
    (is : List ι) : Shows xid st (is.foldl f st) (is.map g) := by
  rw [← flatMap_singleton' (is.map g), flatMap_map]
  exact foldl hf h is

end Shows

end VngDatabase.Dml
