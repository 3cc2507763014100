import VngDatabase.Dml.Replica
import VngDatabase.Dml.Rollback

/-!
# What a restart shows

At boot the row store is built from the rows that the engine has kept or, with an engine that keeps
none, from the statements it has logged, which are replayed as a replica does
(`services/voltnuerongridd/src/helpers/boot.rs`).
-/

namespace VngDatabase.Dml

open Store Sql Text Overlay BootEngine DurabilityEngine List

section

variable [Unicode] (cap : ℕ)

def applyDmlToRowstore (xid : Xid) (rs : PagedRowStore) (sql : String) : PagedRowStore :=
  match dmlKind sql with
  | some .insert =>
    (extractAllInsertRows sql).foldl (fun rs row => rs.insert xid row.rowKey row.data) rs
  | some .delete =>
    match extractDeleteKeyFromSql sql with
    | some rawKey => (rs.delete xid rawKey).1
    | none => rs
  | some .update =>
    match extractUpdateRowFromSql sql with
    | some (rawKey, columns) => rs.insert xid rawKey columns
    | none => rs
  | none => rs

def replayDmlInto (rs : PagedRowStore) (stmts : List String) : PagedRowStore :=
  if stmts = [] then rs
  else stmts.foldl (applyDmlToRowstore rs.nextXid) rs.beginXid.1

def loadPersistedRow (xid : Xid) (rs : PagedRowStore) (row : PersistedRow) : PagedRowStore :=
  match row.2 with
  | some data => rs.insert xid (dbPrefixKey row.1.1 row.1.2) data
  | none => (rs.delete xid (dbPrefixKey row.1.1 row.1.2)).1

def loadPersistedRowsInto (rs : PagedRowStore) (rows : List PersistedRow) : PagedRowStore :=
  if rows = [] then rs
  else rows.foldl (loadPersistedRow rs.nextXid) rs.beginXid.1

def fastForwardXid (rs : PagedRowStore) (minXid : Xid) : PagedRowStore :=
  { rs with nextXid := max rs.nextXid minXid }

def freshStore : PagedRowStore := { PagedRowStore.new 256 with maxRowsCap := cap }

variable {E : Type} [BootEngine E] {rs : PagedRowStore} {xid : Xid}

def bootStore (e : E) : PagedRowStore :=
  if persistsRows e then
    loadPersistedRowsInto (fastForwardXid (freshStore cap) (maxRowXid e + 1)) (scanPersistedRows e)
  else replayDmlInto (freshStore cap) (iterSql e)

def loadWrite (row : PersistedRow) : String × Option RowData :=
  (dbPrefixKey row.1.1 row.1.2, row.2)

def bootWrites (e : E) : List (String × Option RowData) :=
  if persistsRows e then (scanPersistedRows e).map loadWrite
  else (iterSql e).flatMap replicaWrites

def restored (ws : List (String × Option RowData)) (k : String) : Option RowData :=
  if k ∈ (freshStore cap).held ws then overlay ws (fun _ => none) k else none

theorem applyDmlToRowstore_writes (h : rs.Newest xid) (sql : String) :
    PagedRowStore.Writes xid rs (applyDmlToRowstore xid rs sql) (replicaWrites sql) := by
  unfold applyDmlToRowstore replicaWrites
  cases dmlKind sql with
  | none => exact .refl h
  | some kind =>
    cases kind with
    | insert =>
      rw [insertWrites, map_eq_flatMap]
      exact .foldl (fun _ row h => .insert h row.rowKey row.data) h _
    | update =>
      cases extractUpdateRowFromSql sql with
      | none => exact .refl h
      | some row => exact .insert h row.1 row.2
    | delete =>
      cases extractDeleteKeyFromSql sql with
      | none => exact .refl h
      | some rawKey => exact .delete h rawKey

section

omit [Unicode]

theorem readLatest_eq_none_of_shelf
    (hsh : rs.shelf = (freshStore cap).shelf) (k : String) : rs.readLatest k = none :=
  PagedRowStore.readLatest_eq_none (hsh ▸ not_mem_nil)

theorem readLatest_eq_restored {cap : ℕ} {rs' : PagedRowStore}
    {ws : List (String × Option RowData)} (h : PagedRowStore.Writes xid rs rs' ws)
    (hsize : rs.pageSize = (freshStore cap).pageSize) (hcap : rs.maxRowsCap = cap)
    (hsh : rs.shelf = (freshStore cap).shelf) (k : String) :
    rs'.readLatest k = restored cap ws k := by
  have hheld : rs.held ws = (freshStore cap).held ws := by
    rw [PagedRowStore.held, hsize, hcap, hsh]
    rfl
  rw [h.readLatest_eq_ite, hheld, funext (readLatest_eq_none_of_shelf cap hsh), restored]

theorem restored_nil (k : String) : restored cap [] k = none := by
  rw [restored]
  split_ifs <;> rfl

end

theorem readLatest_bootStore (e : E) (k : String) :
    (bootStore cap e).readLatest k = restored cap (bootWrites e) k := by
  rw [bootStore, bootWrites]
  split_ifs with hp
  · generalize scanPersistedRows e = rows
    have hload (rs : PagedRowStore) (row : PersistedRow) (h : rs.Newest (maxRowXid e + 1)) :
        PagedRowStore.Writes (maxRowXid e + 1) rs (loadPersistedRow (maxRowXid e + 1) rs row)
          [loadWrite row] := by
      obtain ⟨id, _ | data⟩ := row
      · exact .delete h _
      · exact .insert h _ data
    have hwr := PagedRowStore.Writes.foldl hload
      (fastForwardXid (freshStore cap) (maxRowXid e + 1)).newest_beginXid rows
    rw [loadPersistedRowsInto]
    split_ifs with hnil
    · rw [hnil, map_nil, restored_nil]
      exact readLatest_eq_none_of_shelf cap rfl k
    · rw [map_eq_flatMap]
      exact readLatest_eq_restored hwr rfl rfl rfl k
  · generalize iterSql e = stmts
    have hwr := PagedRowStore.Writes.foldl (fun _ sql h => applyDmlToRowstore_writes h sql)
      (freshStore cap).newest_beginXid stmts
    rw [replayDmlInto]
    split_ifs with hnil
    · rw [hnil, flatMap_nil, restored_nil]
      exact readLatest_eq_none_of_shelf cap rfl k
    · exact readLatest_eq_restored hwr rfl rfl rfl k

omit [Unicode] in
theorem restored_zero (ws : List (String × Option RowData)) :
    restored 0 ws = overlay ws fun _ => none := by
  have hemp : (freshStore 0).readLatest = fun _ => none :=
    funext (readLatest_eq_none_of_shelf 0 rfl)
  funext k
  rw [restored, ← hemp]
  exact PagedRowStore.ite_held_eq_overlay rfl ws k

end

section

variable [Unicode] {E : Type} [BootEngine E]

def durableWrites (e : E) (as : List Action) : List (String × Option RowData) :=
  if persistsRows e then (storedRows as).map loadWrite else (loggedSql as).flatMap replicaWrites

def bootWritesAfter (e : E) (as : List Action) : List (String × Option RowData) :=
  if persistsRows e then ((storedRows as).foldl supersede (scanPersistedRows e)).map loadWrite
  else bootWrites e ++ durableWrites e as

theorem bootWrites_transact {st : State E} (h : st.Sound) (as : List Action) :
    bootWrites (st.transact as).walEngine = bootWritesAfter st.walEngine as := by
  rw [bootWritesAfter, durableWrites, bootWrites, bootWrites, st.persistsRows_transact]
  split_ifs with hp
  · rw [h.scanPersistedRows_transact hp]
  · rw [st.iterSql_transact, flatMap_append]

theorem overlay_bootWritesAfter (e : E) (as : List Action) (base : String → Option RowData) :
    overlay (bootWritesAfter e as) base =
      overlay (durableWrites e as) (overlay (bootWrites e) base) := by
  rw [← overlay_append, bootWritesAfter]
  split_ifs with hp
  · funext k
    rw [durableWrites, bootWrites, if_pos hp, if_pos hp, ← map_append, overlay, overlay]
    exact congrArg (Option.getD · _) (lastWrite_map_foldl_supersede
      (fun id : String × String => dbPrefixKey id.1 id.2) (scanPersistedRows e) (storedRows as) k)
  · rfl

def NoTrace (cap : ℕ) (e : E) (as : List Action) : Prop :=
  if cap = 0 then
    ∀ k v, lastWrite (durableWrites e as) k = some v → restored 0 (bootWrites e) k = v
  else ∀ k, restored cap (bootWritesAfter e as) k = restored cap (bootWrites e) k

theorem readLatest_bootStore_transact_iff {st : State E} (h : st.Sound) (cap : ℕ)
    (as : List Action) :
    (∀ k, (bootStore cap (st.transact as).walEngine).readLatest k =
      (bootStore cap st.walEngine).readLatest k) ↔ NoTrace cap st.walEngine as := by
  simp only [readLatest_bootStore, bootWrites_transact h, NoTrace]
  split_ifs with hcap
  · subst hcap
    simp only [restored_zero, overlay_bootWritesAfter, overlay_eq_base_iff]
  · rfl

end

section

variable {E : Type} [BootEngine E]

theorem State.walEngine_rollback (st : State E) : st.rollback.walEngine = st.walEngine := by
  rw [State.rollback]
  split_ifs
  · rfl
  · change (performAll _ (undoActions st.txUndoLog) st.started).walEngine = st.walEngine
    rw [walEngine_performAll, undoActions, foldl_map]
    generalize st.txUndoLog.reverse = log
    induction log with
    | nil => rfl
    | cons entry log ih =>
      obtain ⟨key, _ | data⟩ := entry <;> exact ih

theorem Guarded.walEngine_finish (st : Guarded E) (req : Request) :
    (st.finish req).walEngine = st.walEngine := by
  rw [Guarded.finish]
  split_ifs
  · exact st.toState.walEngine_rollback
  · rfl
  · rfl

variable [CheckPredicate] [ColumnOrder] [Unicode]
  (validate : String → RowData → Except String Unit)

def performed (validate : String → RowData → Except String Unit) (req : Request)
    (st : Guarded E) : List Action :=
  if req.hasUnknown || !req.hasDml then []
  else requestActions validate req.db req.statements st

theorem walEngine_respond (req : Request) (st : Guarded E) :
    (st.respond validate req).1.walEngine =
      (st.transact (performed validate req st)).walEngine := by
  unfold Guarded.respond executeDml performed
  cases req.hasUnknown with
  | true => rfl
  | false =>
    cases req.hasDml with
    | false => exact st.walEngine_finish req
    | true =>
      have hdml := congrArg (fun st => st.walEngine)
        (sqlExecuteChecked_fst validate req.db req.statements st)
      simp only [Bool.false_or, Bool.not_true, Bool.false_eq_true, if_false, if_true]
      rw [← hdml]
      cases (sqlExecuteChecked validate req.db req.statements st).2 with
      | some reason => rfl
      | none => exact Guarded.walEngine_finish _ req

end

section

open scoped Sample

def emptyVersionedServer : Server VersionedEngine := Server.empty {} maxRowXid_versioned

end

end VngDatabase.Dml
