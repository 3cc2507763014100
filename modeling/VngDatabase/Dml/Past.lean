import VngDatabase.Dml.Scan
import VngDatabase.Dml.Session

/-!
# What was visible stays visible

A write adds a version that carries the identifier of its transaction.
-/

namespace VngDatabase.Dml

open Store PagedRowStore Sql DurabilityEngine BootEngine List Option

/-! ### Scans of the row store -/

section

variable {store : PagedRowStore} {xid snapshotXid : Xid}

theorem filterMap_modifyRow {β : Type*} {f : MvccRow → MvccRow} {g : MvccRow → Option β}
    (hg : ∀ r, g (f r) = g r) {key : String} {rows rows' : List MvccRow}
    (h : modifyRow f key rows = some rows') : rows'.filterMap g = rows.filterMap g := by
  induction rows generalizing rows' with
  | nil => cases h
  | cons r rows ih =>
    rw [modifyRow] at h
    split_ifs at h
    · obtain rfl := some.inj h
      rw [filterMap_cons, filterMap_cons, hg]
    · obtain ⟨rest, hrest, rfl⟩ := map_eq_some_iff.mp h
      rw [filterMap_cons, filterMap_cons, ih hrest]

theorem listed_pushVersion (h : snapshotXid < xid) (del : Bool) (data : RowData)
    (row : MvccRow) : listed snapshotXid (row.pushVersion xid del data) =
      listed snapshotXid row := by
  rw [listed, listed, MvccRow.visibleAt, MvccRow.visibleAt, MvccRow.pushVersion,
    Versions.lastAtMost_concat_of_lt h]

theorem scanAtSnapshot_pushVersion {store' : PagedRowStore} {del : Bool} {key : String}
    {data : RowData} (h : snapshotXid < xid)
    (hpush : store.pushVersion xid del key data = some store') :
    store'.scanAtSnapshot snapshotXid = store.scanAtSnapshot snapshotXid := by
  have hrows := flatMap_modifyPages (·.pushVersion xid del data) key store.pages
  rw [pushVersion] at hpush
  split at hpush
  · rename_i pages hpag
    obtain rfl := some.inj hpush
    rw [hpag, map_some] at hrows
    rw [scanAtSnapshot_eq, scanAtSnapshot_eq]
    exact filterMap_modifyRow (listed_pushVersion h del data) hrows.symm
  · cases hpush

theorem scanAtSnapshot_insert (hcap : store.maxRowsCap = 0) (h : snapshotXid < xid) (key : String)
    (data : RowData) :
    (store.insert xid key data).scanAtSnapshot snapshotXid = store.scanAtSnapshot snapshotXid := by
  unfold PagedRowStore.insert
  split
  · rename_i store' hpush
    exact scanAtSnapshot_pushVersion h hpush
  · dsimp only
    generalize_proofs hnew
    have hcap' : (store.ensureTailCapacity.pushNew _ hnew).maxRowsCap = 0 :=
      store.sameBut_ensureTailCapacity.maxRowsCap.trans hcap
    have hrows : (store.ensureTailCapacity.pushNew _ hnew).rows =
        store.rows ++ [(MvccRow.mk key []).pushVersion xid false data] := by
      rw [rows, pushNew, flatMap_pushRow _ store.ensureTailCapacity.nonempty, ← rows,
        rows_ensureTailCapacity]
    have hnone : listed snapshotXid ((MvccRow.mk key []).pushVersion xid false data) = none := by
      rw [listed_pushVersion h]
      rfl
    rw [maybeEvict, if_pos hcap', scanAtSnapshot_eq, scanAtSnapshot_eq, hrows,
      filterMap_append, filterMap_cons, hnone]
    exact append_nil _

theorem scanAtSnapshot_delete (h : snapshotXid < xid) (key : String) :
    (store.delete xid key).1.scanAtSnapshot snapshotXid = store.scanAtSnapshot snapshotXid := by
  unfold delete
  cases hpush : store.pushVersion xid true key ∅ with
  | none => rfl
  | some store' => exact scanAtSnapshot_pushVersion h hpush

end

/-! ### The past of a state -/

section

variable {E : Type} [SnapshotEngine E] {d : String} {xid : Xid} {st st' st'' : State E}

/-- **What is visible before `xid` is the same.** -/
structure SamePast (xid : Xid) (d : String) (st st' : State E) : Prop where
  maxRowsCap : st'.rowStore.maxRowsCap = st.rowStore.maxRowsCap
  nextXid : st.rowStore.nextXid ≤ st'.rowStore.nextXid
  rows : ∀ x < xid, st'.rowStore.scanAtSnapshot x = st.rowStore.scanAtSnapshot x
  persistsRows : persistsRows st'.walEngine = persistsRows st.walEngine
  durable : ∀ x < xid, scanRowsForDb st'.walEngine d x = scanRowsForDb st.walEngine d x

namespace SamePast

theorem refl (xid : Xid) (d : String) (st : State E) : SamePast xid d st st :=
  ⟨rfl, le_rfl, fun _ _ => rfl, rfl, fun _ _ => rfl⟩

theorem trans {xid' : Xid} (h : SamePast xid d st st') (h' : SamePast xid' d st' st'')
    (hle : xid ≤ xid') : SamePast xid d st st'' where
  maxRowsCap := h'.maxRowsCap.trans h.maxRowsCap
  nextXid := h.nextXid.trans h'.nextXid
  rows x hx := (h'.rows x (hx.trans_le hle)).trans (h.rows x hx)
  persistsRows := h'.persistsRows.trans h.persistsRows
  durable x hx := (h'.durable x (hx.trans_le hle)).trans (h.durable x hx)

theorem undoLogs (h : SamePast xid d st st') (log log' : List (String × Option RowData)) :
    SamePast xid d { st with txUndoLog := log } { st' with txUndoLog := log' } :=
  ⟨h.maxRowsCap, h.nextXid, h.rows, h.persistsRows, h.durable⟩

theorem of_rowStore {rs : PagedRowStore} (hsame : st.rowStore.SameBut rs)
    (hrows : ∀ x < xid, rs.scanAtSnapshot x = st.rowStore.scanAtSnapshot x) :
    SamePast xid d st { st with rowStore := rs } :=
  ⟨hsame.maxRowsCap, hsame.nextXid.ge, hrows, rfl, fun _ _ => rfl⟩

theorem beginWriteIntent (xid : Xid) (d : String) (st : State E) (key : String) :
    SamePast xid d st (st.beginWriteIntent xid key) := by
  unfold State.beginWriteIntent
  rcases st.rowStore.beginWriteIntent_cases xid key with ⟨other, h⟩ | ⟨-, h⟩ <;> rw [h]
  · exact refl xid d st
  · exact ⟨rfl, le_rfl, fun _ _ => rfl, rfl, fun _ _ => rfl⟩

theorem perform (d : String) (hcap : st.rowStore.maxRowsCap = 0) (a : Action) :
    SamePast xid d st (a.perform xid st) := by
  match a with
  | .undo _ none | .undo _ (some _) => exact ⟨rfl, le_rfl, fun _ _ => rfl, rfl, fun _ _ => rfl⟩
  | .intent key => exact beginWriteIntent xid d st key
  | .store db k v =>
    exact ⟨rfl, le_rfl, fun _ _ => rfl, persistsRows_storeRow _ _ _ _ _,
      fun x hx => SnapshotEngine.scanRowsForDb_storeRow_of_lt _ _ _ _ _ _ _ hx⟩
  | .put key data =>
    exact of_rowStore (insert_spec hcap xid key data).1
      fun x hx => scanAtSnapshot_insert hcap hx key data
  | .remove key =>
    exact of_rowStore (st.rowStore.delete_spec xid key).1 fun x hx => scanAtSnapshot_delete hx key
  | .log sql =>
    exact ⟨rfl, le_rfl, fun _ _ => rfl, persistsRows_appendSql _ _,
      fun x _ => SnapshotEngine.scanRowsForDb_appendSql _ _ _ _⟩

theorem performAll (d : String) (hcap : st.rowStore.maxRowsCap = 0) (as : List Action) :
    SamePast xid d st (performAll xid as st) := by
  induction as generalizing st with
  | nil => exact refl xid d st
  | cons a as ih =>
    have ha : SamePast xid d st (a.perform xid st) := perform d hcap a
    exact ha.trans (ih (ha.maxRowsCap.trans hcap)) le_rfl

theorem transact (d : String) (st : State E) (hcap : st.rowStore.maxRowsCap = 0)
    (as : List Action) : SamePast st.rowStore.nextXid d st (st.transact as) := by
  have hsta : SamePast st.rowStore.nextXid d st st.started :=
    ⟨rfl, Nat.le_succ _, fun _ _ => rfl, rfl, fun _ _ => rfl⟩
  have hall : SamePast st.rowStore.nextXid d st.started
      (Dml.performAll st.rowStore.nextXid as st.started) := by
    refine performAll d ?_ as
    exact hcap
  have htrn := hsta.trans hall le_rfl
  exact ⟨htrn.maxRowsCap, htrn.nextXid, htrn.rows, htrn.persistsRows, htrn.durable⟩

theorem rollback (d : String) (st : State E) (hcap : st.rowStore.maxRowsCap = 0) :
    SamePast st.rowStore.nextXid d st st.rollback := by
  rw [State.rollback]
  split_ifs
  · exact refl _ d st
  · exact (transact d st hcap (undoActions st.txUndoLog)).undoLogs _ _

end SamePast

end

section

variable {E : Type} [SnapshotEngine E] {req : Request} (d : String)

theorem SamePast.finish (st : Guarded E) (hcap : st.rowStore.maxRowsCap = 0) :
    SamePast st.rowStore.nextXid d st.toState (st.finish req).toState := by
  rw [Guarded.finish]
  split_ifs
  · exact rollback d st.toState hcap
  · exact ⟨rfl, le_rfl, fun _ _ => rfl, rfl, fun _ _ => rfl⟩
  · exact refl _ d _

theorem Server.samePast_perform {s : Server E} (hcap : s.rowStore.maxRowsCap = 0)
    (as : List Action) : SamePast s.rowStore.nextXid d s.state (s.perform as).state := by
  have htrn : SamePast s.rowStore.nextXid d s.state (s.state.transact as) :=
    SamePast.transact d s.state hcap as
  exact ⟨htrn.maxRowsCap, htrn.nextXid, htrn.rows, htrn.persistsRows, htrn.durable⟩

variable [CheckPredicate] [ColumnOrder] [Unicode]
  {validate : String → RowData → Except String Unit}

theorem SamePast.respond (st : Guarded E) (hcap : st.rowStore.maxRowsCap = 0) :
    SamePast st.rowStore.nextXid d st.toState (st.respond validate req).1.toState := by
  have hdml : SamePast st.rowStore.nextXid d st.toState
      (sqlExecuteChecked validate req.db req.statements st).1.toState := by
    rw [sqlExecuteChecked_fst]
    exact transact d st.toState hcap _
  rcases st.respond_cases validate req with
    he | ⟨reason, -, he⟩ | ⟨-, -, he⟩ | ⟨-, he⟩ <;> rw [he]
  · exact refl _ d _
  · exact hdml
  · exact hdml.trans (SamePast.finish d _ (hdml.maxRowsCap.trans hcap)) hdml.nextXid
  · exact SamePast.finish d st hcap

theorem Server.samePast_sqlExecute {s : Server E} (hcap : s.rowStore.maxRowsCap = 0) :
    SamePast s.rowStore.nextXid d s.state (s.sqlExecute validate req).1.state := by
  have hres : SamePast s.rowStore.nextXid d (s.session req.connectionId).toState
      ((s.session req.connectionId).respond validate req).1.toState :=
    SamePast.respond d (s.session req.connectionId) hcap
  exact hres.undoLogs [] []

end

end VngDatabase.Dml
