import VngDatabase.Dml.Engine
import VngDatabase.Store.Stamps

/-!
# What the row statements do, action by action

All that row statements do is a sequence of a few actions: note what a key holds, register an
intent, store, put or remove a row, log a statement (`Action`).
-/

namespace VngDatabase.Dml

open Store Sql Text Overlay List

/-! ### Actions -/

inductive Action
  /-- What the engine holds, if the row is not in memory. -/
  | undo (key : String) (durable : Option (String × String))
  | intent (key : String)
  | store (db rowKey : String) (data : Option RowData)
  | put (key : String) (data : RowData)
  | remove (key : String)
  | log (sql : String)

namespace Action

def rowWrite : Action → Option (String × Option RowData)
  | put key data => some (key, some data)
  | remove key => some (key, none)
  | _ => none

def stored : Action → Option ((String × String) × Option RowData)
  | store db rowKey data => some ((db, rowKey), data)
  | _ => none

def logged : Action → Option String
  | log sql => some sql
  | _ => none

variable {E : Type} [DurabilityEngine E]

def image (st : State E) : Action → Option (String × Option RowData)
  | undo key none => some (key, st.rowStore.readLatest key)
  | undo key (some (db, rawKey)) => some (key, st.readLatestWithRocksdbFallback db key rawKey)
  | _ => none

def perform (xid : Xid) (st : State E) : Action → State E
  | undo key none => st.recordUndo key (st.rowStore.readLatest key)
  | undo key (some (db, rawKey)) =>
    st.recordUndo key (st.readLatestWithRocksdbFallback db key rawKey)
  | intent key => st.beginWriteIntent xid key
  | store db rowKey data => st.storeRow db rowKey xid data
  | put key data => st.insert xid key data
  | remove key => st.delete xid key
  | log sql => st.persistSqlStatement sql

end Action

def rowWrites (as : List Action) : List (String × Option RowData) := as.filterMap Action.rowWrite

def storedRows (as : List Action) : List ((String × String) × Option RowData) :=
  as.filterMap Action.stored

def loggedSql (as : List Action) : List String := as.filterMap Action.logged

section

variable {ι : Type*} (as as' : List Action) (g : ι → List Action) (is : List ι)

theorem rowWrites_append : rowWrites (as ++ as') = rowWrites as ++ rowWrites as' :=
  filterMap_append

theorem storedRows_append : storedRows (as ++ as') = storedRows as ++ storedRows as' :=
  filterMap_append

theorem loggedSql_append : loggedSql (as ++ as') = loggedSql as ++ loggedSql as' :=
  filterMap_append

theorem rowWrites_flatMap : rowWrites (is.flatMap g) = is.flatMap fun i => rowWrites (g i) :=
  filterMap_flatMap

theorem storedRows_flatMap : storedRows (is.flatMap g) = is.flatMap fun i => storedRows (g i) :=
  filterMap_flatMap

theorem loggedSql_flatMap : loggedSql (is.flatMap g) = is.flatMap fun i => loggedSql (g i) :=
  filterMap_flatMap

end

section

variable {E : Type} [DurabilityEngine E]

def performAll (xid : Xid) (as : List Action) (st : State E) : State E :=
  as.foldl (Action.perform xid) st

def images (xid : Xid) : List Action → State E → List (String × Option RowData)
  | [], _ => []
  | a :: as, st => (a.image st).toList ++ images xid as (a.perform xid st)

variable {xid : Xid} {st : State E}

@[simp]
theorem performAll_nil (xid : Xid) (st : State E) : performAll xid [] st = st := rfl

theorem performAll_append (xid : Xid) (as as' : List Action) (st : State E) :
    performAll xid (as ++ as') st = performAll xid as' (performAll xid as st) := foldl_append

theorem performAll_flatMap {ι : Type*} {f : State E → ι → State E} {g : ι → List Action}
    (h : ∀ st i, f st i = performAll xid (g i) st) (is : List ι) (st : State E) :
    is.foldl f st = performAll xid (is.flatMap g) st := by
  induction is generalizing st with
  | nil => rfl
  | cons i is ih => rw [foldl_cons, flatMap_cons, performAll_append, ih, h]

/-! ### Rows in memory -/

theorem perform_shows (h : st.rowStore.Newest xid) (a : Action) :
    Shows xid st (a.perform xid st) a.rowWrite.toList := by
  have hst := Shows.refl h
  match a with
  | .undo _ none => exact hst
  | .undo _ (some _) => exact hst
  | .intent _ => exact hst.beginWriteIntent _
  | .store _ _ _ => exact hst.storeRow _ _ _ _
  | .put _ _ => exact hst.insert _ _
  | .remove _ => exact hst.delete _
  | .log _ => exact hst

theorem rowWrites_cons (a : Action) (as : List Action) :
    rowWrites (a :: as) = a.rowWrite.toList ++ rowWrites as := by
  rw [rowWrites, filterMap_cons]
  cases a.rowWrite <;> rfl

theorem performAll_shows (h : st.rowStore.Newest xid) (as : List Action) :
    Shows xid st (performAll xid as st) (rowWrites as) := by
  induction as generalizing st with
  | nil => exact Shows.refl h
  | cons a as ih =>
    have ha := perform_shows h a
    rw [rowWrites_cons]
    exact ha.trans (ih ha.newest)

theorem perform_marks (a : Action) :
    PagedRowStore.Marks xid st.rowStore (a.perform xid st).rowStore a.rowWrite.toList :=
  match a with
  | .undo _ none | .undo _ (some _) | .store _ _ _ | .log _ => .refl xid _
  | .intent key => .beginWriteIntent xid _ key
  | .put key data => .insert xid _ key data
  | .remove key => .delete xid _ key

theorem performAll_marks (h : st.rowStore.Newest xid) (as : List Action) :
    PagedRowStore.Marks xid st.rowStore (performAll xid as st).rowStore (rowWrites as) := by
  induction as generalizing st with
  | nil => exact .refl xid _
  | cons a as ih =>
    have ha := perform_shows h a
    rw [rowWrites_cons]
    exact (perform_marks a).trans (ih ha.newest) (performAll_shows ha.newest as)

/-- A row that is not held cannot be removed. -/
def Action.pushes (st : State E) : Action → List String
  | .put key _ => [key]
  | .remove key => if key ∈ st.rowStore.shelf.flatten then [key] else []
  | _ => []

def pushedKeys (xid : Xid) : List Action → State E → List String
  | [], _ => []
  | a :: as, st => a.pushes st ++ pushedKeys xid as (a.perform xid st)

theorem exists_of_held {k : String} (h : st.rowStore.Newest xid) (as : List Action)
    (hk : k ∈ (performAll xid as st).rowStore.shelf.flatten)
    (hnot : k ∉ st.rowStore.shelf.flatten) : ∃ w ∈ rowWrites as, w.1 = k := by
  rw [(performAll_shows h as).shelf] at hk
  have hput := (Paging.mem_placeAll st.rowStore.shelf_ne_nil hk).resolve_right hnot
  by_contra hno
  exact lastWrite_ne_none hput (lastWrite_eq_none fun w hw hwk => hno ⟨w, hw, hwk⟩)

theorem mem_pushedKeys_iff {k : String} (h : st.rowStore.Newest xid) (as : List Action)
    (hk : k ∈ (performAll xid as st).rowStore.shelf.flatten) :
    k ∈ pushedKeys xid as st ↔ ∃ w ∈ rowWrites as, w.1 = k := by
  induction as generalizing st with
  | nil => simp [pushedKeys, rowWrites]
  | cons a as ih =>
    have ha := perform_shows h a
    rw [pushedKeys, rowWrites_cons, mem_append, ih ha.newest hk]
    simp only [mem_append, or_and_right, exists_or]
    match a with
    | .put key data => simp [Action.pushes, Action.rowWrite, eq_comm]
    | .remove key =>
      rw [Action.pushes]
      split_ifs with hheld
      · simp [Action.rowWrite, eq_comm]
      · -- the removal has no effect, and the key is held in the end only if it is put later
        have hltr : key = k → ∃ w ∈ rowWrites as, w.1 = k := by
          rintro rfl
          exact exists_of_held ha.newest as hk (ha.shelf ▸ hheld)
        simpa [Action.rowWrite] using hltr
    | .undo _ _ | .intent _ | .store _ _ _ | .log _ => simp [Action.pushes, Action.rowWrite]

theorem perform_stamped (h : st.rowStore.Stamped) (hxid : st.rowStore.Newest xid) (a : Action) :
    (a.perform xid st).rowStore.Stamped := by
  have hlt : xid < st.rowStore.nextXid := by
    rw [hxid]
    exact Nat.lt_succ_self xid
  match a with
  | .undo _ none | .undo _ (some _) | .store _ _ _ | .log _ => exact h
  | .intent key => exact h.beginWriteIntent xid key
  | .put key data => exact h.insert hlt key data
  | .remove key => exact h.delete hlt key

theorem performAll_stamped (h : st.rowStore.Stamped) (hxid : st.rowStore.Newest xid)
    (as : List Action) : (performAll xid as st).rowStore.Stamped := by
  induction as generalizing st with
  | nil => exact h
  | cons a as ih => exact ih (perform_stamped h hxid a) (perform_shows hxid a).newest

theorem txUndoLog_performAll (as : List Action) (st : State E) :
    (performAll xid as st).txUndoLog = st.txUndoLog ++ images xid as st := by
  induction as generalizing st with
  | nil => simp [performAll, images]
  | cons a as ih =>
    rw [performAll, foldl_cons, ← performAll, ih, images, ← append_assoc]
    congr 1
    match a with
    | .undo _ none | .undo _ (some _) => rfl
    | .intent _ | .store _ _ _ | .put _ _ | .remove _ | .log _ =>
      exact (append_nil _).symm

end

section

variable {E : Type} [BootEngine E] {xid : Xid} {st : State E}

open BootEngine DurabilityEngine

def Action.onEngine (xid : Xid) (e : E) : Action → E
  | .store db rowKey data => storeRow e db rowKey xid data
  | .log sql => appendSql e sql
  | _ => e

theorem walEngine_performAll (xid : Xid) (as : List Action) (st : State E) :
    (performAll xid as st).walEngine = as.foldl (Action.onEngine xid) st.walEngine := by
  induction as generalizing st with
  | nil => rfl
  | cons a as ih =>
    rw [performAll, foldl_cons, ← performAll, ih, foldl_cons]
    match a with
    | .undo _ none | .undo _ (some _) | .intent _ | .store _ _ _ | .put _ _ | .remove _ | .log _ =>
      rfl

theorem persistsRows_performAll (xid : Xid) (as : List Action) (st : State E) :
    persistsRows (performAll xid as st).walEngine = persistsRows st.walEngine := by
  rw [walEngine_performAll]
  generalize st.walEngine = e
  induction as generalizing e with
  | nil => rfl
  | cons a as ih =>
    rw [foldl_cons, ih]
    cases a with
    | store db rowKey data => exact persistsRows_storeRow e db rowKey xid data
    | log sql => exact persistsRows_appendSql e sql
    | _ => rfl

theorem iterSql_performAll (xid : Xid) (as : List Action) (st : State E) :
    iterSql (performAll xid as st).walEngine = iterSql st.walEngine ++ loggedSql as := by
  rw [walEngine_performAll]
  generalize st.walEngine = e
  induction as generalizing e with
  | nil => exact (append_nil _).symm
  | cons a as ih =>
    rw [foldl_cons, ih, loggedSql, loggedSql, filterMap_cons]
    cases a with
    | store db rowKey data => rw [Action.onEngine, iterSql_storeRow]; rfl
    | log sql => rw [Action.onEngine, iterSql_appendSql, append_assoc]; rfl
    | _ => rfl

theorem maxRowXid_onEngine_le {e : E} (h : maxRowXid e ≤ xid) (a : Action) :
    maxRowXid (a.onEngine xid e) ≤ xid := by
  cases a with
  | store db rowKey data =>
    exact (maxRowXid_storeRow e db rowKey xid data).trans (max_le h le_rfl)
  | log sql => exact (maxRowXid_appendSql e sql).trans_le h
  | _ => exact h

theorem maxRowXid_performAll_le (h : maxRowXid st.walEngine ≤ xid) (as : List Action) :
    maxRowXid (performAll xid as st).walEngine ≤ xid := by
  rw [walEngine_performAll]
  generalize st.walEngine = e at h
  induction as generalizing e with
  | nil => exact h
  | cons a as ih => exact ih _ (maxRowXid_onEngine_le h a)

theorem scanPersistedRows_performAll (hp : persistsRows st.walEngine)
    (h : maxRowXid st.walEngine ≤ xid) (as : List Action) :
    scanPersistedRows (performAll xid as st).walEngine =
      (storedRows as).foldl supersede (scanPersistedRows st.walEngine) := by
  rw [walEngine_performAll]
  generalize st.walEngine = e at h hp
  induction as generalizing e with
  | nil => rfl
  | cons a as ih =>
    have ha : persistsRows (a.onEngine xid e) := by
      cases a with
      | store db rowKey data => exact (persistsRows_storeRow e db rowKey xid data).trans hp
      | log sql => exact (persistsRows_appendSql e sql).trans hp
      | _ => exact hp
    rw [foldl_cons, ih _ (maxRowXid_onEngine_le h a) ha, storedRows, storedRows, filterMap_cons]
    cases a with
    | store db rowKey data =>
      rw [Action.onEngine, scanPersistedRows_storeRow e db rowKey xid data hp h]
      rfl
    | log sql => rw [Action.onEngine, scanPersistedRows_appendSql]; rfl
    | _ => rfl

structure State.Sound (st : State E) : Prop where
  stamped : st.rowStore.Stamped
  durable : maxRowXid st.walEngine < st.rowStore.nextXid

theorem State.Sound.performAll (h : st.Sound) (as : List Action) :
    (performAll st.rowStore.nextXid as st.started).Sound where
  stamped := performAll_stamped h.stamped.beginXid st.rowStore.newest_beginXid as
  durable := by
    have hshw : Shows st.rowStore.nextXid st.started _ _ :=
      performAll_shows st.rowStore.newest_beginXid as
    have hmax : maxRowXid st.started.walEngine ≤ st.rowStore.nextXid := h.durable.le
    rw [hshw.newest]
    exact Nat.lt_succ_of_le (maxRowXid_performAll_le hmax as)

end

end VngDatabase.Dml
